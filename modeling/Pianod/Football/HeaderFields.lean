import Pianod.Football.EventLoop
import Mathlib.Data.List.Nodup

/-!
# Header fields

Each header line is collected by itself.  With distinct names the order is of no account, but a
name is recognized only in the one spelling that the code compares it with.
-/

namespace Football

open Foundation

/-- A header line with a colon after its field name. -/
structure HeaderField where
  name : Text
  named : 58 ∉ name
  rest : Text

/-- The fields that are relevant. -/
inductive Relevant where
  | host
  | websocketProtocol
  | websocketVersion
  | websocketKey
  | upgrade
  | ifModifiedSince
deriving DecidableEq, Repr

namespace Relevant

/-- How a relevant field must be spelled. -/
def spelling : Relevant → Text
  | host => ascii "Host"
  | websocketProtocol => ascii "Sec-WebSocket-Protocol"
  | websocketVersion => ascii "Sec-WebSocket-Version"
  | websocketKey => ascii "Sec-WebSocket-Key"
  | upgrade => ascii "Upgrade"
  | ifModifiedSince => ascii "If-Modified-Since"

/-- What is collected of a field. -/
def value (request : HttpRequest) : Relevant → Option Text
  | host => request.host
  | websocketProtocol => request.websocketProtocol
  | websocketVersion => request.websocketVersion
  | websocketKey => request.websocketKey
  | upgrade => request.upgradeType
  | ifModifiedSince => request.ifModifiedSince

/-- Store the value of a field. -/
def put (value : Text) (request : HttpRequest) : Relevant → HttpRequest
  | host => { request with host := some value }
  | websocketProtocol => { request with websocketProtocol := some value }
  | websocketVersion => { request with websocketVersion := some value }
  | websocketKey => { request with websocketKey := some value }
  | upgrade => { request with upgradeType := some value }
  | ifModifiedSince => { request with ifModifiedSince := some value }

theorem eq_of_foldCase {left right : Relevant}
    (same : Text.foldCase left.spelling = Text.foldCase right.spelling) : left = right := by
  revert same
  cases left <;> cases right <;> decide

end Relevant

namespace HeaderField

def line (field : HeaderField) : Text := field.name ++ 58 :: field.rest

def value (field : HeaderField) : Text := field.rest.dropWhile isspace

/-- The field is spelled as one of the relevant ones. -/
def Recognized (field : HeaderField) : Prop := ∃ relevant : Relevant, field.name = relevant.spelling

/-- Only the case of letters in the name differs. -/
structure Recased (field field' : HeaderField) : Prop where
  name : Text.foldCase field.name = Text.foldCase field'.name
  rest : field.rest = field'.rest

end HeaderField

/-- The fields are permuted, and the case of letters in their names is changed. -/
def Rearranged (fields fields' : List HeaderField) : Prop :=
  ∃ middle, fields.Perm middle ∧ List.Forall₂ HeaderField.Recased middle fields'

/-- No two fields have the same name, whatever the case of its letters. -/
def DistinctNames (fields : List HeaderField) : Prop :=
  (fields.map fun field => Text.foldCase field.name).Nodup

/-- What a request line and header lines leave. -/
def collectLines (named : Bool) (argv : List Text) (fields : List HeaderField) : HttpRequest :=
  fields.foldl (fun request field => collectHttpParameter field.line request)
    (collectHttpRequest named argv .none)

/-! ## One field -/

/-- A request without its header fields. -/
def HttpRequest.bare (request : HttpRequest) : HttpRequest :=
  { request with
    host := .none
    upgradeType := .none
    websocketKey := .none
    websocketProtocol := .none
    websocketVersion := .none
    ifModifiedSince := .none
    invalid := false }

private theorem HttpRequest.ext_fields {left right : HttpRequest} (bare : left.bare = right.bare)
    (invalid : left.invalid = right.invalid)
    (fields : ∀ relevant : Relevant, relevant.value left = relevant.value right) :
    left = right := by
  have host := fields .host
  have protocol := fields .websocketProtocol
  have version := fields .websocketVersion
  have key := fields .websocketKey
  have upgrade := fields .upgrade
  have since := fields .ifModifiedSince
  cases left
  cases right
  simp_all [HttpRequest.bare, Relevant.value]

namespace Relevant

variable (relevant : Relevant) (text : Text) (request : HttpRequest)

private theorem bare_put : (relevant.put text request).bare = request.bare := by
  cases relevant <;> rfl

private theorem invalid_put : (relevant.put text request).invalid = request.invalid := by
  cases relevant <;> rfl

theorem value_put (other : Relevant) : other.value (relevant.put text request) =
    if other = relevant then some text else other.value request := by
  cases relevant <;> cases other <;> rfl

end Relevant

namespace HeaderField

variable {request : HttpRequest} {field : HeaderField}

theorem before_line (field : HeaderField) :
    before 58 field.line = field.name ∧ afterFirst 58 field.line = some field.rest := by
  have other : ∀ byte ∈ field.name, (byte != 58) = true := fun byte member => by
    simpa using fun same : byte = 58 => field.named (same ▸ member)
  constructor
  · rw [before, line, List.takeWhile_append_of_pos other, List.takeWhile_cons_of_neg (by decide),
      List.append_nil]
  · rw [afterFirst, line, List.dropWhile_append_of_pos other,
      List.dropWhile_cons_of_neg (by decide)]

private theorem collect_unrecognized (unknown : ¬field.Recognized) :
    collectHttpParameter field.line request = request := by
  have host : ¬field.name = ascii "Host" := fun same => unknown ⟨.host, same⟩
  have protocol : ¬field.name = ascii "Sec-WebSocket-Protocol" := fun same =>
    unknown ⟨.websocketProtocol, same⟩
  have version : ¬field.name = ascii "Sec-WebSocket-Version" := fun same =>
    unknown ⟨.websocketVersion, same⟩
  have key : ¬field.name = ascii "Sec-WebSocket-Key" := fun same => unknown ⟨.websocketKey, same⟩
  have upgrade : ¬field.name = ascii "Upgrade" := fun same => unknown ⟨.upgrade, same⟩
  have since : ¬field.name = ascii "If-Modified-Since" := fun same =>
    unknown ⟨.ifModifiedSince, same⟩
  rw [collectHttpParameter, (before_line field).1, (before_line field).2]
  dsimp only
  rw [if_neg host, if_neg protocol, if_neg version, if_neg key, if_neg upgrade, if_neg since]

/-- A recognized field is stored unless there is one already. -/
theorem collect_recognized {relevant : Relevant} (known : field.name = relevant.spelling)
    (fresh : relevant.value request = none) :
    collectHttpParameter field.line request = relevant.put field.value request := by
  rw [collectHttpParameter, (before_line field).1, (before_line field).2, known]
  dsimp only
  cases relevant with
  | host =>
      have absent : request.host = none := fresh
      rw [if_pos (by decide), absent]
      simp only [store, Bool.or_false]
      rfl
  | websocketProtocol =>
      have absent : request.websocketProtocol = none := fresh
      rw [if_neg (by decide), if_pos (by decide), absent]
      simp only [store, Bool.or_false]
      rfl
  | websocketVersion =>
      have absent : request.websocketVersion = none := fresh
      rw [if_neg (by decide), if_neg (by decide), if_pos (by decide), absent]
      simp only [store, Bool.or_false]
      rfl
  | websocketKey =>
      have absent : request.websocketKey = none := fresh
      rw [if_neg (by decide), if_neg (by decide), if_neg (by decide), if_pos (by decide), absent]
      simp only [store, Bool.or_false]
      rfl
  | upgrade =>
      have absent : request.upgradeType = none := fresh
      rw [if_neg (by decide), if_neg (by decide), if_neg (by decide), if_neg (by decide),
        if_pos (by decide), absent]
      simp only [store, Bool.or_false]
      rfl
  | ifModifiedSince =>
      have absent : request.ifModifiedSince = none := fresh
      rw [if_neg (by decide), if_neg (by decide), if_neg (by decide), if_neg (by decide),
        if_neg (by decide), if_pos (by decide), absent]
      simp only [store, Bool.or_false]
      rfl

end HeaderField

/-! ## All fields -/

/-- The value of the field that is spelled as a relevant one. -/
def lookup (fields : List HeaderField) (relevant : Relevant) : Option Text :=
  (fields.find? fun field => field.name == relevant.spelling).map HeaderField.value

theorem mem_names {fields : List HeaderField} {field other : HeaderField} (member : other ∈ fields)
    (same : other.name = field.name) :
    Text.foldCase field.name ∈ fields.map fun field => Text.foldCase field.name :=
  List.mem_map.mpr ⟨other, member, congrArg Text.foldCase same⟩

theorem lookup_cons (field : HeaderField) (fields : List HeaderField) (relevant : Relevant) :
    lookup (field :: fields) relevant =
      if field.name = relevant.spelling then some field.value else lookup fields relevant := by
  rw [lookup, List.find?_cons]
  by_cases same : field.name = relevant.spelling
  · rw [if_pos same, same, beq_self_eq_true]
    rfl
  · rw [if_neg same, beq_false_of_ne same]
    rfl

/-- What is found is the value of a field, the only one with its name. -/
theorem lookup_eq_some_iff {fields : List HeaderField} (distinct : DistinctNames fields)
    {relevant : Relevant} {text : Text} : lookup fields relevant = some text ↔
      ∃ field ∈ fields, field.name = relevant.spelling ∧ field.value = text := by
  induction fields with
  | nil => exact ⟨nofun, fun found => nomatch found⟩
  | cons field fields ih =>
      obtain ⟨apart, distinct'⟩ := List.nodup_cons.mp distinct
      rw [lookup_cons]
      by_cases same : field.name = relevant.spelling
      · rw [if_pos same]
        constructor
        · intro found
          exact ⟨field, List.mem_cons_self, same, Option.some.inj found⟩
        · rintro ⟨other, member, spelled, rfl⟩
          rcases List.mem_cons.mp member with rfl | later
          · rfl
          · exact absurd (mem_names later (spelled.trans same.symm)) apart
      · rw [if_neg same, ih distinct']
        constructor
        · rintro ⟨other, later, spelled, value⟩
          exact ⟨other, List.mem_cons_of_mem _ later, spelled, value⟩
        · rintro ⟨other, member, spelled, value⟩
          rcases List.mem_cons.mp member with rfl | later
          · exact absurd spelled same
          · exact ⟨other, later, spelled, value⟩

/-- Fields with distinct names are all collected, and the request stays as valid as it was. -/
theorem collect_fields {fields : List HeaderField} (distinct : DistinctNames fields)
    {request : HttpRequest}
    (fresh : ∀ field ∈ fields, ∀ relevant : Relevant, field.name = relevant.spelling →
      relevant.value request = none) :
    let collected := fields.foldl (fun request field => collectHttpParameter field.line request)
      request
    collected.bare = request.bare ∧ collected.invalid = request.invalid ∧
      ∀ relevant : Relevant, relevant.value collected =
        (lookup fields relevant).or (relevant.value request) := by
  induction fields generalizing request with
  | nil => exact ⟨rfl, rfl, fun relevant => rfl⟩
  | cons field fields ih =>
      obtain ⟨apart, distinct'⟩ := List.nodup_cons.mp distinct
      by_cases known : field.Recognized
      · obtain ⟨relevant, same⟩ := known
        have absent := fresh field List.mem_cons_self relevant same
        have others : ∀ later ∈ fields, ∀ other : Relevant, later.name = other.spelling →
            other.value (relevant.put field.value request) = none := by
          intro later member other spelled
          have different : other ≠ relevant := by
            rintro rfl
            exact apart (mem_names member (spelled.trans same.symm))
          rw [Relevant.value_put, if_neg different]
          exact fresh later (List.mem_cons_of_mem _ member) other spelled
        have rest := ih distinct' others
        dsimp only at rest ⊢
        rw [List.foldl_cons, HeaderField.collect_recognized same absent]
        refine ⟨rest.1.trans (Relevant.bare_put _ _ _),
          rest.2.1.trans (Relevant.invalid_put _ _ _), fun other => ?_⟩
        rw [rest.2.2 other, Relevant.value_put, lookup_cons, same]
        by_cases here : other = relevant
        · subst here
          have none : lookup fields other = none := by
            cases found : lookup fields other with
            | none => rfl
            | some text =>
                obtain ⟨later, member, spelled, -⟩ := (lookup_eq_some_iff distinct').mp found
                exact absurd (mem_names member (spelled.trans same.symm)) apart
          rw [if_pos rfl, if_pos rfl, none]
          rfl
        · have different : relevant.spelling ≠ other.spelling := fun equal =>
            here (Relevant.eq_of_foldCase (congrArg Text.foldCase equal)).symm
          rw [if_neg here, if_neg different]
      · have rest := ih distinct' fun later member =>
          fresh later (List.mem_cons_of_mem _ member)
        dsimp only at rest ⊢
        rw [List.foldl_cons, HeaderField.collect_unrecognized known]
        refine ⟨rest.1, rest.2.1, fun relevant => ?_⟩
        rw [rest.2.2 relevant, lookup_cons, if_neg fun same => known ⟨relevant, same⟩]

/-- The request line leaves no header fields. -/
theorem value_collectHttpRequest (named : Bool) (argv : List Text) (relevant : Relevant) :
    relevant.value (collectHttpRequest named argv .none) = none := by
  cases argv with
  | nil => cases relevant <;> rfl
  | cons method arguments =>
      rw [collectHttpRequest_none]
      split
      · cases relevant <;> rfl
      · dsimp only
        split
        · split <;> cases relevant <;> rfl
        · cases relevant <;> rfl

theorem value_collectLines {fields : List HeaderField} (distinct : DistinctNames fields)
    (named : Bool) (argv : List Text) :
    (collectLines named argv fields).bare = (collectHttpRequest named argv .none).bare ∧
      (collectLines named argv fields).invalid = (collectHttpRequest named argv .none).invalid ∧
      ∀ relevant : Relevant, relevant.value (collectLines named argv fields) =
        lookup fields relevant := by
  have collected := @collect_fields fields distinct (collectHttpRequest named argv .none)
    fun _ _ relevant _ => value_collectHttpRequest named argv relevant
  refine ⟨collected.1, collected.2.1, fun relevant => (collected.2.2 relevant).trans ?_⟩
  rw [value_collectHttpRequest, Option.or_none]

theorem collectLines_eq_iff {fields fields' : List HeaderField} (distinct : DistinctNames fields)
    (distinct' : DistinctNames fields') (named : Bool) (argv : List Text) :
    collectLines named argv fields = collectLines named argv fields' ↔
      ∀ relevant, lookup fields relevant = lookup fields' relevant := by
  have left := value_collectLines distinct named argv
  have right := value_collectLines distinct' named argv
  constructor
  · intro same relevant
    rw [← left.2.2, ← right.2.2, same]
  · intro same
    exact HttpRequest.ext_fields (left.1.trans right.1.symm) (left.2.1.trans right.2.1.symm)
      fun relevant => by rw [left.2.2, right.2.2, same]

/-! ## Rearranged fields -/

namespace HeaderField.Recased

variable {field field' : HeaderField}

theorem symm (recased : field.Recased field') : field'.Recased field :=
  ⟨recased.name.symm, recased.rest.symm⟩

theorem value (recased : field.Recased field') : field.value = field'.value :=
  congrArg (List.dropWhile isspace) recased.rest

end HeaderField.Recased

namespace Rearranged

variable {fields fields' : List HeaderField}

private theorem exists_right (rearranged : Rearranged fields fields') :
    ∀ field ∈ fields, ∃ field' ∈ fields', field.Recased field' := by
  obtain ⟨middle, permuted, recased⟩ := rearranged
  intro field member
  have inside := permuted.subset member
  clear member permuted
  induction recased with
  | nil => cases inside
  | cons first _ ih =>
      rcases List.mem_cons.mp inside with rfl | later
      · exact ⟨_, List.mem_cons_self, first⟩
      · obtain ⟨field', member, same⟩ := ih later
        exact ⟨field', List.mem_cons_of_mem _ member, same⟩

theorem names (rearranged : Rearranged fields fields') :
    (fields.map fun field => Text.foldCase field.name).Perm
      (fields'.map fun field => Text.foldCase field.name) := by
  obtain ⟨middle, permuted, recased⟩ := rearranged
  refine (permuted.map _).trans (.of_eq ?_)
  clear permuted
  induction recased with
  | nil => rfl
  | cons first _ ih => rw [List.map_cons, List.map_cons, first.name, ih]

private theorem exists_left (rearranged : Rearranged fields fields') :
    ∀ field' ∈ fields', ∃ field ∈ fields, field.Recased field' := by
  obtain ⟨middle, permuted, recased⟩ := rearranged
  intro field' member
  have found : ∃ field ∈ middle, field.Recased field' := by
    clear permuted
    induction recased with
    | nil => cases member
    | cons first _ ih =>
        rcases List.mem_cons.mp member with rfl | later
        · exact ⟨_, List.mem_cons_self, first⟩
        · obtain ⟨field, inside, same⟩ := ih later
          exact ⟨field, List.mem_cons_of_mem _ inside, same⟩
  obtain ⟨field, inside, same⟩ := found
  exact ⟨field, permuted.symm.subset inside, same⟩

theorem distinct (rearranged : Rearranged fields fields') (distinct : DistinctNames fields) :
    DistinctNames fields' :=
  rearranged.names.nodup_iff.mp distinct

end Rearranged

/-- No change of letters makes or unmakes the spelling of a relevant field. -/
def KeepsSpelling (fields fields' : List HeaderField) : Prop :=
  ∀ field ∈ fields, ∀ field' ∈ fields', field.Recased field' →
    (field.Recognized ↔ field'.Recognized)

/-- A value that is looked up is found among the rearranged fields if spellings are kept. -/
theorem lookup_of_keeps {fields fields' : List HeaderField}
    (distinct : DistinctNames fields) (distinct' : DistinctNames fields')
    (follows : ∀ field ∈ fields, ∃ field' ∈ fields', field.Recased field' ∧
      (field.Recognized → field'.Recognized)) {relevant : Relevant} {text : Text}
    (found : lookup fields relevant = some text) : lookup fields' relevant = some text := by
  obtain ⟨field, member, spelled, rfl⟩ := (lookup_eq_some_iff distinct).mp found
  obtain ⟨field', member', recased, keeps⟩ := follows field member
  obtain ⟨other, spelled'⟩ := keeps ⟨relevant, spelled⟩
  have same : relevant = other := Relevant.eq_of_foldCase (by
    rw [← spelled, ← spelled', recased.name])
  exact (lookup_eq_some_iff distinct').mpr ⟨field', member', same ▸ spelled', recased.value.symm⟩

/-- A field whose value is found among the rearranged fields keeps its spelling there. -/
theorem recognized_of_lookup {fields fields' : List HeaderField}
    (distinct : DistinctNames fields) (distinct' : DistinctNames fields')
    (same : ∀ relevant, lookup fields relevant = lookup fields' relevant)
    {field field' : HeaderField} (member : field ∈ fields) (member' : field' ∈ fields')
    (recased : field.Recased field') (known : field.Recognized) : field'.Recognized := by
  obtain ⟨relevant, spelled⟩ := known
  have found := (lookup_eq_some_iff distinct).mpr ⟨field, member, spelled, rfl⟩
  rw [same] at found
  obtain ⟨other, inside, spelled', -⟩ := (lookup_eq_some_iff distinct').mp found
  have only : other = field' := by
    have names : Text.foldCase other.name = Text.foldCase field'.name := by
      rw [spelled', ← spelled, recased.name]
    exact List.inj_on_of_nodup_map distinct' inside member' names
  exact ⟨relevant, only ▸ spelled'⟩

/-- Whatever the request line, rearranged header fields leave the same request, and get the same
answer, exactly if no relevant field is recased from or to the spelling that is recognized. -/
theorem rearranged_iff {fields fields' : List HeaderField} (distinct : DistinctNames fields)
    (rearranged : Rearranged fields fields') (named : Bool) (argv : List Text) :
    (collectLines named argv fields = collectLines named argv fields' ∧
        ∀ services site service options (connection : Connection),
          System.executeHttpRequest services site service options
              { connection with request := collectLines named argv fields } =
            System.executeHttpRequest services site service options
              { connection with request := collectLines named argv fields' }) ↔
      KeepsSpelling fields fields' := by
  have distinct' := rearranged.distinct distinct
  constructor
  · rintro ⟨same, -⟩ field member field' member' recased
    have found := (collectLines_eq_iff distinct distinct' named argv).mp same
    exact ⟨recognized_of_lookup distinct distinct' found member member' recased,
      recognized_of_lookup distinct' distinct (fun relevant => (found relevant).symm) member' member
        recased.symm⟩
  · intro keeps
    have same : collectLines named argv fields = collectLines named argv fields' := by
      refine (collectLines_eq_iff distinct distinct' named argv).mpr fun relevant =>
        Option.ext fun text => ⟨lookup_of_keeps distinct distinct' fun field member => ?_,
          lookup_of_keeps distinct' distinct fun field' member' => ?_⟩
      · obtain ⟨field', member', recased⟩ := rearranged.exists_right field member
        exact ⟨field', member', recased, (keeps field member field' member' recased).mp⟩
      · obtain ⟨field, member, recased⟩ := rearranged.exists_left field' member'
        exact ⟨field, member, recased.symm, (keeps field member field' member' recased).mpr⟩
    exact ⟨same, fun _ _ _ _ _ => by rw [same]⟩

/-- A host, and a field that is of no account. -/
def sampleFields : List HeaderField :=
  [⟨ascii "Host", by decide, ascii " h"⟩, ⟨ascii "Accept", by decide, ascii " text/html"⟩]

def sampleRecased : List HeaderField :=
  [⟨ascii "ACCEPT", by decide, ascii " text/html"⟩, ⟨ascii "Host", by decide, ascii " h"⟩]

private theorem sampleFields_distinct : DistinctNames sampleFields := by
  unfold DistinctNames
  decide

theorem sampleRecased_same :
    collectLines false [ascii "GET", ascii "/", ascii "HTTP/1.1"] sampleFields =
      collectLines false [ascii "GET", ascii "/", ascii "HTTP/1.1"] sampleRecased := by
  have rearranged : Rearranged sampleFields sampleRecased :=
    ⟨_, .swap _ _ _, .cons ⟨by decide, rfl⟩ (.cons ⟨rfl, rfl⟩ .nil)⟩
  refine ((rearranged_iff sampleFields_distinct rearranged false _).mpr ?_).1
  intro field member field' member' recased
  have names := recased.name
  rcases List.mem_cons.mp member with rfl | accept
  · rcases List.mem_cons.mp member' with rfl | host
    · exact absurd names (by decide)
    · rw [List.mem_singleton.mp host]
  · rw [List.mem_singleton.mp accept] at names ⊢
    rcases List.mem_cons.mp member' with rfl | host
    · exact ⟨fun ⟨relevant, same⟩ => absurd same (by cases relevant <;> decide),
        fun ⟨relevant, same⟩ => absurd same (by cases relevant <;> decide)⟩
    · rw [List.mem_singleton.mp host] at names
      exact absurd names (by decide)

/-- Without its capital letter, the host is overlooked, and the request is answered as a bad one. -/
theorem sampleHost_overlooked :
    let argv := [ascii "GET", ascii "/", ascii "HTTP/1.1"]
    let fields := [HeaderField.mk (ascii "Host") (by decide) (ascii " h")]
    let fields' := [HeaderField.mk (ascii "host") (by decide) (ascii " h")]
    DistinctNames fields ∧ Rearranged fields fields' ∧
      (collectLines false argv fields).host = some (ascii "h") ∧
      (collectLines false argv fields').host = none ∧
      collectLines false argv fields ≠ collectLines false argv fields' := by
  refine ⟨by unfold DistinctNames; decide, ⟨_, .refl _, .cons ⟨by decide, rfl⟩ .nil⟩, by decide,
    by decide, by decide⟩

end Football
