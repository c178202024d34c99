import Pianod.Foundation.Hexadecimal
import Pianod.Foundation.PercentEncoding

/-!
# URLs

A URL is split into its parts by a small state machine over its bytes.  On a fresh handle the parts
are those of which the URL is composed, without exception; parts that a handle has kept from an
earlier URL are not cleared.
-/

namespace Waitress

open Foundation

/-- The parts of a URL. -/
structure Url where
  user : Option Text
  password : Option Text
  host : Option Text
  port : Option Text
  path : Option Text
deriving DecidableEq, Repr

namespace Url

/-- A handle's parts before a URL is set. -/
def empty : Url := ⟨none, none, none, none, none⟩

/-- The part that a piece of the URL is assigned to. -/
inductive Part where
  | user
  | password
  | host
  | port
  | path

def assign (url : Url) (value : Text) : Part → Url
  | .user => { url with user := some value }
  | .password => { url with password := some value }
  | .host => { url with host := some value }
  | .port => { url with port := some value }
  | .path => { url with path := some value }

end Url

/-- What the state machine looks for. -/
inductive SplitState where
  | findUser
  | findPass
  | findHost
  | findPort
  | findPath
  | done
deriving DecidableEq

/-- The part that ends at a byte, and what is looked for next. -/
def SplitState.ends : SplitState → UInt8 → Option (Url.Part × SplitState)
  | .findUser, c =>
      if c = 58 then some (.user, .findPass)
      else if c = 64 then some (.user, .findHost)
      -- This was not a user.
      else if c = 47 then some (.host, .findPath)
      else if c = 0 then some (.host, .done)
      else none
  | .findPass, c =>
      if c = 64 then some (.password, .findHost)
      -- This was not a password.
      else if c = 47 then some (.port, .findPath)
      else if c = 0 then some (.port, .done)
      else none
  | .findHost, c =>
      if c = 58 then some (.host, .findPort)
      else if c = 47 then some (.host, .findPath)
      else if c = 0 then some (.host, .done)
      else none
  | .findPort, c =>
      if c = 47 then some (.port, .findPath)
      else if c = 0 then some (.port, .done)
      else none
  | .findPath, c => if c = 0 then some (.path, .done) else none
  | .done, _ => none

/-- The loop over the bytes of a URL; the piece that has not been assigned yet is kept. -/
def splitLoop (state : SplitState) (piece : Text) (url : Url) : Text → Url
  | [] =>
      match state.ends 0 with
      | none => url
      | some (part, _) => url.assign piece part
  | c :: rest =>
      match state.ends c with
      | none => splitLoop state (piece ++ [c]) url rest
      | some (part, next) => splitLoop next [] (url.assign piece part) rest

def httpPrefix : Text := ascii "http://"

/-- A host and a port have been taken for a user and a password. -/
def Url.fixUp (url : Url) : Url :=
  if url.user.isSome ∧ url.host = none ∧ url.port.isSome then
    { url with host := url.user, user := none }
  else url

/-- Split a URL into the parts of a handle. -/
def splitUrl (inurl : Text) (retUrl : Url) : Option Url :=
  if httpPrefix.isPrefixOf inurl then
    match inurl.drop httpPrefix.length with
    | [] => some retUrl.fixUp
    | urlPos => some (splitLoop .findUser [] retUrl urlPos).fixUp
  else none

/-! ## Composing URLs -/

/-- A part with the byte before it. -/
def led (byte : UInt8) : Option Text → Text
  | none => []
  | some part => byte :: part

/-- A part with what follows it up to the next one. -/
def ended (part : Option Text) (rest : Text) : Text :=
  match part with
  | none => []
  | some part => part ++ rest

namespace Url

/-- The URL of which the parts are composed. -/
def compose (url : Url) : Text :=
  httpPrefix ++ ended url.user (led 58 url.password ++ [64]) ++ url.host.getD [] ++
    led 58 url.port ++ led 47 url.path

/-- None of some bytes occurs in a part. -/
def Without (bytes : List UInt8) (part : Option Text) : Prop :=
  ∀ text, part = some text → ∀ byte ∈ text, byte ∉ bytes

/-- No part contains a byte that ends it, and no part is there without the ones it belongs to. -/
structure WellFormed (url : Url) : Prop where
  user : Without [58, 64, 47] url.user
  password : Without [64, 47] url.password
  host : Without [58, 47] url.host
  port : Without [47] url.port
  named : url.user = none → Without [64] url.host ∧ Without [64] url.port
  secret : url.user = none → url.password = none
  hosted : url.host = none → url = empty
  something : url ≠ ⟨none, none, some [], none, none⟩

end Url

/-! ## The loop -/

/-- The bytes that end a piece before the end of the URL. -/
def SplitState.stops : SplitState → List UInt8
  | .findUser => [58, 64, 47]
  | .findPass => [64, 47]
  | .findHost => [58, 47]
  | .findPort => [47]
  | .findPath => []
  | .done => []

/-- No byte of a piece ends it. -/
def Plain (state : SplitState) (piece : Text) : Prop :=
  ∀ byte ∈ piece, byte ≠ 0 ∧ byte ∉ state.stops

private theorem SplitState.ends_eq_none {state : SplitState} {byte : UInt8} (other : byte ≠ 0)
    (plain : byte ∉ state.stops) : state.ends byte = none := by
  cases state <;> simp_all [ends, stops]

section Loop

variable {state next : SplitState} {url : Url} {piece : Text} {byte : UInt8} {part : Url.Part}

theorem splitLoop_piece {front : Text} (plain : Plain state front) (rest : Text) :
    splitLoop state piece url (front ++ rest) = splitLoop state (piece ++ front) url rest := by
  induction front generalizing piece with
  | nil => rw [List.nil_append, List.append_nil]
  | cons byte front ih =>
      obtain ⟨first, later⟩ := List.forall_mem_cons.mp plain
      rw [List.cons_append, splitLoop, SplitState.ends_eq_none first.1 first.2]
      dsimp only
      rw [ih later, List.append_assoc]
      rfl

/-- A piece up to the byte that ends it. -/
theorem splitLoop_ends (plain : Plain state piece) (final : state.ends byte = some (part, next))
    (rest : Text) :
    splitLoop state [] url (piece ++ byte :: rest) =
      splitLoop next [] (url.assign piece part) rest := by
  rw [splitLoop_piece plain, splitLoop, final]
  rfl

theorem splitLoop_last (plain : Plain state piece) (final : state.ends 0 = some (part, next)) :
    splitLoop state [] url piece = url.assign piece part := by
  have whole := @splitLoop_piece state url [] piece plain []
  rw [List.append_nil] at whole
  rw [whole, splitLoop, final]
  rfl

/-- A last piece with the path that may follow it. -/
theorem splitLoop_path (plain : Plain state piece)
    (slash : state.ends 47 = some (part, .findPath)) (final : state.ends 0 = some (part, .done))
    {path : Option Text} (free : ∀ text, path = some text → Text.NulFree text)
    (fresh : (url.assign piece part).path = none) :
    splitLoop state [] url (piece ++ led 47 path) =
      { url.assign piece part with path := path } := by
  cases path with
  | none =>
      rw [led, List.append_nil, splitLoop_last plain final]
      generalize url.assign piece part = assigned at fresh ⊢
      obtain ⟨user, password, host, port, kept⟩ := assigned
      obtain rfl : kept = none := fresh
      rfl
  | some path =>
      have rest : Plain .findPath path := fun byte member =>
        ⟨free path rfl byte member, List.not_mem_nil⟩
      rw [led, splitLoop_ends plain slash, splitLoop_last rest rfl]
      rfl

/-- A host with the port and the path that may follow it. -/
theorem splitLoop_host {host : Text} {port path : Option Text} (plain : Plain .findHost host)
    (plainPort : ∀ text, port = some text → Plain .findPort text)
    (free : ∀ text, path = some text → Text.NulFree text) (noPort : url.port = none)
    (noPath : url.path = none) :
    splitLoop .findHost [] url (host ++ (led 58 port ++ led 47 path)) =
      { url with host := some host, port := port, path := path } := by
  cases port with
  | none =>
      rw [led, List.nil_append, splitLoop_path plain rfl rfl free noPath]
      obtain ⟨user, password, kept, port, path⟩ := url
      obtain rfl : port = none := noPort
      rfl
  | some port =>
      have fresh : ((url.assign host .host).assign port .port).path = none := noPath
      rw [led, List.cons_append, splitLoop_ends plain rfl,
        splitLoop_path (plainPort port rfl) rfl rfl free fresh]
      rfl

end Loop

/-! ## Splitting what was composed -/

namespace Url

private theorem nulFree_parts {url : Url} (free : Text.NulFree url.compose) :
    ∀ text, url.user = some text ∨ url.host = some text ∨ url.port = some text ∨
      url.path = some text ∨ url.user.isSome ∧ url.password = some text → Text.NulFree text := by
  intro text present byte member
  refine free byte ?_
  rw [compose]
  rcases present with same | same | same | same | ⟨named, same⟩
  · simp [same, ended, member]
  · simp [same, member]
  · simp [same, led, member]
  · simp [same, led, member]
  · obtain ⟨user, other⟩ := Option.isSome_iff_exists.mp named
    simp [same, other, ended, led, member]

/-- A part without the bytes that end it is plain. -/
theorem plain_of_without {state : SplitState} {text : Text} (free : Text.NulFree text)
    (without : ∀ byte ∈ text, byte ∉ state.stops) : Plain state text :=
  fun byte member => ⟨free byte member, without byte member⟩

theorem splitUrl_prefix {rest : Text} (present : rest ≠ []) (retUrl : Url) :
    splitUrl (httpPrefix ++ rest) retUrl =
      some (splitLoop .findUser [] retUrl rest).fixUp := by
  have leads : httpPrefix.isPrefixOf (httpPrefix ++ rest) = true :=
    List.isPrefixOf_iff_prefix.mpr (List.prefix_append _ _)
  rw [splitUrl, if_pos leads, List.drop_left]
  cases rest with
  | nil => exact absurd rfl present
  | cons byte rest => rfl

/-- The parts as the loop takes them: without a user, a host before a port is taken for one. -/
def taken (url : Url) : Url :=
  if url.user = none ∧ url.port.isSome then { url with user := url.host, host := none } else url

/-- A URL that is composed of well-formed parts, at least a host, leaves the loop with them. -/
theorem splitLoop_compose {url : Url} (formed : url.WellFormed) (hosted : url ≠ empty)
    (free : Text.NulFree url.compose) :
    ∃ rest, url.compose = httpPrefix ++ rest ∧ rest ≠ [] ∧
      splitLoop .findUser [] empty rest = url.taken := by
  have parts := nulFree_parts free
  obtain ⟨user, password, host, port, path⟩ := url
  cases host with
  | none => exact absurd (formed.hosted rfl) hosted
  | some host =>
  have freeHost := parts host (.inr (.inl rfl))
  have freePath : ∀ text, path = some text → Text.NulFree text := fun text same =>
    parts text (.inr (.inr (.inr (.inl same))))
  have plainHost : Plain .findHost host := plain_of_without freeHost (formed.host host rfl)
  have plainPort : ∀ text, port = some text → Plain .findPort text := fun text same =>
    plain_of_without (parts text (.inr (.inr (.inl same)))) (formed.port text same)
  cases user with
  | none =>
      obtain rfl := formed.secret rfl
      obtain ⟨noAt, noAtPort⟩ := formed.named rfl
      have plainUser : Plain .findUser host := by
        refine plain_of_without freeHost fun byte member stop => ?_
        have colonSlash := formed.host host rfl byte member
        have sign := noAt host rfl byte member
        simp_all [SplitState.stops]
      cases port with
      | none =>
          have loop :=
            @splitLoop_path .findUser empty host .host plainUser rfl rfl path freePath rfl
          have shape : compose ⟨none, none, some host, none, path⟩ =
              httpPrefix ++ (host ++ led 47 path) := by simp [compose, ended, led]
          have present : host ++ led 47 path ≠ [] := by
            intro nothing
            obtain ⟨rfl, noPath⟩ := List.append_eq_nil_iff.mp nothing
            cases path with
            | none => exact formed.something rfl
            | some path => cases noPath
          exact ⟨_, shape, present, loop⟩
      | some port =>
          have plainPass : Plain .findPass port := by
            refine plain_of_without (fun byte member => (plainPort port rfl byte member).1)
              fun byte member stop => ?_
            have slash := formed.port port rfl byte member
            have sign := noAtPort port rfl byte member
            simp_all [SplitState.stops]
          have loop := @splitLoop_path .findPass (empty.assign host .user) port .port plainPass rfl
            rfl path freePath rfl
          have shape : compose ⟨none, none, some host, some port, path⟩ =
              httpPrefix ++ (host ++ 58 :: (port ++ led 47 path)) := by simp [compose, ended, led]
          refine ⟨_, shape, by simp, ?_⟩
          rw [splitLoop_ends plainUser rfl, loop]
          rfl
  | some user =>
      have plainUser : Plain .findUser user :=
        plain_of_without (parts user (.inl rfl)) (formed.user user rfl)
      cases password with
      | none =>
          have loop := @splitLoop_host (empty.assign user .user) host port path plainHost plainPort
            freePath rfl rfl
          have shape : compose ⟨some user, none, some host, port, path⟩ =
              httpPrefix ++ (user ++ 64 :: (host ++ (led 58 port ++ led 47 path))) := by
            simp [compose, ended, led]
          refine ⟨_, shape, by simp, ?_⟩
          rw [splitLoop_ends plainUser rfl, loop]
          rfl
      | some password =>
          have freePass := parts password (.inr (.inr (.inr (.inr ⟨rfl, rfl⟩))))
          have plainPass : Plain .findPass password :=
            plain_of_without freePass (formed.password password rfl)
          have loop := @splitLoop_host ((empty.assign user .user).assign password .password) host
            port path plainHost plainPort freePath rfl rfl
          have shape : compose ⟨some user, some password, some host, port, path⟩ = httpPrefix ++
              (user ++ 58 :: (password ++ 64 :: (host ++ (led 58 port ++ led 47 path)))) := by
            simp [compose, ended, led]
          refine ⟨_, shape, by simp, ?_⟩
          rw [splitLoop_ends plainUser rfl, splitLoop_ends plainPass rfl, loop]
          rfl

private theorem fixUp_taken {url : Url} (formed : url.WellFormed) : url.taken.fixUp = url := by
  obtain ⟨user, password, host, port, path⟩ := url
  cases user with
  | some user =>
      cases host with
      | none => exact absurd (formed.hosted rfl) (by rintro ⟨⟩)
      | some host => rfl
  | none =>
      cases host with
      | none =>
          obtain ⟨-, rfl, -, rfl, rfl⟩ := Url.mk.inj (formed.hosted rfl)
          rfl
      | some host => cases port <;> rfl

theorem splitUrl_compose {url : Url} (formed : url.WellFormed)
    (free : Text.NulFree url.compose) : splitUrl url.compose empty = some url := by
  by_cases hosted : url = empty
  · subst hosted
    decide
  · obtain ⟨rest, shape, present, loop⟩ := splitLoop_compose formed hosted free
    rw [shape, splitUrl_prefix present, loop, fixUp_taken formed]

/-! ## Composing what is split -/

theorem without_none (bytes : List UInt8) : Without bytes none := fun text same => by cases same

theorem without_some {bytes : List UInt8} {text : Text} (free : ∀ byte ∈ text, byte ∉ bytes) :
    Without bytes (some text) := fun _ same => Option.some.inj same ▸ free

theorem Without.mono {bytes fewer : List UInt8} {part : Option Text} (free : Without bytes part)
    (less : fewer ⊆ bytes) : Without fewer part :=
  fun text same byte member among => free text same byte member (less among)

theorem wellFormed_of_user {user host : Text} {password port path : Option Text}
    (plainUser : Without [58, 64, 47] (some user)) (plainPassword : Without [64, 47] password)
    (plainHost : Without [58, 47] (some host)) (plainPort : Without [47] port) :
    WellFormed ⟨some user, password, some host, port, path⟩ where
  user := plainUser
  password := plainPassword
  host := plainHost
  port := plainPort
  named := fun same => by cases same
  secret := fun same => by cases same
  hosted := fun same => by cases same
  something := fun same => by cases same

theorem wellFormed_of_host {host : Text} {port path : Option Text}
    (plainHost : Without [58, 64, 47] (some host)) (plainPort : Without [64, 47] port)
    (something : ¬(host = [] ∧ port = none ∧ path = none)) :
    WellFormed ⟨none, none, some host, port, path⟩ where
  user := without_none _
  password := without_none _
  host := plainHost.mono (by decide)
  port := plainPort.mono (by decide)
  named := fun _ => ⟨plainHost.mono (by decide), plainPort.mono (by decide)⟩
  secret := fun _ => rfl
  hosted := fun same => by cases same
  something := fun same => by cases same; exact something ⟨rfl, rfl, rfl⟩

/-- Either no byte of a text is among some, or the text is cut at the first one that is. -/
theorem exists_first (bytes : List UInt8) (text : Text) :
    (∀ byte ∈ text, byte ∉ bytes) ∨
      ∃ front byte back, text = front ++ byte :: back ∧ byte ∈ bytes ∧
        ∀ other ∈ front, other ∉ bytes := by
  induction text with
  | nil => exact .inl fun _ member => absurd member List.not_mem_nil
  | cons byte text ih =>
      by_cases stop : byte ∈ bytes
      · exact .inr ⟨[], byte, text, rfl, stop, fun _ member => absurd member List.not_mem_nil⟩
      rcases ih with free | ⟨front, last, back, rfl, stops, free⟩
      · exact .inl (List.forall_mem_cons.mpr ⟨stop, free⟩)
      · exact .inr ⟨byte :: front, last, back, rfl, stops, List.forall_mem_cons.mpr ⟨stop, free⟩⟩

/-- What follows a user is a host, and perhaps a port and a path. -/
theorem exists_host (text : Text) :
    ∃ host port path, text = host ++ (led 58 port ++ led 47 path) ∧
      Without [58, 47] (some host) ∧ Without [47] port := by
  rcases exists_first [58, 47] text with free | ⟨host, byte, back, rfl, stops, free⟩
  · exact ⟨text, none, none, by simp [led], without_some free, without_none _⟩
  rcases List.mem_cons.mp stops with rfl | later
  · rcases exists_first [47] back with plain | ⟨port, slash, path, rfl, same, plain⟩
    · exact ⟨host, some back, none, by simp [led], without_some free, without_some plain⟩
    · obtain rfl := List.mem_singleton.mp same
      exact ⟨host, some port, some path, by simp [led], without_some free, without_some plain⟩
  · obtain rfl := List.mem_singleton.mp later
    exact ⟨host, none, some back, by simp [led], without_some free, without_none _⟩

/-- Every URL is composed of well-formed parts. -/
theorem exists_compose (text : Text) :
    ∃ url : Url, url.WellFormed ∧ url.compose = httpPrefix ++ text := by
  rcases exists_first [58, 64, 47] text with free | ⟨front, byte, back, rfl, stops, free⟩
  · by_cases nothing : text = []
    · subst nothing
      refine ⟨empty, ⟨without_none _, without_none _, without_none _, without_none _,
        fun _ => ⟨without_none _, without_none _⟩, fun _ => rfl, fun _ => rfl, by decide⟩, rfl⟩
    · exact ⟨⟨none, none, some text, none, none⟩,
        wellFormed_of_host (without_some free) (without_none _) fun all => nothing all.1,
        by simp [compose, ended, led]⟩
  have first := without_some free
  have split : byte = 58 ∨ byte = 64 ∨ byte = 47 := by simpa using stops
  rcases split with rfl | rfl | rfl
  · rcases exists_first [64, 47] back with plain | ⟨middle, byte, rest, rfl, second, plain⟩
    · exact ⟨⟨none, none, some front, some back, none⟩,
        wellFormed_of_host first (without_some plain) (by simp), by simp [compose, ended, led]⟩
    have split : byte = 64 ∨ byte = 47 := by simpa using second
    rcases split with rfl | rfl
    · obtain ⟨host, port, path, rfl, plainHost, plainPort⟩ := exists_host rest
      exact ⟨⟨some front, some middle, some host, port, path⟩,
        wellFormed_of_user first (without_some plain) plainHost plainPort,
        by simp [compose, ended, led]⟩
    · exact ⟨⟨none, none, some front, some middle, some rest⟩,
        wellFormed_of_host first (without_some plain) (by simp), by simp [compose, ended, led]⟩
  · obtain ⟨host, port, path, rfl, plainHost, plainPort⟩ := exists_host back
    exact ⟨⟨some front, none, some host, port, path⟩,
      wellFormed_of_user first (without_none _) plainHost plainPort,
      by simp [compose, ended, led]⟩
  · exact ⟨⟨none, none, some front, none, some back⟩,
      wellFormed_of_host first (without_none _) (by simp), by simp [compose, ended, led]⟩

/-- A URL is split on a fresh handle into exactly the well-formed parts of which it is composed; a
text is refused only if it does not start as a URL does. -/
theorem splitUrl_iff {inurl : Text} (free : Text.NulFree inurl) :
    (∀ url, splitUrl inurl empty = some url ↔ url.WellFormed ∧ inurl = url.compose) ∧
      (splitUrl inurl empty = none ↔ ¬httpPrefix <+: inurl) := by
  by_cases leads : httpPrefix <+: inurl
  · obtain ⟨rest, rfl⟩ := leads
    obtain ⟨parts, formed, composed⟩ := exists_compose rest
    rw [← composed] at free ⊢
    have splits := splitUrl_compose formed free
    refine ⟨fun url => ⟨fun same => ?_, fun ⟨other, same⟩ => ?_⟩, ?_⟩
    · rw [splits] at same
      cases same
      exact ⟨formed, rfl⟩
    · rw [same] at free ⊢
      exact splitUrl_compose other free
    · rw [splits, composed]
      simp
  · have refused : splitUrl inurl empty = none :=
      if_neg fun starts => leads (List.isPrefixOf_iff_prefix.mp starts)
    refine ⟨fun url => ⟨fun same => ?_, fun ⟨_, same⟩ => ?_⟩, fun _ => leads, fun _ => refused⟩
    · rw [refused] at same
      cases same
    · refine absurd ?_ leads
      rw [same, compose, List.append_assoc, List.append_assoc, List.append_assoc]
      exact List.prefix_append _ _

theorem splitUrl_iff_proxy :
    (∀ url, splitUrl (ascii "http://me@proxy:80/") empty = some url ↔
        url.WellFormed ∧ ascii "http://me@proxy:80/" = url.compose) ∧
      (splitUrl (ascii "http://me@proxy:80/") empty = none ↔
        ¬httpPrefix <+: ascii "http://me@proxy:80/") :=
  splitUrl_iff (by decide)

/-! ## Handles that are used again -/

/-- The parts of a URL, and for those that it lacks the ones that a handle already has. -/
def overlaid (new old : Url) : Url where
  user := new.user.or old.user
  password := new.password.or old.password
  host := new.host.or old.host
  port := new.port.or old.port
  path := new.path.or old.path

/-- The loop replaces the parts that it finds and no others. -/
theorem splitLoop_over (new old : Url) (state : SplitState) (piece text : Text) :
    splitLoop state piece (new.overlaid old) text =
      (splitLoop state piece new text).overlaid old := by
  have assigned (new : Url) (piece : Text) (part : Part) :
      (new.overlaid old).assign piece part = (new.assign piece part).overlaid old := by
    cases part <;> rfl
  induction text generalizing new state piece with
  | nil =>
      rw [splitLoop, splitLoop]
      split
      · rfl
      · exact assigned _ _ _
  | cons byte text ih =>
      rw [splitLoop, splitLoop]
      split
      · exact ih new state _
      · rw [assigned]
        exact ih _ _ _

/-- What a handle that already has parts makes of a URL: the parts that the URL lacks are kept; if
it has a host and a port but no user, the old host is kept as well, and the new one becomes the
user. -/
theorem splitUrl_over {url : Url} (formed : url.WellFormed) (hosted : url ≠ empty)
    (free : Text.NulFree url.compose) (old : Url) :
    splitUrl url.compose old = some
      (if url.user = none ∧ url.port.isSome ∧ old.host.isSome then
        { url.overlaid old with user := url.host, host := old.host }
      else if url.user = none ∧ url.port.isSome then { url.overlaid old with user := none }
      else url.overlaid old) := by
  obtain ⟨rest, shape, present, loop⟩ := splitLoop_compose formed hosted free
  have same : empty.overlaid old = old := rfl
  have again := splitLoop_over empty old .findUser [] rest
  rw [same, loop] at again
  rw [shape, splitUrl_prefix present, again]
  obtain ⟨user, password, host, port, path⟩ := url
  cases host with
  | none => exact absurd (formed.hosted rfl) hosted
  | some host =>
      cases user with
      | some user => simp [taken, overlaid, fixUp]
      | none =>
          cases port with
          | none => simp [taken, overlaid, fixUp]
          | some port => cases kept : old.host <;> simp [taken, overlaid, fixUp, kept]

theorem splitUrl_over_proxy :
    splitUrl (compose ⟨none, none, some (ascii "new"), some (ascii "80"), none⟩)
        ⟨none, none, some (ascii "old"), none, none⟩ =
      some ⟨some (ascii "new"), none, some (ascii "old"), some (ascii "80"), none⟩ :=
  splitUrl_over (wellFormed_of_host (without_some (List.forall_iff_forall_mem.mp (by decide)))
      (without_some (List.forall_iff_forall_mem.mp (by decide))) (by simp))
    (by decide) (by decide) ⟨none, none, some (ascii "old"), none, none⟩

end Url

/-! ## Encoding parameters -/

/-- Letters and digits in the C locale. -/
def isalnum (byte : UInt8) : Bool :=
  isdigit byte || (97 ≤ byte && byte ≤ 122) || (65 ≤ byte && byte ≤ 90)

/-- A byte that is copied. -/
def copied (byte : UInt8) : Bool := isalnum byte || byte == 95 || byte == 45 || byte == 46

def urlEncode (input : Text) : Text :=
  input.flatMap fun byte => if copied byte then [byte] else percent :: byteDigits byte

theorem hexValue_digitByte {digit : Nat} (small : digit < 16) :
    hexValue (digitByte digit) = some (UInt8.ofNat digit) := by
  have known : ∀ digit < 16, hexValue (digitByte digit) = some (UInt8.ofNat digit) := by decide
  exact known digit small

theorem urlEncode_encodes (input : Text) : PercentEncodes input (urlEncode input) := by
  induction input with
  | nil => exact .nil
  | cons byte input ih =>
      rw [urlEncode, List.flatMap_cons]
      split
      · rename_i copy
        refine .bare ?_ ih
        rintro rfl
        revert copy
        decide
      · have value : UInt8.ofNat (byte.toNat / 16) * 16 + UInt8.ofNat (byte.toNat % 16) = byte := by
          have bound := byte.toNat_lt
          rw [← UInt8.toNat_inj, UInt8.toNat_add, UInt8.toNat_mul, UInt8.toNat_ofNat',
            UInt8.toNat_ofNat']
          have sixteen : (16 : UInt8).toNat = 16 := rfl
          rw [sixteen]
          omega
        have bound := byte.toNat_lt
        have escaped :=
          PercentEncodes.escaped (hexValue_digitByte (by omega : byte.toNat / 16 < 16))
          (hexValue_digitByte (by omega : byte.toNat % 16 < 16)) ih
        rwa [value] at escaped

theorem digitByte_isalnum {digit : Nat} (small : digit < 16) :
    isalnum (digitByte digit) = true := by
  have known : ∀ digit < 16, isalnum (digitByte digit) = true := by decide
  exact known digit small

/-- An encoded parameter stands for the parameter and nothing else, has only letters, digits, three
more characters and escapes in it, and takes three bytes for each of the parameter's at most. -/
theorem urlEncode_exact (input : Text) :
    (∀ text, PercentEncodes text (urlEncode input) ↔ text = input) ∧
      (∀ byte ∈ urlEncode input, copied byte = true ∨ byte = percent) ∧
      (urlEncode input).length ≤ 3 * input.length := by
  refine ⟨fun text => ⟨fun encodes => encodes.unique (urlEncode_encodes input), ?_⟩, ?_, ?_⟩
  · rintro rfl
    exact urlEncode_encodes text
  · intro byte member
    obtain ⟨source, -, written⟩ := List.mem_flatMap.mp member
    split at written
    · rename_i copy
      exact .inl (List.mem_singleton.mp written ▸ copy)
    · have bound := source.toNat_lt
      rcases List.mem_cons.mp written with escape | digits
      · exact .inr escape
      · have letter : isalnum byte = true := by
          rcases List.mem_cons.mp digits with high | rest
          · exact high ▸ digitByte_isalnum (by omega)
          · exact List.mem_singleton.mp rest ▸ digitByte_isalnum (by omega)
        left
        rw [copied, letter]
        rfl
  · induction input with
    | nil => exact Nat.le_refl 0
    | cons byte input ih =>
        rw [urlEncode, List.flatMap_cons, List.length_append, List.length_cons]
        rw [urlEncode] at ih
        split
        · rw [List.length_singleton]
          omega
        · have escape : (percent :: byteDigits byte).length = 3 := rfl
          rw [escape]
          omega

end Waitress
