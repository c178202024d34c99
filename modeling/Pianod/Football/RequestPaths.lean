import Pianod.Football.HttpRequest
import Pianod.Football.Quoting

/-!
# Paths of requests

A request line names a service and a file below it.  What is collected is the path as it is
written: the escapes in it are neither decoded nor checked.
-/

namespace Football

open Foundation

/-- A request line for a path below a service. -/
def requestLine (method service path version : Text) : Text :=
  method ++ ascii " /" ++ service ++ ascii "/" ++ path ++ ascii " " ++ version

/-- What a request line for a path below a named service leaves. -/
def requestFor (method service path version : Text) : HttpRequest :=
  collectHttpRequest true ((commandTerms (requestLine method service path version)).map Term.word)
    .none

/-- A method by which files are fetched. -/
def IsFetch (method : Text) : Prop :=
  method.strcasecmp (ascii "head") = .eq ∨ method.strcasecmp (ascii "get") = .eq

/-- A name that can stand in a path. -/
def IsPathName (service : Text) : Prop :=
  ∀ byte ∈ service, isspace byte = false ∧ byte ≠ 47 ∧ byte ≠ 63

/-! ## The words of a request line -/

theorem le_of_isspace {byte : UInt8} (white : isspace byte = true) : byte ≤ 32 := by
  rcases Bool.or_eq_true_iff.mp white with blank | control
  · exact beq_iff_eq.mp blank ▸ UInt8.le_refl _
  · have upper := of_decide_eq_true (Bool.and_eq_true_iff.mp control).2
    exact UInt8.le_trans upper (by decide)

private theorem noDigit_of_isspace {byte : UInt8} (white : isspace byte = true) :
    byte ≠ percent ∧ hexValue byte = none := by
  have small := le_of_isspace white
  have above (digit : UInt8) (large : 32 < digit) : ¬digit ≤ byte := fun digit_le =>
    absurd (UInt8.lt_of_lt_of_le large (UInt8.le_trans digit_le small)) (UInt8.lt_irrefl _)
  refine ⟨fun same => above percent (by decide) (same ▸ UInt8.le_refl _), ?_⟩
  rw [hexValue, if_neg fun both => above 48 (by decide) both.1,
    if_neg fun both => above 97 (by decide) both.1, if_neg fun both => above 65 (by decide) both.1]

theorem IsFetch.bare {method : Text} (fetch : IsFetch method) : Bare method := by
  have letters : ∃ name : Text, method.map Text.toLower = name ∧ name ≠ [] ∧
      ∀ byte ∈ name, 97 ≤ byte ∧ byte ≤ 122 := by
    rcases fetch with head | get
    · exact ⟨_, Text.strcasecmp_eq_iff.mp head, by decide, by decide +kernel⟩
    · exact ⟨_, Text.strcasecmp_eq_iff.mp get, by decide, by decide +kernel⟩
  obtain ⟨name, folded, some, letters⟩ := letters
  have letter : ∀ byte ∈ method, isspace byte = false ∧ byte ≠ quote := by
    intro byte member
    have lower := letters (Text.toLower byte) (folded ▸ List.mem_map_of_mem member)
    constructor
    · cases white : isspace byte with
      | false => rfl
      | true =>
          have small := le_of_isspace white
          have same : Text.toLower byte = byte := if_neg fun upper =>
            absurd (UInt8.le_trans upper.1 small) (by decide)
          rw [same] at lower
          exact absurd (UInt8.le_trans lower.1 small) (by decide)
    · rintro rfl
      revert lower
      decide
  refine ⟨?_, fun byte member => (letter byte member).1, fun starts => ?_⟩
  · rintro rfl
    exact some folded.symm
  · exact (letter quote (List.mem_of_mem_head? starts)).2 rfl

/-- A bare word is split off. -/
theorem splitTerms_bare {term after : Text} (bare : Bare term) (ends : endsWord after = true)
    (fuel : Nat) :
    splitTerms (fuel + 1) (term ++ after) =
      ⟨term, term ++ after⟩ :: splitTerms fuel (after.dropWhile isspace) := by
  obtain ⟨some, dark, head⟩ := bare
  obtain ⟨byte, text, rfl⟩ := List.exists_cons_of_ne_nil some
  have plain : ¬(byte == quote) = true := fun same => head (by rw [beq_iff_eq.mp same]; rfl)
  have read := plainTerm_bare dark ends
  rw [List.cons_append] at read ⊢
  rw [splitTerms_cons, firstTerm, if_neg plain, read]
  cases after with
  | nil => rfl
  | cons space after =>
      have white : isspace space = true := ends
      rw [List.dropWhile_cons_of_pos white]
      rfl

/-- The words of a request line; a path ends at the first whitespace. -/
theorem words_requestLine {method service path version : Text} (fetch : IsFetch method)
    (name : IsPathName service) (starts : endsWord version = false) :
    ∃ more, (commandTerms (requestLine method service path version)).map Term.word =
        method :: (47 :: service ++ 47 :: path.takeWhile fun byte => !isspace byte) :: more ∧
      ((∀ byte ∈ path, isspace byte = false) → more ≠ []) := by
  have bare := fetch.bare
  obtain ⟨first, method', rfl⟩ := List.exists_cons_of_ne_nil bare.1
  let target := 47 :: service ++ 47 :: path.takeWhile fun byte => !isspace byte
  let rest := (path.dropWhile fun byte => !isspace byte) ++ 32 :: version
  have line : requestLine (first :: method') service path version =
      (first :: method') ++ 32 :: (target ++ rest) := by
    have split := @List.takeWhile_append_dropWhile _ (fun byte => !isspace byte) path
    simp [target, rest, requestLine, ascii, ← List.append_assoc _ _ (32 :: version), split]
  have targetBare : Bare target := by
    refine ⟨List.cons_ne_nil _ _, ?_, fun same => absurd (Option.some.inj same) (by decide)⟩
    intro byte member
    rcases List.mem_append.mp member with front | back
    · rcases List.mem_cons.mp front with rfl | inside
      · rfl
      · exact (name byte inside).1
    · rcases List.mem_cons.mp back with rfl | inside
      · rfl
      · simpa using List.mem_takeWhile_imp inside
  have ends : endsWord rest = true := by
    cases left : path.dropWhile fun byte => !isspace byte with
    | nil => simp only [rest, left]; rfl
    | cons byte more =>
        have white := List.head_dropWhile_not (fun byte => !isspace byte)
          (by rw [left]; exact List.cons_ne_nil _ _)
        simp only [left, List.head_cons] at white
        simp only [rest, left]
        simpa [endsWord] using white
  have dark : isspace first = false := bare.2.1 first List.mem_cons_self
  have split : (commandTerms (requestLine (first :: method') service path version)) =
      ⟨first :: method', (first :: method') ++ 32 :: (target ++ rest)⟩ ::
      ⟨target, target ++ rest⟩ ::
        splitTerms (method'.length + (target ++ rest).length) (rest.dropWhile isspace) := by
    have length : ((first :: method') ++ 32 :: (target ++ rest)).length =
        method'.length + (target ++ rest).length + 1 + 1 := by
      simp only [List.length_append, List.length_cons]
      omega
    have start : ((first :: method') ++ 32 :: (target ++ rest)).dropWhile isspace =
        (first :: method') ++ 32 :: (target ++ rest) :=
      List.dropWhile_cons_of_neg (by rw [dark]; exact Bool.false_ne_true)
    have next : (32 :: (target ++ rest)).dropWhile isspace = target ++ rest := rfl
    rw [commandTerms, line, start, length, splitTerms_bare bare rfl, next,
      splitTerms_bare targetBare ends]
  rw [split]
  refine ⟨_, rfl, fun whole => ?_⟩
  have nothing : (path.dropWhile fun byte => !isspace byte) = [] :=
    List.dropWhile_eq_nil_iff.mpr fun byte member => by rw [whole byte member]; rfl
  have left : rest.dropWhile isspace = version := by
    simp only [rest, nothing]
    cases version with
    | nil => cases starts
    | cons byte version =>
        exact (List.dropWhile_cons_of_pos rfl).trans
          (List.dropWhile_cons_of_neg (by
            rw [show isspace byte = false from starts]
            exact Bool.false_ne_true))
  rw [left]
  cases version with
  | nil => cases starts
  | cons byte version =>
      have more : (target ++ rest).length = (target ++ rest).length - 1 + 1 := by simp [target]
      rw [more, ← Nat.add_assoc, splitTerms_cons]
      exact List.cons_ne_nil _ _

/-- What is collected of a request line for a path. -/
theorem requestFor_eq {method service path version : Text} (fetch : IsFetch method)
    (name : IsPathName service) (starts : endsWord version = false) :
    (requestFor method service path version).invalid = false ∧
      ((requestFor method service path version).filename = none ∨
        (requestFor method service path version).filename =
          some (before 63 (path.takeWhile fun byte => !isspace byte))) ∧
      ((∀ byte ∈ path, isspace byte = false) →
        (requestFor method service path version).filename = some (before 63 path)) := by
  obtain ⟨more, words, enough⟩ := @words_requestLine _ _ path _ fetch name starts
  have known : ¬(method.strcasecmp (ascii "head") != .eq &&
      method.strcasecmp (ascii "get") != .eq) = true := by
    rcases fetch with head | get
    · simp [head]
    · simp [get]
  have resource (rest : Text) :
      before 63 (service ++ 47 :: rest) = service ++ 47 :: before 63 rest := by
    rw [before,
      List.takeWhile_append_of_pos fun byte member => by simpa using (name byte member).2.2,
      List.takeWhile_cons_of_pos (by decide), before]
  have filename (rest : Text) : afterFirst 47 (service ++ 47 :: rest) = some rest := by
    rw [afterFirst, List.dropWhile_append_of_pos fun byte member => by
      simpa using (name byte member).2.1, List.dropWhile_cons_of_neg (by decide)]
  rw [requestFor, words, List.cons_append, collectHttpRequest_none, if_neg known]
  cases more with
  | nil => exact ⟨rfl, .inl rfl, fun whole => absurd rfl (enough whole)⟩
  | cons version' more =>
      have named := filename (before 63 (path.takeWhile fun byte => !isspace byte))
      rw [← resource] at named
      refine ⟨rfl, .inr named, fun whole => named.trans ?_⟩
      have dark : path.takeWhile (fun byte => !isspace byte) = path :=
        List.takeWhile_eq_self_iff.mpr fun byte member => by rw [whole byte member]; rfl
      rw [dark]

/-! ## Decoding -/

/-- Paths are collected as they should be exactly where there is nothing to decode: a file whose
path is written without escapes, and as one word, is named; but a malformed path is never marked,
and decoding inverts no encoding that has an escape. -/
theorem pathDecoded_iff {method service version : Text} (fetch : IsFetch method)
    (name : IsPathName service) (starts : endsWord version = false) :
    (∀ file path, PercentEncodes file path → 63 ∉ path →
      ((requestFor method service path version).filename = some file ∧
          (requestFor method service path version).invalid = false ↔
        percent ∉ path ∧ ∀ byte ∈ path, isspace byte = false)) ∧
    (∀ path, PercentMalformed path →
      ((requestFor method service path version).invalid = true ↔ percent ∉ path)) ∧
    ∀ text code, PercentEncodes text code → Text.NulFree code →
      (urlDecode code = (true, text) ↔ percent ∉ code) := by
  refine ⟨?_, ?_, fun text code encodes free => urlDecode_iff encodes free⟩
  · intro file path encodes plain
    obtain ⟨valid, cut, whole⟩ := @requestFor_eq _ _ path _ fetch name starts
    have kept {text : Text} (absent : 63 ∉ text) : before 63 text = text :=
      List.takeWhile_eq_self_iff.mpr fun byte member => by
        simpa using fun same : byte = 63 => absent (same ▸ member)
    constructor
    · rintro ⟨named, -⟩
      have same : (path.takeWhile fun byte => !isspace byte) = file := by
        rcases cut with nothing | cut
        · rw [nothing] at named
          cases named
        · rw [kept fun member => plain ((List.takeWhile_sublist _).subset member), named] at cut
          exact (Option.some.inj cut).symm
      have dark : ∀ byte ∈ path, isspace byte = false := by
        intro byte member
        cases white : isspace byte with
        | false => rfl
        | true =>
            have inside := encodes.mem_of_mem (noDigit_of_isspace white) member
            rw [← same] at inside
            simpa [white] using List.mem_takeWhile_imp inside
      refine ⟨fun escape => ?_, dark⟩
      have shorter := encodes.length_lt_of_mem escape
      rw [← same, List.takeWhile_eq_self_iff.mpr fun byte member => by
        rw [dark byte member]; rfl] at shorter
      exact Nat.lt_irrefl _ shorter
    · rintro ⟨bare, dark⟩
      refine ⟨?_, valid⟩
      rw [whole dark, kept plain, encodes.eq_of_not_mem bare]
  · intro path malformed
    rw [(@requestFor_eq _ _ path _ fetch name starts).1]
    exact ⟨nofun, fun bare => absurd malformed.mem bare⟩

private theorem isFetch_get : IsFetch (ascii "GET") := .inr rfl

private theorem isPathName_pianod : IsPathName (ascii "pianod") := by
  unfold IsPathName
  decide +kernel

private theorem encodes_plain : PercentEncodes (ascii "a.html") (ascii "a.html") := by
  repeat refine .bare (by decide) ?_
  exact .nil

private theorem encodes_blank : PercentEncodes (ascii "a b") (ascii "a%20b") :=
  .bare (by decide) (.escaped (show hexValue 50 = some 2 from rfl)
    (show hexValue 48 = some 0 from rfl) (.bare (by decide) .nil))

theorem pathDecoded_sample :
    (requestFor (ascii "GET") (ascii "pianod") (ascii "a.html") (ascii "HTTP/1.1")).filename =
        some (ascii "a.html") ∧
      (requestFor (ascii "GET") (ascii "pianod") (ascii "a.html") (ascii "HTTP/1.1")).invalid =
        false :=
  ((pathDecoded_iff isFetch_get isPathName_pianod rfl).1 _ _ encodes_plain (by decide)).mpr
    (by decide +kernel)

/-- An escaped blank stays escaped, a malformed escape is accepted, and decoding loses bytes. -/
theorem pathDecoded_fails :
    (PercentEncodes (ascii "a b") (ascii "a%20b") ∧
      (requestFor (ascii "GET") (ascii "pianod") (ascii "a%20b") (ascii "HTTP/1.1")).filename =
        some (ascii "a%20b")) ∧
    (PercentMalformed (ascii "%zz") ∧
      (requestFor (ascii "GET") (ascii "pianod") (ascii "%zz") (ascii "HTTP/1.1")).invalid =
        false) ∧
    urlDecode (ascii "a%20b") = (true, ascii "a ") := by
  refine ⟨⟨encodes_blank, by decide⟩, ⟨.cut ?_, by decide⟩, by decide⟩
  intro high low rest same
  obtain ⟨rfl, -⟩ := List.cons.inj same
  exact .inl rfl

end Football
