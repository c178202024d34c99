import Pianod.Foundation.Text

/-!
# HTTP responses on a connection that is kept

A client reads the responses to its requests off one stream of bytes.  A response starts with a
status line and header fields up to a blank line.  No body follows for a `HEAD` request or a status
304; any other response has a body of as many bytes as its content length says.  Only that number
tells where the next response starts.
-/

namespace Foundation

/-- A response as a client reads it. -/
structure HttpResponse where
  /-- The status line. -/
  status : Text
  /-- The header lines. -/
  fields : List Text
  /-- What follows the empty line. -/
  body : Text
deriving DecidableEq, Repr

namespace HttpResponse

def newline : UInt8 := 10

/-- The end of a line. -/
def crlf : Text := [13, 10]

/-- What a status line starts with. -/
def version : Text := ascii "HTTP/1.1 "

/-- Read a line, and what follows it. -/
def readLine (bytes : Text) : Option (Text × Text) :=
  match afterFirst newline bytes with
  | none => none
  | some rest =>
      let line := before newline bytes
      if line.getLast? = some 13 then some (line.dropLast, rest) else none

/-- Read lines up to a blank one, and what follows that. -/
def readFields : Nat → Text → Option (List Text × Text)
  | 0, _ => none
  | fuel + 1, bytes =>
      match readLine bytes with
      | none => none
      | some ([], rest) => some ([], rest)
      | some (field, rest) =>
          (readFields fuel rest).map fun (fields, rest) => (field :: fields, rest)

/-- Read a header: the status, the fields and what follows. -/
def readHeader (bytes : Text) : Option (Text × List Text × Text) :=
  match readLine bytes with
  | none => none
  | some (line, rest) =>
      if version.isPrefixOf line then
        (readFields (rest.length + 1) rest).map fun (fields, rest) =>
          (line.drop version.length, fields, rest)
      else none

/-- The value of a field, if it has a name. -/
def fieldValue (name field : Text) : Option Text :=
  if Text.strcasecmp (before 58 field) name = .eq then
    (afterFirst 58 field).map (List.dropWhile isspace)
  else none

/-- A field with a name and a value. -/
def field (name value : Text) : Text := name ++ 58 :: 32 :: value

/-- Read a decimal number. -/
def readDecimal (digits : Text) : Option Nat :=
  if digits ≠ [] ∧ digits.all isdigit then
    some (Nat.ofDigitChars 10 (digits.map fun digit => Char.ofNat digit.toNat) 0)
  else none

/-- The content length, if it is given exactly once. -/
def contentLength (fields : List Text) : Option Nat :=
  match fields.filterMap (fieldValue (ascii "Content-Length")) with
  | [digits] => readDecimal digits
  | _ => none

/-- Whether a response has no body: the request asked for none, or nothing was modified. -/
def bodyless (headonly : Bool) (status : Text) : Bool :=
  headonly || (ascii "304").isPrefixOf status

/-- Read the response to a request, and what follows it. -/
def read (headonly : Bool) (bytes : Text) : Option (HttpResponse × Text) :=
  match readHeader bytes with
  | none => none
  | some (status, fields, rest) =>
      if bodyless headonly status then some (⟨status, fields, []⟩, rest)
      else match contentLength fields with
        | none => none
        | some size =>
            if rest.length < size then none
            else some (⟨status, fields, rest.take size⟩, rest.drop size)

/-- Read one response for each request; nothing may be left over. -/
def readAll : List Bool → Text → Option (List HttpResponse)
  | [], bytes => if bytes = [] then some [] else none
  | headonly :: requests, bytes =>
      match read headonly bytes with
      | none => none
      | some (response, rest) => (readAll requests rest).map (response :: ·)

/-- The bytes of a header. -/
def header (status : Text) (fields : List Text) : Text :=
  version ++ status ++ crlf ++ (fields.flatMap (· ++ crlf) ++ crlf)

/-- The header texts stay on their lines. -/
structure OnLines (status : Text) (fields : List Text) : Prop where
  status : newline ∉ status
  fields : ∀ field ∈ fields, newline ∉ field ∧ field ≠ []

/-! ## Reading back a header -/

theorem before_append {byte : UInt8} {front : Text} (absent : byte ∉ front) (rest : Text) :
    before byte (front ++ byte :: rest) = front := by
  rw [before, List.takeWhile_append_of_pos]
  · simp
  · exact fun other member => bne_iff_ne.mpr fun same => absent (same ▸ member)

theorem afterFirst_append {byte : UInt8} {front : Text} (absent : byte ∉ front) (rest : Text) :
    afterFirst byte (front ++ byte :: rest) = some rest := by
  rw [afterFirst, List.dropWhile_append_of_pos]
  · simp
  · exact fun other member => bne_iff_ne.mpr fun same => absent (same ▸ member)

/-- A line is read back. -/
theorem readLine_line {line : Text} (absent : newline ∉ line) (rest : Text) :
    readLine (line ++ crlf ++ rest) = some (line, rest) := by
  have returned : newline ∉ line ++ [13] := by
    rw [List.mem_append, not_or]
    exact ⟨absent, by decide⟩
  have shape : line ++ crlf ++ rest = (line ++ [13]) ++ newline :: rest := by
    simp [crlf, newline]
  rw [readLine, shape, afterFirst_append returned, before_append returned]
  simp

/-- All fields of a header are read back, given enough fuel. -/
theorem readFields_fields {fields : List Text}
    (lines : ∀ field ∈ fields, newline ∉ field ∧ field ≠ []) {fuel : Nat}
    (enough : fields.length < fuel) (rest : Text) :
    readFields fuel (fields.flatMap (· ++ crlf) ++ crlf ++ rest) = some (fields, rest) := by
  induction fields generalizing fuel with
  | nil =>
      obtain _ | fuel := fuel
      · exact absurd enough (Nat.not_lt_zero _)
      have blank := readLine_line (List.not_mem_nil (a := newline)) rest
      rw [List.nil_append] at blank
      rw [List.flatMap_nil, List.nil_append, readFields, blank]
  | cons field fields ih =>
      obtain _ | fuel := fuel
      · exact absurd enough (Nat.not_lt_zero _)
      obtain ⟨absent, present⟩ := lines field List.mem_cons_self
      have later := @ih (fun other member => lines other (List.mem_cons_of_mem _ member)) fuel
        (Nat.lt_of_succ_lt_succ enough)
      have shape : (field :: fields).flatMap (· ++ crlf) ++ crlf ++ rest =
          field ++ crlf ++ (fields.flatMap (· ++ crlf) ++ crlf ++ rest) := by
        simp
      rw [shape, readFields, readLine_line absent]
      cases field with
      | nil => exact absurd rfl present
      | cons byte field =>
          dsimp only
          rw [later]
          rfl

theorem length_le_flatMap (fields : List Text) :
    fields.length ≤ (fields.flatMap (· ++ crlf)).length := by
  induction fields with
  | nil => exact Nat.le_refl 0
  | cons field fields ih =>
      rw [List.flatMap_cons, List.length_append, List.length_cons, List.length_append]
      have two : crlf.length = 2 := rfl
      omega

/-- A header is read back. -/
theorem readHeader_header {status : Text} {fields : List Text} (lines : OnLines status fields)
    (rest : Text) :
    readHeader (header status fields ++ rest) = some (status, fields, rest) := by
  have first : newline ∉ version ++ status := by
    rw [List.mem_append, not_or]
    exact ⟨by decide, lines.status⟩
  have shape : header status fields ++ rest =
      version ++ status ++ crlf ++ (fields.flatMap (· ++ crlf) ++ crlf ++ rest) := by
    simp [header]
  have enough : fields.length <
      (fields.flatMap (· ++ crlf) ++ crlf ++ rest).length + 1 := by
    have least := length_le_flatMap fields
    rw [List.length_append, List.length_append]
    omega
  have started : version.isPrefixOf (version ++ status) = true := by simp
  rw [shape, readHeader, readLine_line first]
  dsimp only
  rw [if_pos started, readFields_fields lines.fields enough]
  simp

/-! ## Numbers -/

/-- A digit survives as a byte. -/
theorem digit_byte {digit : Char} (known : digit.isDigit = true) :
    Char.ofNat (UInt8.ofNat digit.toNat).toNat = digit ∧
      isdigit (UInt8.ofNat digit.toNat) = true := by
  obtain ⟨low, high⟩ : 48 ≤ digit.toNat ∧ digit.toNat ≤ 57 := by
    simpa [Char.isDigit, UInt32.le_iff_toNat_le] using known
  have small : (UInt8.ofNat digit.toNat).toNat = digit.toNat := by
    rw [UInt8.toNat_ofNat', Nat.mod_eq_of_lt (by omega)]
  refine ⟨by rw [small, Char.ofNat_toNat], ?_⟩
  simp only [isdigit, Bool.and_eq_true, decide_eq_true_eq, UInt8.le_iff_toNat_le, small]
  exact ⟨low, high⟩

theorem ascii_toString (number : Nat) : ascii (toString number) =
    (Nat.toDigits 10 number).map fun digit => UInt8.ofNat digit.toNat := by
  rw [ascii, Nat.toString_eq_ofList_toDigits, String.toList_ofList]

theorem digit_of_mem {number : Nat} {digit : Char} (member : digit ∈ Nat.toDigits 10 number) :
    digit.isDigit = true :=
  Nat.isDigit_of_mem_toDigits (by decide) (Nat.le_refl 10) member

/-- The decimal form of a number is made of digits. -/
theorem isdigit_of_mem_decimal {number : Nat} {byte : UInt8}
    (member : byte ∈ ascii (toString number)) : isdigit byte = true := by
  rw [ascii_toString] at member
  obtain ⟨digit, inside, rfl⟩ := List.mem_map.mp member
  exact (digit_byte (digit_of_mem inside)).2

/-- A decimal number is read back. -/
theorem readDecimal_decimal (number : Nat) :
    readDecimal (ascii (toString number)) = some number := by
  have present : ascii (toString number) ≠ [] := by
    rw [ascii_toString, ne_eq, List.map_eq_nil_iff]
    exact Nat.toDigits_ne_nil
  have all : (ascii (toString number)).all isdigit = true :=
    List.all_eq_true.mpr fun _ member => isdigit_of_mem_decimal member
  have back : (ascii (toString number)).map (fun digit => Char.ofNat digit.toNat) =
      Nat.toDigits 10 number := by
    rw [ascii_toString, List.map_map]
    exact (List.map_congr_left fun digit member =>
      (digit_byte (digit_of_mem member)).1).trans (List.map_id' _)
  rw [readDecimal, if_pos ⟨present, all⟩, back, Nat.ofDigitChars_ten_toDigits]

/-- A number that can be read does not start with a blank. -/
theorem dropWhile_of_readDecimal {digits : Text} {number : Nat}
    (known : readDecimal digits = some number) : digits.dropWhile isspace = digits := by
  rw [readDecimal] at known
  split at known
  · rename_i valid
    obtain ⟨present, all⟩ := valid
    cases digits with
    | nil => rfl
    | cons digit digits =>
        have first := List.all_eq_true.mp all digit List.mem_cons_self
        rw [List.dropWhile_cons_of_neg (by rw [isspace_of_isdigit first]; decide)]
  · cases known

/-! ## Fields -/

/-- What a field says about a name. -/
theorem fieldValue_field {label : Text} (absent : (58 : UInt8) ∉ label) (name value : Text) :
    fieldValue name (field label value) =
      if Text.strcasecmp label name = .eq then some (value.dropWhile isspace) else none := by
  rw [fieldValue, field, before_append absent, afterFirst_append absent]
  rfl

/-- A field name that does not give the content length. -/
def OtherLabel (label : Text) : Prop :=
  newline ∉ label ∧ (58 : UInt8) ∉ label ∧
    Text.strcasecmp label (ascii "Content-Length") ≠ .eq

instance (label : Text) : Decidable (OtherLabel label) := inferInstanceAs (Decidable (_ ∧ _ ∧ _))

/-- The fields made of names and values. -/
def fieldsOf (pairs : List (Text × Text)) : List Text :=
  pairs.map fun pair => field pair.1 pair.2

/-- Fields with a content length among others. -/
def sized (front : List (Text × Text)) (number : Nat) (back : List (Text × Text)) : List Text :=
  fieldsOf (front ++ (ascii "Content-length", ascii (toString number)) :: back)

variable {front back : List (Text × Text)}

/-- Fields with their texts on one line each are on one line each. -/
theorem onLines_sized {status : Text} (line : newline ∉ status)
    (others : ∀ pair ∈ front ++ back, OtherLabel pair.1 ∧ newline ∉ pair.2) (number : Nat) :
    OnLines status (sized front number back) := by
  refine ⟨line, fun written member => ?_⟩
  obtain ⟨pair, inside, rfl⟩ := List.mem_map.mp member
  have lines : newline ∉ pair.1 ∧ newline ∉ pair.2 := by
    rcases List.mem_append.mp inside with early | late
    · have other := others pair (List.mem_append_left _ early)
      exact ⟨other.1.1, other.2⟩
    rcases List.mem_cons.mp late with rfl | late
    · refine ⟨(by decide : newline ∉ ascii "Content-length"), fun digit => ?_⟩
      exact absurd (isdigit_of_mem_decimal digit) (by decide)
    · have other := others pair (List.mem_append_right _ late)
      exact ⟨other.1.1, other.2⟩
  refine ⟨fun broken => ?_, by simp [field]⟩
  rcases List.mem_append.mp broken with early | late
  · exact lines.1 early
  rcases List.mem_cons.mp late with same | late
  · exact absurd same (by decide)
  rcases List.mem_cons.mp late with same | late
  · exact absurd same (by decide)
  · exact lines.2 late

/-- Other fields say nothing about the content length. -/
theorem filterMap_others {pairs : List (Text × Text)}
    (others : ∀ pair ∈ pairs, OtherLabel pair.1) :
    (fieldsOf pairs).filterMap (fieldValue (ascii "Content-Length")) = [] := by
  rw [fieldsOf, List.filterMap_map, List.filterMap_eq_nil_iff]
  intro pair member
  obtain ⟨-, absent, other⟩ := others pair member
  rw [Function.comp_apply, fieldValue_field absent, if_neg other]

/-- The content length among other fields is read back. -/
theorem contentLength_sized (others : ∀ pair ∈ front ++ back, OtherLabel pair.1) (number : Nat) :
    contentLength (sized front number back) = some number := by
  have known := readDecimal_decimal number
  have absent : (58 : UInt8) ∉ ascii "Content-length" := by decide
  have named : Text.strcasecmp (ascii "Content-length") (ascii "Content-Length") = .eq := by
    decide
  have only : (sized front number back).filterMap (fieldValue (ascii "Content-Length")) =
      [ascii (toString number)] := by
    have before := filterMap_others fun pair member => others pair (List.mem_append_left _ member)
    have after := filterMap_others fun pair member => others pair (List.mem_append_right _ member)
    rw [fieldsOf] at before after
    rw [sized, fieldsOf, List.map_append, List.map_cons, List.filterMap_append, before,
      List.filterMap_cons, fieldValue_field absent, if_pos named, after,
      dropWhile_of_readDecimal known]
    rfl
  rw [contentLength, only]
  exact known

/-! ## Reading responses one after another -/

variable {headonly : Bool} {requests : List Bool} {status : Text} {fields : List Text}

/-- A header without a body is a whole response when no body is due. -/
theorem readAll_bodyless (lines : OnLines status fields)
    (none_due : bodyless headonly status = true) (rest : Text) :
    (readAll (headonly :: requests) (header status fields ++ rest)).isSome =
      (readAll requests rest).isSome := by
  rw [readAll, read, readHeader_header lines]
  simp [none_due]

/-- A header with a body of its content length is a whole response when a body is due. -/
theorem readAll_body (lines : OnLines status fields) {body : Text}
    (due : bodyless headonly status = false) (size : contentLength fields = some body.length)
    (rest : Text) :
    (readAll (headonly :: requests) (header status fields ++ (body ++ rest))).isSome =
      (readAll requests rest).isSome := by
  have enough : ¬(body ++ rest).length < body.length := by
    rw [List.length_append]
    omega
  rw [readAll, read, readHeader_header lines]
  simp only [due, size, enough, if_false, Bool.false_eq_true]
  simp

/-- A line that is read is a first part of what is there. -/
theorem readLine_isPrefix {bytes line rest : Text} (known : readLine bytes = some (line, rest)) :
    line <+: bytes := by
  rw [readLine] at known
  split at known
  · cases known
  · dsimp only at known
    split at known
    · cases known
      exact (List.dropLast_prefix _).trans (List.takeWhile_prefix _)
    · cases known

/-- What does not start with a version cannot be read. -/
theorem readAll_eq_none {byte : UInt8} {body : Text} (other : byte ≠ 72) (rest : Text) :
    readAll requests (byte :: body ++ rest) = none := by
  cases requests with
  | nil => simp [readAll]
  | cons headonly requests =>
      have unread : readHeader (byte :: body ++ rest) = none := by
        rw [readHeader]
        split
        · rfl
        · rename_i line after started
          refine if_neg fun versioned => other ?_
          have front := (List.isPrefixOf_iff_prefix.mp versioned).trans (readLine_isPrefix started)
          exact (List.cons_prefix_cons.mp front).1.symm
      rw [readAll, read, unread]

/-- A body where none is due puts the client out of step for good. -/
theorem readAll_surplus (lines : OnLines status fields)
    (none_due : bodyless headonly status = true) {byte : UInt8} {body : Text}
    (other : byte ≠ 72) (rest : Text) :
    readAll (headonly :: requests) (header status fields ++ (byte :: body ++ rest)) = none := by
  rw [readAll, read, readHeader_header lines]
  simp only [none_due, if_true]
  rw [readAll_eq_none other, Option.map_none]

end HttpResponse

end Foundation
