import Pianod.Foundation.Buffer
import Pianod.Foundation.PercentEncoding

/-!
# Decoding paths in place

A path is decoded with one place that reads and one that writes.
-/

namespace Football

open Foundation Foundation.Buffer

/-- Hexadecimal digits in the C locale. -/
def isxdigit (byte : UInt8) : Bool :=
  isdigit byte || (97 ≤ byte && byte ≤ 102) || (65 ≤ byte && byte ≤ 70)

/-- The digit's value, as the code computes it. -/
def getHexDigit (digit : UInt8) : UInt8 :=
  if isdigit digit then digit - 48
  else if 97 ≤ digit && digit ≤ 102 then digit - 48 + 10
  else digit - 65 + 10

/-- Decode from one place to another; the answer tells whether the code is right. -/
def urlDecodeFrom : Nat → Text → Nat → Nat → Bool × Text
  | 0, request, _, _ => (false, request)
  | fuel + 1, request, src, dest =>
      if byteAt request src = 0 then (true, request.set dest 0)
      else if byteAt request src = percent then
        let high := byteAt request (src + 1)
        let low := byteAt request (src + 2)
        if isxdigit high && isxdigit low then
          let decoded := getHexDigit high * 16 + getHexDigit low
          let request := request.set dest decoded
          -- Characters are signed: those from 128 on are negative.
          if decoded < 32 ∨ 128 ≤ decoded then (false, request)
          else urlDecodeFrom fuel request (src + 3) dest
        else (false, request)
      -- The byte is copied from where it should go to where it comes from.
      else urlDecodeFrom fuel (request.set src (byteAt request dest)) (src + 1) (dest + 1)

/-- Decode a text in its own buffer. -/
def urlDecode (request : Text) : Bool × Text :=
  let (right, buffer) := urlDecodeFrom (request.length + 1) (request ++ [0]) 0 0
  (right, stringAt buffer 0)

/-! ## What is decoded -/

variable {text code request decoded : Text} {fuel src dest : Nat}

/-- Nothing happens to a text without escapes: both places are the same. -/
theorem urlDecodeFrom_plain {front : Text} (free : Text.NulFree code) (plain : percent ∉ code)
    (enough : code.length < fuel) :
    urlDecodeFrom fuel (front ++ code ++ [0]) front.length front.length =
      (true, front ++ code ++ [0]) := by
  induction code generalizing front fuel with
  | nil =>
      obtain ⟨fuel, rfl⟩ := Nat.exists_eq_add_one_of_ne_zero (Nat.ne_of_gt enough)
      simp [urlDecodeFrom]
  | cons byte code ih =>
      obtain ⟨fuel, rfl⟩ :=
        Nat.exists_eq_add_one_of_ne_zero (Nat.ne_of_gt (Nat.zero_lt_of_lt enough))
      have here : byteAt (front ++ byte :: code ++ [0]) front.length = byte := by
        rw [List.append_assoc]
        exact byteAt_length _ _ _
      have same : (front ++ byte :: code ++ [0]).set front.length byte =
          front ++ [byte] ++ code ++ [0] := by simp
      have next : front.length + 1 = (front ++ [byte]).length := by simp
      have other : byte ≠ 0 := free byte List.mem_cons_self
      have bare : byte ≠ percent := fun escape => plain (escape ▸ List.mem_cons_self)
      rw [urlDecodeFrom, here, if_neg other, if_neg bare, same, next,
        ih (fun byte member => free byte (List.mem_cons_of_mem _ member))
          (fun later => plain (List.mem_cons_of_mem _ later)) (Nat.lt_of_succ_lt_succ enough)]
      simp

/-- What is decoded ends where the writing place ends, which an escape does not move. -/
theorem urlDecodeFrom_length (encodes : PercentEncodes text code) (free : Text.NulFree code)
    (left : request.drop src = code ++ [0]) (behind : dest ≤ src)
    (right : urlDecodeFrom fuel request src dest = (true, decoded)) :
    (stringAt decoded 0).length ≤ dest + text.length ∧
      (percent ∈ code → (stringAt decoded 0).length < dest + text.length) := by
  induction encodes generalizing request src dest fuel with
  | nil =>
      have stops : byteAt request src = 0 := byteAt_of_drop left
      cases fuel with
      | zero => cases right
      | succ fuel =>
          rw [urlDecodeFrom, if_pos stops] at right
          obtain ⟨-, rfl⟩ := Prod.mk.inj right
          have inside : dest < request.length := by
            have lengths := congrArg List.length left
            rw [List.length_drop, List.nil_append, List.length_singleton] at lengths
            omega
          exact ⟨length_stringAt_set inside, nofun⟩
  | @bare byte text code plain rest ih =>
      have here : byteAt request src = byte := byteAt_of_drop left
      have other : byte ≠ 0 := free byte List.mem_cons_self
      cases fuel with
      | zero => cases right
      | succ fuel =>
          rw [urlDecodeFrom, here, if_neg other, if_neg plain] at right
          have later : (request.set src (byteAt request dest)).drop (src + 1) = code ++ [0] := by
            rw [List.drop_set_of_lt (Nat.lt_add_one src), ← List.drop_drop, left]
            rfl
          obtain ⟨upper, strict⟩ :=
            ih (fun byte member => free byte (List.mem_cons_of_mem _ member))
            later (Nat.succ_le_succ behind) right
          rw [List.length_cons, ← Nat.add_assoc, Nat.add_right_comm]
          refine ⟨upper, fun escape => ?_⟩
          rcases List.mem_cons.mp escape with rfl | escape
          · exact absurd rfl plain
          · exact strict escape
  | @escaped high low first second text code _ _ rest ih =>
      have here : byteAt request src = percent := byteAt_of_drop left
      cases fuel with
      | zero => cases right
      | succ fuel =>
          rw [urlDecodeFrom, here, if_neg (by decide), if_pos rfl] at right
          dsimp only at right
          split at right
          · split at right
            · cases right
            · obtain ⟨upper, -⟩ := ih (fun byte member => free byte (by simp [member])) (by
                rw [List.drop_set_of_lt (by omega), ← List.drop_drop, left]
                rfl) (by omega) right
              rw [List.length_cons]
              exact ⟨upper.trans (by omega), fun _ => by omega⟩
          · cases right

/-- Decoding inverts percent-encoding exactly where there is nothing to decode. -/
theorem urlDecode_iff (encodes : PercentEncodes text code) (free : Text.NulFree code) :
    urlDecode code = (true, text) ↔ percent ∉ code := by
  constructor
  · intro decodes escape
    cases run : urlDecodeFrom (code.length + 1) (code ++ [0]) 0 0 with
    | mk right buffer =>
        rw [urlDecode, run] at decodes
        obtain ⟨rfl, same⟩ := Prod.mk.inj decodes
        have left : (code ++ [0]).drop 0 = code ++ [0] := rfl
        have shorter := (urlDecodeFrom_length encodes free left (Nat.le_refl 0) run).2 escape
        rw [same, Nat.zero_add] at shorter
        exact Nat.lt_irrefl _ shorter
  · intro plain
    have stays := @urlDecodeFrom_plain code (code.length + 1) [] free plain (Nat.lt_succ_self _)
    have reads := stringAt_length free [] []
    rw [urlDecode]
    rw [List.nil_append, List.length_nil] at stays
    rw [stays, encodes.eq_of_not_mem plain]
    exact congrArg _ reads

end Football
