import Pianod.Foundation.Base64
import Pianod.Foundation.FallibleRun
import Pianod.Waitress.Headers
import Pianod.Waitress.Urls

/-!
# Authorization

The user and the password of a URL are sent in a header field, in Base64.  A server reads back as
much of them as the array for them holds; the other arrays are large enough except for the shortest
credentials and for those that are too long for a tunnel.
-/

namespace Waitress

open Foundation

/-- The letter for six bits. -/
def letterOf (idx : UInt8) : UInt8 := base64Letter idx.toNat

/-- The letters for a text, three bytes at a time. -/
def base64Groups : Text → Text
  | [] => []
  | [first] =>
      [letterOf ((first >>> 2) &&& 0x3f), letterOf ((first &&& 0x3) <<< 4), base64Pad, base64Pad]
  | [first, second] =>
      [letterOf ((first >>> 2) &&& 0x3f),
        letterOf (((first &&& 0x3) <<< 4) ||| ((second >>> 4) &&& 0xf)),
        letterOf ((second &&& 0xf) <<< 2), base64Pad]
  | first :: second :: third :: rest =>
      letterOf ((first >>> 2) &&& 0x3f) ::
        letterOf (((first &&& 0x3) <<< 4) ||| ((second >>> 4) &&& 0xf)) ::
        letterOf (((second &&& 0xf) <<< 2) ||| ((third >>> 6) &&& 0x3)) ::
        letterOf (third &&& 0x3f) :: base64Groups rest

/-- Write the letters and a NUL into a block for two bytes of each byte and one more. -/
def base64Encode (input : Text) : Except Fault Text :=
  if (base64Groups input).length + 1 ≤ input.length * 2 + 1 then .ok (base64Groups input)
  else .error .outOfBounds

/-- The credentials of a URL with a user. -/
def Url.credentials (url : Url) : Option Text :=
  url.user.map fun user => user ++ ascii ":" ++ url.password.getD []

/-- What the array `userPass` of 1024 bytes holds of the credentials. -/
def Url.userPass (url : Url) : Option Text := url.credentials.map (List.take 1023)

/-- What is written to the array `writeBuf`, if there is a user.  The array has `block` bytes, and
the caller says it has `writeBufSize`. -/
def formatAuthorization (url : Url) (namePrefix : Text) (writeBufSize block : Nat) :
    Except Fault (Option Text) :=
  match url.userPass with
  | none => .ok none
  | some userPass => do
      let encodedUserPass ← base64Encode userPass
      let line := (namePrefix ++ ascii "Authorization: Basic " ++ encodedUserPass ++
        ascii "\r\n").take (writeBufSize - 1)
      if line.length + 1 ≤ block then .ok (some line) else .error .outOfBounds

/-! ## The letters -/

private theorem base64Decode_groups (input : Text) :
    base64Decode (base64Groups input) = some input := by
  induction input using base64Groups.induct with
  | case1 => rfl
  | case2 first =>
      rw [base64Groups, letterOf, letterOf, toNat_first, toNat_low_two, base64Decode_bytes_one]
  | case3 first second =>
      rw [base64Groups, letterOf, letterOf, letterOf, toNat_first, toNat_second, toNat_low_four,
        base64Decode_bytes_two]
  | case4 first second third rest ih =>
      rw [base64Groups, letterOf, letterOf, letterOf, letterOf, toNat_first, toNat_second,
        toNat_third, toNat_fourth, base64Decode_bytes, ih]
      rfl

/-! ## The arrays -/

theorem length_base64Groups (input : Text) :
    (base64Groups input).length = (input.length + 2) / 3 * 4 := by
  induction input using base64Groups.induct with
  | case1 => rfl
  | case2 first => simp [base64Groups]
  | case3 first second => simp [base64Groups]
  | case4 first second third rest ih =>
      rw [base64Groups, List.length_cons, List.length_cons, List.length_cons, List.length_cons, ih,
        List.length_cons, List.length_cons, List.length_cons]
      omega

/-- The block is large enough for every text except one of a single byte. -/
theorem base64Encode_eq_ok (input : Text) :
    base64Encode input = .ok (base64Groups input) ↔ input.length ≠ 1 := by
  unfold base64Encode
  rw [length_base64Groups]
  constructor
  · intro done single
    rw [single] at done
    cases done
  · intro more
    exact if_pos (by omega)

/-- What a server gets: a header field of the name, and the credentials in Base64. -/
def SaysCredentials (namePrefix userPass line : Text) : Prop :=
  ∃ code, line = namePrefix ++ ascii "Authorization: Basic " ++ code ++ ascii "\r\n" ∧
    base64Decode code = some userPass

/-- The bytes of the header field and its terminator. -/
def authorizationSize (namePrefix userPass : Text) : Nat :=
  namePrefix.length + (userPass.length + 2) / 3 * 4 + 24

theorem length_userPass_le {url : Url} {userPass : Text} (given : url.userPass = some userPass) :
    userPass.length ≤ 1023 := by
  obtain ⟨credentials, _, taken⟩ := Option.map_eq_some_iff.mp given
  rw [← taken, List.length_take]
  exact Nat.min_le_left _ _

private theorem authorizationSize_lt {namePrefix userPass : Text} (short : namePrefix.length ≤ 6)
    (limit : userPass.length ≤ 1023) : authorizationSize namePrefix userPass < bufferSize := by
  have size : bufferSize = 10240 := rfl
  rw [authorizationSize, size]
  omega

/-- A field that is written carries the credentials, up to the 1023 bytes that the first array
holds. The program is undefined exactly where they are a colon only, for which the block of the
letters is too small, and where the field does not fit in the caller's array. -/
theorem formatAuthorization_exact {url : Url} {credentials namePrefix : Text} {block : Nat}
    (given : url.credentials = some credentials) (short : namePrefix.length ≤ 6) :
    (∀ answer, formatAuthorization url namePrefix bufferSize block = .ok answer →
      ∃ line, answer = some line ∧ SaysCredentials namePrefix (credentials.take 1023) line) ∧
    (formatAuthorization url namePrefix bufferSize block = .error .outOfBounds ↔
      credentials.length = 1 ∨
        block < authorizationSize namePrefix (credentials.take 1023)) := by
  have held : url.userPass = some (credentials.take 1023) := by
    rw [Url.userPass, given, Option.map_some]
  have limit := length_userPass_le held
  have single : credentials.length = 1 ↔ (credentials.take 1023).length = 1 := by
    rw [List.length_take]
    omega
  rw [single]
  generalize credentials.take 1023 = userPass at held limit
  have roomy := authorizationSize_lt short limit
  have whole : (namePrefix ++ ascii "Authorization: Basic " ++ base64Groups userPass ++
      ascii "\r\n").length + 1 = authorizationSize namePrefix userPass := by
    rw [List.length_append, List.length_append, List.length_append, length_base64Groups,
      authorizationSize]
    change namePrefix.length + 21 + (userPass.length + 2) / 3 * 4 + 2 + 1 = _
    omega
  have sent : formatAuthorization url namePrefix bufferSize block =
      (base64Encode userPass >>= fun code =>
        if ((namePrefix ++ ascii "Authorization: Basic " ++ code ++ ascii "\r\n").take
            (bufferSize - 1)).length + 1 ≤ block then
          .ok (some ((namePrefix ++ ascii "Authorization: Basic " ++ code ++
            ascii "\r\n").take (bufferSize - 1)))
        else .error .outOfBounds) := by
    rw [formatAuthorization, held]
  by_cases colon : userPass.length = 1
  · have fails : base64Encode userPass = .error .outOfBounds := by
      rw [base64Encode, if_neg (by rw [length_base64Groups, colon]; decide)]
    rw [fails] at sent
    rw [sent]
    refine ⟨fun answer given => ?_, fun _ => Or.inl colon, fun _ => rfl⟩
    cases given
  · rw [(base64Encode_eq_ok userPass).mpr colon] at sent
    change _ = if _ then _ else _ at sent
    rw [List.take_of_length_le (by omega), whole] at sent
    rw [sent]
    by_cases fits : authorizationSize namePrefix userPass ≤ block
    · rw [if_pos fits]
      refine ⟨fun answer given => ?_, fun failed => ?_, fun outside => ?_⟩
      · cases given
        exact ⟨_, rfl, _, rfl, base64Decode_groups userPass⟩
      · cases failed
      · exact absurd outside (not_or.mpr ⟨colon, by omega⟩)
    · rw [if_neg fits]
      refine ⟨fun answer given => ?_, fun _ => Or.inr (by omega), fun _ => rfl⟩
      cases given

/-- The tunnel is asked for from an array of 256 bytes. -/
theorem formatAuthorization_exact_tunnel :
    ∃ url : Url, url.credentials = some (ascii "me:pw") ∧
      (∀ answer, formatAuthorization url (ascii "Proxy-") bufferSize 256 = .ok answer →
        ∃ line, answer = some line ∧
          SaysCredentials (ascii "Proxy-") ((ascii "me:pw").take 1023) line) ∧
      (formatAuthorization url (ascii "Proxy-") bufferSize 256 = .error .outOfBounds ↔
        (ascii "me:pw").length = 1 ∨
          256 < authorizationSize (ascii "Proxy-") ((ascii "me:pw").take 1023)) :=
  ⟨⟨some (ascii "me"), some (ascii "pw"), none, none, none⟩, rfl,
    formatAuthorization_exact rfl (by decide)⟩

end Waitress
