import Mathlib.Data.List.GetD
import Pianod.Football.Sha1
import Pianod.Foundation.Base64

/-!
# The answer to a WebSocket request

The client's key and a fixed identifier are hashed, and the digest is sent back in Base64.  The
client can tell from it that the server speaks the protocol.
-/

namespace Football

open Foundation

def websocketGuid : Text := ascii "258EAFA5-E914-47DA-95CA-C5AB0DC85B11"

/-- Encode three bytes, of which `len` are of the text, as four letters. -/
def encodeblock (first second third : UInt8) (len : Nat) : Text :=
  [base64Letter (first >>> 2).toNat,
    base64Letter (((first &&& 0x03) <<< 4) ||| ((second &&& 0xf0) >>> 4)).toNat,
    if len > 1 then base64Letter (((second &&& 0x0f) <<< 2) ||| ((third &&& 0xc0) >>> 6)).toNat
    else base64Pad,
    if len > 2 then base64Letter (third &&& 0x3f).toNat else base64Pad]

/-- The letters of the block at a place of the hash code. -/
def codeBlock (acceptCode : Text) (i : Nat) : Text :=
  encodeblock (acceptCode.getD i 0) (acceptCode.getD (i + 1) 0) (acceptCode.getD (i + 2) 0)
    (if 20 - i ≥ 3 then 3 else 20 - i)

/-- The letters of a hash code, from the blocks at 0, 3, 6 and so on up to 18. -/
def codeAsText (acceptCode : Text) : Text :=
  (List.range 7).flatMap fun block => codeBlock acceptCode (3 * block)

/-- The header field for the protocol, if the request names one. -/
def protocolField : Option Text → Text
  | none => []
  | some websocketProtocol =>
      ascii "Sec-WebSocket-Protocol: " ++ websocketProtocol ++ ascii "\r\n"

/-- The greeting for the key and the protocol of a request, where the memory can be had; `context`
is what the hash context holds before. -/
def fbGreetWebsocket (context : SHA1Context) (websocketKey : Text)
    (websocketProtocol : Option Text) : Option Text := do
  let buffer := websocketKey ++ websocketGuid
  let (hashed, inputCode) := context.reset.input buffer
  let (_, resultCode, digest) := hashed.result
  if inputCode = ShaReturn.success.code ∧ resultCode = ShaReturn.success.code then
    let acceptCode := (digest.getD []) ++ [0, 0, 0]
    some (ascii "HTTP/1.1 101 Switching Protocols\r\n" ++
      ascii "Upgrade: websocket\r\nConnection: Upgrade\r\n" ++
      ascii "Sec-WebSocket-Accept: " ++ codeAsText acceptCode ++ ascii "\r\n" ++
      protocolField websocketProtocol ++ ascii "\r\n")
  else none

/-! ## What the client reads -/

private theorem length_digest (message : Text) : (SecureHash.digest message).length = 20 := rfl

section Blocks

variable (first second third : UInt8)

theorem high_six : (first >>> 2).toNat = first.toNat / 4 := by
  rw [UInt8.toNat_shiftRight]
  exact Nat.shiftRight_eq_div_pow ..

theorem second_six : (((first &&& 0x03) <<< 4) ||| ((second &&& 0xf0) >>> 4)).toNat =
    first.toNat % 4 * 16 + second.toNat / 16 := by
  have masked : (second &&& 0xf0) >>> 4 = (second >>> 4) &&& 0xf := by
    apply UInt8.toNat_inj.mp
    rw [UInt8.toNat_shiftRight, UInt8.toNat_and, UInt8.toNat_and, UInt8.toNat_shiftRight]
    exact Nat.shiftRight_and_distrib
  rw [masked, toNat_second]

theorem third_six : (((second &&& 0x0f) <<< 2) ||| ((third &&& 0xc0) >>> 6)).toNat =
    second.toNat % 16 * 4 + third.toNat / 64 := by
  have masked : (third &&& 0xc0) >>> 6 = (third >>> 6) &&& 0x3 := by
    apply UInt8.toNat_inj.mp
    rw [UInt8.toNat_shiftRight, UInt8.toNat_and, UInt8.toNat_and, UInt8.toNat_shiftRight]
    exact Nat.shiftRight_and_distrib
  rw [masked, toNat_third]

private theorem decode_encodeblock (rest : Text) :
    base64Decode (encodeblock first second third 3 ++ rest) =
      (base64Decode rest).map ([first, second, third] ++ ·) := by
  rw [← base64Decode_bytes, encodeblock, high_six, second_six, third_six, toNat_fourth]
  rfl

private theorem decode_encodeblock_two :
    base64Decode (encodeblock first second 0 2) = some [first, second] := by
  rw [← base64Decode_bytes_two, encodeblock, high_six, second_six, third_six]
  rfl

end Blocks

private theorem take_three {code : Text} {i : Nat} (inside : i + 3 ≤ code.length) (more : Nat) :
    (code.drop i).take (more + 3) = [code.getD i 0, code.getD (i + 1) 0, code.getD (i + 2) 0] ++
      (code.drop (i + 3)).take more := by
  rw [List.drop_eq_getElem_cons (show i < code.length by omega),
    List.drop_eq_getElem_cons (show i + 1 < code.length by omega),
    List.drop_eq_getElem_cons (show i + 2 < code.length by omega),
    List.getD_eq_getElem _ _ (by omega), List.getD_eq_getElem _ _ (by omega),
    List.getD_eq_getElem _ _ (by omega)]
  rfl

/-- The first blocks of a hash code are decoded to its bytes. -/
theorem decode_codeBlocks {code : Text} (count start : Nat) (inside : 3 * (start + count) ≤ 20)
    (size : code.length = 23) (rest : Text) :
    base64Decode ((List.range' start count).flatMap (fun block => codeBlock code (3 * block)) ++
        rest) =
      (base64Decode rest).map ((code.drop (3 * start)).take (3 * count) ++ ·) := by
  induction count generalizing start with
  | zero =>
      rw [List.range'_zero, List.flatMap_nil, Nat.mul_zero, List.take_zero]
      exact (Option.map_id' ..).symm
  | succ count induction =>
      have next := induction (start + 1) (by omega)
      have three : (if 20 - 3 * start ≥ 3 then 3 else 20 - 3 * start) = 3 := if_pos (by omega)
      have front : (code.drop (3 * start)).take (3 * (count + 1)) =
          [code.getD (3 * start) 0, code.getD (3 * start + 1) 0, code.getD (3 * start + 2) 0] ++
            (code.drop (3 * (start + 1))).take (3 * count) :=
        take_three (by omega) (3 * count)
      rw [List.range'_succ, List.flatMap_cons, List.append_assoc, codeBlock, three,
        decode_encodeblock, next, Option.map_map, front]
      rfl

/-- The letters of a hash code are decoded to it. -/
theorem decode_codeAsText {digest : Text} (size : digest.length = 20) :
    base64Decode (codeAsText (digest ++ [0, 0, 0])) = some digest := by
  have long : (digest ++ [0, 0, 0]).length = 23 := by
    rw [List.length_append, size]
    rfl
  have parts : codeAsText (digest ++ [0, 0, 0]) =
      (List.range' 0 6).flatMap (fun block => codeBlock (digest ++ [0, 0, 0]) (3 * block)) ++
        codeBlock (digest ++ [0, 0, 0]) 18 := by
    rw [codeAsText, List.range_eq_range']
    change ((List.range' 0 (6 + 1)).flatMap _) = _
    rw [List.range'_concat, List.flatMap_append]
    rfl
  have last : codeBlock (digest ++ [0, 0, 0]) 18 =
      encodeblock (digest.getD 18 0) (digest.getD 19 0) 0 2 := by
    have third : (digest ++ [0, 0, 0]).getD 20 0 = 0 := by
      rw [List.getD_append_right _ _ _ _ (Nat.le_of_eq size), size]
      rfl
    rw [codeBlock, List.getD_append _ _ _ _ (by omega), List.getD_append _ _ _ _ (by omega), third]
    rfl
  have tail : digest.drop 18 = [digest.getD 18 0, digest.getD 19 0] := by
    rw [List.drop_eq_getElem_cons (show 18 < digest.length by omega),
      List.drop_eq_getElem_cons (show 18 + 1 < digest.length by omega),
      List.drop_eq_nil_of_le (by omega), List.getD_eq_getElem _ _ (by omega),
      List.getD_eq_getElem _ _ (by omega)]
  rw [parts, decode_codeBlocks 6 0 (by decide) long, last, decode_encodeblock_two]
  change some (((digest ++ [0, 0, 0]).drop 0).take 18 ++ _) = _
  rw [List.drop_zero, List.take_append_of_le_length (by omega), ← tail, List.take_append_drop]

/-- The client gets the hash of its key and the identifier. -/
theorem fbGreetWebsocket_accepts {context : SHA1Context}
    (size : context.messageBlock.length = 64) {websocketKey : Text}
    (countable : websocketKey.length + 36 < 2 ^ 32) (websocketProtocol : Option Text) :
    ∃ code, base64Decode code = some (SecureHash.digest (websocketKey ++ websocketGuid)) ∧
      fbGreetWebsocket context websocketKey websocketProtocol = some (
        ascii "HTTP/1.1 101 Switching Protocols\r\nUpgrade: websocket\r\nConnection: Upgrade\r\n" ++
        ascii "Sec-WebSocket-Accept: " ++ code ++ ascii "\r\n" ++
        protocolField websocketProtocol ++ ascii "\r\n") := by
  have guid : websocketGuid.length = 36 := rfl
  have length : (websocketKey ++ websocketGuid).length < 2 ^ 32 := by
    rw [List.length_append, guid]
    exact countable
  have hashed := (SHA1Context.reset_holds size).input length (by decide)
  rw [List.nil_append] at hashed
  have holds := hashed.1 (by omega)
  have inputCode := (SHA1Context.reset_holds size).input_code (websocketKey ++ websocketGuid)
  have result := holds.result
  refine ⟨_, decode_codeAsText (length_digest _), ?_⟩
  rw [fbGreetWebsocket]
  simp only [result, inputCode]
  rfl

/-- The key of the standard's example. -/
theorem fbGreetWebsocket_accepts_sample :
    ∃ code, base64Decode code =
        some (SecureHash.digest (ascii "dGhlIHNhbXBsZSBub25jZQ==" ++ websocketGuid)) ∧
      fbGreetWebsocket ⟨SecureHash.initial, 0, 0, 0, List.replicate 64 0, false, 0⟩
          (ascii "dGhlIHNhbXBsZSBub25jZQ==") none = some (
        ascii "HTTP/1.1 101 Switching Protocols\r\nUpgrade: websocket\r\nConnection: Upgrade\r\n" ++
        ascii "Sec-WebSocket-Accept: " ++ code ++ ascii "\r\n" ++
        protocolField none ++ ascii "\r\n") :=
  fbGreetWebsocket_accepts rfl (by decide) none

end Football
