import Pianod.Foundation.BigEndian

/-!
# WebSocket frames on the wire

A frame sent by a server starts with a byte of flags and opcode and a byte with the mask flag and a
length code.  The codes 126 and 127 announce a length of two or of eight bytes, to be used only when
no shorter form is enough.  The reader below accepts a stream only when it consists of complete,
unmasked frames.  A frame sent by a client is masked: a key of four bytes follows the length, and
the payload is combined with the key bytes in turn.
-/

namespace Foundation

/-- A frame sent by a server. -/
structure ServerFrame where
  /-- Whether the message ends here. -/
  fin : Bool
  /-- The three reserved bits. -/
  reserved : Nat
  /-- The kind of the frame. -/
  opcode : Nat
  /-- The data. -/
  payload : Text
deriving DecidableEq, Repr

namespace ServerFrame

/-- A text message in a single frame. -/
def text (payload : Text) : ServerFrame := ⟨true, 0, 1, payload⟩

/-- Read the payload length announced by a length code. -/
def readLength (code : Nat) (bytes : Text) : Option (Nat × Text) :=
  if code ≤ 125 then some (code, bytes)
  else
    let width := if code = 126 then 2 else 8
    let least := if code = 126 then 126 else 65536
    let length := ofBigEndian (bytes.take width)
    if bytes.length < width ∨ length < least ∨ 2 ^ 63 ≤ length then none
    else some (length, bytes.drop width)

/-- Read one frame off the front of a stream. -/
def read : Text → Option (ServerFrame × Text)
  | flags :: code :: bytes =>
      -- A server never masks its frames.
      if 128 ≤ code.toNat then none
      else match readLength code.toNat bytes with
        | none => none
        | some (length, bytes) =>
            if bytes.length < length then none
            else some (⟨decide (128 ≤ flags.toNat), flags.toNat / 16 % 8, flags.toNat % 16,
              bytes.take length⟩, bytes.drop length)
  | _ => none

/-- Read frames until the stream is used up; each takes at least one byte. -/
def readAll : Nat → Text → Option (List ServerFrame)
  | _, [] => some []
  | 0, _ :: _ => none
  | fuel + 1, bytes =>
      match read bytes with
      | none => none
      | some (frame, bytes) => (readAll fuel bytes).map (frame :: ·)

/-- The frames a stream consists of. -/
def ofStream (bytes : Text) : Option (List ServerFrame) := readAll bytes.length bytes

/-- A length written in the shortest form is read back. -/
theorem readLength_long {width : Nat} {code least : Nat} {written : Text} {length : Nat}
    (form : code = 126 ∧ width = 2 ∧ least = 126 ∨ code = 127 ∧ width = 8 ∧ least = 65536)
    (size : written.length = width) (value : ofBigEndian written = length) (enough : least ≤ length)
    (small : length < 2 ^ 63) (bytes : Text) :
    readLength code (written ++ bytes) = some (length, bytes) := by
  have front : (written ++ bytes).take width = written := by
    rw [← size]
    exact List.take_left
  have back : (written ++ bytes).drop width = bytes := by
    rw [← size]
    exact List.drop_left
  have room : ¬(written ++ bytes).length < width := by
    simp [size]
  rcases form with ⟨rfl, rfl, rfl⟩ | ⟨rfl, rfl, rfl⟩
  · simp only [readLength, show ¬126 ≤ 125 by omega, if_false, if_true, front, value, back]
    rw [if_neg (by omega)]
  · simp only [readLength, show ¬127 ≤ 125 by omega, show ¬127 = 126 by omega, if_false, front,
      value, back]
    rw [if_neg (by omega)]

/-- Reading stops at nothing but the end when every chunk of the stream is a frame. -/
theorem readAll_flatMap {α : Type*} {write : α → Text} {frame : α → ServerFrame} {items : List α}
    (readable : ∀ item ∈ items, ∀ bytes, read (write item ++ bytes) = some (frame item, bytes))
    {fuel : Nat} (enough : (items.flatMap write).length ≤ fuel) :
    readAll fuel (items.flatMap write) = some (items.map frame) := by
  induction items generalizing fuel with
  | nil => simp [readAll]
  | cons item items ih =>
      have here := readable item List.mem_cons_self
      have written : write item ≠ [] := by
        intro nothing
        have lost := here []
        rw [nothing] at lost
        cases lost
      obtain ⟨byte, bytes, shape⟩ := List.exists_cons_of_ne_nil written
      have later := here (items.flatMap write)
      have positive : 1 ≤ (write item).length := by simp [shape]
      rw [List.flatMap_cons] at enough ⊢
      rw [List.length_append] at enough
      cases fuel with
      | zero => omega
      | succ fuel =>
          have rest := @ih (fun other member => readable other (List.mem_cons_of_mem _ member)) fuel
            (by omega)
          rw [shape, List.cons_append] at later ⊢
          rw [readAll, later]
          · simp [rest]
          · exact List.cons_ne_nil _ _

/-- A stream of written frames consists of just those frames. -/
theorem ofStream_flatMap {α : Type*} {write : α → Text} {frame : α → ServerFrame} {items : List α}
    (readable : ∀ item ∈ items, ∀ bytes, read (write item ++ bytes) = some (frame item, bytes)) :
    ofStream (items.flatMap write) = some (items.map frame) :=
  readAll_flatMap readable le_rfl

/-- A short length is not announced by a longer form. -/
theorem readLength_short {code length : Nat} {bytes rest : Text}
    (found : readLength code bytes = some (length, rest)) (short : length ≤ 125) :
    rest = bytes := by
  rw [readLength] at found
  split at found
  · exact (congrArg Prod.snd (Option.some.inj found)).symm
  · dsimp only at found
    split_ifs at found with _ refused refused
    · have announced := congrArg Prod.fst (Option.some.inj found)
      dsimp only at announced
      omega
    · have announced := congrArg Prod.fst (Option.some.inj found)
      dsimp only at announced
      omega

/-- A frame with a short payload has a header of two bytes. -/
theorem length_of_read {frame : ServerFrame} {bytes rest : Text}
    (found : read bytes = some (frame, rest)) (short : frame.payload.length ≤ 125) :
    bytes.length = 2 + frame.payload.length + rest.length := by
  rcases bytes with _ | ⟨flags, _ | ⟨code, bytes⟩⟩
  · cases found
  · cases found
  · rw [read] at found
    split at found
    · cases found
    · split at found
      · cases found
      · rename_i length body announced
        split at found
        · cases found
        · rename_i enough
          obtain ⟨rfl, rfl⟩ := Prod.mk.inj (Option.some.inj found)
          have taken : (body.take length).length = length := by
            rw [List.length_take]
            omega
          dsimp only at short ⊢
          rw [taken] at short ⊢
          obtain rfl := readLength_short announced short
          rw [List.length_cons, List.length_cons, List.length_drop]
          omega

/-- A stream of one frame with a short payload has nothing but the frame. -/
theorem length_of_ofStream {frame : ServerFrame} {bytes : Text}
    (found : ofStream bytes = some [frame]) (short : frame.payload.length ≤ 125) :
    bytes.length = 2 + frame.payload.length := by
  cases bytes with
  | nil => cases found
  | cons byte bytes =>
      rw [ofStream, List.length_cons, readAll] at found
      · cases first : read (byte :: bytes) with
        | none =>
            rw [first] at found
            cases found
        | some result =>
            obtain ⟨head, rest⟩ := result
            rw [first] at found
            obtain ⟨frames, others, same⟩ := Option.map_eq_some_iff.mp found
            obtain ⟨rfl, rfl⟩ := List.cons.inj same
            have nothing : rest = [] := by
              cases rest with
              | nil => rfl
              | cons next rest =>
                  cases count : bytes.length with
                  | zero =>
                      rw [count] at others
                      cases others
                  | succ fuel =>
                      rw [count, readAll] at others
                      · split at others
                        · cases others
                        · obtain ⟨_, _, impossible⟩ := Option.map_eq_some_iff.mp others
                          cases impossible
                      · exact List.cons_ne_nil _ _
            have length := length_of_read first short
            rw [nothing] at length
            exact length
      · exact List.cons_ne_nil _ _

end ServerFrame

/-- Combine a payload with a key of four bytes. -/
def applyMask (payload key : Text) : Text :=
  payload.mapIdx fun index byte => byte ^^^ key.getD (index % 4) 0

@[simp]
theorem length_applyMask (payload key : Text) : (applyMask payload key).length = payload.length :=
  List.length_mapIdx

/-- Masking twice restores the payload. -/
theorem applyMask_applyMask (payload key : Text) :
    applyMask (applyMask payload key) key = payload := by
  apply List.ext_getElem
  · simp
  · intro index _ _
    simp only [applyMask, List.getElem_mapIdx, UInt8.xor_assoc, UInt8.xor_self, UInt8.xor_zero]

/-- The forms in which a client may write the length of a payload. -/
inductive LengthForm where
  | seven
  | sixteen
  | sixtyFour
deriving DecidableEq, Repr

/-- The longest payload a form is used for. -/
def LengthForm.limit : LengthForm → Nat
  | .seven => 125
  | .sixteen => 2 ^ 16 - 1
  | .sixtyFour => 2 ^ 32 - 1

/-- A masked text message in a single frame. -/
structure ClientFrame where
  /-- How the length is written. -/
  form : LengthForm
  /-- The masking key. -/
  key : Text
  /-- The data, not masked. -/
  payload : Text
  key_length : key.length = 4
  fits : payload.length ≤ form.limit
  free : payload.NulFree
deriving DecidableEq

namespace ClientFrame

/-- The length code. -/
def code (frame : ClientFrame) : Nat :=
  match frame.form with
  | .seven => frame.payload.length
  | .sixteen => 126
  | .sixtyFour => 127

/-- The extended length. -/
def extended (frame : ClientFrame) : Text :=
  match frame.form with
  | .seven => []
  | .sixteen => bigEndian 2 frame.payload.length
  | .sixtyFour => bigEndian 8 frame.payload.length

/-- Everything before the payload. -/
def header (frame : ClientFrame) : Text :=
  [0x81, UInt8.ofNat (128 + frame.code)] ++ frame.extended ++ frame.key

/-- The frame as it is sent. -/
def bytes (frame : ClientFrame) : Text := frame.header ++ applyMask frame.payload frame.key

theorem code_lt (frame : ClientFrame) : frame.code < 128 := by
  have fits := frame.fits
  rw [code]
  cases form : frame.form with
  | seven =>
      simp only [form, LengthForm.limit] at fits ⊢
      omega
  | sixteen => exact (by decide : 126 < 128)
  | sixtyFour => exact (by decide : 127 < 128)

theorem length_payload_lt (frame : ClientFrame) : frame.payload.length < 2 ^ 32 := by
  have fits := frame.fits
  cases form : frame.form with
  | seven =>
      simp only [form, LengthForm.limit] at fits
      omega
  | sixteen =>
      simp only [form, LengthForm.limit] at fits
      omega
  | sixtyFour =>
      simp only [form, LengthForm.limit] at fits
      omega

@[simp]
theorem length_bytes (frame : ClientFrame) :
    frame.bytes.length = frame.header.length + frame.payload.length := by
  rw [bytes, List.length_append, length_applyMask]

theorem six_le_length_header (frame : ClientFrame) : 6 ≤ frame.header.length := by
  rw [header, List.length_append, List.length_append, frame.key_length, List.length_cons,
    List.length_cons]
  omega

end ClientFrame

/-- What a control frame asks for. -/
inductive ControlOpcode where
  | close
  | ping
  | pong
deriving DecidableEq, Repr

/-- The number of a control opcode. -/
def ControlOpcode.number : ControlOpcode → Nat
  | .close => 8
  | .ping => 9
  | .pong => 10

/-- A masked control frame. -/
structure ControlFrame where
  opcode : ControlOpcode
  /-- The masking key. -/
  key : Text
  /-- The data, not masked. -/
  payload : Text
  key_length : key.length = 4
  fits : payload.length ≤ 125
deriving DecidableEq

namespace ControlFrame

/-- Everything before the payload. -/
def header (frame : ControlFrame) : Text :=
  [UInt8.ofNat (128 + frame.opcode.number), UInt8.ofNat (128 + frame.payload.length)] ++ frame.key

/-- The frame as it is sent. -/
def bytes (frame : ControlFrame) : Text := frame.header ++ applyMask frame.payload frame.key

@[simp]
theorem length_header (frame : ControlFrame) : frame.header.length = 6 := by
  rw [header, List.length_append, frame.key_length]
  rfl

end ControlFrame

end Foundation
