import Pianod.Foundation.BufferedFile
import Pianod.Server.UserCommands

/-!
# Saving the user file

The user file is written under another name, linked to its backup and replaced.  Every file
operation may fail; the return value of the one that closes the stream is not looked at.
-/

namespace Pianod

open Foundation

/-- The backup of the user file: another name of the user file itself, or a file of its own. -/
inductive Backup where
  | absent
  | linked
  | kept (contents : Text)
deriving DecidableEq, Repr

/-- The files that are named after the user file. -/
structure Disk where
  file : Option Text
  newfile : Option Text
  oldfile : Backup
deriving DecidableEq, Repr

namespace Disk

/-- What is read under the name of the backup. -/
def backup (disk : Disk) : Option Text :=
  match disk.oldfile with
  | .absent => none
  | .linked => disk.file
  | .kept contents => some contents

/-- Remove the backup. -/
def unlinkOld (disk : Disk) (succeeds : Bool) : Disk :=
  if succeeds then { disk with oldfile := .absent } else disk

/-- Give the user file the name of the backup, unless something has it already. -/
def linkOld (disk : Disk) (succeeds : Bool) : Disk :=
  if succeeds && disk.file.isSome && disk.oldfile = .absent then { disk with oldfile := .linked }
  else disk

/-- Move the new file to the user file; a backup linked to that keeps what it was. -/
def renameNew (disk : Disk) : Disk where
  file := disk.newfile
  newfile := none
  oldfile :=
    match disk.oldfile, disk.file with
    | .linked, some contents => .kept contents
    | .linked, none => .absent
    | other, _ => other

end Disk

/-- A pattern of failures: what the calls of `users_persist` do. -/
structure Failures where
  /-- Whether there is memory for the names. -/
  allocates : Bool
  /-- Whether the new file opens. -/
  opensNew : Bool
  /-- Whether the user file opens. -/
  opensFile : Bool
  /-- How each transfer to the file goes. -/
  transfers : Nat → Transfer
  /-- How much a failing `fclose` transfers. -/
  closing : Option Nat
  /-- Whether the old backup can be removed. -/
  unlinks : Bool
  /-- Whether the backup can be linked. -/
  links : Bool
  /-- Whether the new file can be renamed. -/
  renames : Bool

namespace Failures

/-- The stream once everything is printed. -/
def printed (failures : Failures) (text : Text) : BufferedFile UInt8 :=
  BufferedFile.putAll failures.transfers text

/-- What a file holds after it is opened, each byte printed, and the stream closed. -/
def stages (failures : Failures) (text : Text) : List Text :=
  text.inits.map (fun front => (failures.printed front).written) ++
    [(failures.printed text).close failures.closing]

end Failures

/-- What `users_persist` leaves: the data, what it returns, and the files after each of its file
operations. -/
structure Saved where
  database : UserDatabase
  success : Bool
  disk : Disk
  points : List Disk

/-- Persist user data to a file. -/
def usersPersist (database : UserDatabase) (failures : Failures) (disk : Disk) :
    Except Fault Saved :=
  if ¬database.dirty then .ok ⟨database, true, disk, []⟩
  else if ¬failures.allocates then .ok ⟨database, false, disk, []⟩
  else if failures.opensNew then
    match writeUsers database.userList with
    | .error fault => .error fault
    | .ok text =>
        let points := (failures.stages text).map fun contents =>
          { disk with newfile := some contents }
        let closed : Disk :=
          { disk with newfile := some ((failures.printed text).close failures.closing) }
        if (failures.printed text).failed then .ok ⟨database, false, closed, points⟩
        else
          let unlinked := closed.unlinkOld failures.unlinks
          let linked := unlinked.linkOld failures.links
          if failures.renames then
            .ok ⟨{ database with dirty := false }, true, linked.renameNew,
              points ++ [unlinked, linked, linked.renameNew]⟩
          else .ok ⟨database, false, linked, points ++ [unlinked, linked]⟩
  else if failures.opensFile then
    -- Write without making a backup.
    match writeUsers database.userList with
    | .error fault => .error fault
    | .ok text =>
        .ok ⟨database, !(failures.printed text).failed,
          { disk with file := some ((failures.printed text).close failures.closing) },
          (failures.stages text).map fun contents => { disk with file := some contents }⟩
  else .ok ⟨database, false, disk, []⟩

/-- A file holds all of the old text or all of the new one. -/
def Complete (old new : Text) (contents : Option Text) : Prop :=
  contents = some old ∨ contents = some new

/-- The user file is replaced as a whole or not at all. -/
structure AllOrNothing (old new : Text) (database : UserDatabase) (saved : Saved) : Prop where
  whole : Complete old new saved.disk.file
  honest : database.dirty = true → saved.success = true ∨ saved.database.dirty = false →
    saved.disk.file = some new
  backed : ∀ point ∈ saved.points, Complete old new point.file ∨ Complete old new point.backup

/-- The new file is cut short when the stream is closed, and then replaces the user file. -/
def CutShort (database : UserDatabase) (failures : Failures) (text : Text) : Prop :=
  database.dirty = true ∧ failures.allocates = true ∧ failures.renames = true ∧
    (failures.printed text).failed = false ∧
    ∃ count ∈ failures.closing, count < (failures.printed text).buffered.length

/-! ## Until the file is replaced -/

section

variable {database : UserDatabase} {failures : Failures} {text : Text}

theorem Disk.unlinkOld_file (disk : Disk) (succeeds : Bool) :
    (disk.unlinkOld succeeds).file = disk.file := by
  rw [Disk.unlinkOld]
  split <;> rfl

theorem Disk.linkOld_file (disk : Disk) (succeeds : Bool) :
    (disk.linkOld succeeds).file = disk.file := by
  rw [Disk.linkOld]
  split <;> rfl

private theorem Disk.unlinkOld_newfile (disk : Disk) (succeeds : Bool) :
    (disk.unlinkOld succeeds).newfile = disk.newfile := by
  rw [Disk.unlinkOld]
  split <;> rfl

private theorem Disk.linkOld_newfile (disk : Disk) (succeeds : Bool) :
    (disk.linkOld succeeds).newfile = disk.newfile := by
  rw [Disk.linkOld]
  split <;> rfl

/-- The new file is written and takes the place of the user file. -/
def Replaces (failures : Failures) (text : Text) : Prop :=
  failures.allocates = true ∧ failures.renames = true ∧ (failures.printed text).failed = false

/-- Unless the new file replaces it, the user file stays as it is and the data stays marked. -/
theorem usersPersist_kept (disk : Disk) (marked : database.dirty = true)
    (printed : writeUsers database.userList = .ok text) (opens : failures.opensNew = true)
    (kept : ¬Replaces failures text) :
    ∃ saved, usersPersist database failures disk = .ok saved ∧ saved.disk.file = disk.file ∧
      saved.success = false ∧ saved.database = database ∧
      ∀ point ∈ saved.points, point.file = disk.file := by
  rw [usersPersist, if_neg (not_not.mpr marked)]
  by_cases allocates : failures.allocates = true
  · rw [if_neg (not_not.mpr allocates), if_pos opens, printed]
    dsimp only
    have writing (point : Disk) (member : point ∈ (failures.stages text).map fun contents =>
        { disk with newfile := some contents }) : point.file = disk.file := by
      obtain ⟨contents, -, rfl⟩ := List.mem_map.mp member
      rfl
    split
    · exact ⟨_, rfl, rfl, rfl, rfl, writing⟩
    · rename_i sound
      rw [if_neg fun renames => kept ⟨allocates, renames, Bool.eq_false_iff.mpr sound⟩]
      refine ⟨_, rfl, ?_, rfl, rfl, fun point member => ?_⟩
      · rw [Disk.linkOld_file, Disk.unlinkOld_file]
      · rcases List.mem_append.mp member with before | after
        · exact writing point before
        · rcases List.mem_cons.mp after with rfl | last
          · rw [Disk.unlinkOld_file]
          · rw [List.mem_singleton.mp last, Disk.linkOld_file, Disk.unlinkOld_file]
  · rw [if_pos allocates]
    exact ⟨_, rfl, rfl, rfl, rfl, fun point member => nomatch member⟩

/-- A new file that replaces the user file is as it was left when it was closed. -/
theorem usersPersist_replaced (disk : Disk) (marked : database.dirty = true)
    (printed : writeUsers database.userList = .ok text) (opens : failures.opensNew = true)
    (replaces : Replaces failures text) :
    ∃ saved, usersPersist database failures disk = .ok saved ∧
      saved.disk.file = some ((failures.printed text).close failures.closing) ∧
      saved.success = true ∧ saved.database.dirty = false ∧
      ∀ point ∈ saved.points, point.file = disk.file ∨ point.file = saved.disk.file := by
  obtain ⟨allocates, renames, sound⟩ := replaces
  have unfailed : ¬(failures.printed text).failed = true := Bool.eq_false_iff.mp sound
  rw [usersPersist, if_neg (not_not.mpr marked), if_neg (not_not.mpr allocates), if_pos opens,
    printed]
  dsimp only
  rw [if_neg unfailed, if_pos renames]
  refine ⟨_, rfl, ?_, rfl, rfl, fun point member => ?_⟩
  · rw [Disk.renameNew, Disk.linkOld_newfile, Disk.unlinkOld_newfile]
  · rcases List.mem_append.mp member with before | after
    · obtain ⟨contents, -, rfl⟩ := List.mem_map.mp before
      exact .inl rfl
    · rcases List.mem_cons.mp after with rfl | after
      · exact .inl (Disk.unlinkOld_file _ _)
      · rcases List.mem_cons.mp after with rfl | last
        · exact .inl ((Disk.linkOld_file _ _).trans (Disk.unlinkOld_file _ _))
        · exact .inr (congrArg Disk.file (List.mem_singleton.mp last))

private theorem close_eq_iff_not_cutShort (marked : database.dirty = true)
    (replaces : Replaces failures text) :
    (failures.printed text).close failures.closing = text ↔ ¬CutShort database failures text := by
  obtain ⟨allocates, renames, sound⟩ := replaces
  refine (BufferedFile.close_eq_iff sound).trans ⟨?_, fun kept count member => ?_⟩
  · rintro enough ⟨-, -, -, -, count, member, short⟩
    exact absurd (enough count member) (Nat.not_le.mpr short)
  · by_contra short
    exact kept ⟨marked, allocates, renames, sound, count, member, Nat.not_le.mp short⟩

end

/-! ## When saving is all or nothing -/

/-- If the new file can be opened, saving replaces the user file as a whole or not at all, unless
the new file is cut short as it is closed and the user file is then replaced. -/
theorem usersPersist_allOrNothing_iff (database : UserDatabase) (failures : Failures)
    (old text : Text) (newfile : Option Text) (oldfile : Backup)
    (printed : writeUsers database.userList = .ok text) (opens : failures.opensNew = true) :
    ∃ saved, usersPersist database failures ⟨some old, newfile, oldfile⟩ = .ok saved ∧
      (AllOrNothing old text database saved ↔ ¬CutShort database failures text) := by
  by_cases marked : database.dirty = true
  · by_cases replaces : Replaces failures text
    · obtain ⟨saved, persisted, file, success, -, points⟩ :=
        usersPersist_replaced ⟨some old, newfile, oldfile⟩ marked printed opens replaces
      refine ⟨saved, persisted, ?_⟩
      rw [← close_eq_iff_not_cutShort marked replaces]
      constructor
      · intro safe
        exact Option.some.inj (file.symm.trans (safe.honest marked (.inl success)))
      · intro same
        rw [same] at file
        refine ⟨.inr file, fun _ _ => file, fun point member => .inl ?_⟩
        rcases points point member with before | after
        · exact .inl before
        · exact .inr (after.trans file)
    · obtain ⟨saved, persisted, file, success, unchanged, points⟩ :=
        usersPersist_kept ⟨some old, newfile, oldfile⟩ marked printed opens replaces
      refine ⟨saved, persisted, iff_of_true ⟨.inl file, fun _ cleared => ?_, fun point member =>
        .inl (.inl (points point member))⟩ ?_⟩
      · rcases cleared with returned | cleaned
        · rw [success] at returned
          cases returned
        · rw [unchanged, marked] at cleaned
          cases cleaned
      · rintro ⟨-, allocates, renames, sound, -⟩
        exact replaces ⟨allocates, renames, sound⟩
  · refine ⟨⟨database, true, ⟨some old, newfile, oldfile⟩, []⟩,
      by rw [usersPersist, if_pos marked], iff_of_true ⟨.inl rfl, fun dirty => ?_, ?_⟩ ?_⟩
    · exact absurd dirty marked
    · exact fun point member => nomatch member
    · exact fun cut => marked cut.1

/-- The database after ann was marked present. -/
def changedDatabase : UserDatabase := { UserDatabase.sampleDatabase true with dirty := true }

/-- Nothing is written before the stream is closed, and then nothing fits on the disk. -/
def fullDisk : Failures where
  allocates := true
  opensNew := true
  opensFile := true
  transfers := fun _ => .keep
  closing := some 0
  unlinks := true
  links := false
  renames := true

/-- Saving to a disk with room is all or nothing. -/
theorem usersPersist_room : ∃ old text saved,
    usersPersist changedDatabase { fullDisk with closing := none } ⟨some old, none, .absent⟩ =
      .ok saved ∧ AllOrNothing old text changedDatabase saved := by
  obtain ⟨saved, persisted, safe⟩ := usersPersist_allOrNothing_iff changedDatabase
    { fullDisk with closing := none } (ascii "<pianodpasswd/>") _ none .absent rfl rfl
  refine ⟨_, _, saved, persisted, safe.mpr ?_⟩
  rintro ⟨-, -, -, -, count, member, -⟩
  cases member

/-- An error of the last transfer leaves an empty user file and no backup, and is taken for
success. -/
theorem usersPersist_fullDisk : ∃ old text saved,
    writeUsers (UserDatabase.sampleDatabase false).userList = .ok old ∧
      writeUsers changedDatabase.userList = .ok text ∧
      usersPersist changedDatabase fullDisk ⟨some old, none, .absent⟩ = .ok saved ∧
      saved.success = true ∧ saved.database.dirty = false ∧ saved.disk.file = some [] ∧
      ¬AllOrNothing old text changedDatabase saved := by
  obtain ⟨old, before⟩ : ∃ old,
    writeUsers (UserDatabase.sampleDatabase false).userList = .ok old := ⟨_, rfl⟩
  obtain ⟨byte, text, after⟩ : ∃ byte text,
    writeUsers changedDatabase.userList = .ok (byte :: text) := ⟨_, _, rfl⟩
  have buffered : fullDisk.printed (byte :: text) = ⟨[], byte :: text, false⟩ :=
    BufferedFile.putAll_keep _
  have replaces : Replaces fullDisk (byte :: text) := ⟨rfl, rfl, by rw [buffered]⟩
  obtain ⟨saved, persisted, file, success, clean, -⟩ :=
    usersPersist_replaced ⟨some old, none, .absent⟩ rfl after rfl replaces
  have empty : saved.disk.file = some [] := by
    rw [file, buffered]
    rfl
  refine ⟨old, byte :: text, saved, before, after, persisted, success, clean, empty,
    fun safe => ?_⟩
  have whole := (safe.honest rfl (.inl success)).symm.trans empty
  cases whole

end Pianod
