import Mathlib.Data.List.Basic
import Pianod.Foundation.FallibleRun

/-!
# The socket registry

Sockets are registered under their descriptors, in an array that grows on demand.  Beside it stand
sets of descriptors: what to select for, and what the last `select` call found.  There is one set
more of the first kind than of the second, and unregistering clears the second kind past its end.
-/

namespace Football

open Foundation

/-- The number of descriptors that a set has room for. -/
def fdSetSize : Nat := 1024

/-- What a descriptor is watched for; buffering is a matter of TLS and not of `select`. -/
inductive Action where
  | reading
  | writing
  | faulting
  | buffering
deriving DecidableEq, Repr

/-- Where the set of an action stands among the sets. -/
def Action.index : Action → Nat
  | .reading => 0
  | .writing => 1
  | .faulting => 2
  | .buffering => 3

def actionCount : Nat := 4
def actionSelectCount : Nat := 3

theorem Action.index_lt (action : Action) : action.index < actionCount := by
  cases action <;> decide

inductive SocketType where
  | service
  | connection
  | user
deriving DecidableEq, Repr

/-- What is registered under a descriptor. -/
structure SocketData where
  socket : Nat
  /-- What the socket is used for. -/
  type : SocketType
  /-- The record that it belongs to. -/
  thingie : Nat
deriving DecidableEq, Repr

/-- An access past the end of an array of sets. -/
inductive Stray where
  | selectState (index : Nat)
  | lastState (index : Nat)
deriving DecidableEq, Repr

structure Registry where
  sockets : List (Option SocketData)
  /-- How many slots the array has. -/
  maxsockets : Nat
  /-- How many slots are in use. -/
  activesockets : Nat
  /-- What the next `select` call will watch. -/
  selectState : List (List Nat)
  /-- What came back from the last `select` call and is still to be attended to. -/
  lastState : List (List Nat)
  /-- Accesses past the ends of these arrays; the source keeps no such record. -/
  strays : List Stray
deriving DecidableEq, Repr

namespace Registry

/-- The registry before its first use. -/
def empty : Registry where
  sockets := []
  maxsockets := 0
  activesockets := 0
  selectState := List.replicate actionCount []
  lastState := List.replicate actionSelectCount []
  strays := []

/-- A set without a descriptor. -/
def clear (socketFd : Nat) (known : List Nat) : List Nat := known.filter (· ≠ socketFd)

/-- Read an element of the array of sockets. -/
def slot (registry : Registry) (socketFd : Nat) : Except Fault (Option SocketData) :=
  match registry.sockets[socketFd]? with
  | none => .error .outOfBounds
  | some data => .ok data

/-- Put a descriptor into a set to select for. -/
def fdSet (registry : Registry) (socketFd index : Nat) : Registry :=
  if index < registry.selectState.length then
    { registry with selectState := registry.selectState.modify index fun known =>
        socketFd :: clear socketFd known }
  else { registry with strays := registry.strays ++ [.selectState index] }

/-- Take a descriptor out of a set to select for. -/
def fdClr (registry : Registry) (socketFd index : Nat) : Registry :=
  if index < registry.selectState.length then
    { registry with selectState := registry.selectState.modify index (clear socketFd) }
  else { registry with strays := registry.strays ++ [.selectState index] }

/-- Take a descriptor out of a set of what was found. -/
def fdClrLast (registry : Registry) (socketFd index : Nat) : Registry :=
  if index < registry.lastState.length then
    { registry with lastState := registry.lastState.modify index (clear socketFd) }
  else { registry with strays := registry.strays ++ [.lastState index] }

/-- The size to which the array of sockets grows. -/
def grownSize (maxsockets socketFd : Nat) : Nat :=
  let newsize := maxsockets + maxsockets / 4 + 10
  min (if newsize ≤ socketFd then socketFd + 10 else newsize) fdSetSize

/-- Make room for a descriptor. -/
def grow (registry : Registry) (socketFd : Nat) : Registry :=
  let newsize := grownSize registry.maxsockets socketFd
  { registry with
    sockets := registry.sockets ++ List.replicate (newsize - registry.maxsockets) none
    maxsockets := newsize }

/-- Enter a socket into its slot. -/
def enter (registry : Registry) (socketFd : Nat) (type : SocketType) (thing : Nat)
    (allocated : Bool) : Except Fault (Bool × Registry) :=
  match registry.slot socketFd with
  | .error fault => .error fault
  | .ok (some _) => .error (.assertion "sockets [socket_fd] == NULL")
  | .ok none =>
      if allocated then
        let entered := { registry with
          sockets := registry.sockets.set socketFd (some ⟨socketFd, type, thing⟩)
          activesockets := max registry.activesockets (socketFd + 1) }
        .ok (true, entered.fdSet socketFd Action.reading.index)
      else .ok (false, registry)

/-- Add a socket to the registry; either allocation may fail. -/
def register (registry : Registry) (socketFd : Nat) (type : SocketType) (thing : Nat)
    (reallocated allocated : Bool) : Except Fault (Bool × Registry) :=
  let initialized := if registry.maxsockets = 0 then
      { registry with selectState := registry.selectState.map fun _ => [] }
    else registry
  if fdSetSize ≤ socketFd then .ok (false, initialized)
  else if initialized.maxsockets ≤ socketFd then
    if reallocated then (initialized.grow socketFd).enter socketFd type thing allocated
    else .ok (false, initialized)
  else initialized.enter socketFd type thing allocated

/-- Stop polling unused descriptors at the end. -/
def shrink (sockets : List (Option SocketData)) : Nat → Nat
  | 0 => 0
  | active + 1 =>
      if (sockets[active]?).join = none then shrink sockets active else active + 1

/-- Clear a descriptor from the sets; the loop counts all actions for both kinds of sets. -/
def cancel (registry : Registry) (socketFd : Nat) : Registry :=
  (List.range actionCount).foldl (fun registry index =>
    (registry.fdClr socketFd index).fdClrLast socketFd index) registry

/-- Remove a socket from the registry. -/
def unregister (registry : Registry) (socketFd : Nat) : Except Fault Registry :=
  if ¬(0 < socketFd ∧ socketFd < registry.maxsockets) then
    .error (.assertion "socket_fd > 0 && socket_fd < maxsockets")
  else match registry.slot socketFd with
    | .error fault => .error fault
    | .ok none => .error (.assertion "sockets [socket_fd]")
    | .ok (some _) =>
        let cancelled := registry.cancel socketFd
        let sockets := cancelled.sockets.set socketFd none
        .ok { cancelled with
          sockets := sockets
          activesockets := shrink sockets cancelled.activesockets }

/-- Enable or disable what a descriptor is watched for. -/
def setSocketSelectFlags (registry : Registry) (socketFd : Nat) (group : Action) (enable : Bool) :
    Except Fault Registry :=
  if ¬(0 < socketFd ∧ socketFd < registry.activesockets) then
    .error (.assertion "socket_fd > 0 && socket_fd < activesockets")
  else match registry.slot socketFd with
    | .error fault => .error fault
    | .ok none => .error (.assertion "sockets [socket_fd] != NULL")
    | .ok (some _) =>
        .ok (if enable then registry.fdSet socketFd group.index
          else registry.fdClr socketFd group.index)

/-- Ask what is ready among what is watched. -/
def select (registry : Registry) (ready : Nat → List Nat) : Registry :=
  { registry with lastState := (List.range actionSelectCount).map fun index =>
      (registry.selectState.getD index []).filter (· ∈ ready index) }

/-- What moves the registry. -/
inductive Operation where
  | register (socketFd : Nat) (type : SocketType) (thing : Nat) (reallocated allocated : Bool)
  | unregister (socketFd : Nat)
  | setFlags (socketFd : Nat) (group : Action) (enable : Bool)
  | select (ready : Nat → List Nat)

/-- What an operation does. -/
def step (registry : Registry) : Operation → Except Fault Registry
  | .register socketFd type thing reallocated allocated =>
      (registry.register socketFd type thing reallocated allocated).map Prod.snd
  | .unregister socketFd => registry.unregister socketFd
  | .setFlags socketFd group enable => registry.setSocketSelectFlags socketFd group enable
  | .select ready => .ok (registry.select ready)

/-- What an operation accesses past the ends of the arrays of sets. -/
def Operation.strays : Operation → List Stray
  | .unregister _ => [.lastState actionSelectCount]
  | .register .. | .setFlags .. | .select _ => []

/-! ## What holds of the registry -/

/-- Something is registered under a descriptor. -/
def Registered (registry : Registry) (socketFd : Nat) : Prop :=
  ∃ data, registry.sockets[socketFd]? = some (some data)

/-- Operations that callers may apply: sockets are registered once and below the limit of `select`,
and only registered ones are unregistered. -/
def Admissible (registry : Registry) : Operation → Prop
  | .register socketFd _ _ _ _ => socketFd < fdSetSize ∧ ¬registry.Registered socketFd
  | .unregister socketFd => registry.Registered socketFd
  | .setFlags _ _ _ => True
  | .select _ => True

/-- A descriptor is in one of the sets to select for. -/
def Watched (registry : Registry) (socketFd : Nat) : Prop :=
  ∃ known ∈ registry.selectState, socketFd ∈ known

/-- A descriptor is in one of the sets of what was found. -/
def Pending (registry : Registry) (socketFd : Nat) : Prop :=
  ∃ known ∈ registry.lastState, socketFd ∈ known

/-- The array of sockets has its size, the number of active sockets is one more than the largest
registered descriptor, and the sets hold registered descriptors only. -/
structure Sound (registry : Registry) : Prop where
  size : registry.sockets.length = registry.maxsockets
  capped : registry.maxsockets ≤ fdSetSize
  active : ∀ socketFd, registry.Registered socketFd → socketFd < registry.activesockets
  top : registry.activesockets = 0 ∨ registry.Registered (registry.activesockets - 1)
  selectCount : registry.selectState.length = actionCount
  lastCount : registry.lastState.length = actionSelectCount
  watched : ∀ socketFd, registry.Watched socketFd → registry.Registered socketFd
  pending : ∀ socketFd, registry.Pending socketFd → registry.Registered socketFd

theorem mem_clear {socketFd other : Nat} {known : List Nat} :
    other ∈ clear socketFd known ↔ other ∈ known ∧ other ≠ socketFd := by
  simp [clear]

theorem sound_empty : empty.Sound where
  size := rfl
  capped := Nat.zero_le _
  active := by
    rintro socketFd ⟨data, found⟩
    simp [empty] at found
  top := .inl rfl
  selectCount := rfl
  lastCount := rfl
  watched := by
    rintro socketFd ⟨known, member, inside⟩
    rw [List.eq_of_mem_replicate member] at inside
    exact absurd inside List.not_mem_nil
  pending := by
    rintro socketFd ⟨known, member, inside⟩
    rw [List.eq_of_mem_replicate member] at inside
    exact absurd inside List.not_mem_nil

theorem Registered.lt_length {registry : Registry} {socketFd : Nat}
    (registered : registry.Registered socketFd) : socketFd < registry.sockets.length := by
  obtain ⟨data, found⟩ := registered
  exact (List.getElem?_eq_some_iff.mp found).1

theorem Sound.activesockets_le {registry : Registry} (sound : registry.Sound) :
    registry.activesockets ≤ registry.maxsockets := by
  rcases sound.top with none_active | registered
  · omega
  · have := registered.lt_length
    rw [sound.size] at this
    omega

/-! ## Growing the array -/

theorem registered_grow_iff {registry : Registry} {wanted socketFd : Nat} :
    (registry.grow wanted).Registered socketFd ↔ registry.Registered socketFd := by
  simp only [Registered, grow]
  constructor
  · rintro ⟨data, found⟩
    rcases Nat.lt_or_ge socketFd registry.sockets.length with early | late
    · rw [List.getElem?_append_left early] at found
      exact ⟨data, found⟩
    · rw [List.getElem?_append_right late] at found
      have := List.eq_of_mem_replicate (List.mem_of_getElem? found)
      exact absurd this (by simp)
  · rintro ⟨data, found⟩
    have early := (List.getElem?_eq_some_iff.mp found).1
    exact ⟨data, by rw [List.getElem?_append_left early, found]⟩

theorem lt_grownSize {maxsockets socketFd : Nat} (below : socketFd < fdSetSize) :
    socketFd < grownSize maxsockets socketFd := by
  simp only [grownSize]
  split <;> omega

theorem le_grownSize {maxsockets socketFd : Nat} (capped : maxsockets ≤ fdSetSize)
    (full : maxsockets ≤ socketFd) : maxsockets ≤ grownSize maxsockets socketFd := by
  simp only [grownSize]
  split <;> omega

private theorem grownSize_le (maxsockets socketFd : Nat) :
    grownSize maxsockets socketFd ≤ fdSetSize := by
  exact Nat.min_le_right _ _

/-- Growing makes room and changes nothing else. -/
theorem Sound.grow {registry : Registry} (sound : registry.Sound) {socketFd : Nat}
    (full : registry.maxsockets ≤ socketFd) : (registry.grow socketFd).Sound where
  size := by
    have := le_grownSize sound.capped full
    have := sound.size
    simp only [Registry.grow, List.length_append, List.length_replicate]
    omega
  capped := grownSize_le _ _
  active := fun other registered => sound.active other (registered_grow_iff.mp registered)
  top := sound.top.imp_right registered_grow_iff.mpr
  selectCount := sound.selectCount
  lastCount := sound.lastCount
  watched := fun other watched => registered_grow_iff.mpr (sound.watched other watched)
  pending := fun other pending => registered_grow_iff.mpr (sound.pending other pending)

/-! ## Entering a socket -/

private theorem watched_of_fdSet {registry : Registry} {socketFd index other : Nat}
    (watched : (registry.fdSet socketFd index).Watched other) :
    other = socketFd ∨ registry.Watched other := by
  obtain ⟨known, member, inside⟩ := watched
  simp only [fdSet] at member
  split at member
  · obtain ⟨place, found⟩ := List.mem_iff_getElem?.mp member
    rw [List.getElem?_modify] at found
    obtain ⟨before, was, rfl⟩ := Option.map_eq_some_iff.mp found
    split at inside
    · rcases List.mem_cons.mp inside with same | kept
      · exact .inl same
      · exact .inr ⟨before, List.mem_of_getElem? was, (mem_clear.mp kept).1⟩
    · exact .inr ⟨before, List.mem_of_getElem? was, inside⟩
  · exact .inr ⟨known, member, inside⟩

private theorem watched_of_fdClr {registry : Registry} {socketFd index other : Nat}
    (watched : (registry.fdClr socketFd index).Watched other) : registry.Watched other := by
  obtain ⟨known, member, inside⟩ := watched
  simp only [fdClr] at member
  split at member
  · obtain ⟨place, found⟩ := List.mem_iff_getElem?.mp member
    rw [List.getElem?_modify] at found
    obtain ⟨before, was, rfl⟩ := Option.map_eq_some_iff.mp found
    split at inside
    · exact ⟨before, List.mem_of_getElem? was, (mem_clear.mp inside).1⟩
    · exact ⟨before, List.mem_of_getElem? was, inside⟩
  · exact ⟨known, member, inside⟩

theorem registered_fdSet_iff {registry : Registry} {socketFd index other : Nat} :
    (registry.fdSet socketFd index).Registered other ↔ registry.Registered other := by
  simp only [Registered, fdSet]
  split <;> exact Iff.rfl

theorem registered_fdClr_iff {registry : Registry} {socketFd index other : Nat} :
    (registry.fdClr socketFd index).Registered other ↔ registry.Registered other := by
  simp only [Registered, fdClr]
  split <;> exact Iff.rfl

/-- A registered descriptor may be put into any set. -/
theorem Sound.fdSet {registry : Registry} (sound : registry.Sound) {socketFd index : Nat}
    (registered : registry.Registered socketFd) (inside : index < actionCount) :
    (registry.fdSet socketFd index).Sound ∧
      (registry.fdSet socketFd index).strays = registry.strays := by
  have within : index < registry.selectState.length := by rw [sound.selectCount]; exact inside
  refine ⟨⟨?_, ?_, ?_, ?_, ?_, ?_, fun other watched => ?_, fun other pending => ?_⟩, ?_⟩
  · simpa [Registry.fdSet, within] using sound.size
  · simpa [Registry.fdSet, within] using sound.capped
  · intro other kept
    have := sound.active other (registered_fdSet_iff.mp kept)
    simpa [Registry.fdSet, within] using this
  · have top := sound.top
    rw [← @registered_fdSet_iff registry socketFd index] at top
    simpa [Registry.fdSet, within] using top
  · simpa [Registry.fdSet, within] using sound.selectCount
  · simpa [Registry.fdSet, within] using sound.lastCount
  · apply registered_fdSet_iff.mpr
    rcases watched_of_fdSet watched with rfl | before
    · exact registered
    · exact sound.watched other before
  · apply registered_fdSet_iff.mpr
    apply sound.pending other
    simpa [Pending, Registry.fdSet, within] using pending
  · simp [Registry.fdSet, within]

/-- Any descriptor may be taken out of any set. -/
theorem Sound.fdClr {registry : Registry} (sound : registry.Sound) {socketFd index : Nat}
    (inside : index < actionCount) :
    (registry.fdClr socketFd index).Sound ∧
      (registry.fdClr socketFd index).strays = registry.strays := by
  have within : index < registry.selectState.length := by rw [sound.selectCount]; exact inside
  refine ⟨⟨?_, ?_, ?_, ?_, ?_, ?_, fun other watched => ?_, fun other pending => ?_⟩, ?_⟩
  · simpa [Registry.fdClr, within] using sound.size
  · simpa [Registry.fdClr, within] using sound.capped
  · intro other kept
    have := sound.active other (registered_fdClr_iff.mp kept)
    simpa [Registry.fdClr, within] using this
  · have top := sound.top
    rw [← @registered_fdClr_iff registry socketFd index] at top
    simpa [Registry.fdClr, within] using top
  · simpa [Registry.fdClr, within] using sound.selectCount
  · simpa [Registry.fdClr, within] using sound.lastCount
  · exact registered_fdClr_iff.mpr (sound.watched other (watched_of_fdClr watched))
  · apply registered_fdClr_iff.mpr
    apply sound.pending other
    simpa [Pending, Registry.fdClr, within] using pending
  · simp [Registry.fdClr, within]

/-- A registry whose sets to select for are emptied is still sound. -/
theorem Sound.reset {registry : Registry} (sound : registry.Sound) :
    ({ registry with selectState := registry.selectState.map fun _ => [] } : Registry).Sound where
  size := sound.size
  capped := sound.capped
  active := sound.active
  top := sound.top
  selectCount := by simpa using sound.selectCount
  lastCount := sound.lastCount
  watched := by
    rintro other ⟨known, member, inside⟩
    obtain ⟨_, _, rfl⟩ := List.mem_map.mp member
    exact absurd inside List.not_mem_nil
  pending := sound.pending

/-- What a step keeps: soundness, and no stray accesses beyond the given ones. -/
def Reaches (strays : List Stray) (next : Registry) : Prop :=
  next.Sound ∧ next.strays = strays

/-- The faults of the registry are failed assertions, never accesses past the array of sockets. -/
def Asserted (fault : Fault) : Prop := ∃ expression, fault = .assertion expression

theorem slot_of_not_registered {registry : Registry} {socketFd : Nat}
    (fresh : ¬registry.Registered socketFd) (inside : socketFd < registry.sockets.length) :
    registry.slot socketFd = .ok none := by
  have found := List.getElem?_eq_getElem inside
  cases occupied : registry.sockets[socketFd] with
  | none => simp [slot, found, occupied]
  | some data => exact absurd ⟨data, by rw [found, occupied]⟩ fresh

private theorem slot_of_registered {registry : Registry} {socketFd : Nat}
    (registered : registry.Registered socketFd) :
    ∃ data, registry.slot socketFd = .ok (some data) := by
  obtain ⟨data, found⟩ := registered
  exact ⟨data, by simp [slot, found]⟩

/-- An unregistered descriptor with room for it can be entered. -/
theorem Sound.enter {registry : Registry} (sound : registry.Sound) {socketFd : Nat}
    (fresh : ¬registry.Registered socketFd) (inside : socketFd < registry.maxsockets)
    (type : SocketType) (thing : Nat) (allocated : Bool) :
    ∃ entered next, registry.enter socketFd type thing allocated = .ok (entered, next) ∧
      Reaches registry.strays next := by
  have room : socketFd < registry.sockets.length := by rw [sound.size]; exact inside
  have vacant := slot_of_not_registered fresh room
  cases allocated with
  | false => exact ⟨false, registry, by simp [Registry.enter, vacant], sound, rfl⟩
  | true =>
      let data : SocketData := ⟨socketFd, type, thing⟩
      let entered : Registry := { registry with
        sockets := registry.sockets.set socketFd (some data)
        activesockets := max registry.activesockets (socketFd + 1) }
      have registered_iff : ∀ other, entered.Registered other ↔
          other = socketFd ∨ registry.Registered other := by
        intro other
        simp only [entered, Registered]
        rw [List.getElem?_set]
        split
        · rename_i same
          subst same
          simp [room]
        · rename_i different
          simp [Ne.symm different]
      have entered_sound : entered.Sound := by
        refine ⟨?_, sound.capped, fun other registered => ?_, .inr ?_, sound.selectCount,
          sound.lastCount, fun other watched => ?_, fun other pending => ?_⟩
        · simpa [entered] using sound.size
        · rcases (registered_iff other).mp registered with rfl | before
          · exact Nat.lt_of_lt_of_le (Nat.lt_succ_self other) (Nat.le_max_right _ _)
          · have := sound.active other before
            simp only [entered]
            omega
        · rw [registered_iff]
          simp only [entered]
          rcases Nat.lt_or_ge socketFd registry.activesockets with below | above
          · right
            rw [Nat.max_eq_left below]
            exact sound.top.resolve_left (by omega)
          · left
            omega
        · exact (registered_iff other).mpr (.inr (sound.watched other watched))
        · exact (registered_iff other).mpr (.inr (sound.pending other pending))
      have here : entered.Registered socketFd := (registered_iff socketFd).mpr (.inl rfl)
      exact ⟨true, _, by simp [Registry.enter, vacant, entered, data],
        entered_sound.fdSet here (Action.index_lt .reading)⟩

/-- Registering an unregistered descriptor below the limit succeeds or runs out of memory. -/
theorem Sound.register {registry : Registry} (sound : registry.Sound) {socketFd : Nat}
    (below : socketFd < fdSetSize) (fresh : ¬registry.Registered socketFd) (type : SocketType)
    (thing : Nat) (reallocated allocated : Bool) :
    ∃ entered next,
      registry.register socketFd type thing reallocated allocated = .ok (entered, next) ∧
        Reaches registry.strays next := by
  have initially : ∀ initialized : Registry, initialized.Sound →
      initialized.strays = registry.strays → ¬initialized.Registered socketFd →
      ∃ entered next,
        (if initialized.maxsockets ≤ socketFd then
          if reallocated then (initialized.grow socketFd).enter socketFd type thing allocated
          else .ok (false, initialized)
        else initialized.enter socketFd type thing allocated) = .ok (entered, next) ∧
          Reaches registry.strays next := by
    intro initialized initially same_strays still_fresh
    split
    · rename_i full
      cases reallocated with
      | false => exact ⟨false, initialized, rfl, initially, same_strays⟩
      | true =>
          have grown := initially.grow full
          rw [← same_strays]
          exact grown.enter (fun registered => still_fresh (registered_grow_iff.mp registered))
            (lt_grownSize below) type thing allocated
    · rename_i room
      rw [← same_strays]
      exact initially.enter still_fresh (by omega) type thing allocated
  simp only [Registry.register, Nat.not_le.mpr below, if_false]
  split
  · exact initially _ sound.reset rfl fresh
  · exact initially _ sound rfl fresh

/-! ## Unregistering -/

/-- The shrunken number of active sockets is one more than the last occupied slot. -/
theorem shrink_spec (sockets : List (Option SocketData)) (active : Nat) :
    shrink sockets active ≤ active ∧
      (∀ place, shrink sockets active ≤ place → place < active → (sockets[place]?).join = none) ∧
      (shrink sockets active = 0 ∨ (sockets[shrink sockets active - 1]?).join ≠ none) := by
  induction active with
  | zero =>
      exact ⟨Nat.le_refl _, fun place _ before => absurd before (Nat.not_lt_zero place), .inl rfl⟩
  | succ active ih =>
      simp only [shrink]
      split
      · rename_i vacant
        refine ⟨Nat.le_trans ih.1 (Nat.le_succ active), fun place from_top before => ?_, ih.2.2⟩
        rcases Nat.lt_or_ge place active with below | last
        · exact ih.2.1 place from_top below
        · obtain rfl : place = active := by omega
          exact vacant
      · rename_i occupied
        refine ⟨Nat.le_refl _, fun place from_top before => ?_, .inr ?_⟩
        · omega
        · simpa using occupied

theorem registered_iff_join {registry : Registry} {socketFd : Nat} :
    registry.Registered socketFd ↔ (registry.sockets[socketFd]?).join ≠ none := by
  cases found : registry.sockets[socketFd]? with
  | none => simp [Registered, found]
  | some slot => cases slot <;> simp [Registered, found]

/-- Cancelling clears every set, and clears one set too many. -/
theorem cancel_eq {registry : Registry} (selectCount : registry.selectState.length = actionCount)
    (lastCount : registry.lastState.length = actionSelectCount) (socketFd : Nat) :
    registry.cancel socketFd = { registry with
      selectState := registry.selectState.map (clear socketFd)
      lastState := registry.lastState.map (clear socketFd)
      strays := registry.strays ++ [.lastState actionSelectCount] } := by
  obtain ⟨sockets, maxsockets, activesockets, selectState, lastState, strays⟩ := registry
  match selectState, lastState, selectCount, lastCount with
  | [_, _, _, _], [_, _, _], _, _ =>
      simp [cancel, actionCount, actionSelectCount, List.range_succ, fdClr, fdClrLast]

/-- Unregistering a registered descriptor leaves no trace of it, but clears past the end. -/
theorem Sound.unregister {registry next : Registry} (sound : registry.Sound) {socketFd : Nat}
    (move : registry.unregister socketFd = .ok next) :
    Reaches (registry.strays ++ [.lastState actionSelectCount]) next ∧
      ¬next.Registered socketFd := by
  simp only [Registry.unregister] at move
  split at move
  · cases move
  · split at move
    · cases move
    · cases move
    · rw [cancel_eq sound.selectCount sound.lastCount, Except.ok.injEq] at move
      subst move
      have spec := shrink_spec (registry.sockets.set socketFd none) registry.activesockets
      have vacated : ∀ place, ((registry.sockets.set socketFd none)[place]?).join =
          if place = socketFd then none else (registry.sockets[place]?).join := by
        intro place
        rw [List.getElem?_set]
        by_cases same : socketFd = place
        · rw [if_pos same, if_pos same.symm]
          split <;> rfl
        · rw [if_neg same, if_neg (Ne.symm same)]
      have gone : ((registry.sockets.set socketFd none)[socketFd]?).join = none := by
        simp [vacated]
      have others : ∀ other, other ≠ socketFd →
          ((registry.sockets.set socketFd none)[other]?).join =
            (registry.sockets[other]?).join := by
        intro other different
        simp [vacated, different]
      refine ⟨⟨⟨?_, sound.capped, fun other registered => ?_, ?_, ?_, ?_, fun other watched => ?_,
        fun other pending => ?_⟩, rfl⟩, ?_⟩
      · simpa using sound.size
      · rw [registered_iff_join] at registered
        by_contra beyond
        have active : other < registry.activesockets := by
          apply sound.active
          rw [registered_iff_join, ← others other]
          · exact registered
          · rintro rfl
            exact registered gone
        exact registered (spec.2.1 other (Nat.le_of_not_lt beyond) active)
      · exact spec.2.2.imp_right registered_iff_join.mpr
      · simpa using sound.selectCount
      · simpa using sound.lastCount
      · obtain ⟨known, member, inside⟩ := watched
        obtain ⟨before, was, rfl⟩ := List.mem_map.mp member
        obtain ⟨held, different⟩ := mem_clear.mp inside
        rw [registered_iff_join]
        simp only [others other different]
        exact registered_iff_join.mp (sound.watched other ⟨before, was, held⟩)
      · obtain ⟨known, member, inside⟩ := pending
        obtain ⟨before, was, rfl⟩ := List.mem_map.mp member
        obtain ⟨held, different⟩ := mem_clear.mp inside
        rw [registered_iff_join]
        simp only [others other different]
        exact registered_iff_join.mp (sound.pending other ⟨before, was, held⟩)
      · rw [registered_iff_join]
        exact not_not.mpr gone

/-! ## Selecting -/

/-- A `select` call finds only what is watched. -/
theorem Sound.select {registry : Registry} (sound : registry.Sound) (ready : Nat → List Nat) :
    (registry.select ready).Sound where
  size := sound.size
  capped := sound.capped
  active := sound.active
  top := sound.top
  selectCount := sound.selectCount
  lastCount := by simp [Registry.select]
  watched := sound.watched
  pending := by
    rintro other ⟨known, member, inside⟩
    obtain ⟨index, below, rfl⟩ := List.mem_map.mp member
    have held := (List.mem_filter.mp inside).1
    have within : index < registry.selectState.length := by
      have := List.mem_range.mp below
      rw [sound.selectCount]
      exact Nat.lt_trans this (by decide)
    rw [List.getD_eq_getElem?_getD, List.getElem?_eq_getElem within] at held
    exact sound.watched other ⟨_, List.getElem_mem within, held⟩

/-! ## Runs -/

/-- An admissible step keeps the registry sound and makes the stray accesses of its operation. -/
theorem Sound.step {registry : Registry} (sound : registry.Sound) {operation : Operation}
    (admissible : registry.Admissible operation) :
    FallibleRun.Outcome (Reaches (registry.strays ++ operation.strays)) Asserted
      (registry.step operation) := by
  cases operation with
  | register socketFd type thing reallocated allocated =>
      obtain ⟨entered, next, registers, reaches⟩ :=
        sound.register admissible.1 admissible.2 type thing reallocated allocated
      simpa [Registry.step, registers, Operation.strays, Except.map] using reaches
  | unregister socketFd =>
      cases move : registry.unregister socketFd with
      | ok next =>
          simp only [Registry.step, move, FallibleRun.outcome_ok]
          exact (sound.unregister move).1
      | error fault =>
          simp only [Registry.step, move, FallibleRun.outcome_error]
          obtain ⟨data, occupied⟩ := slot_of_registered admissible
          simp only [Registry.unregister, occupied] at move
          split at move
          · exact ⟨_, (Except.error.inj move).symm⟩
          · cases move
  | setFlags socketFd group enable =>
      simp only [Registry.step, setSocketSelectFlags, Operation.strays, List.append_nil]
      split
      · exact ⟨_, rfl⟩
      · split
        · rename_i active _ fault missing
          have room := sound.activesockets_le
          rw [← sound.size] at room
          have inside : socketFd < registry.sockets.length := by omega
          simp [slot, List.getElem?_eq_getElem inside] at missing
        · exact ⟨_, rfl⟩
        · rename_i data occupied
          have registered : registry.Registered socketFd := by
            rw [registered_iff_join]
            intro vacant
            simp only [slot] at occupied
            split at occupied
            · cases occupied
            · rename_i found
              rw [found, Option.join_some] at vacant
              rw [vacant] at occupied
              cases occupied
          cases enable with
          | true => exact sound.fdSet registered group.index_lt
          | false => exact sound.fdClr group.index_lt
  | select ready =>
      simpa [Registry.step, Operation.strays] using ⟨sound.select ready, rfl⟩

/-- A run keeps the registry sound and makes the stray accesses of its operations. -/
theorem Sound.run {registry : Registry} (sound : registry.Sound) {operations : List Operation}
    (guarded : FallibleRun.Guarded Registry.step Admissible registry operations) :
    FallibleRun.Outcome (Reaches (registry.strays ++ operations.flatMap Operation.strays)) Asserted
      (FallibleRun.run Registry.step registry operations) := by
  induction operations generalizing registry with
  | nil => simpa using ⟨sound, rfl⟩
  | cons operation operations ih =>
      have first := sound.step guarded.1
      cases move : registry.step operation with
      | error fault =>
          rw [FallibleRun.run_cons_of_error move]
          rw [move] at first
          exact first
      | ok next =>
          rw [FallibleRun.run_cons_of_ok move]
          rw [move] at first
          obtain ⟨next_sound, strays⟩ := first
          have rest := ih next_sound (guarded.2 next move)
          rwa [strays, List.append_assoc] at rest

/-- Nothing of a descriptor is left in the sets. -/
def Forgotten (registry : Registry) (socketFd : Nat) : Prop :=
  ¬registry.Registered socketFd ∧ ¬registry.Watched socketFd ∧ ¬registry.Pending socketFd

/-- In every run the registry stays sound, with no more active sockets than it has room for, forgets
the descriptors that are unregistered, and leaves its array of sockets alone beyond its end; it
stays within the arrays of sets exactly in the runs that unregister nothing. -/
theorem sound_of_run {operations : List Operation}
    (guarded : FallibleRun.Guarded Registry.step Admissible empty operations) :
    FallibleRun.Outcome
      (fun final =>
        final.Sound ∧ final.activesockets ≤ final.maxsockets ∧
        (∀ earlier socketFd, operations = earlier ++ [.unregister socketFd] →
          final.Forgotten socketFd) ∧
        (final.strays = [] ↔ ∀ socketFd, Operation.unregister socketFd ∉ operations))
      Asserted (FallibleRun.run Registry.step empty operations) := by
  have outcome := sound_empty.run guarded
  cases arrives : FallibleRun.run Registry.step empty operations with
  | error fault =>
      rw [arrives] at outcome
      exact outcome
  | ok final =>
      rw [arrives] at outcome
      obtain ⟨sound, strays⟩ := outcome
      refine ⟨sound, sound.activesockets_le, fun earlier socketFd last => ?_, ?_⟩
      · subst last
        obtain ⟨before, reached, moves⟩ := FallibleRun.run_append_ok_iff.mp arrives
        obtain ⟨next, move, ended⟩ := FallibleRun.run_cons_ok_iff.mp moves
        obtain rfl : next = final := by simpa using ended
        have earlier_outcome := sound_empty.run guarded.of_append
        rw [reached] at earlier_outcome
        have gone := (earlier_outcome.1.unregister move).2
        exact ⟨gone, fun watched => gone (sound.watched socketFd watched),
          fun pending => gone (sound.pending socketFd pending)⟩
      · rw [strays]
        constructor
        · intro within socketFd member
          have : Stray.lastState actionSelectCount ∈ operations.flatMap Operation.strays :=
            List.mem_flatMap.mpr ⟨_, member, by simp [Operation.strays]⟩
          simp [empty] at within
          have none_of_it := within _ member
          cases none_of_it
        · intro kept
          have nothing : operations.flatMap Operation.strays = [] := by
            apply List.flatMap_eq_nil_iff.mpr
            intro operation member
            cases operation with
            | unregister socketFd => exact absurd member (kept socketFd)
            | register _ _ _ _ _ => rfl
            | setFlags _ _ _ => rfl
            | select _ => rfl
          rw [nothing]
          rfl

/-- A connection is registered, becomes readable and is unregistered. -/
def sampleOperations : List Operation :=
  [.register 4 .connection 0 true true, .select fun _ => [4], .unregister 4]

theorem sampleOperations_guarded :
    FallibleRun.Guarded Registry.step Admissible empty sampleOperations := by
  apply FallibleRun.Guarded.cons
  · refine ⟨by decide, ?_⟩
    rintro ⟨data, found⟩
    simp [empty] at found
  · rfl
  · exact FallibleRun.Guarded.cons trivial rfl
      (FallibleRun.Guarded.cons ⟨⟨4, .connection, 0⟩, rfl⟩ rfl trivial)

theorem sampleOperations_sound :
    FallibleRun.Outcome
      (fun final =>
        final.Sound ∧ final.activesockets ≤ final.maxsockets ∧
        (∀ earlier socketFd, sampleOperations = earlier ++ [.unregister socketFd] →
          final.Forgotten socketFd) ∧
        (final.strays = [] ↔ ∀ socketFd, Operation.unregister socketFd ∉ sampleOperations))
      Asserted (FallibleRun.run Registry.step empty sampleOperations) :=
  sound_of_run sampleOperations_guarded

/-- An admissible run clears a set past the end of what was found. -/
theorem sampleOperations_stray :
    FallibleRun.Guarded Registry.step Admissible empty sampleOperations ∧
      (FallibleRun.run Registry.step empty sampleOperations).map Registry.strays =
        .ok [.lastState 3] :=
  ⟨sampleOperations_guarded, rfl⟩

end Registry

end Football
