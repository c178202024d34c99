import Pianod.Football.SharedMessages
import Mathlib.Algebra.BigOperators.Group.List.Basic
import Mathlib.Tactic.Abel

/-!
# Message blocks are counted exactly

Whatever is sent to whichever connections, the use count of each block is the number of queue
entries that refer to it, one more while a call is still handing it out.  The one exception is an
entry that cannot be allocated: then the use that was counted for it is never given back.
-/

namespace Football

open Foundation FallibleRun

namespace BlockQueue

open MessageHeap

variable {heap : MessageHeap} {queue : BlockQueue} {others : Multiset Nat}

private theorem sure_sendLoop (sends : List SendResult)
    (accounts : heap.Accounts (queue.references + others)) :
    Sure (fun sending => sending.heap.Accounts (sending.out.references + others))
      (queue.sendLoop heap sends) := by
  induction sends generalizing heap queue with
  | nil => exact (sure_queueConsume accounts).map fun _ kept => kept
  | cons answer sends ih =>
      cases answer with
      | wouldBlock => exact (sure_queueConsume accounts).map fun _ kept => kept
      | failed =>
          obtain ⟨after, emptied, destroyed, none, kept⟩ := queueDestroy_accounts accounts
          rw [sendLoop, destroyed]
          change after.Accounts (emptied.references + others)
          rw [none, zero_add]
          exact kept
      | sent count =>
          refine (sure_queueConsume accounts).bind fun (heap', queue') kept => ?_
          dsimp only
          split
          · exact ih kept
          · exact kept

private theorem sure_gather (blocks messageLeft : Nat)
    (accounts : heap.Accounts (queue.references + others)) :
    Sure (fun (_, heap', queue') => heap'.Accounts (queue'.references + others))
      (gather blocks messageLeft heap queue) := by
  induction blocks generalizing messageLeft heap queue with
  | zero =>
      cases messageLeft with
      | zero => exact accounts
      | succ => exact nofun
  | succ blocks ih =>
      cases messageLeft with
      | zero => exact accounts
      | succ =>
          simp only [gather]
          split
          · exact nofun
          · refine (sure_queueConsume accounts).bind fun (heap', queue') kept => ?_
            exact (ih _ kept).map fun _ final => final

private theorem sure_takeLine (newlineAt : Nat)
    (accounts : heap.Accounts (queue.references + others)) :
    Sure (fun (_, heap', queue') => heap'.Accounts (queue'.references + others))
      (queue.takeLine heap newlineAt) := by
  refine (sure_gather _ _ accounts).bind fun (message, heap', queue') kept => ?_
  exact (sure_queueConsume kept).map fun _ final => final

end BlockQueue

namespace QueuedConnection

open MessageHeap BlockQueue

variable {heap : MessageHeap} {connection : QueuedConnection} {others : Multiset Nat}

/-- A connection with another output queue refers to the blocks of that queue instead. -/
theorem references_out (connection : QueuedConnection) (others : Multiset Nat) :
    connection.references + others =
      connection.out.references + (connection.assembly.references + others) := by
  rw [references]
  abel

theorem references_assembly (connection : QueuedConnection) (others : Multiset Nat) :
    connection.references + others =
      connection.assembly.references + (connection.out.references + others) := by
  rw [references]
  abel

@[simp]
theorem references_closeConnection (connection : QueuedConnection) :
    connection.closeConnection.references = connection.references := rfl

theorem destroyConnection_accounts (accounts : heap.Accounts (connection.references + others)) :
    ∃ after, connection.destroyConnection heap = .ok after ∧ after.Accounts others := by
  rw [references_assembly] at accounts
  obtain ⟨middle, _, first, _, kept⟩ := queueDestroy_accounts accounts
  obtain ⟨after, _, second, _, final⟩ := queueDestroy_accounts kept
  refine ⟨after, ?_, final⟩
  rw [destroyConnection, first]
  change Except.map Prod.fst (connection.out.queueDestroy middle) = .ok after
  rw [second]
  rfl

/-- A connection that was destroyed refers to nothing any more. -/
theorem sure_sendOutput (withEvent : Bool)
    (accounts : heap.Accounts (connection.references + others)) :
    Sure (fun (heap', connection', report) =>
      (report = .destroyed → connection'.references = 0) ∧
        heap'.Accounts (connection'.references + others))
      (connection.sendOutput heap withEvent) := by
  rw [sendOutput]
  split
  · split
    · exact ⟨nofun, accounts⟩
    split
    · exact ⟨nofun, accounts⟩
    split
    · obtain ⟨after, destroyed, kept⟩ := destroyConnection_accounts accounts
      rw [destroyed]
      refine ⟨fun _ => rfl, ?_⟩
      change after.Accounts ((0 + 0 : Multiset Nat) + others)
      rw [zero_add, zero_add]
      exact kept
    · exact ⟨nofun, accounts⟩
  · rw [references_out] at accounts
    refine (sure_sendLoop _ accounts).map fun sending kept => ⟨nofun, ?_⟩
    split
    · rw [references_closeConnection, references_out]
      exact kept
    · rw [references_out]
      exact kept

theorem sure_trySend (accounts : heap.Accounts (connection.references + others)) :
    Sure (fun (heap', connection') => heap'.Accounts (connection'.references + others))
      (connection.trySend heap) :=
  (sure_sendOutput false accounts).map fun _ kept => kept.2

theorem sure_queueHttp (text : Text) (accounts : heap.Accounts (connection.references + others)) :
    Sure (fun (_, heap', connection') => heap'.Accounts (connection'.references + others))
      (connection.queueHttp heap text) := by
  have allocated := accounts.messageAlloc
  rw [queueHttp]
  rcases allocation : heap.messageAlloc with ⟨_ | output, after⟩ <;> rw [allocation] at allocated
  · exact allocated
  · have filled : (after.fill output text).Accounts
        (output ::ₘ (connection.out.references + (connection.assembly.references + others))) := by
      rw [← references_out]
      exact allocated.fill (Multiset.mem_cons_self _ _) text
    refine (sure_queueAdd filled).bind fun (added, heap', out) ⟨_, kept⟩ => ?_
    dsimp only at kept ⊢
    cases added with
    | true =>
        refine (sure_trySend ?_).map fun _ final => final
        rw [references_out]
        exact kept
    | false =>
        obtain ⟨final, released, left⟩ := kept.2.messageFree
        rw [← references_out] at left
        rw [if_neg Bool.false_ne_true, released]
        exact left

private theorem sure_queueHttpAlloc (text : Text)
    (accounts : heap.Accounts (connection.references + others)) :
    Sure (fun (_, heap', connection') => heap'.Accounts (connection'.references + others))
      (connection.queueHttpAlloc heap text) := by
  have asked := accounts.malloc
  rw [queueHttpAlloc]
  rcases answer : heap.malloc with ⟨_ | _, after⟩ <;> rw [answer] at asked
  · exact asked
  · exact sure_queueHttp text asked

private theorem sure_encodeLines (fuel : Nat)
    (accounts : heap.Accounts (connection.references + others)) :
    Sure (fun (heap', connection') => heap'.Accounts (connection'.references + others))
      (connection.encodeLines fuel heap) := by
  induction fuel generalizing heap connection with
  | zero => exact accounts
  | succ fuel ih =>
      rw [encodeLines]
      split
      · exact nofun
      · exact nofun
      · dsimp only
        split
        · exact accounts
        · have asked := accounts.malloc
          rcases answer : heap.malloc with ⟨_ | _, after⟩ <;> rw [answer] at asked
          · exact asked
          · rw [references_assembly] at asked
            refine (sure_takeLine _ asked).bind fun (message, taken, assembly) kept => ?_
            have framed : taken.Accounts
                ({ connection with assembly := assembly }.references + others) := by
              rw [references_assembly]
              exact kept
            refine (sure_queueHttp _ framed).bind fun (queued, sent, later) final => ?_
            dsimp only
            split
            · exact ih final
            · exact final

private theorem sure_websocketEncode (accounts : heap.Accounts (connection.references + others)) :
    Sure (fun (heap', connection') => heap'.Accounts (connection'.references + others))
      (connection.websocketEncode heap) :=
  sure_encodeLines _ accounts

/-- Whether a message to a connection is refused a queue entry. -/
def Refuses (heap : MessageHeap) (connection : QueuedConnection) (text : Text) : Prop :=
  connection.drops text = false ∧ heap.QallocFails

instance (heap : MessageHeap) (connection : QueuedConnection) (text : Text) :
    Decidable (connection.Refuses heap text) :=
  inferInstanceAs (Decidable (_ ∧ _))

/-- The use of a message that an attempt to queue it leaves behind, counted but not there. -/
def leftover (heap : MessageHeap) (connection : QueuedConnection) (message : Nat) :
    Multiset Nat :=
  if connection.Refuses heap (heap.message message) then {message} else 0

private theorem leftover_of_drops {message : Nat}
    (dropped : connection.drops (heap.message message) = true) :
    connection.leftover heap message = 0 :=
  if_neg fun refused => Bool.false_ne_true (refused.1.symm.trans dropped)

theorem leftover_of_offered {message : Nat} {added : Bool}
    (offered : ¬connection.drops (heap.message message) = true)
    (answered : added = false ↔ heap.QallocFails) :
    connection.leftover heap message = if added then 0 else {message} := by
  have taken : connection.drops (heap.message message) = false :=
    Bool.eq_false_of_not_eq_true offered
  cases added with
  | false => exact if_pos ⟨taken, answered.mp rfl⟩
  | true => exact if_neg fun refused => nomatch answered.mpr refused.2

/-- A message given to a connection is queued or let go of, unless a queue entry is refused: then
its use stays counted. -/
theorem sure_queueSingle {message : Nat}
    (accounts : heap.Accounts (message ::ₘ (connection.references + others))) :
    Sure (fun (_, heap', connection') => heap'.Accounts (connection'.references +
        (connection.leftover heap message + others)))
      (connection.queueSingle heap message) := by
  rw [queueSingle]
  dsimp only
  split
  · rename_i dropped
    obtain ⟨after, released, kept⟩ := accounts.messageFree
    rw [released, leftover_of_drops dropped, zero_add]
    exact kept
  rename_i offered
  split
  · rw [references_assembly] at accounts
    refine (sure_queueAdd accounts).bind fun (added, heap', assembly) ⟨answered, kept⟩ => ?_
    dsimp only at answered kept ⊢
    rw [leftover_of_offered offered answered]
    cases added with
    | true =>
        have assembled : heap'.Accounts
            ({ connection with assembly := assembly }.references + (0 + others)) := by
          rw [references_assembly, zero_add]
          exact kept
        refine (sure_websocketEncode assembled).bind fun (encoded, later) final => ?_
        exact (sure_trySend final).map fun _ sent => sent
    | false =>
        obtain ⟨-, lost⟩ := kept
        rw [← references_assembly, ← Multiset.singleton_add, add_left_comm] at lost
        exact (sure_trySend lost).map fun _ sent => sent
  · rw [references_out] at accounts
    refine (sure_queueAdd accounts).bind fun (added, heap', out) ⟨answered, kept⟩ => ?_
    dsimp only at answered kept ⊢
    rw [leftover_of_offered offered answered]
    refine (sure_trySend ?_).map fun _ sent => sent
    cases added with
    | true =>
        rw [references_out, if_pos rfl, zero_add]
        exact kept
    | false =>
        obtain ⟨rfl, lost⟩ := kept
        rw [← references_out, ← Multiset.singleton_add, add_left_comm] at lost
        exact lost

end QueuedConnection

namespace MessageState

open MessageHeap QueuedConnection

variable {state : MessageState} {lost : Multiset Nat}

/-- The references from the queues of some connections. -/
def queued (connections : List QueuedConnection) : Multiset Nat :=
  (connections.map QueuedConnection.references).sum

/-- The reference of the call that runs. -/
def handed (call : Option QueuingCall) : Multiset Nat :=
  (call.map fun call => ({call.message} : Multiset Nat)).getD 0

theorem references_eq (state : MessageState) :
    state.references = queued state.connections + handed state.call := rfl

private theorem queued_append (front back : List QueuedConnection) :
    queued (front ++ back) = queued front + queued back := by
  rw [queued, List.map_append, List.sum_append, ← queued, ← queued]

private theorem queued_singleton (connection : QueuedConnection) :
    queued [connection] = connection.references := by
  rw [queued, List.map_singleton, List.sum_singleton]

/-- The references of one connection and those of the others. -/
theorem queued_eq {connections : List QueuedConnection} {index : Nat}
    {connection : QueuedConnection} (found : connections[index]? = some connection) :
    queued connections = connection.references + queued (connections.eraseIdx index) := by
  obtain ⟨inside, rfl⟩ := List.getElem?_eq_some_iff.mp found
  have split := List.getElem_cons_eraseIdx_perm inside
  rw [queued, ← (split.map QueuedConnection.references).sum_eq, List.map_cons, List.sum_cons,
    ← queued]

theorem queued_set {connections : List QueuedConnection} {index : Nat}
    {connection : QueuedConnection} (found : connections[index]? = some connection)
    (changed : QueuedConnection) :
    queued (connections.set index changed) =
      changed.references + queued (connections.eraseIdx index) := by
  obtain ⟨inside, -⟩ := List.getElem?_eq_some_iff.mp found
  have stored : (connections.set index changed)[index]? = some changed := by
    rw [List.getElem?_set_self inside]
  rw [queued_eq stored, List.eraseIdx_set_eq]

theorem references_call (idle : state.call = none) (call : QueuingCall) (lost : Multiset Nat) :
    { state with call := some call }.references + lost =
      call.message ::ₘ (state.references + lost) := by
  rw [references_eq, references_eq, idle, ← Multiset.singleton_add]
  change queued state.connections + {call.message} + lost =
    {call.message} + (queued state.connections + 0 + lost)
  abel

theorem sure_connection (state : MessageState) (index : Nat) :
    Sure (fun connection => state.connections[index]? = some connection)
      (state.connection index) := by
  rw [connection]
  split
  · rename_i found
    exact found
  · exact nofun

/-- The use of a message that a step leaves behind. -/
def leftover (state : MessageState) (action : MessageAction) : Multiset Nat :=
  if action = .proceed then
    (state.attempt.map fun (connection, message) =>
      connection.leftover state.heap message).getD 0
  else 0

private theorem leftover_eq_zero_iff {action : MessageAction} :
    state.leftover action = 0 ↔ state.EntryGranted action := by
  rw [leftover, EntryGranted]
  by_cases attempts : action = .proceed
  · rw [if_pos attempts]
    cases state.attempt with
    | none => simp
    | some attempt =>
        have refused : attempt.1.leftover state.heap attempt.2 = 0 ↔
            ¬attempt.1.Refuses state.heap (state.heap.message attempt.2) := by
          rw [QueuedConnection.leftover]
          split <;> simp_all
        simpa [attempts, Refuses] using refused
  · simp [attempts]

theorem sure_queueBroadcast {service message : Nat} (idle : state.call = none)
    (accounts : state.heap.Accounts (message ::ₘ (state.references + lost))) :
    Sure (fun after => after.heap.Accounts (after.references + lost))
      (state.queueBroadcast service message) := by
  rw [queueBroadcast]
  split
  · obtain ⟨after, released, kept⟩ := accounts.messageFree
    rw [released]
    exact kept
  · change state.heap.Accounts (references { state with call := some _ } + lost)
    rw [references_call idle]
    exact accounts

private theorem sure_queueMessage {message : Nat} (broadcast : Bool) (thing : Thing)
    (idle : state.call = none)
    (accounts : state.heap.Accounts (message ::ₘ (state.references + lost))) :
    Sure (fun after => after.heap.Accounts (after.references + lost))
      (state.queueMessage message broadcast thing) := by
  have directed (index : Nat) : Sure (fun after => after.heap.Accounts (after.references + lost))
      (state.connection index >>= fun connection =>
        if broadcast then state.queueBroadcast connection.service message
        else .ok { state with call := some (.single message index) }) := by
    refine (sure_connection state index).bind fun connection _ => ?_
    split
    · exact sure_queueBroadcast idle accounts
    · change state.heap.Accounts (references { state with call := some _ } + lost)
      rw [references_call idle]
      exact accounts
  cases thing with
  | service service => exact sure_queueBroadcast idle accounts
  | connection index => exact directed index
  | event index => exact directed index

private theorem sure_fprintf (thing : Thing) (broadcast : Bool) (text : Text)
    (idle : state.call = none) (accounts : state.heap.Accounts (state.references + lost)) :
    Sure (fun after => after.heap.Accounts (after.references + lost))
      (state.fprintf thing broadcast text) := by
  have allocated := accounts.messageAlloc
  rw [fprintf]
  rcases allocation : state.heap.messageAlloc with ⟨_ | message, heap⟩ <;>
    rw [allocation] at allocated
  · exact nofun
  · exact sure_queueMessage broadcast thing idle
      (allocated.fill (Multiset.mem_cons_self _ _) text)

/-- An attempt to queue a message for one connection, seen from all of them. -/
theorem sure_attempt {heap : MessageHeap} {connections : List QueuedConnection} {index : Nat}
    {connection : QueuedConnection} {message : Nat} {others : Multiset Nat}
    (found : connections[index]? = some connection)
    (accounts : heap.Accounts (message ::ₘ (queued connections + others))) :
    Sure (fun (_, heap', connection') => heap'.Accounts
        (queued (connections.set index connection') +
          (connection.leftover heap message + others)))
      (connection.queueSingle heap message) := by
  rw [queued_eq found, add_assoc] at accounts
  refine (sure_queueSingle accounts).imp fun (_, heap', connection') kept => ?_
  dsimp only at kept ⊢
  rw [queued_set found, add_assoc, add_left_comm (queued (connections.eraseIdx index))]
  exact kept

private theorem message_addUse (heap : MessageHeap) (address other : Nat) :
    (heap.addUse address).message other = heap.message other := by
  rw [MessageHeap.message, MessageHeap.message, MessageHeap.addUse, List.getElem?_modify]
  cases heap.blocks[other]? with
  | none => rfl
  | some block =>
      by_cases same : address = other
      · simp [same]
      · simp [same]

private theorem leftover_addUse (heap : MessageHeap) (connection : QueuedConnection)
    (message : Nat) :
    connection.leftover (heap.addUse message) message = connection.leftover heap message := by
  have same : connection.Refuses (heap.addUse message)
      ((heap.addUse message).message message) ↔
        connection.Refuses heap (heap.message message) := by
    rw [message_addUse]
    exact Iff.rfl
  simp only [QueuedConnection.leftover, same]

private theorem sure_proceed {call : QueuingCall} (running : state.call = some call)
    (accounts : state.heap.Accounts (state.references + lost)) :
    Sure (fun after => after.heap.Accounts
        (after.references + (state.leftover .proceed + lost)))
      (state.proceed call) := by
  rw [references_eq, running] at accounts
  cases call with
  | single message index =>
      refine (sure_connection state index).bind fun connection found => ?_
      have handed_over : queued state.connections + handed (some (.single message index)) + lost =
          message ::ₘ (queued state.connections + lost) := by
        rw [← Multiset.singleton_add]
        change queued state.connections + {message} + lost = _
        abel
      rw [handed_over] at accounts
      refine (sure_attempt found accounts).map fun (_, heap', connection') kept => ?_
      have left : state.leftover .proceed = connection.leftover state.heap message := by
        simp [leftover, attempt, running, found]
      rw [left, references_eq]
      change heap'.Accounts (queued (state.connections.set index connection') + 0 + _)
      rw [add_zero]
      exact kept
  | broadcast message service next length =>
      have handed_over : queued state.connections +
          handed (some (.broadcast message service next length)) + lost =
            queued state.connections + ({message} + lost) := add_assoc _ _ _
      rw [handed_over] at accounts
      rw [proceed]
      split
      · rename_i none
        have left : state.leftover .proceed = 0 := by
          simp [leftover, attempt, running, none]
        rw [add_left_comm, Multiset.singleton_add] at accounts
        obtain ⟨after, released, kept⟩ := accounts.messageFree
        rw [released, left]
        change after.Accounts (queued state.connections + 0 + (0 + lost))
        rw [add_zero, zero_add]
        exact kept
      · rename_i connection found
        split
        · rename_i addressed
          have left : state.leftover .proceed = connection.leftover state.heap message := by
            simp [leftover, attempt, running, found, Option.filter_some, addressed]
          have member : message ∈ queued state.connections + ({message} + lost) := by simp
          refine (sure_attempt found (accounts.addUse member)).map
            fun (_, heap', connection') kept => ?_
          rw [left, references_eq, ← leftover_addUse]
          change heap'.Accounts (queued (state.connections.set next connection') + {message} + _)
          rw [add_assoc, add_left_comm ({message} : Multiset Nat)]
          exact kept
        · rename_i other
          have left : state.leftover .proceed = 0 := by
            simp [leftover, attempt, running, found, Option.filter_some, other]
          rw [left, zero_add]
          change state.heap.Accounts (queued state.connections + {message} + lost)
          rw [add_assoc]
          exact accounts

/-- The references of one connection apart from all others. -/
theorem references_at {index : Nat} {connection : QueuedConnection}
    (found : state.connections[index]? = some connection) :
    state.references + lost = connection.references +
      (queued (state.connections.eraseIdx index) + (handed state.call + lost)) := by
  rw [references_eq, queued_eq found, add_assoc, add_assoc]

section Changed

variable {connections : List QueuedConnection} {index : Nat} {heap : MessageHeap}
  {call : Option QueuingCall} {returned : Int}

/-- The same with the connection as it was left. -/
theorem references_set {connection : QueuedConnection}
    (found : connections[index]? = some connection) (changed : QueuedConnection) :
    references ⟨heap, connections.set index changed, call, returned⟩ + lost =
      changed.references + (queued (connections.eraseIdx index) + (handed call + lost)) := by
  rw [references_eq, queued_set found, add_assoc, add_assoc]

theorem references_erase :
    references ⟨heap, connections.eraseIdx index, call, returned⟩ + lost =
      queued (connections.eraseIdx index) + (handed call + lost) := by
  rw [references_eq, add_assoc]

theorem references_concat (connection : QueuedConnection) :
    references ⟨heap, connections ++ [connection], call, returned⟩ + lost =
      connection.references + (queued connections + (handed call + lost)) := by
  rw [references_eq, queued_append, queued_singleton, add_comm (queued _), add_assoc, add_assoc]

end Changed

private theorem sure_attend (index : Nat)
    (accounts : state.heap.Accounts (state.references + lost)) :
    Sure (fun after => after.heap.Accounts (after.references + lost)) (state.attend index) := by
  refine (sure_connection state index).bind fun connection found => ?_
  rw [references_at found] at accounts
  refine (sure_sendOutput true accounts).map
    fun (heap', connection', report) ⟨emptied, kept⟩ => ?_
  dsimp only at emptied kept ⊢
  split
  · rename_i destroyed
    rw [emptied destroyed, zero_add] at kept
    rw [references_erase]
    exact kept
  · rw [references_set found]
    exact kept

private theorem sure_step (action : MessageAction)
    (accounts : state.heap.Accounts (state.references + lost)) :
    Sure (fun after => after.heap.Accounts (after.references + (state.leftover action + lost)))
      (state.step action) := by
  cases running : state.call with
  | some call =>
      cases action with
      | proceed =>
          simp only [step, running]
          exact sure_proceed running accounts
      | _ =>
          simp only [step, running]
          change state.heap.Accounts (state.references + (0 + lost))
          rw [zero_add]
          exact accounts
  | none =>
      have nothing : state.leftover action + lost = lost := by
        rw [leftover, attempt, running]
        simp
      rw [nothing]
      cases action with
      | proceed =>
          simp only [step, running]
          exact accounts
      | accept service socketState http isFile sends =>
          simp only [step, running]
          change Accounts state.heap (references ⟨_, state.connections ++ [_], none, _⟩ + lost)
          rw [references_concat, ← running, ← add_assoc (queued _), ← references_eq]
          change state.heap.Accounts (0 + 0 + (state.references + lost))
          rw [zero_add, zero_add]
          exact accounts
      | settle index socketState http =>
          simp only [step, running]
          refine (sure_connection state index).bind fun connection found => ?_
          rw [references_at found, running] at accounts
          change Accounts state.heap (references ⟨_, state.connections.set index _, none, _⟩ + lost)
          rw [references_set found]
          exact accounts
      | transfer index service =>
          simp only [step, running]
          refine (sure_connection state index).bind fun connection found => ?_
          rw [references_at found, running] at accounts
          change Accounts state.heap
            (references ⟨_, state.connections.eraseIdx index ++ [_], none, _⟩ + lost)
          rw [references_concat]
          exact accounts
      | fprintf thing broadcast text =>
          simp only [step, running]
          exact sure_fprintf thing broadcast text running accounts
      | transmit index text =>
          simp only [step, running]
          refine (sure_connection state index).bind fun connection found => ?_
          rw [references_at found, running] at accounts
          refine (sure_queueHttpAlloc text accounts).map fun (_, heap', connection') kept => ?_
          dsimp only at kept ⊢
          rw [references_set found]
          exact kept
      | attend index =>
          simp only [step, running]
          exact sure_attend index accounts
      | destroy index =>
          simp only [step, running]
          refine (sure_connection state index).bind fun connection found => ?_
          rw [references_at found, running] at accounts
          obtain ⟨after, destroyed, kept⟩ := destroyConnection_accounts accounts
          rw [destroyed]
          change Accounts after (references ⟨_, state.connections.eraseIdx index, none, _⟩ + lost)
          rw [references_erase]
          exact kept

/-- A step that is granted its queue entries leaves no use behind; any other loses one. -/
theorem run_accounts {actions : List MessageAction}
    (accounts : state.heap.Accounts (state.references + lost)) :
    Sure (fun final => ∃ more, final.heap.Accounts (final.references + (more + lost)) ∧
        (more = 0 ↔ Guarded step EntryGranted state actions))
      (run step state actions) := by
  induction actions generalizing state lost with
  | nil => exact ⟨0, by rwa [zero_add], iff_of_true rfl trivial⟩
  | cons action actions ih =>
      have first := sure_step action accounts
      cases move : state.step action with
      | error fault =>
          rw [run_cons_of_error move]
          rw [move] at first
          exact first
      | ok next =>
          rw [run_cons_of_ok move]
          rw [move] at first
          refine (ih first).imp fun final ⟨more, kept, exactly⟩ => ?_
          refine ⟨more + state.leftover action, by rwa [add_assoc], ?_⟩
          rw [add_eq_zero_iff_of_nonneg (Multiset.zero_le _) (Multiset.zero_le _),
            leftover_eq_zero_iff, exactly, and_comm]
          constructor
          · rintro ⟨granted, later⟩
            exact Guarded.cons granted move later
          · exact fun guarded => ⟨guarded.1, guarded.2 next move⟩

/-- In every run, whatever `malloc` and the network answer, no block is released that is not in
use, and the blocks are counted exactly if and only if no queue entry for a message was refused. -/
theorem exact_iff_of_run (mallocs : List Bool) (actions : List MessageAction) :
    Outcome (fun final => final.Exact ↔ Guarded step EntryGranted (initial mallocs) actions)
      (· ≠ overReleased) (run step (initial mallocs) actions) := by
  have initially : (initial mallocs).heap.Accounts ((initial mallocs).references + 0) := by
    rw [add_zero]
    exact accounts_initial mallocs
  refine (run_accounts initially).imp fun final ⟨more, kept, exactly⟩ => ?_
  rw [add_zero] at kept
  rw [← exactly, Exact]
  constructor
  · intro counted
    exact add_eq_left.mp (kept.references_unique counted)
  · rintro rfl
    rwa [add_zero] at kept

/-- A line connection to which a message is sent. -/
def sampleActions : List MessageAction :=
  [.accept 0 .opened false false [], .fprintf (.connection 0) false [104, 105, newline], .proceed]

/-- The message gets its block, but no queue entry: the block keeps its use and is never free. -/
theorem sampleActions_leak :
    ∃ final, run step (initial [true, false]) sampleActions = .ok final ∧ ¬final.Exact := by
  refine ⟨_, rfl, fun counted => ?_⟩
  have use := counted.counted 0
  exact absurd use (by decide)

end MessageState

end Football
