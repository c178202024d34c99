import Mathlib.Data.List.Count
import Mathlib.Logic.Function.Basic
import Pianod.Foundation.FallibleRun
import Pianod.Foundation.Text

/-!
# Services and their connections

Which connections belong to a service is kept twice: in the array of the service and in a pointer of
each connection.  Services form families of a parent and its children, and a connection may be sent
to a relative of its service by name.
-/

namespace Football

open Foundation

/-- A service, as far as its relatives and its connections go. -/
structure ServiceNode where
  name : Option Text
  /-- The service that it was created under. -/
  parent : Option Nat
  /-- The chain of services that starts at `next_child`, the newest first. -/
  children : List Nat
  /-- Its connections, in the order of the array. -/
  connections : List Nat
  /-- How many slots the array has. -/
  connectionsSize : Nat
deriving DecidableEq, Repr

/-- The services and connections that are allocated, by address. -/
structure ServiceHeap where
  /-- The services at their addresses. -/
  services : Nat → Option ServiceNode
  /-- The service that a connection points to. -/
  connections : Nat → Option Nat

namespace ServiceHeap

/-- Nothing is allocated. -/
def empty : ServiceHeap where
  services := fun _ => none
  connections := fun _ => none

/-- Write a service. -/
def put (heap : ServiceHeap) (service : Nat) (node : ServiceNode) : ServiceHeap :=
  { heap with services := Function.update heap.services service (some node) }

/-- Write the pointer of a connection. -/
def point (heap : ServiceHeap) (connection : Nat) (service : Option Nat) : ServiceHeap :=
  { heap with connections := Function.update heap.connections connection service }

/-- Read a service. -/
def get (heap : ServiceHeap) (service : Nat) : Except Fault ServiceNode :=
  match heap.services service with
  | none => .error .useAfterFree
  | some node => .ok node

/-- Read the pointer of a connection. -/
def serviceOf (heap : ServiceHeap) (connection : Nat) : Except Fault Nat :=
  match heap.connections connection with
  | none => .error .useAfterFree
  | some service => .ok service

/-! ## Creating and destroying services -/

/-- Create a service; it may fail to open a port or to allocate. -/
def createService (heap : ServiceHeap) (service : Nat) (name : Option Text) (parent : Option Nat)
    (opened : Bool) : Except Fault ServiceHeap :=
  match parent with
  | none => .ok (if opened then heap.put service ⟨name, none, [], [], 0⟩ else heap)
  | some root => do
      let rootNode ← heap.get root
      if rootNode.parent.isSome then throw (.assertion "!options->parent->options.parent")
      match name, rootNode.name with
      | some own, some other =>
          if own.strcasecmp other = .eq then
            throw (.assertion "strcasecmp (options->name, options->parent->options.name) != 0")
          else if opened then
            return (heap.put service ⟨name, some root, [], [], 0⟩).put root
              { rootNode with children := service :: rootNode.children }
          else return heap
      | _, _ => throw .nullDereference

/-- Take the children from a parent that is going away. -/
def orphan (heap : ServiceHeap) : List Nat → Except Fault ServiceHeap
  | [] => .ok heap
  | child :: children => do
      let node ← heap.get child
      (heap.put child { node with parent := none, children := [] }).orphan children

/-- Free a service. -/
def free (heap : ServiceHeap) (service : Nat) : ServiceHeap :=
  { heap with services := Function.update heap.services service none }

/-- Destroy a service without connections. -/
def destroyService (heap : ServiceHeap) (service : Nat) : Except Fault ServiceHeap := do
  let node ← heap.get service
  if node.connections ≠ [] then throw (.assertion "service->connection_count == 0")
  match node.parent with
  | some root =>
      let rootNode ← heap.get root
      if service ∉ rootNode.children then throw (.assertion "node")
      return (heap.put root { rootNode with
        children := rootNode.children.erase service }).free service
  | none => return (← heap.orphan node.children).free service

/-! ## Connections -/

/-- The capacity of an array that is to have room for some elements. -/
def expandcalloc (capacity newcapacity : Nat) (reallocated : Bool) : Option Nat :=
  if newcapacity ≤ capacity then some capacity
  else if reallocated then some (max (capacity * 2 + 25) newcapacity)
  else none

/-- Make room for one more connection of a service. -/
def makeRoom (heap : ServiceHeap) (service : Nat) (reallocated : Bool) :
    Except Fault (Option ServiceHeap) := do
  let node ← heap.get service
  match expandcalloc node.connectionsSize (node.connections.length + 1) reallocated with
  | none => return none
  | some size => return some (heap.put service { node with connectionsSize := size })

/-- Add a connection at the end of an array. -/
def addToService (heap : ServiceHeap) (service connection : Nat) : Except Fault ServiceHeap := do
  let node ← heap.get service
  if node.connections.length < node.connectionsSize then
    return heap.put service { node with connections := node.connections ++ [connection] }
  else throw .outOfBounds

/-- Remove a connection from an array. -/
def removeConnectionFromService (heap : ServiceHeap) (service connection : Nat) :
    Except Fault ServiceHeap := do
  let node ← heap.get service
  if connection ∈ node.connections then
    return heap.put service { node with connections := node.connections.erase connection }
  else throw (.assertion "i < service->connection_count")

/-- Close and destroy a connection. -/
def destroyConnection (heap : ServiceHeap) (connection : Nat) : Except Fault ServiceHeap := do
  let service ← heap.serviceOf connection
  let removed ← heap.removeConnectionFromService service connection
  return removed.point connection none

/-- What may go wrong while a connection is set up. -/
structure Setup where
  /-- Whether the array could grow. -/
  reallocated : Bool
  /-- Whether there was memory for the record. -/
  allocated : Bool
  /-- The TLS session is set up and the client accepted, or the file opened. -/
  arrived : Bool
  /-- Whether the socket could be registered. -/
  registered : Bool
deriving DecidableEq, Repr

/-- Prepare a new connection. -/
def newConnection (heap : ServiceHeap) (service connection : Nat) (setup : Setup) :
    Except Fault (Bool × ServiceHeap) := do
  let node ← heap.get service
  if node.connectionsSize < node.connections.length then
    throw (.assertion "service->connection_count <= service->connections_size")
  match ← heap.makeRoom service setup.reallocated with
  | none => return (false, heap)
  | some roomy =>
      if setup.allocated then return (true, roomy.point connection (some service))
      else return (false, roomy)

/-- Accept a connection.  One that cannot be registered is destroyed, and with it a registration
that does not exist. -/
def accept (heap : ServiceHeap) (service connection : Nat) (setup : Setup) :
    Except Fault ServiceHeap := do
  let (created, prepared) ← heap.newConnection service connection setup
  if created then
    if setup.arrived then
      let added ← prepared.addToService service connection
      if setup.registered then return added
      else
        let _ ← added.destroyConnection connection
        throw (.assertion "sockets [socket_fd]")
    else return prepared.point connection none
  else return prepared

/-- Make a connection that reads from a file; its state is set before it is known to exist. -/
def acceptFile (heap : ServiceHeap) (service connection : Nat) (setup : Setup) :
    Except Fault ServiceHeap := do
  let (created, prepared) ← heap.newConnection service connection setup
  if created then
    if setup.arrived && setup.registered then prepared.addToService service connection
    else return prepared.point connection none
  else throw .nullDereference

/-- Transfer a connection to a service. -/
def transfer (heap : ServiceHeap) (connection service : Nat) (reallocated : Bool) :
    Except Fault (Bool × ServiceHeap) := do
  match ← heap.makeRoom service reallocated with
  | none => return (false, heap)
  | some roomy =>
      let current ← roomy.serviceOf connection
      let removed ← roomy.removeConnectionFromService current connection
      let added ← removed.addToService service connection
      return (true, added.point connection (some service))

/-- The first of some services with a name; a nameless service stops the search. -/
def findNamed (heap : ServiceHeap) (name : Text) : List Nat → Except Fault (Option Nat)
  | [] => .ok none
  | service :: services => do
      let node ← heap.get service
      match node.name with
      | none => throw .nullDereference
      | some known =>
          if known.strcasecmp name = .eq then return some service
          else heap.findNamed name services

/-- Transfer a connection to a relative of its service. -/
def transferByName (heap : ServiceHeap) (connection : Nat) (name : Text) (reallocated : Bool) :
    Except Fault (Bool × ServiceHeap) := do
  let service ← heap.serviceOf connection
  let node ← heap.get service
  let root := node.parent.getD service
  let rootNode ← heap.get root
  match ← heap.findNamed name (root :: rootNode.children) with
  | none => return (false, heap)
  | some found => heap.transfer connection found reallocated

/-- A greeting that names a service. -/
def greeting (heap : ServiceHeap) (connection : Nat) (name : Text) (reallocated : Bool) :
    Except Fault ServiceHeap := do
  let (transferred, after) ← heap.transferByName connection name reallocated
  if transferred then return after else after.destroyConnection connection

/-- A request for a page or a session of a named service. -/
def httpRequest (heap : ServiceHeap) (connection : Nat) (name : Text) (reallocated : Bool) :
    Except Fault ServiceHeap := do
  let service ← heap.serviceOf connection
  let node ← heap.get service
  match node.name with
  | none => return heap
  | some own =>
      if name.strcasecmp own = .eq then return heap
      else return (← heap.transferByName connection name reallocated).2

/-! ## Runs -/

/-- What moves services and connections. -/
inductive Operation where
  | createService (service : Nat) (name : Option Text) (parent : Option Nat) (opened : Bool)
  | destroyService (service : Nat)
  | accept (service connection : Nat) (setup : Setup)
  | acceptFile (service connection : Nat) (setup : Setup)
  | greeting (connection : Nat) (name : Text) (reallocated : Bool)
  | httpRequest (connection : Nat) (name : Text) (reallocated : Bool)
  | transfer (connection service : Nat) (reallocated : Bool)
  | transferByName (connection : Nat) (name : Text) (reallocated : Bool)
  | destroyConnection (connection : Nat)

/-- What an operation does. -/
def step (heap : ServiceHeap) : Operation → Except Fault ServiceHeap
  | .createService service name parent opened => heap.createService service name parent opened
  | .destroyService service => heap.destroyService service
  | .accept service connection setup => heap.accept service connection setup
  | .acceptFile service connection setup => heap.acceptFile service connection setup
  | .greeting connection name reallocated => heap.greeting connection name reallocated
  | .httpRequest connection name reallocated => heap.httpRequest connection name reallocated
  | .transfer connection service reallocated =>
      (heap.transfer connection service reallocated).map Prod.snd
  | .transferByName connection name reallocated =>
      (heap.transferByName connection name reallocated).map Prod.snd
  | .destroyConnection connection => heap.destroyConnection connection

/-- A service is allocated. -/
def Serves (heap : ServiceHeap) (service : Nat) : Prop := (heap.services service).isSome

/-- A connection is allocated. -/
def Lives (heap : ServiceHeap) (connection : Nat) : Prop := (heap.connections connection).isSome

instance (heap : ServiceHeap) (service : Nat) : Decidable (heap.Serves service) :=
  inferInstanceAs (Decidable (_ = _))

instance (heap : ServiceHeap) (connection : Nat) : Decidable (heap.Lives connection) :=
  inferInstanceAs (Decidable (_ = _))

/-- Operations are applied to what is allocated, and allocation returns free addresses. -/
def Admissible (heap : ServiceHeap) : Operation → Prop
  | .createService service _ parent _ => ¬heap.Serves service ∧ ∀ root ∈ parent, heap.Serves root
  | .destroyService service => heap.Serves service
  | .accept service connection _ => heap.Serves service ∧ ¬heap.Lives connection
  | .acceptFile service connection _ => heap.Serves service ∧ ¬heap.Lives connection
  | .greeting connection _ _ => heap.Lives connection
  | .httpRequest connection _ _ => heap.Lives connection
  | .transfer connection service _ => heap.Lives connection ∧ heap.Serves service
  | .transferByName connection _ _ => heap.Lives connection
  | .destroyConnection connection => heap.Lives connection

/-! ## What holds of services and connections -/

/-- What a service keeps of its connections. -/
structure Roster where
  connections : List Nat
  /-- How many slots the array has. -/
  size : Nat

/-- What a service keeps of its relatives. -/
structure Kin where
  name : Option Text
  parent : Option Nat
  children : List Nat

def rosterOf (heap : ServiceHeap) (service : Nat) : Option Roster :=
  (heap.services service).map fun node => ⟨node.connections, node.connectionsSize⟩

def kinOf (heap : ServiceHeap) (service : Nat) : Option Kin :=
  (heap.services service).map fun node => ⟨node.name, node.parent, node.children⟩

/-- Each connection is once in the array of the service that holds it and in no other array, and the
arrays are within their capacities. -/
structure Members (roster : Nat → Option Roster) (holds : Nat → Option Nat) : Prop where
  once : ∀ connection service, holds connection = some service →
    ∃ held, roster service = some held ∧ held.connections.count connection = 1
  owned : ∀ service held connection, roster service = some held →
    connection ∈ held.connections → holds connection = some service
  room : ∀ service held, roster service = some held → held.connections.length ≤ held.size

/-- Parents and children know each other, there are two generations, and relatives have names. -/
structure Families (kin : Nat → Option Kin) : Prop where
  parents : ∀ service own root, kin service = some own → own.parent = some root →
    ∃ other, kin root = some other ∧ other.parent = none ∧ service ∈ other.children
  children : ∀ service own child, kin service = some own → child ∈ own.children →
    ∃ other, kin child = some other ∧ other.parent = some service ∧ other.name.isSome
  nodup : ∀ service own, kin service = some own → own.children.Nodup
  named : ∀ service own, kin service = some own → own.children ≠ [] → own.name.isSome

/-- The arrays hold connections in a certain way. -/
structure Fits (heap : ServiceHeap) (holds : Nat → Option Nat) : Prop where
  members : Members heap.rosterOf holds
  families : Families heap.kinOf

/-- The arrays hold the connections that point to their services. -/
def Sound (heap : ServiceHeap) : Prop := heap.Fits heap.connections

theorem sound_empty : empty.Sound where
  members := by
    constructor
    · exact fun _ _ held => nomatch held
    · exact fun _ _ _ found => nomatch found
    · exact fun _ _ found => nomatch found
  families := by
    constructor
    · exact fun _ _ _ found => nomatch found
    · exact fun _ _ _ found => nomatch found
    · exact fun _ _ found => nomatch found
    · exact fun _ _ found => nomatch found

@[simp]
theorem rosterOf_put (heap : ServiceHeap) (service : Nat) (node : ServiceNode) :
    (heap.put service node).rosterOf =
      Function.update heap.rosterOf service (some ⟨node.connections, node.connectionsSize⟩) := by
  funext other
  by_cases same : other = service
  · subst same
    simp [rosterOf, put]
  · simp [rosterOf, put, same]

@[simp]
theorem kinOf_put (heap : ServiceHeap) (service : Nat) (node : ServiceNode) :
    (heap.put service node).kinOf =
      Function.update heap.kinOf service (some ⟨node.name, node.parent, node.children⟩) := by
  funext other
  by_cases same : other = service
  · subst same
    simp [kinOf, put]
  · simp [kinOf, put, same]

@[simp]
theorem rosterOf_free (heap : ServiceHeap) (service : Nat) :
    (heap.free service).rosterOf = Function.update heap.rosterOf service none := by
  funext other
  by_cases same : other = service
  · subst same
    simp [rosterOf, free]
  · simp [rosterOf, free, same]

@[simp]
theorem kinOf_free (heap : ServiceHeap) (service : Nat) :
    (heap.free service).kinOf = Function.update heap.kinOf service none := by
  funext other
  by_cases same : other = service
  · subst same
    simp [kinOf, free]
  · simp [kinOf, free, same]

@[simp]
theorem connections_put (heap : ServiceHeap) (service : Nat) (node : ServiceNode) :
    (heap.put service node).connections = heap.connections := rfl

@[simp]
theorem rosterOf_point (heap : ServiceHeap) (connection : Nat) (service : Option Nat) :
    (heap.point connection service).rosterOf = heap.rosterOf := rfl

@[simp]
theorem kinOf_point (heap : ServiceHeap) (connection : Nat) (service : Option Nat) :
    (heap.point connection service).kinOf = heap.kinOf := rfl

theorem get_of {heap : ServiceHeap} {service : Nat} {node : ServiceNode}
    (found : heap.services service = some node) : heap.get service = .ok node := by
  simp [get, found]

theorem rosterOf_of {heap : ServiceHeap} {service : Nat} {node : ServiceNode}
    (found : heap.services service = some node) :
    heap.rosterOf service = some ⟨node.connections, node.connectionsSize⟩ := by
  simp [rosterOf, found]

theorem kinOf_of {heap : ServiceHeap} {service : Nat} {node : ServiceNode}
    (found : heap.services service = some node) :
    heap.kinOf service = some ⟨node.name, node.parent, node.children⟩ := by
  simp [kinOf, found]

private theorem exists_of_rosterOf {heap : ServiceHeap} {service : Nat} {held : Roster}
    (found : heap.rosterOf service = some held) :
    ∃ node, heap.services service = some node ∧
      held = ⟨node.connections, node.connectionsSize⟩ := by
  obtain ⟨node, there, rfl⟩ := Option.map_eq_some_iff.mp found
  exact ⟨node, there, rfl⟩

theorem exists_of_kinOf {heap : ServiceHeap} {service : Nat} {own : Kin}
    (found : heap.kinOf service = some own) :
    ∃ node, heap.services service = some node ∧ own = ⟨node.name, node.parent, node.children⟩ := by
  obtain ⟨node, there, rfl⟩ := Option.map_eq_some_iff.mp found
  exact ⟨node, there, rfl⟩

/-- Writing back what is there changes nothing. -/
theorem update_of_eq {α : Type*} {values : Nat → α} {place : Nat} {value : α}
    (same : values place = value) : Function.update values place value = values := by
  rw [← same, Function.update_eq_self]

/-! ## Arrays of connections -/

/-- An array may get more capacity. -/
theorem Members.resize {roster : Nat → Option Roster} {holds : Nat → Option Nat}
    (members : Members roster holds) {service : Nat} {held : Roster}
    (found : roster service = some held) {size : Nat} (enough : held.connections.length ≤ size) :
    Members (Function.update roster service (some ⟨held.connections, size⟩)) holds where
  once := by
    intro connection other holding
    obtain ⟨array, there, once⟩ := members.once connection other holding
    by_cases same : other = service
    · subst same
      obtain rfl : array = held := Option.some.inj (there.symm.trans found)
      exact ⟨_, Function.update_self .., once⟩
    · exact ⟨array, by rw [Function.update_of_ne same, there], once⟩
  owned := by
    intro other array connection there member
    by_cases same : other = service
    · subst same
      rw [Function.update_self] at there
      obtain rfl := Option.some.inj there
      exact members.owned other held connection found member
    · rw [Function.update_of_ne same] at there
      exact members.owned other array connection there member
  room := by
    intro other array there
    by_cases same : other = service
    · subst same
      rw [Function.update_self] at there
      obtain rfl := Option.some.inj there
      exact enough
    · rw [Function.update_of_ne same] at there
      exact members.room other array there

/-- A connection is removed from the array that holds it. -/
theorem Members.remove {roster : Nat → Option Roster} {holds : Nat → Option Nat}
    (members : Members roster holds) {service connection : Nat} {held : Roster}
    (found : roster service = some held) (holding : holds connection = some service) :
    Members
      (Function.update roster service (some ⟨held.connections.erase connection, held.size⟩))
      (Function.update holds connection none) where
  once := by
    intro other holder other_holding
    have different : other ≠ connection := by
      rintro rfl
      rw [Function.update_self] at other_holding
      cases other_holding
    rw [Function.update_of_ne different] at other_holding
    obtain ⟨array, there, once⟩ := members.once other holder other_holding
    by_cases same : holder = service
    · subst same
      obtain rfl : array = held := Option.some.inj (there.symm.trans found)
      exact ⟨_, Function.update_self .., by rw [List.count_erase_of_ne different, once]⟩
    · exact ⟨array, by rw [Function.update_of_ne same, there], once⟩
  owned := by
    intro other array still there member
    have kept : still ≠ connection ∧ holds still = some other := by
      by_cases same : other = service
      · subst same
        rw [Function.update_self] at there
        obtain rfl := Option.some.inj there
        refine ⟨?_, members.owned other held still found (List.mem_of_mem_erase member)⟩
        rintro rfl
        obtain ⟨array, there, once⟩ := members.once still other holding
        obtain rfl : array = held := Option.some.inj (there.symm.trans found)
        have gone : (array.connections.erase still).count still = 0 := by
          rw [List.count_erase_self, once]
        exact List.count_eq_zero.mp gone member
      · rw [Function.update_of_ne same] at there
        have elsewhere := members.owned other array still there member
        refine ⟨?_, elsewhere⟩
        rintro rfl
        exact same (Option.some.inj (elsewhere.symm.trans holding))
    rw [Function.update_of_ne kept.1, kept.2]
  room := by
    intro other array there
    by_cases same : other = service
    · subst same
      rw [Function.update_self] at there
      obtain rfl := Option.some.inj there
      exact le_trans List.length_erase_le (members.room other held found)
    · rw [Function.update_of_ne same] at there
      exact members.room other array there

/-- A connection that no array holds is added to an array with room. -/
theorem Members.add {roster : Nat → Option Roster} {holds : Nat → Option Nat}
    (members : Members roster holds) {service connection : Nat} {held : Roster}
    (found : roster service = some held) (unheld : holds connection = none)
    (room : held.connections.length < held.size) :
    Members
      (Function.update roster service (some ⟨held.connections ++ [connection], held.size⟩))
      (Function.update holds connection (some service)) where
  once := by
    intro other holder holding
    by_cases same_connection : other = connection
    · subst same_connection
      rw [Function.update_self] at holding
      obtain rfl := Option.some.inj holding
      refine ⟨_, Function.update_self .., ?_⟩
      have absent : other ∉ held.connections := by
        intro member
        have := members.owned service held other found member
        rw [unheld] at this
        cases this
      simp [List.count_append, List.count_eq_zero.mpr absent]
    · rw [Function.update_of_ne same_connection] at holding
      obtain ⟨array, there, once⟩ := members.once other holder holding
      by_cases same : holder = service
      · subst same
        obtain rfl : array = held := Option.some.inj (there.symm.trans found)
        refine ⟨_, Function.update_self .., ?_⟩
        simp [List.count_append, once, Ne.symm same_connection]
      · exact ⟨array, by rw [Function.update_of_ne same, there], once⟩
  owned := by
    intro other array member_connection there member
    by_cases same : other = service
    · subst same
      rw [Function.update_self] at there
      obtain rfl := Option.some.inj there
      by_cases same_connection : member_connection = connection
      · rw [same_connection, Function.update_self]
      · rw [Function.update_of_ne same_connection]
        have earlier : member_connection ∈ held.connections := by
          simpa [same_connection] using member
        exact members.owned other held member_connection found earlier
    · rw [Function.update_of_ne same] at there
      have elsewhere := members.owned other array member_connection there member
      have different : member_connection ≠ connection := by
        rintro rfl
        rw [unheld] at elsewhere
        cases elsewhere
      rw [Function.update_of_ne different, elsewhere]
  room := by
    intro other array there
    by_cases same : other = service
    · subst same
      rw [Function.update_self] at there
      obtain rfl := Option.some.inj there
      rw [List.length_append]
      exact room
    · rw [Function.update_of_ne same] at there
      exact members.room other array there

/-! ## Operations on connections -/

theorem Fits.exists_roster {heap : ServiceHeap} {holds : Nat → Option Nat} (fits : heap.Fits holds)
    {connection service : Nat} (holding : holds connection = some service) :
    ∃ node, heap.services service = some node ∧ node.connections.count connection = 1 := by
  obtain ⟨held, there, once⟩ := fits.members.once connection service holding
  obtain ⟨node, found, rfl⟩ := exists_of_rosterOf there
  exact ⟨node, found, once⟩

/-- A heap that differs from another in its arrays of connections only. -/
structure Alike (before after : ServiceHeap) : Prop where
  connections : after.connections = before.connections
  kin : after.kinOf = before.kinOf

/-- Rewriting a service without changing its relatives. -/
theorem alike_put {heap : ServiceHeap} {service : Nat} {node other : ServiceNode}
    (found : heap.services service = some node) (name : other.name = node.name)
    (parent : other.parent = node.parent) (children : other.children = node.children) :
    Alike heap (heap.put service other) where
  connections := rfl
  kin := by
    rw [kinOf_put, name, parent, children]
    exact update_of_eq (kinOf_of found)

theorem Alike.serves {before after : ServiceHeap} (alike : Alike before after) {service : Nat}
    (serves : before.Serves service) : ∃ node, after.services service = some node := by
  obtain ⟨node, found⟩ := Option.isSome_iff_exists.mp serves
  have there := kinOf_of found
  rw [← alike.kin] at there
  obtain ⟨other, found_after, -⟩ := exists_of_kinOf there
  exact ⟨other, found_after⟩

/-- There is room for one more connection of a service. -/
def HasRoom (heap : ServiceHeap) (service : Nat) : Prop :=
  ∃ node, heap.services service = some node ∧ node.connections.length < node.connectionsSize

private theorem le_of_expandcalloc {capacity newcapacity size : Nat} {reallocated : Bool}
    (expanded : expandcalloc capacity newcapacity reallocated = some size) :
    newcapacity ≤ size := by
  simp only [expandcalloc] at expanded
  split at expanded
  · obtain rfl := Option.some.inj expanded
    assumption
  · split at expanded
    · obtain rfl := Option.some.inj expanded
      exact Nat.le_max_right _ _
    · cases expanded

/-- Making room succeeds unless memory is short. -/
theorem Fits.makeRoom {heap : ServiceHeap} {holds : Nat → Option Nat} (fits : heap.Fits holds)
    {service : Nat} (serves : heap.Serves service) (reallocated : Bool) :
    heap.makeRoom service reallocated = .ok none ∨
      ∃ roomy, heap.makeRoom service reallocated = .ok (some roomy) ∧ roomy.Fits holds ∧
        Alike heap roomy ∧ roomy.HasRoom service := by
  obtain ⟨node, found⟩ := Option.isSome_iff_exists.mp serves
  simp only [ServiceHeap.makeRoom, get_of found, bind, Except.bind]
  cases expanded : expandcalloc node.connectionsSize (node.connections.length + 1) reallocated with
  | none => exact .inl rfl
  | some size =>
      have enough := le_of_expandcalloc expanded
      have alike : Alike heap (heap.put service { node with connectionsSize := size }) :=
        alike_put found rfl rfl rfl
      refine .inr ⟨_, rfl, ⟨?_, ?_⟩, alike, ⟨_, Function.update_self .., enough⟩⟩
      · rw [rosterOf_put]
        exact fits.members.resize (rosterOf_of found) (Nat.le_of_succ_le enough)
      · rw [alike.kin]
        exact fits.families

/-- A connection can be removed from the array that holds it. -/
theorem Fits.removeConnection {heap : ServiceHeap} {holds : Nat → Option Nat}
    (fits : heap.Fits holds) {service connection : Nat}
    (holding : holds connection = some service) :
    ∃ removed, heap.removeConnectionFromService service connection = .ok removed ∧
      removed.Fits (Function.update holds connection none) ∧ Alike heap removed ∧
      ∀ other, heap.HasRoom other → removed.HasRoom other := by
  obtain ⟨node, found, once⟩ := fits.exists_roster holding
  have member : connection ∈ node.connections := List.count_pos_iff.mp (by omega)
  have alike : Alike heap
      (heap.put service { node with connections := node.connections.erase connection }) :=
    alike_put found rfl rfl rfl
  refine ⟨_, ?_, ⟨?_, ?_⟩, alike, ?_⟩
  · simp [removeConnectionFromService, get_of found, bind, Except.bind, member]
    rfl
  · rw [rosterOf_put]
    exact fits.members.remove (rosterOf_of found) holding
  · rw [alike.kin]
    exact fits.families
  · rintro other ⟨other_node, other_found, room⟩
    by_cases same : other = service
    · subst same
      obtain rfl : other_node = node := Option.some.inj (other_found.symm.trans found)
      exact ⟨_, Function.update_self .., lt_of_le_of_lt List.length_erase_le room⟩
    · exact ⟨other_node, by simp [put, same, other_found], room⟩

/-- A connection that no array holds can be added where there is room. -/
theorem Fits.addToService {heap : ServiceHeap} {holds : Nat → Option Nat} (fits : heap.Fits holds)
    {service connection : Nat} (unheld : holds connection = none)
    (has_room : heap.HasRoom service) : ∃ added, heap.addToService service connection = .ok added ∧
      added.Fits (Function.update holds connection (some service)) ∧ Alike heap added := by
  obtain ⟨node, found, room⟩ := has_room
  have alike : Alike heap
      (heap.put service { node with connections := node.connections ++ [connection] }) :=
    alike_put found rfl rfl rfl
  refine ⟨_, ?_, ⟨?_, ?_⟩, alike⟩
  · simp [ServiceHeap.addToService, get_of found, bind, Except.bind, room]
    rfl
  · rw [rosterOf_put]
    exact fits.members.add (rosterOf_of found) unheld room
  · rw [alike.kin]
    exact fits.families

/-- Destroying a live connection succeeds. -/
theorem Sound.destroyConnection {heap : ServiceHeap} (sound : heap.Sound) {connection : Nat}
    (lives : heap.Lives connection) :
    ∃ next, heap.destroyConnection connection = .ok next ∧ next.Sound := by
  obtain ⟨service, holding⟩ := Option.isSome_iff_exists.mp lives
  obtain ⟨removed, removes, fits, alike, -⟩ := Fits.removeConnection sound holding
  refine ⟨removed.point connection none, ?_, ?_⟩
  · simp only [ServiceHeap.destroyConnection, serviceOf, holding, bind, Except.bind, removes]
    rfl
  · rw [Sound, point, alike.connections]
    exact ⟨fits.members, fits.families⟩

/-- Transferring a live connection moves it, unless memory is short. -/
theorem Sound.transfer {heap : ServiceHeap} (sound : heap.Sound) {connection service : Nat}
    (lives : heap.Lives connection) (serves : heap.Serves service) (reallocated : Bool) :
    heap.transfer connection service reallocated = .ok (false, heap) ∨
      ∃ next, heap.transfer connection service reallocated = .ok (true, next) ∧ next.Sound ∧
        next.connections = Function.update heap.connections connection (some service) ∧
        next.kinOf = heap.kinOf := by
  obtain ⟨current, holding⟩ := Option.isSome_iff_exists.mp lives
  rcases Fits.makeRoom sound serves reallocated with short | ⟨roomy, makes, fits, alike, room⟩
  · left
    simp only [ServiceHeap.transfer, short, bind, Except.bind]
    rfl
  · right
    obtain ⟨removed, removes, fits, alike_removed, keeps_room⟩ := fits.removeConnection holding
    obtain ⟨added, adds, fits, alike_added⟩ :=
      fits.addToService (Function.update_self ..) (keeps_room service room)
    rw [Function.update_idem] at fits
    have pointers : (added.point connection (some service)).connections =
        Function.update heap.connections connection (some service) := by
      rw [point, alike_added.connections, alike_removed.connections, alike.connections]
    refine ⟨added.point connection (some service), ?_, ?_, pointers, ?_⟩
    · have current_of : roomy.serviceOf connection = .ok current := by
        rw [serviceOf, alike.connections, holding]
      simp only [ServiceHeap.transfer, makes, bind, Except.bind, current_of, removes, adds]
      rfl
    · rw [Sound, pointers]
      exact ⟨fits.members, fits.families⟩
    · rw [kinOf_point, alike_added.kin, alike_removed.kin, alike.kin]

/-- Faults at which an operation may stop: failed assertions and null pointers. -/
def Stops (fault : Fault) : Prop :=
  (∃ expression, fault = .assertion expression) ∨ fault = .nullDereference

/-- Preparing a connection gives it a pointer, or changes at most a capacity. -/
theorem Sound.newConnection {heap : ServiceHeap} (sound : heap.Sound) {service : Nat}
    (serves : heap.Serves service) (connection : Nat) (setup : Setup) :
    ∃ created prepared, heap.newConnection service connection setup = .ok (created, prepared) ∧
      prepared.Fits heap.connections ∧
      (created = false → prepared.Sound) ∧
      (created = true → prepared.HasRoom service ∧
        prepared.connections = Function.update heap.connections connection (some service)) := by
  obtain ⟨node, found⟩ := Option.isSome_iff_exists.mp serves
  have room := sound.members.room service _ (rosterOf_of found)
  simp only [ServiceHeap.newConnection, get_of found, bind, Except.bind, Nat.not_lt.mpr room,
    if_false, pure, Except.pure]
  rcases Fits.makeRoom sound serves setup.reallocated with
    short | ⟨roomy, makes, fits, alike, has_room⟩
  · rw [short]
    exact ⟨false, heap, rfl, sound, fun _ => sound, fun made => nomatch made⟩
  · rw [makes]
    have roomy_sound : roomy.Sound := by
      rw [Sound, alike.connections]
      exact fits
    cases setup.allocated with
    | false => exact ⟨false, roomy, rfl, fits, fun _ => roomy_sound, fun made => nomatch made⟩
    | true =>
        refine ⟨true, roomy.point connection (some service), rfl, ⟨fits.members, fits.families⟩,
          (fun made => nomatch made), fun _ => ⟨has_room, ?_⟩⟩
        rw [point, alike.connections]

/-- A connection that came to nothing leaves no trace. -/
theorem Fits.abandon {heap prepared : ServiceHeap} (fits : prepared.Fits heap.connections)
    {connection service : Nat} (dead : ¬heap.Lives connection)
    (pointers : prepared.connections =
      Function.update heap.connections connection (some service)) :
    (prepared.point connection none).Sound := by
  have absent : heap.connections connection = none := by
    simpa [Lives, Option.isSome_iff_exists, Option.eq_none_iff_forall_ne_some] using dead
  have back : (prepared.point connection none).connections = heap.connections := by
    rw [point, pointers, Function.update_idem]
    exact update_of_eq absent
  rw [Sound, back]
  exact ⟨fits.members, fits.families⟩

/-- A new connection is entered into the array of its service. -/
theorem Fits.enter {heap prepared : ServiceHeap} (fits : prepared.Fits heap.connections)
    {connection service : Nat} (dead : ¬heap.Lives connection) (room : prepared.HasRoom service)
    (pointers : prepared.connections =
      Function.update heap.connections connection (some service)) :
    ∃ added, prepared.addToService service connection = .ok added ∧ added.Sound ∧
      added.Lives connection := by
  have absent : heap.connections connection = none := by
    simpa [Lives, Option.isSome_iff_exists, Option.eq_none_iff_forall_ne_some] using dead
  obtain ⟨added, adds, fits, alike⟩ := fits.addToService absent room
  rw [← pointers, ← alike.connections] at fits
  refine ⟨added, adds, fits, ?_⟩
  rw [Lives, alike.connections, pointers, Function.update_self]
  rfl

theorem Sound.accept {heap : ServiceHeap} (sound : heap.Sound) {service connection : Nat}
    (serves : heap.Serves service) (dead : ¬heap.Lives connection) (setup : Setup) :
    FallibleRun.Outcome Sound Stops (heap.accept service connection setup) := by
  obtain ⟨created, prepared, prepares, fits, stays, made⟩ :=
    sound.newConnection serves connection setup
  simp only [ServiceHeap.accept, prepares, bind, Except.bind, pure, Except.pure]
  cases created with
  | false => exact stays rfl
  | true =>
      obtain ⟨room, pointers⟩ := made rfl
      cases setup.arrived with
      | false => exact fits.abandon dead pointers
      | true =>
          obtain ⟨added, adds, added_sound, lives⟩ := fits.enter dead room pointers
          simp only [adds, if_true]
          cases setup.registered with
          | true => exact added_sound
          | false =>
              obtain ⟨next, destroys, -⟩ := added_sound.destroyConnection lives
              simp only [destroys]
              exact .inl ⟨_, rfl⟩

theorem Sound.acceptFile {heap : ServiceHeap} (sound : heap.Sound) {service connection : Nat}
    (serves : heap.Serves service) (dead : ¬heap.Lives connection) (setup : Setup) :
    FallibleRun.Outcome Sound Stops (heap.acceptFile service connection setup) := by
  obtain ⟨created, prepared, prepares, fits, stays, made⟩ :=
    sound.newConnection serves connection setup
  simp only [ServiceHeap.acceptFile, prepares, bind, Except.bind, pure, Except.pure]
  cases created with
  | false => exact .inr rfl
  | true =>
      obtain ⟨room, pointers⟩ := made rfl
      cases setup.arrived && setup.registered with
      | false => exact fits.abandon dead pointers
      | true =>
          obtain ⟨added, adds, added_sound, -⟩ := fits.enter dead room pointers
          simp only [adds, if_true]
          exact added_sound

/-! ## Transfers by name -/

/-- The service at the head of a family. -/
def rootOf (heap : ServiceHeap) (service : Nat) : Nat :=
  ((heap.services service).bind ServiceNode.parent).getD service

def SameFamily (heap : ServiceHeap) (left right : Nat) : Prop :=
  heap.rootOf left = heap.rootOf right

def Named (heap : ServiceHeap) (service : Nat) (name : Text) : Prop :=
  ∃ node known, heap.services service = some node ∧ node.name = some known ∧
    known.strcasecmp name = .eq

/-- A search among named services finds one with the name, or there is none. -/
theorem findNamed_spec {heap : ServiceHeap} (name : Text) {services : List Nat}
    (have_names : ∀ service ∈ services, ∃ node, heap.services service = some node ∧
      node.name.isSome) :
    (heap.findNamed name services = .ok none ∧ ∀ service ∈ services, ¬heap.Named service name) ∨
      ∃ found ∈ services, heap.findNamed name services = .ok (some found) ∧
        heap.Named found name := by
  induction services with
  | nil => exact .inl ⟨rfl, fun _ member => nomatch member⟩
  | cons service services ih =>
      obtain ⟨node, found, has_name⟩ := have_names service List.mem_cons_self
      obtain ⟨known, known_eq⟩ := Option.isSome_iff_exists.mp has_name
      simp only [findNamed, get_of found, bind, Except.bind, known_eq]
      by_cases equal : known.strcasecmp name = .eq
      · right
        refine ⟨service, List.mem_cons_self, ?_, node, known, found, known_eq, equal⟩
        rw [if_pos equal]
        rfl
      · rw [if_neg equal]
        have differs : ¬heap.Named service name := by
          rintro ⟨other, other_name, other_found, other_name_eq, other_equal⟩
          obtain rfl : other = node := Option.some.inj (other_found.symm.trans found)
          obtain rfl : other_name = known := Option.some.inj (other_name_eq.symm.trans known_eq)
          exact equal other_equal
        rcases ih fun other member => have_names other (List.mem_cons_of_mem _ member) with
          ⟨nothing, none_named⟩ | ⟨target, member, finds, named⟩
        · refine .inl ⟨nothing, fun other member => ?_⟩
          rcases List.mem_cons.mp member with rfl | later
          · exact differs
          · exact none_named other later
        · exact .inr ⟨target, List.mem_cons_of_mem _ member, finds, named⟩

/-- A connection is transferred by name: it moves to a service of its family with that name, or
nothing is changed. -/
def TransfersTo (heap : ServiceHeap) (connection service : Nat) (name : Text)
    (result : Except Fault (Bool × ServiceHeap)) : Prop :=
  (∃ target next, result = .ok (true, next) ∧ heap.SameFamily service target ∧
    heap.Named target name ∧ next.Sound ∧ next.kinOf = heap.kinOf ∧
    next.connections = Function.update heap.connections connection (some target)) ∨
  result = .ok (false, heap)

/-- The head of the family of a service, with its children. -/
theorem Families.root {heap : ServiceHeap} (families : Families heap.kinOf) {service : Nat}
    {node : ServiceNode} (found : heap.services service = some node) :
    ∃ rootNode, heap.services (node.parent.getD service) = some rootNode ∧
      rootNode.parent = none ∧
      (node.name.isSome → rootNode.name.isSome) ∧
      ∀ child ∈ rootNode.children, ∃ childNode, heap.services child = some childNode ∧
        childNode.parent = some (node.parent.getD service) ∧ childNode.name.isSome := by
  have children : ∀ root rootNode, heap.services root = some rootNode →
      ∀ child ∈ rootNode.children, ∃ childNode, heap.services child = some childNode ∧
        childNode.parent = some root ∧ childNode.name.isSome := by
    intro root rootNode root_found child member
    obtain ⟨other, there, parent, name⟩ :=
      families.children root _ child (kinOf_of root_found) member
    obtain ⟨childNode, child_found, rfl⟩ := exists_of_kinOf there
    exact ⟨childNode, child_found, parent, name⟩
  cases parent : node.parent with
  | none => exact ⟨node, found, parent, id, children service node found⟩
  | some root =>
      obtain ⟨other, there, first, member⟩ :=
        families.parents service _ root (kinOf_of found) parent
      obtain ⟨rootNode, root_found, rfl⟩ := exists_of_kinOf there
      refine ⟨rootNode, root_found, first, fun _ => ?_, children root rootNode root_found⟩
      exact families.named root _ there (List.ne_nil_of_mem member)

private theorem Families.parentless {kin : Nat → Option Kin} (families : Families kin)
    {service : Nat} {own : Kin} (there : kin service = some own) (nameless : own.name = none) :
    own.parent = none := by
  cases parent : own.parent with
  | none => rfl
  | some root =>
      obtain ⟨rootKin, root_there, -, member⟩ := families.parents service own root there parent
      obtain ⟨again, again_there, -, has_name⟩ :=
        families.children root rootKin service root_there member
      rw [Option.some.inj (again_there.symm.trans there), nameless] at has_name
      cases has_name

/-- A transfer by name on a connection of a nameless service compares a name that is not there. -/
theorem Sound.transferByName_nameless {heap : ServiceHeap} (sound : heap.Sound)
    {connection service : Nat} {node : ServiceNode}
    (points : heap.connections connection = some service)
    (found : heap.services service = some node) (nameless : node.name = none) (name : Text)
    (reallocated : Bool) :
    heap.transferByName connection name reallocated = .error .nullDereference := by
  have service_of : heap.serviceOf connection = .ok service := by rw [serviceOf, points]
  have no_parent : node.parent = none := sound.families.parentless (kinOf_of found) nameless
  simp only [transferByName, service_of, get_of found, bind, Except.bind, no_parent,
    Option.getD_none, findNamed, nameless]
  rfl

/-- A transfer by name does what it should on the connections of named services, and on no
others. -/
theorem Sound.transferByName_iff {heap : ServiceHeap} (sound : heap.Sound)
    {connection service : Nat} {node : ServiceNode}
    (points : heap.connections connection = some service)
    (found : heap.services service = some node) (name : Text) (reallocated : Bool) :
    heap.TransfersTo connection service name (heap.transferByName connection name reallocated) ↔
      node.name.isSome := by
  obtain ⟨rootNode, root_found, first, root_name, children⟩ := sound.families.root found
  have service_of : heap.serviceOf connection = .ok service := by rw [serviceOf, points]
  have root_of : ∀ target targetNode, heap.services target = some targetNode →
      heap.rootOf target = targetNode.parent.getD target := by
    intro target targetNode target_found
    rw [rootOf, target_found]
    rfl
  constructor
  · intro transfers
    by_contra nameless
    have no_name : node.name = none := Option.not_isSome_iff_eq_none.mp nameless
    rw [sound.transferByName_nameless points found no_name] at transfers
    rcases transfers with ⟨_, _, impossible, -⟩ | impossible
    · cases impossible
    · cases impossible
  · intro has_name
    have have_names : ∀ other ∈ node.parent.getD service :: rootNode.children,
        ∃ otherNode, heap.services other = some otherNode ∧ otherNode.name.isSome := by
      intro other member
      rcases List.mem_cons.mp member with rfl | child
      · exact ⟨rootNode, root_found, root_name has_name⟩
      · obtain ⟨childNode, child_found, -, child_name⟩ := children other child
        exact ⟨childNode, child_found, child_name⟩
    simp only [transferByName, service_of, get_of found, get_of root_found, bind, Except.bind]
    rcases findNamed_spec name have_names with ⟨nothing, -⟩ | ⟨target, member, finds, named⟩
    · rw [nothing]
      exact .inr rfl
    · rw [finds]
      have lives : heap.Lives connection := by rw [Lives, points]; rfl
      have serves : heap.Serves target := by
        obtain ⟨targetNode, target_found, -⟩ := have_names target member
        rw [Serves, target_found]
        rfl
      have related : heap.SameFamily service target := by
        rw [SameFamily, root_of service node found]
        rcases List.mem_cons.mp member with rfl | child
        · rw [root_of _ rootNode root_found, first]
          rfl
        · obtain ⟨childNode, child_found, child_parent, -⟩ := children target child
          rw [root_of target childNode child_found, child_parent]
          rfl
      rcases sound.transfer lives serves reallocated with
        short | ⟨next, moves, next_sound, pointers, kin⟩
      · exact .inr short
      · exact .inl ⟨target, next, moves, related, named, next_sound, kin, pointers⟩

/-! ## Services come and go -/

/-- A new service without relatives. -/
theorem Families.create {kin : Nat → Option Kin} (families : Families kin) {service : Nat}
    (absent : kin service = none) (name : Option Text) :
    Families (Function.update kin service (some ⟨name, none, []⟩)) := by
  have elsewhere : ∀ other own, kin other = some own →
      Function.update kin service (some ⟨name, none, []⟩) other = some own := by
    intro other own there
    have different : other ≠ service := by
      rintro rfl
      cases absent.symm.trans there
    rw [Function.update_of_ne different, there]
  have earlier : ∀ other own,
      Function.update kin service (some ⟨name, none, []⟩) other = some own →
      kin other = some own ∨ own = ⟨name, none, []⟩ := by
    intro other own there
    by_cases same : other = service
    · rw [same, Function.update_self] at there
      exact .inr (Option.some.inj there).symm
    · rw [Function.update_of_ne same] at there
      exact .inl there
  constructor
  · intro other own root there parent
    rcases earlier other own there with before | rfl
    · obtain ⟨rootKin, root_there, first, member⟩ := families.parents other own root before parent
      exact ⟨rootKin, elsewhere root rootKin root_there, first, member⟩
    · cases parent
  · intro other own child there member
    rcases earlier other own there with before | rfl
    · obtain ⟨childKin, child_there, parent, has_name⟩ :=
        families.children other own child before member
      exact ⟨childKin, elsewhere child childKin child_there, parent, has_name⟩
    · cases member
  · intro other own there
    rcases earlier other own there with before | rfl
    · exact families.nodup other own before
    · exact List.nodup_nil
  · intro other own there related
    rcases earlier other own there with before | rfl
    · exact families.named other own before related
    · exact absurd rfl related

/-- A new service at the head of the children of a parent. -/
theorem Families.adopt {kin : Nat → Option Kin} (families : Families kin) {service root : Nat}
    {rootKin : Kin} (absent : kin service = none) (there : kin root = some rootKin)
    (first : rootKin.parent = none) (has_name : rootKin.name.isSome) (name : Text) :
    Families (Function.update (Function.update kin service (some ⟨some name, some root, []⟩)) root
      (some ⟨rootKin.name, none, service :: rootKin.children⟩)) := by
  have apart : service ≠ root := by
    rintro rfl
    cases absent.symm.trans there
  have unlisted : service ∉ rootKin.children := by
    intro member
    obtain ⟨other, present, -⟩ := families.children root rootKin service there member
    cases absent.symm.trans present
  generalize grown_eq : Function.update
    (Function.update kin service (some ⟨some name, some root, []⟩)) root
      (some ⟨rootKin.name, none, service :: rootKin.children⟩) = grown
  have at_root : grown root = some ⟨rootKin.name, none, service :: rootKin.children⟩ := by
    rw [← grown_eq, Function.update_self]
  have at_service : grown service = some ⟨some name, some root, []⟩ := by
    rw [← grown_eq, Function.update_of_ne apart, Function.update_self]
  have elsewhere : ∀ other, other ≠ root → other ≠ service → grown other = kin other := by
    intro other not_root not_service
    rw [← grown_eq, Function.update_of_ne not_root, Function.update_of_ne not_service]
  have not_service : ∀ other own, kin other = some own → other ≠ service := by
    rintro other own present rfl
    cases absent.symm.trans present
  constructor
  · intro other own parent present parent_eq
    by_cases is_root : other = root
    · subst is_root
      obtain rfl := Option.some.inj (present.symm.trans at_root)
      cases parent_eq
    by_cases is_service : other = service
    · subst is_service
      obtain rfl := Option.some.inj (present.symm.trans at_service)
      obtain rfl := Option.some.inj parent_eq
      exact ⟨_, at_root, rfl, List.mem_cons_self⟩
    rw [elsewhere other is_root is_service] at present
    obtain ⟨parentKin, parent_there, parent_first, member⟩ :=
      families.parents other own parent present parent_eq
    by_cases same : parent = root
    · subst same
      obtain rfl := Option.some.inj (parent_there.symm.trans there)
      exact ⟨_, at_root, rfl, List.mem_cons_of_mem _ member⟩
    · exact ⟨parentKin, by rw [elsewhere parent same (not_service _ _ parent_there), parent_there],
        parent_first, member⟩
  · intro other own child present member
    have kept : ∀ known childKin, kin known = some childKin → childKin.parent = some other →
        other = root ∨ kin other ≠ none → grown known = some childKin := by
      intro known childKin known_there known_parent _
      have not_root : known ≠ root := by
        rintro rfl
        rw [Option.some.inj (known_there.symm.trans there), first] at known_parent
        cases known_parent
      rw [elsewhere known not_root (not_service _ _ known_there), known_there]
    by_cases is_root : other = root
    · subst is_root
      obtain rfl := Option.some.inj (present.symm.trans at_root)
      rcases List.mem_cons.mp member with rfl | earlier
      · exact ⟨_, at_service, rfl, rfl⟩
      · obtain ⟨childKin, child_there, parent, child_name⟩ :=
          families.children other rootKin child there earlier
        exact ⟨childKin, kept child childKin child_there parent (.inl rfl), parent, child_name⟩
    by_cases is_service : other = service
    · subst is_service
      obtain rfl := Option.some.inj (present.symm.trans at_service)
      cases member
    rw [elsewhere other is_root is_service] at present
    obtain ⟨childKin, child_there, parent, child_name⟩ :=
      families.children other own child present member
    refine ⟨childKin, kept child childKin child_there parent (.inr ?_), parent, child_name⟩
    rw [present]
    exact Option.some_ne_none own
  · intro other own present
    by_cases is_root : other = root
    · subst is_root
      obtain rfl := Option.some.inj (present.symm.trans at_root)
      exact List.nodup_cons.mpr ⟨unlisted, families.nodup other rootKin there⟩
    by_cases is_service : other = service
    · subst is_service
      obtain rfl := Option.some.inj (present.symm.trans at_service)
      exact List.nodup_nil
    rw [elsewhere other is_root is_service] at present
    exact families.nodup other own present
  · intro other own present related
    by_cases is_root : other = root
    · subst is_root
      obtain rfl := Option.some.inj (present.symm.trans at_root)
      exact has_name
    by_cases is_service : other = service
    · subst is_service
      obtain rfl := Option.some.inj (present.symm.trans at_service)
      exact absurd rfl related
    rw [elsewhere other is_root is_service] at present
    exact families.named other own present related

private theorem Families.childless {kin : Nat → Option Kin} (families : Families kin)
    {service root : Nat} {own : Kin} (there : kin service = some own)
    (parent : own.parent = some root) {other : Nat} {otherKin : Kin}
    (other_there : kin other = some otherKin) :
    otherKin.parent ≠ some service := by
  intro child
  obtain ⟨again, again_there, first, -⟩ := families.parents other otherKin service other_there child
  rw [Option.some.inj (again_there.symm.trans there), parent] at first
  cases first

/-- A child leaves its parent and goes away. -/
theorem Families.leave {kin : Nat → Option Kin} (families : Families kin) {service root : Nat}
    {own rootKin : Kin} (there : kin service = some own) (parent : own.parent = some root)
    (root_there : kin root = some rootKin) :
    Families (Function.update
      (Function.update kin root
        (some ⟨rootKin.name, rootKin.parent, rootKin.children.erase service⟩)) service none) := by
  have root_first : rootKin.parent = none := by
    obtain ⟨other, other_there, first, -⟩ := families.parents service own root there parent
    rw [← Option.some.inj (other_there.symm.trans root_there), first]
  have apart : root ≠ service := by
    rintro rfl
    rw [← Option.some.inj (there.symm.trans root_there), parent] at root_first
    cases root_first
  have root_nodup := families.nodup root rootKin root_there
  generalize left_eq : Function.update
    (Function.update kin root
      (some ⟨rootKin.name, rootKin.parent, rootKin.children.erase service⟩)) service none = left
  have at_root : left root =
      some ⟨rootKin.name, rootKin.parent, rootKin.children.erase service⟩ := by
    rw [← left_eq, Function.update_of_ne apart, Function.update_self]
  have elsewhere : ∀ other, other ≠ root → other ≠ service → left other = kin other := by
    intro other not_root not_service
    rw [← left_eq, Function.update_of_ne not_service, Function.update_of_ne not_root]
  have present : ∀ other otherKin, left other = some otherKin → other ≠ service := by
    rintro other otherKin other_there rfl
    rw [← left_eq, Function.update_self] at other_there
    cases other_there
  -- What is left is as before, except for the children of the parent.
  have earlier : ∀ other otherKin, left other = some otherKin → ∃ before, kin other = some before ∧
      otherKin.parent = before.parent ∧ otherKin.name = before.name ∧
      otherKin.children = before.children.erase service := by
    intro other otherKin other_there
    by_cases is_root : other = root
    · subst is_root
      obtain rfl := Option.some.inj (other_there.symm.trans at_root)
      exact ⟨rootKin, root_there, rfl, rfl, rfl⟩
    · rw [elsewhere other is_root (present other otherKin other_there)] at other_there
      refine ⟨otherKin, other_there, rfl, rfl, (List.erase_of_not_mem fun member => ?_).symm⟩
      obtain ⟨again, again_there, again_parent, -⟩ :=
        families.children other otherKin service other_there member
      rw [Option.some.inj (again_there.symm.trans there), parent] at again_parent
      exact is_root (Option.some.inj again_parent).symm
  have later : ∀ other before, other ≠ service → kin other = some before → ∃ otherKin,
      left other = some otherKin ∧ otherKin.parent = before.parent ∧ otherKin.name = before.name ∧
      otherKin.children = before.children.erase service := by
    intro other before not_service other_there
    by_cases is_root : other = root
    · subst is_root
      obtain rfl := Option.some.inj (other_there.symm.trans root_there)
      exact ⟨_, at_root, rfl, rfl, rfl⟩
    · have same := elsewhere other is_root not_service
      rw [other_there] at same
      obtain ⟨again, again_there, parent_eq, name_eq, children_eq⟩ := earlier other before same
      obtain rfl := Option.some.inj (again_there.symm.trans other_there)
      exact ⟨again, same, rfl, rfl, children_eq⟩
  constructor
  · intro other otherKin otherRoot other_there other_parent
    obtain ⟨before, before_there, parent_eq, -, -⟩ := earlier other otherKin other_there
    rw [parent_eq] at other_parent
    obtain ⟨again, again_there, first, member⟩ :=
      families.parents other before otherRoot before_there other_parent
    have not_service : otherRoot ≠ service := by
      rintro rfl
      exact families.childless there parent before_there other_parent
    obtain ⟨rootAfter, after_there, parent_after, -, children_after⟩ :=
      later otherRoot again not_service again_there
    refine ⟨rootAfter, after_there, parent_after.trans first, ?_⟩
    rw [children_after]
    exact (List.mem_erase_of_ne (present other otherKin other_there)).mpr member
  · intro other otherKin child other_there member
    obtain ⟨before, before_there, -, -, children_eq⟩ := earlier other otherKin other_there
    rw [children_eq] at member
    have not_service : child ≠ service := by
      rintro rfl
      exact (families.nodup other before before_there).not_mem_erase member
    obtain ⟨childKin, child_there, child_parent, child_name⟩ :=
      families.children other before child before_there (List.mem_of_mem_erase member)
    obtain ⟨childAfter, after_there, parent_after, name_after, -⟩ :=
      later child childKin not_service child_there
    exact ⟨childAfter, after_there, parent_after.trans child_parent, name_after ▸ child_name⟩
  · intro other otherKin other_there
    obtain ⟨before, before_there, -, -, children_eq⟩ := earlier other otherKin other_there
    rw [children_eq]
    exact (families.nodup other before before_there).erase service
  · intro other otherKin other_there related
    obtain ⟨before, before_there, -, name_eq, children_eq⟩ := earlier other otherKin other_there
    rw [name_eq]
    refine families.named other before before_there fun alone => related ?_
    rw [children_eq, alone]
    rfl

/-- A service without its parent and children. -/
def Kin.alone (own : Kin) : Kin := ⟨own.name, none, []⟩

/-- Orphaning some services takes their relatives from them and changes nothing else. -/
theorem orphan_spec {heap : ServiceHeap} {children : List Nat}
    (live : ∀ child ∈ children, heap.Serves child) :
    ∃ next, heap.orphan children = .ok next ∧ next.connections = heap.connections ∧
      next.rosterOf = heap.rosterOf ∧
      ∀ service, next.kinOf service =
        if service ∈ children then (heap.kinOf service).map Kin.alone else heap.kinOf service := by
  induction children generalizing heap with
  | nil => exact ⟨heap, rfl, rfl, rfl, fun service => rfl⟩
  | cons child children ih =>
      obtain ⟨node, found⟩ := Option.isSome_iff_exists.mp (live child List.mem_cons_self)
      let lonely := heap.put child { node with parent := none, children := [] }
      have still_live : ∀ other ∈ children, lonely.Serves other := by
        intro other member
        have serves := live other (List.mem_cons_of_mem _ member)
        by_cases same : other = child
        · simp [lonely, Serves, put, same]
        · simpa [lonely, Serves, put, same] using serves
      obtain ⟨next, orphans, pointers, rosters, kin⟩ := ih still_live
      refine ⟨next, ?_, pointers, ?_, fun service => ?_⟩
      · simp only [orphan, get_of found, bind, Except.bind]
        exact orphans
      · have same := rosterOf_of found
        rw [rosters, rosterOf_put]
        exact update_of_eq same
      · have before : lonely.kinOf service =
            if service = child then (heap.kinOf service).map Kin.alone else heap.kinOf service := by
          by_cases same : service = child
          · rw [same, if_pos rfl, kinOf_put, Function.update_self, kinOf_of found]
            rfl
          · rw [if_neg same, kinOf_put, Function.update_of_ne same]
        rw [kin service, before]
        by_cases same : service = child
        · subst same
          simp only [if_true, List.mem_cons, true_or]
          split
          · cases heap.kinOf service <;> rfl
          · rfl
        · simp only [same, if_false, List.mem_cons, false_or]

/-- A parent goes away and leaves its children alone. -/
theorem Families.orphan {kin orphaned : Nat → Option Kin} (families : Families kin) {service : Nat}
    {own : Kin} (there : kin service = some own) (first : own.parent = none)
    (orphans : ∀ other, orphaned other =
      if other ∈ own.children then (kin other).map Kin.alone else kin other) :
    Families (Function.update orphaned service none) := by
  generalize left_eq : Function.update orphaned service none = left
  have present : ∀ other otherKin, left other = some otherKin → other ≠ service := by
    rintro other otherKin other_there rfl
    rw [← left_eq, Function.update_self] at other_there
    cases other_there
  have cases_of : ∀ other otherKin, left other = some otherKin →
      otherKin.parent = none ∧ otherKin.children = [] ∨
      kin other = some otherKin ∧ otherKin.parent ≠ some service := by
    intro other otherKin other_there
    have not_service := present other otherKin other_there
    rw [← left_eq, Function.update_of_ne not_service, orphans other] at other_there
    split at other_there
    · obtain ⟨before, -, rfl⟩ := Option.map_eq_some_iff.mp other_there
      exact .inl ⟨rfl, rfl⟩
    · rename_i stranger
      refine .inr ⟨other_there, fun child => stranger ?_⟩
      obtain ⟨again, again_there, -, member⟩ :=
        families.parents other otherKin service other_there child
      obtain rfl := Option.some.inj (again_there.symm.trans there)
      exact member
  have kept : ∀ other otherKin, other ≠ service → kin other = some otherKin →
      otherKin.parent ≠ some service → left other = some otherKin := by
    intro other otherKin not_service other_there stranger
    rw [← left_eq, Function.update_of_ne not_service, orphans other, if_neg, other_there]
    intro member
    obtain ⟨again, again_there, child, -⟩ := families.children service own other there member
    obtain rfl := Option.some.inj (again_there.symm.trans other_there)
    exact stranger child
  constructor
  · intro other otherKin root other_there parent
    rcases cases_of other otherKin other_there with ⟨alone, -⟩ | ⟨before, stranger⟩
    · rw [alone] at parent
      cases parent
    · obtain ⟨rootKin, root_there, root_first, member⟩ :=
        families.parents other otherKin root before parent
      refine ⟨rootKin, kept root rootKin ?_ root_there ?_, root_first, member⟩
      · rintro rfl
        exact stranger parent
      · rw [root_first]
        exact (Option.some_ne_none service).symm
  · intro other otherKin child other_there member
    rcases cases_of other otherKin other_there with ⟨-, alone⟩ | ⟨before, -⟩
    · rw [alone] at member
      cases member
    · obtain ⟨childKin, child_there, parent, child_name⟩ :=
        families.children other otherKin child before member
      have other_not := present other otherKin other_there
      refine ⟨childKin, kept child childKin ?_ child_there ?_, parent, child_name⟩
      · rintro rfl
        rw [Option.some.inj (child_there.symm.trans there), first] at parent
        cases parent
      · rw [parent]
        exact fun same => other_not (Option.some.inj same)
  · intro other otherKin other_there
    rcases cases_of other otherKin other_there with ⟨-, alone⟩ | ⟨before, -⟩
    · rw [alone]
      exact List.nodup_nil
    · exact families.nodup other otherKin before
  · intro other otherKin other_there related
    rcases cases_of other otherKin other_there with ⟨-, alone⟩ | ⟨before, -⟩
    · exact absurd alone related
    · exact families.named other otherKin before related

/-- A service without connections comes into being. -/
theorem Members.create {roster : Nat → Option Roster} {holds : Nat → Option Nat}
    (members : Members roster holds) {service : Nat} (absent : roster service = none) :
    Members (Function.update roster service (some ⟨[], 0⟩)) holds where
  once := by
    intro connection other holding
    obtain ⟨held, there, once⟩ := members.once connection other holding
    have different : other ≠ service := by
      rintro rfl
      cases absent.symm.trans there
    exact ⟨held, by rw [Function.update_of_ne different, there], once⟩
  owned := by
    intro other held connection there member
    by_cases same : other = service
    · rw [same, Function.update_self] at there
      obtain rfl := Option.some.inj there
      cases member
    · rw [Function.update_of_ne same] at there
      exact members.owned other held connection there member
  room := by
    intro other held there
    by_cases same : other = service
    · rw [same, Function.update_self] at there
      obtain rfl := Option.some.inj there
      exact Nat.le_refl 0
    · rw [Function.update_of_ne same] at there
      exact members.room other held there

/-- A service without connections goes away. -/
theorem Members.vacate {roster : Nat → Option Roster} {holds : Nat → Option Nat}
    (members : Members roster holds) {service : Nat} {held : Roster}
    (found : roster service = some held) (vacant : held.connections = []) :
    Members (Function.update roster service none) holds where
  once := by
    intro connection other holding
    obtain ⟨array, there, once⟩ := members.once connection other holding
    have different : other ≠ service := by
      rintro rfl
      obtain rfl := Option.some.inj (there.symm.trans found)
      rw [vacant] at once
      cases once
    exact ⟨array, by rw [Function.update_of_ne different, there], once⟩
  owned := by
    intro other array connection there member
    by_cases same : other = service
    · rw [same, Function.update_self] at there
      cases there
    · rw [Function.update_of_ne same] at there
      exact members.owned other array connection there member
  room := by
    intro other array there
    by_cases same : other = service
    · rw [same, Function.update_self] at there
      cases there
    · rw [Function.update_of_ne same] at there
      exact members.room other array there

theorem not_serves {heap : ServiceHeap} {service : Nat} (free : ¬heap.Serves service) :
    heap.services service = none :=
  Option.not_isSome_iff_eq_none.mp free

theorem Sound.createService {heap : ServiceHeap} (sound : heap.Sound) {service : Nat}
    {parent : Option Nat} (free : ¬heap.Serves service) (live : ∀ root ∈ parent, heap.Serves root)
    (name : Option Text) (opened : Bool) :
    FallibleRun.Outcome Sound Stops (heap.createService service name parent opened) := by
  have no_roster : heap.rosterOf service = none := by simp [rosterOf, not_serves free]
  have no_kin : heap.kinOf service = none := by simp [kinOf, not_serves free]
  cases parent with
  | none =>
      simp only [ServiceHeap.createService, FallibleRun.outcome_ok]
      cases opened with
      | false => exact sound
      | true =>
          constructor
          · simpa using sound.members.create no_roster
          · simpa using sound.families.create no_kin name
  | some root =>
      obtain ⟨rootNode, root_found⟩ := Option.isSome_iff_exists.mp (live root rfl)
      simp only [ServiceHeap.createService, get_of root_found, bind, Except.bind]
      cases first : rootNode.parent with
      | some grandparent => exact .inl ⟨_, rfl⟩
      | none =>
          cases name with
          | none => exact .inr rfl
          | some own =>
              cases root_name : rootNode.name with
              | none => exact .inr rfl
              | some other =>
                  by_cases equal : own.strcasecmp other = .eq
                  · simp only [equal, if_true]
                    exact .inl ⟨_, rfl⟩
                  · cases opened with
                    | false =>
                        simp only [equal, if_false]
                        exact sound
                    | true =>
                        simp only [equal, if_false, if_true]
                        have roster := rosterOf_of root_found
                        have apart : root ≠ service := by
                          rintro rfl
                          exact free (live root rfl)
                        constructor
                        · simp only [rosterOf_put]
                          rw [update_of_eq ((Function.update_of_ne apart _ _).trans roster)]
                          exact sound.members.create no_roster
                        · rw [kinOf_put, kinOf_put]
                          have adopted := sound.families.adopt no_kin (kinOf_of root_found) first
                            (by rw [root_name]; rfl) own
                          simpa [first, root_name] using adopted

theorem Sound.destroyService {heap : ServiceHeap} (sound : heap.Sound) {service : Nat}
    (serves : heap.Serves service) :
    FallibleRun.Outcome Sound Stops (heap.destroyService service) := by
  obtain ⟨node, found⟩ := Option.isSome_iff_exists.mp serves
  simp only [ServiceHeap.destroyService, get_of found, bind, Except.bind]
  by_cases occupied : node.connections ≠ []
  · simp only [if_pos occupied]
    exact .inl ⟨_, rfl⟩
  have vacant : node.connections = [] := not_not.mp occupied
  simp only [vacant, ne_eq, not_true_eq_false, if_false, pure, Except.pure]
  cases parent : node.parent with
  | some root =>
      obtain ⟨rootKin, root_there, first, member⟩ :=
        sound.families.parents service _ root (kinOf_of found) parent
      obtain ⟨rootNode, root_found, rfl⟩ := exists_of_kinOf root_there
      simp only [get_of root_found, not_true_eq_false, if_false, member]
      have roster := rosterOf_of root_found
      constructor
      · simp only [rosterOf_free, rosterOf_put]
        rw [update_of_eq roster]
        exact sound.members.vacate (rosterOf_of found) vacant
      · rw [kinOf_free, kinOf_put]
        exact sound.families.leave (kinOf_of found) parent root_there
  | none =>
      have live : ∀ child ∈ node.children, heap.Serves child := by
        intro child member
        obtain ⟨other, there, -⟩ :=
          sound.families.children service _ child (kinOf_of found) member
        obtain ⟨childNode, child_found, -⟩ := exists_of_kinOf there
        rw [Serves, child_found]
        rfl
      obtain ⟨next, orphans, pointers, rosters, kin⟩ := orphan_spec live
      simp only [orphans]
      constructor
      · rw [rosterOf_free, rosters]
        change Members _ next.connections
        rw [pointers]
        exact sound.members.vacate (rosterOf_of found) vacant
      · rw [kinOf_free]
        exact sound.families.orphan (kinOf_of found) parent kin

/-! ## Runs keep the members -/

theorem serves_of_points {heap : ServiceHeap} (sound : heap.Sound) {connection service : Nat}
    (points : heap.connections connection = some service) :
    ∃ node, heap.services service = some node := by
  obtain ⟨node, found, -⟩ := Fits.exists_roster sound points
  exact ⟨node, found⟩

/-- A transfer by name keeps a heap sound, or stops. -/
theorem Sound.transferByName {heap : ServiceHeap} (sound : heap.Sound) {connection : Nat}
    (lives : heap.Lives connection) (name : Text) (reallocated : Bool) :
    heap.transferByName connection name reallocated = .error .nullDereference ∨
      ∃ transferred next,
        heap.transferByName connection name reallocated = .ok (transferred, next) ∧ next.Sound ∧
          next.Lives connection := by
  obtain ⟨service, points⟩ := Option.isSome_iff_exists.mp lives
  obtain ⟨node, found⟩ := serves_of_points sound points
  by_cases has_name : node.name.isSome
  · right
    rcases (sound.transferByName_iff points found name reallocated).mpr has_name with
      ⟨target, next, moves, -, -, next_sound, -, pointers⟩ | stays
    · refine ⟨true, next, moves, next_sound, ?_⟩
      rw [Lives, pointers, Function.update_self]
      rfl
    · exact ⟨false, heap, stays, sound, lives⟩
  · exact .inl (sound.transferByName_nameless points found
      (Option.not_isSome_iff_eq_none.mp has_name) name reallocated)

/-- Every admissible step keeps a heap sound, or stops at an assertion or a null pointer. -/
theorem Sound.step {heap : ServiceHeap} (sound : heap.Sound) {operation : Operation}
    (admissible : heap.Admissible operation) :
    FallibleRun.Outcome Sound Stops (heap.step operation) := by
  cases operation with
  | createService service name parent opened =>
      exact sound.createService admissible.1 admissible.2 name opened
  | destroyService service => exact sound.destroyService admissible
  | accept service connection setup => exact sound.accept admissible.1 admissible.2 setup
  | acceptFile service connection setup => exact sound.acceptFile admissible.1 admissible.2 setup
  | greeting connection name reallocated =>
      simp only [ServiceHeap.step, ServiceHeap.greeting]
      rcases sound.transferByName admissible name reallocated with
        stops | ⟨transferred, next, moves, next_sound, lives⟩
      · rw [stops]
        exact .inr rfl
      · simp only [moves, bind, Except.bind]
        cases transferred with
        | true => exact next_sound
        | false =>
            obtain ⟨after, destroys, after_sound⟩ := next_sound.destroyConnection lives
            simpa [destroys] using after_sound
  | httpRequest connection name reallocated =>
      obtain ⟨service, points⟩ := Option.isSome_iff_exists.mp admissible
      obtain ⟨node, found⟩ := serves_of_points sound points
      have service_of : heap.serviceOf connection = .ok service := by rw [serviceOf, points]
      simp only [ServiceHeap.step, ServiceHeap.httpRequest, service_of, get_of found, bind,
        Except.bind]
      split
      · exact sound
      · split
        · exact sound
        · rcases sound.transferByName admissible name reallocated with
            stops | ⟨transferred, next, moves, next_sound, -⟩
          · rw [stops]
            exact .inr rfl
          · rw [moves]
            exact next_sound
  | transfer connection service reallocated =>
      rcases sound.transfer admissible.1 admissible.2 reallocated with
        short | ⟨next, moves, next_sound, -⟩
      · simpa [ServiceHeap.step, short, Except.map] using sound
      · simpa [ServiceHeap.step, moves, Except.map] using next_sound
  | transferByName connection name reallocated =>
      rcases sound.transferByName admissible name reallocated with
        stops | ⟨transferred, next, moves, next_sound, -⟩
      · simp only [ServiceHeap.step, stops, Except.map]
        exact .inr rfl
      · simpa [ServiceHeap.step, moves, Except.map] using next_sound
  | destroyConnection connection =>
      obtain ⟨next, destroys, next_sound⟩ := sound.destroyConnection admissible
      simpa [ServiceHeap.step, destroys] using next_sound

/-- Every connection is exactly once in exactly one array, that of the service it points to, and no
array is longer than its capacity. -/
structure Membership (heap : ServiceHeap) : Prop where
  once : ∀ connection service, heap.connections connection = some service →
    ∃ node, heap.services service = some node ∧ node.connections.count connection = 1
  nowhere_else : ∀ service node connection, heap.services service = some node →
    connection ∈ node.connections → heap.connections connection = some service
  capacity : ∀ service node, heap.services service = some node →
    node.connections.length ≤ node.connectionsSize

private theorem Sound.membership {heap : ServiceHeap} (sound : heap.Sound) : heap.Membership where
  once := fun _ _ points => Fits.exists_roster sound points
  nowhere_else := fun service _ connection found member =>
    sound.members.owned service _ connection (rosterOf_of found) member
  capacity := fun service _ found => sound.members.room service _ (rosterOf_of found)

/-- Every run from the empty heap keeps connections and services consistent, and stops at assertions
and null pointers only.  A transfer by name then moves the connection to a service of its family
with that name, or returns false and changes nothing, exactly on the connections of services that
have a name. -/
theorem membership_of_run {operations : List Operation}
    (guarded : FallibleRun.Guarded ServiceHeap.step Admissible empty operations) :
    FallibleRun.Outcome
      (fun final => final.Membership ∧
        ∀ connection service node, final.connections connection = some service →
          final.services service = some node → ∀ name reallocated,
            (final.TransfersTo connection service name
              (final.transferByName connection name reallocated) ↔ node.name.isSome))
      Stops (FallibleRun.run ServiceHeap.step empty operations) := by
  have outcome := guarded.outcome Sound Stops (fun _ _ sound admissible => sound.step admissible)
    sound_empty
  cases arrives : FallibleRun.run ServiceHeap.step empty operations with
  | error fault =>
      rw [arrives] at outcome
      exact outcome
  | ok final =>
      rw [arrives] at outcome
      exact ⟨Sound.membership outcome, fun connection service node points found name reallocated =>
        Sound.transferByName_iff outcome points found name reallocated⟩

/-- Nothing goes wrong. -/
def smooth : Setup := ⟨true, true, true, true⟩

/-- A parent and its child; a client of the parent asks for the child. -/
def sampleFamily : List Operation :=
  [.createService 1 (some (ascii "main")) none true,
    .createService 2 (some (ascii "side")) (some 1) true,
    .accept 1 7 smooth, .greeting 7 (ascii "SIDE") true]

/-- A service without a name, whose client names one. -/
def sampleNameless : List Operation := [.createService 1 none none true, .accept 1 7 smooth]

private theorem sampleFamily_guarded :
    FallibleRun.Guarded ServiceHeap.step Admissible empty sampleFamily := by
  refine .cons ⟨by decide, by decide⟩ rfl (.cons ⟨by decide, ?_⟩ rfl
    (.cons ⟨rfl, by decide⟩ rfl (.cons rfl rfl trivial)))
  rintro root ⟨⟩
  rfl

theorem sampleFamily_membership :
    FallibleRun.Outcome
      (fun final => final.Membership ∧
        ∀ connection service node, final.connections connection = some service →
          final.services service = some node → ∀ name reallocated,
            (final.TransfersTo connection service name
              (final.transferByName connection name reallocated) ↔ node.name.isSome))
      Stops (FallibleRun.run ServiceHeap.step empty sampleFamily) :=
  membership_of_run sampleFamily_guarded

/-- The client of a nameless service that greets with a name stops the server. -/
theorem sampleNameless_stops :
    FallibleRun.Guarded ServiceHeap.step Admissible empty
        (sampleNameless ++ [.greeting 7 (ascii "x") true]) ∧
      ∃ heap, FallibleRun.run ServiceHeap.step empty sampleNameless = .ok heap ∧
        heap.transferByName 7 (ascii "x") true = .error .nullDereference ∧
        ¬heap.TransfersTo 7 1 (ascii "x") (heap.transferByName 7 (ascii "x") true) := by
  refine ⟨.cons ⟨by decide, ?_⟩ rfl (.cons ⟨rfl, by decide⟩ rfl ⟨rfl, fun next move => ?_⟩),
    _, rfl, rfl, ?_⟩
  · rintro root ⟨⟩
  · cases move
  · rintro (⟨target, next, moves, -⟩ | stays)
    · cases moves
    · cases stays

end ServiceHeap

end Football
