import CellMemory.Proofs.Graph.Renaming
import CellMemory.Proofs.Session.Run

/-! Sessions in which all storage of the graph has its address, as it has from the start on. A
request that is answered there leaves graph and memory alone, or adds one object with its binding
and its address; so these are counted together, and what was declared is bound as it was. -/

namespace CellMemory.Session

structure Housed (session : Session) : Prop where
  coherent : session.Coherent
  faithful : session.memory.Faithful
  allocated : ∀ id item, session.graph.find? id = some item → item.node.isStorage = true →
    session.Allocated id
  listed : ∀ id expr, session.lookup id = .ok expr → ∃ item, session.graph.find? id = some item

/-- What an answered request leaves: the graph and the memory as they were, or one more object. -/
inductive Advance (session later : Session) : Prop
  | known (graph : later.graph = session.graph) (memory : later.memory = session.memory) :
      Advance session later
  | fresh {root : Variable} {distance : Int64} {address : UInt32}
      (room : session.graph.nextId < 0x100000000)
      (placed : session.addresses.place session.graph.freshId = .ok address)
      (graph : later.graph = session.graph.withCell root distance)
      (memory : later.memory = session.memory.settle session.graph.freshId address) :
      Advance session later

structure Onward (first last : Session) : Prop where
  grown : first.Grows last
  graph : first.graph.DerivesTo last.graph
  housed : last.Housed
  bindings : ∀ id item, first.graph.find? id = some item → last.lookup id = first.lookup id
  model : last.store.model = first.store.model
  bound : last.store.size + first.graph.size = first.store.size + last.graph.size
  taken : last.addresses.allocated + first.graph.size =
    first.addresses.allocated + last.graph.size

variable {session later : Session}

theorem housed_of_start {graph : Graph} {settings : Settings} {events : List Event}
    (built : graph.Built) (started : Session.start graph settings = .ok (session, events)) :
    session.Housed := by
  have coherent := coherent_of_start built started
  have faithful := faithful_of_start built started
  obtain ⟨clear, memory, told, answered, rfl⟩ := start_eq_ok started
  have everywhere : ∀ item ∈ graph.vars.toList, graph.find? item.id = some item :=
    fun item member => built.coherent.find?_of_mem (Array.mem_toList_iff.mp member)
  refine ⟨coherent, faithful, ?_, ?_⟩
  · intro id item found storage
    have empty := Memory.coherent_new graph clear
    have member := Array.mem_toList_iff.mpr (Array.mem_of_find?_eq_some found)
    have taken := empty.taken_bindAll everywhere (congrArg Reply.answer answered) item member storage
    rwa [Graph.id_of_find? found, answered] at taken
  · intro id expr bound
    have blank : ∀ other old, (Memory.new settings.addressMask).store.lookup other ≠ .ok old := by
      simp [Memory.new, Store.empty, Store.lookup]
    have state : ((Memory.new settings.addressMask).bindAll graph.vars.toList).state = memory :=
      congrArg Reply.state answered
    change memory.store.lookup id = .ok expr at bound
    rw [← state] at bound
    obtain ⟨item, member, rfl⟩ := Memory.mem_of_lookup_bindAll blank bound
    exact ⟨item, everywhere item member⟩

theorem Housed.settle_eq (housed : session.Housed) {base derived : VarId} {offset : Int64}
    {address : UInt32}
    (reached : session.graph.derive base offset = (.ok derived, session.graph))
    (other : derived ≠ base) (placed : session.addresses.place derived = .ok address) :
    session.memory.settle derived address = session.memory := by
  obtain ⟨root, distance, item, located, found, node, cell⟩ :=
    housed.coherent.graph.derive_ok reached
  have location := housed.coherent.graph.derive_location reached other found
  have storage := Node.isStorage_of_isLocation location
  rcases housed.allocated derived item found storage with ⟨place, taken⟩
  have exact := housed.coherent.memory.exact place derived taken
  cases Except.ok.inj (exact.symm.trans placed)
  exact housed.faithful.settle_of_taken taken

theorem Resolution.advance {base : VarId} {offset : Int64} {reply : Reply Session Expr}
    (resolution : session.Resolution base offset reply) (housed : session.Housed) {expr : Expr}
    (answered : reply.answer = .ok expr) : session.Advance reply.state := by
  cases resolution with
  | refused | full => cases answered
  | reused | itself => exact .known rfl rfl
  | settled unknown reached other placed =>
    have outcome := Graph.derivation session.graph base offset
    rw [reached] at outcome
    cases outcome with
    | root | known => exact .known rfl (housed.settle_eq reached other placed)
    | fresh located apart unknown room => exact .fresh room placed rfl rfl

theorem Coherent.free_of_place (coherent : session.Coherent) {id : VarId} {address : UInt32}
    (absent : session.graph.find? id = none)
    (placed : session.addresses.place id = .ok address) :
    session.addresses.owners[address]? = none := by
  cases held : session.addresses.owners[address]? with
  | none => rfl
  | some owner =>
    have exact := coherent.memory.exact address owner held
    cases AddressSpace.place_injective coherent.memory.clear exact placed
    obtain ⟨item, found, storage⟩ := coherent.memory.storage address id held
    rw [absent] at found
    cases found

theorem Advance.counts (advance : session.Advance later) (housed : session.Housed) :
    later.store.size + session.graph.size = session.store.size + later.graph.size ∧
      later.addresses.allocated + session.graph.size =
        session.addresses.allocated + later.graph.size := by
  cases advance with
  | known graph memory =>
    rw [Session.store, addresses, graph, memory]
    exact ⟨rfl, rfl⟩
  | @fresh root distance address room placed graph memory =>
    -- what is not in the graph is not bound, and no other object is placed at its address
    have absent := housed.coherent.graph.find?_freshId room
    have unbound : ∀ old, session.store.lookup session.graph.freshId ≠ .ok old := by
      intro old bound
      obtain ⟨item, found⟩ := housed.listed _ old bound
      rw [absent] at found
      cases found
    have free := housed.coherent.free_of_place absent placed
    have objects : later.graph.size = session.graph.size + 1 := by
      rw [graph, Graph.size, Graph.withCell, Array.size_push, Graph.size]
    have bindings : later.store.size = session.store.size + 1 := by
      rw [Session.store, memory]
      exact Store.size_bind_of_unbound unbound _
    have addresses : later.addresses.allocated = session.addresses.allocated + 1 := by
      rw [Session.addresses, memory]
      exact AddressSpace.allocated_take_of_free free _
    omega

theorem Advance.lookup (advance : session.Advance later) (housed : session.Housed) {id : VarId}
    {item : Variable} (found : session.graph.find? id = some item) :
    later.lookup id = session.lookup id := by
  cases advance with
  | known graph memory => rw [Session.lookup, Session.store, memory]; rfl
  | fresh room placed graph memory =>
    have other : id ≠ session.graph.freshId := by
      rintro rfl
      rw [housed.coherent.graph.find?_freshId room] at found
      cases found
    rw [Session.lookup, Session.store, memory]
    exact Store.lookup_bind_of_ne _ _ other.symm

theorem Advance.housed (advance : session.Advance later) (housed : session.Housed)
    (coherent : later.Coherent) (faithful : later.memory.Faithful) : later.Housed := by
  refine ⟨coherent, faithful, ?_, ?_⟩
  · cases advance with
    | known graph memory =>
      rw [graph]
      intro id item found storage
      have held := housed.allocated id item found storage
      rwa [Allocated, addresses, memory]
    | @fresh root distance address room placed graph memory =>
      rw [graph]
      intro id item found storage
      rw [housed.coherent.graph.find?_withCell room] at found
      rw [Allocated, addresses, memory]
      split at found
      · next same =>
        subst same
        exact ⟨address, housed.coherent.memory.exact.owners_take_self
          housed.coherent.memory.clear placed⟩
      · rcases housed.allocated id item found storage with ⟨place, taken⟩
        exact ⟨place, AddressSpace.owners_take_of_some taken⟩
  · cases advance with
    | known graph memory =>
      intro id expr bound
      rw [Session.lookup, Session.store, memory] at bound
      rw [graph]
      exact housed.listed id expr bound
    | @fresh root distance address room placed graph memory =>
      intro id expr bound
      rw [graph, housed.coherent.graph.find?_withCell room]
      split
      · exact ⟨_, rfl⟩
      · next other =>
        rw [Session.lookup, Session.store, memory] at bound
        have before := Store.lookup_bind_of_ne session.store
          (.num (Address.numeral address)) fun same => other same.symm
        exact housed.listed id expr (before.symm.trans bound)

theorem Onward.refl (housed : session.Housed) : session.Onward session where
  grown := .refl session
  graph := .refl housed.coherent.graph
  housed := housed
  bindings := fun _ _ _ => rfl
  model := rfl
  bound := rfl
  taken := rfl

theorem Onward.trans {first middle last : Session} (before : first.Onward middle)
    (after : middle.Onward last) : first.Onward last where
  grown := before.grown.trans after.grown
  graph := before.graph.trans after.graph
  housed := after.housed
  bindings := by
    intro id item found
    calc last.lookup id
      _ = middle.lookup id := after.bindings id item (before.grown.graph.vars id item found)
      _ = first.lookup id := before.bindings id item found
  model := after.model.trans before.model
  bound := by
    have earlier := before.bound
    have further := after.bound
    omega
  taken := by
    have earlier := before.taken
    have further := after.taken
    omega

theorem Resolution.onward {base : VarId} {offset : Int64} {reply : Reply Session Expr}
    (resolution : session.Resolution base offset reply) (housed : session.Housed)
    (allocated : session.Allocated base) {expr : Expr} (answered : reply.answer = .ok expr) :
    session.Onward reply.state := by
  obtain ⟨derived, reached, _⟩ := resolution.answered housed.coherent allocated answered
  have advance := resolution.advance housed answered
  have coherent := resolution.coherent housed.coherent allocated
  have faithful := resolution.faithful housed.coherent housed.faithful
  have derives := housed.coherent.graph.derivesTo_derive base offset
  rw [reached] at derives
  exact {
    grown := resolution.grows housed.coherent
    graph := derives
    housed := advance.housed housed coherent faithful
    bindings := fun _ _ found => advance.lookup housed found
    model := resolution.model_eq
    bound := (advance.counts housed).1
    taken := (advance.counts housed).2 }

end CellMemory.Session
