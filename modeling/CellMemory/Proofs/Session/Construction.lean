import CellMemory.Proofs.Graph.Loading
import CellMemory.Proofs.Memory.Introduction
import CellMemory.Proofs.Session.Housing
import CellMemory.Proofs.Session.Naming

/-! How a session starts. It starts when the settings are in order and every variable of the graph can
be bound; then exactly the graph is bound, each variable to what stands for it, storage has its
addresses, and nothing else is known. -/

namespace CellMemory.Session

/-- What is known at the start: what each variable of the graph stands for, where storage is, and
nothing else. -/
structure Initial (graph : Graph) (settings : Settings) (session : Session) : Prop where
  whole : session.graph = graph
  ids : ∀ id, id ∈ session.store.ids ↔ id ∈ graph.ids
  bindings : ∀ item ∈ graph.vars, ∃ expr, session.lookup item.id = .ok expr ∧
    session.memory.Represents item expr
  symbolic : ∀ item ∈ graph.vars, item.node.kind = .value →
    ∀ expr, session.lookup item.id = .ok expr → session.evaluate expr = none
  distinct : ∀ first ∈ graph.vars, ∀ second ∈ graph.vars,
    first.node.kind = .value → second.node.kind = .value →
      session.lookup first.id = session.lookup second.id → first = second
  mask : session.addresses.mask = settings.addressMask
  owners : ∀ (address : UInt32) (id : VarId), session.addresses.owners[address]? = some id ↔
    address = settings.addressMask ||| id.number ∧
      ∃ item ∈ graph.vars, item.id = id ∧ item.node.isStorage = true
  model : session.store.model = ∅
  contents : session.store.contents = ∅
  memo : session.memo = ∅

variable {graph : Graph} {settings : Settings} {session : Session} {events : List Event}

theorem start_error_iff {fault : Fault} :
    Session.start graph settings = .error fault ↔
      settings.check = .error fault ∨
        settings.check = .ok () ∧ graph.vars.toList.findSome? Variable.obstacle? = some fault := by
  have bound : ((Memory.new settings.addressMask).bindAll graph.vars.toList).answer = .error fault ↔
      graph.vars.toList.findSome? Variable.obstacle? = some fault := Memory.bindAll_error_iff
  rw [← bound, start]
  cases settings.check with
  | error flaw => simp
  | ok accepted =>
    cases (Memory.new settings.addressMask).bindAll graph.vars.toList with
    | mk answer memory told => cases answer <;> simp

theorem start_ok_iff :
    (∃ session events, Session.start graph settings = .ok (session, events)) ↔
      settings.check = .ok () ∧ ∀ item ∈ graph.vars, item.Bindable := by
  have free : graph.vars.toList.findSome? Variable.obstacle? = none ↔
      ∀ item ∈ graph.vars, item.Bindable := by
    simp only [List.findSome?_eq_none_iff, Variable.obstacle?_eq_none_iff, Array.mem_toList_iff]
  rw [← free]
  constructor
  · rintro ⟨session, events, started⟩
    have fine : ∀ fault, ¬(settings.check = .error fault ∨ settings.check = .ok () ∧
        graph.vars.toList.findSome? Variable.obstacle? = some fault) := by
      intro fault failed
      rw [← start_error_iff, started] at failed
      cases failed
    cases checked : settings.check with
    | error fault => exact absurd (.inl checked) (fine fault)
    | ok accepted =>
      refine ⟨rfl, Option.eq_none_iff_forall_ne_some.mpr ?_⟩
      intro fault obstacle
      exact fine fault (.inr ⟨checked, obstacle⟩)
  · rintro ⟨checked, none⟩
    cases started : Session.start graph settings with
    | ok made => exact ⟨made.1, made.2, rfl⟩
    | error fault =>
      rcases start_error_iff.mp started with flawed | ⟨_, obstacle⟩
      · rw [checked] at flawed
        cases flawed
      · rw [none] at obstacle
        cases obstacle

section Started

variable (built : graph.Built) (started : Session.start graph settings = .ok (session, events))

include started in
theorem graph_of_start : session.graph = graph ∧ session.memo = ∅ ∧
    session.addresses.mask = settings.addressMask := by
  obtain ⟨_, rfl⟩ := start_ok started
  exact ⟨rfl, rfl, Memory.mask_bindAll _ _⟩

include built started

theorem represents_of_start {item : Variable} (member : item ∈ graph.vars) :
    ∃ expr, session.lookup item.id = .ok expr ∧ session.memory.Represents item expr := by
  obtain ⟨_, memory, told, answered, rfl⟩ := start_eq_ok started
  have represented := Memory.represents_bindAll built.coherent.distinct
    (congrArg Reply.answer answered) item (Array.mem_toList_iff.mpr member)
  rwa [answered] at represented

theorem mem_ids_of_start (id : VarId) : id ∈ session.store.ids ↔ id ∈ graph.ids := by
  rw [Store.mem_ids, Graph.mem_ids]
  constructor
  · rintro ⟨expr, bound⟩
    rw [← (graph_of_start started).1]
    exact (housed_of_start built started).listed id expr bound
  · rintro ⟨item, known⟩
    obtain ⟨expr, bound, _⟩ :=
      represents_of_start built started (Array.mem_of_find?_eq_some known)
    rw [Graph.id_of_find? known] at bound
    exact ⟨expr, bound⟩

theorem constant_of_start {item : Variable} (member : item ∈ graph.vars)
    (kind : item.node.kind = .value) :
    ∃ symbol : Symbol, session.lookup item.id = .ok (.const symbol) ∧
      session.store.symbols.names[symbol.index]? = some item.id.valueName := by
  obtain ⟨expr, bound, represents⟩ := represents_of_start built started member
  obtain ⟨symbol, rfl, named⟩ := represents.const_of_value kind
  exact ⟨symbol, bound, named⟩

theorem symbolic_of_start {item : Variable} (member : item ∈ graph.vars)
    (kind : item.node.kind = .value) {expr : Expr} (bound : session.lookup item.id = .ok expr) :
    session.evaluate expr = none := by
  obtain ⟨symbol, same, _⟩ := constant_of_start built started member kind
  cases same.symm.trans bound
  change session.memory.store.model[symbol]? = none
  rw [(blank_of_start started).model]
  exact Std.ExtTreeMap.getElem?_empty

theorem distinct_of_start {first second : Variable} (firstMember : first ∈ graph.vars)
    (secondMember : second ∈ graph.vars) (firstKind : first.node.kind = .value)
    (secondKind : second.node.kind = .value)
    (same : session.lookup first.id = session.lookup second.id) : first = second := by
  obtain ⟨symbol, firstBound, firstNamed⟩ := constant_of_start built started firstMember firstKind
  obtain ⟨other, secondBound, secondNamed⟩ :=
    constant_of_start built started secondMember secondKind
  rw [firstBound, secondBound] at same
  cases same
  have ids := VarId.valueName_injective (Option.some.inj (firstNamed.symm.trans secondNamed))
  exact built.coherent.eq_of_id firstMember secondMember ids

theorem owners_of_start (address : UInt32) (id : VarId) :
    session.addresses.owners[address]? = some id ↔
      address = settings.addressMask ||| id.number ∧
        ∃ item ∈ graph.vars, item.id = id ∧ item.node.isStorage = true := by
  have housed := housed_of_start built started
  obtain ⟨whole, _, mask⟩ := graph_of_start started
  have place : ∀ {address : UInt32} {id : VarId}, session.addresses.owners[address]? = some id →
      address = settings.addressMask ||| id.number := by
    intro address id taken
    rw [← mask]
    exact (AddressSpace.place_eq_ok_iff.mp (housed.coherent.memory.exact address id taken)).2
  constructor
  · intro taken
    obtain ⟨item, known, storage⟩ := housed.coherent.memory.storage address id taken
    rw [whole] at known
    exact ⟨place taken, item, Array.mem_of_find?_eq_some known, Graph.id_of_find? known, storage⟩
  · rintro ⟨rfl, item, member, rfl, storage⟩
    have known := built.coherent.find?_of_mem member
    rw [← whole] at known
    obtain ⟨address, taken⟩ := housed.allocated item.id item known storage
    rwa [place taken] at taken

theorem initial_of_start : session.Initial graph settings where
  whole := (graph_of_start started).1
  ids := mem_ids_of_start built started
  bindings := fun _ member => represents_of_start built started member
  symbolic := fun _ member kind _ bound => symbolic_of_start built started member kind bound
  distinct := fun _ firstMember _ secondMember firstKind secondKind same =>
    distinct_of_start built started firstMember secondMember firstKind secondKind same
  mask := (graph_of_start started).2.2
  owners := owners_of_start built started
  model := (blank_of_start started).model
  contents := (blank_of_start started).contents
  memo := (graph_of_start started).2.1

end Started

/-- A session starts on a loaded graph exactly if its settings are in order and every variable can be
bound. What goes wrong otherwise is told by the settings or else by the first variable that cannot
be bound. -/
theorem start_of_load {source : Graph.Source} {queries : List Gep.Query}
    (loaded : source.load = .ok (graph, queries)) (settings : Settings) :
    ((∃ session events, Session.start graph settings = .ok (session, events)) ↔
        settings.check = .ok () ∧ ∀ item ∈ graph.vars, item.Bindable) ∧
      (∀ fault, Session.start graph settings = .error fault ↔
        settings.check = .error fault ∨
          settings.check = .ok () ∧
            graph.vars.toList.findSome? Variable.obstacle? = some fault) ∧
      ∀ session events, Session.start graph settings = .ok (session, events) →
        session.Initial graph settings := by
  refine ⟨start_ok_iff, fun _ => start_error_iff, ?_⟩
  intro session events started
  exact initial_of_start (Graph.load_ok loaded).1 started

def mixed (last : VarId) : Graph.Source where
  types := [.int 32]
  records := [⟨⟨0x1000007⟩, .value, some ⟨0⟩, false, none⟩, ⟨⟨3⟩, .value, none, true, none⟩,
    ⟨⟨9⟩, .object, none, false, some (.constant (.int (-1)))⟩,
    ⟨⟨5⟩, .object, none, false, some (.constant (.float ⟨0x400f333333333333⟩))⟩,
    ⟨⟨2⟩, .object, none, false, some (.constant .nullPtr)⟩,
    ⟨⟨4⟩, .object, none, false, some (.constant .globalRef)⟩,
    ⟨⟨0⟩, .object, none, true, none⟩,
    ⟨last, .object, some ⟨0⟩, false, some (.location .stack)⟩]
  queries := []

theorem start_of_load_mixed :
    (∃ graph, (mixed ⟨6⟩).load = .ok (graph, []) ∧
      ∃ session events, Session.start graph .standard = .ok (session, events) ∧
        session.Initial graph .standard) ∧
    ∃ graph, (mixed ⟨0x1000000⟩).load = .ok (graph, []) ∧
      Session.start graph .standard = .error (.addressSpaceExhausted ⟨0x1000000⟩) := by
  have loaded : (mixed ⟨6⟩).load = .ok (_, []) := rfl
  have overfull : (mixed ⟨0x1000000⟩).load = .ok (_, []) := rfl
  obtain ⟨starts, _, initial⟩ := start_of_load loaded .standard
  obtain ⟨session, events, started⟩ := starts.mpr ⟨rfl, by decide⟩
  obtain ⟨_, fails, _⟩ := start_of_load overfull .standard
  have failed := (fails (.addressSpaceExhausted ⟨0x1000000⟩)).mpr (.inr ⟨rfl, rfl⟩)
  exact ⟨⟨_, loaded, session, events, started, initial session events started⟩,
    _, overfull, failed⟩

end CellMemory.Session
