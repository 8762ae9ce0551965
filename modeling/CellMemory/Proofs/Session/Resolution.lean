import CellMemory.Proofs.Graph.Target
import CellMemory.Proofs.Memory.Coherence
import CellMemory.Session.Operation

/-! A coherent session, and all that resolving can do in it. The memo only remembers what the graph
would still answer, and a resolved object is bound at the address it has owned or takes now. -/

namespace CellMemory.Session

open Address (numeral)

def Allocated (session : Session) (id : VarId) : Prop :=
  ∃ address : UInt32, session.addresses.owners[address]? = some id

structure Coherent (session : Session) : Prop where
  graph : session.graph.Coherent
  memory : session.memory.Coherent session.graph
  memo : ∀ (base : VarId) (offset : Int64) (derived : VarId),
    session.memo[Cell.mk base offset]? = some derived →
      derived ≠ base ∧ session.Allocated base ∧ session.Allocated derived ∧
        session.graph.derive base offset = (.ok derived, session.graph)

theorem pointee_eq_ok {session : Session} {pointer : Expr} {base : VarId} {address : UInt32}
    (pointed : session.pointee pointer = .ok (base, address)) :
    ∃ value, session.evaluate pointer = some value ∧
      session.addresses.isAddress value = true ∧ address = Numeral.lowWord value ∧
        session.addresses.owners[address]? = some base := by
  unfold pointee at pointed
  cases known : session.evaluate pointer with
  | none => simp [known] at pointed
  | some value =>
    simp only [known] at pointed
    split at pointed
    · next inside =>
      cases owned : session.addresses.owner value with
      | error fault => simp [owned] at pointed
      | ok id =>
        simp only [owned, Except.ok.injEq, Prod.mk.injEq] at pointed
        rcases pointed with ⟨rfl, rfl⟩
        exact ⟨value, rfl, inside, rfl, (AddressSpace.owner_eq_ok_iff.mp owned).2⟩
    · cases pointed

theorem Coherent.pointee_of_taken {session : Session} (coherent : session.Coherent)
    {pointer : Expr} {address : UInt32} {id : VarId}
    (known : session.evaluate pointer = some (numeral address))
    (taken : session.addresses.owners[address]? = some id) :
    session.pointee pointer = .ok (id, address) := by
  have owned := coherent.memory.exact.owner_numeral coherent.memory.clear taken
  have inside := (AddressSpace.owner_eq_ok_iff.mp owned).1
  rw [Session.pointee, known]
  simp only [Session.addresses, if_pos inside, owned, Address.lowWord_numeral]

theorem pointee_eq_error {session : Session} {pointer : Expr} {fault : Fault}
    (refused : session.pointee pointer = .error fault) :
    (∃ text, fault = .invalidPointer text) ∨ ∃ value, fault = .unmappedAddress value := by
  unfold pointee at refused
  cases known : session.evaluate pointer with
  | none =>
    simp only [known, Except.error.injEq] at refused
    exact .inl ⟨_, refused.symm⟩
  | some value =>
    simp only [known] at refused
    split at refused
    · cases owned : session.addresses.owner value with
      | error cause =>
        simp only [owned, Except.error.injEq] at refused
        subst refused
        exact .inr ⟨value, AddressSpace.owner_eq_error owned⟩
      | ok id => simp [owned] at refused
    · exact .inl ⟨_, (Except.error.inj refused).symm⟩

theorem Coherent.pointee {session : Session} (coherent : session.Coherent) {pointer : Expr}
    {base : VarId} {address : UInt32} (pointed : session.pointee pointer = .ok (base, address)) :
    session.addresses.owners[address]? = some base ∧
      (∃ item, session.graph.find? base = some item ∧ item.node.isStorage = true) ∧
        ∃ expr, session.lookup base = .ok expr := by
  obtain ⟨value, known, inside, rfl, taken⟩ := pointee_eq_ok pointed
  exact ⟨taken, coherent.memory.storage _ base taken, coherent.memory.bound _ base taken⟩

def settle (session : Session) (base : VarId) (offset : Int64) (derived : VarId) (graph : Graph)
    (address : UInt32) : Session :=
  { session with
    graph
    memory := session.memory.settle derived address
    memo := session.memo.insert ⟨base, offset⟩ derived }

inductive Resolution (session : Session) (base : VarId) (offset : Int64) :
    Reply Session Expr → Prop
  | reused {derived : VarId} {expr : Expr}
      (known : session.memo[Cell.mk base offset]? = some derived)
      (bound : session.lookup derived = .ok expr) :
      Resolution session base offset ⟨.ok expr, session, [.derivedReused base offset derived]⟩
  | refused {fault : Fault} (unknown : session.memo[Cell.mk base offset]? = none)
      (derived : session.graph.derive base offset = (.error fault, session.graph)) :
      Resolution session base offset ⟨.error fault, session, []⟩
  | itself {expr : Expr} (unknown : session.memo[Cell.mk base offset]? = none)
      (derived : session.graph.derive base offset = (.ok base, session.graph))
      (bound : session.lookup base = .ok expr) :
      Resolution session base offset ⟨.ok expr, session, []⟩
  | full {derived : VarId} {graph : Graph} (unknown : session.memo[Cell.mk base offset]? = none)
      (reached : session.graph.derive base offset = (.ok derived, graph)) (other : derived ≠ base)
      (large : Address.idLimit ≤ derived.number.toNat) :
      Resolution session base offset
        ⟨.error (.addressSpaceExhausted derived), { session with graph }, []⟩
  | settled {derived : VarId} {graph : Graph} {address : UInt32}
      (unknown : session.memo[Cell.mk base offset]? = none)
      (reached : session.graph.derive base offset = (.ok derived, graph)) (other : derived ≠ base)
      (placed : session.addresses.place derived = .ok address) :
      Resolution session base offset
        ⟨.ok (.num (numeral address)), session.settle base offset derived graph address,
          [.boundObject derived (.num (numeral address)), .derivedBound base offset derived]⟩

theorem bindDerived_eq {session : Session} {base : VarId} {offset : Int64} {derived : Variable}
    (storage : derived.node.isStorage = true) (graph : Graph)
    (unknown : session.memo[Cell.mk base offset]? = none)
    (reached : session.graph.derive base offset = (.ok derived.id, graph))
    (other : derived.id ≠ base) :
    Resolution session base offset ({ session with graph }.bindDerived base offset derived) := by
  rw [bindDerived, Memory.bindObject_of_storage _ storage]
  cases placed : session.addresses.place derived.id with
  | ok address =>
    rw [Memory.bindAddress_of_place placed]
    exact .settled unknown reached other placed
  | error fault =>
    have large := (AddressSpace.place_eq_error_iff.mp placed).1
    rw [Memory.bindAddress_of_full large]
    exact .full unknown reached other large

theorem Coherent.reach {session : Session} (coherent : session.Coherent) {base : VarId}
    {object : Variable} {expr : Expr} {offset : Int64}
    (found : session.graph.find? base = some object) (bound : session.lookup base = .ok expr)
    (unknown : session.memo[Cell.mk base offset]? = none) :
    Resolution session base offset (session.reach base offset) := by
  rw [Session.reach]
  cases reached : session.graph.derive base offset with
  | mk answer graph =>
    cases answer with
    | error fault =>
      cases Graph.derive_error_graph reached
      exact .refused unknown reached
    | ok derived =>
      by_cases same : derived = base
      · subst same
        cases coherent.graph.derive_self found reached
        simp only [↓reduceIte]
        rw [show Session.lookup session derived = .ok expr from bound]
        exact .itself unknown reached bound
      · obtain ⟨root, distance, item, located, lookup, node, cell⟩ := coherent.graph.derive_ok reached
        have location := coherent.graph.derive_location reached same lookup
        have storage := Node.isStorage_of_isLocation location
        simp only [if_neg same, lookup]
        cases Graph.id_of_find? lookup
        exact bindDerived_eq storage graph unknown reached same

theorem Coherent.resolution {session : Session} (coherent : session.Coherent) {pointer : Expr}
    {base : VarId} {address : UInt32} (pointed : session.pointee pointer = .ok (base, address))
    (offset : Int64) : Resolution session base offset (session.resolve pointer offset) := by
  obtain ⟨taken, ⟨object, found, storage⟩, expr, bound⟩ := coherent.pointee pointed
  simp only [resolve, pointed]
  cases known : session.memo[Cell.mk base offset]? with
  | none => exact coherent.reach found bound known
  | some derived =>
    obtain ⟨other, _, ⟨place, owned⟩, again⟩ := coherent.memo base offset derived known
    obtain ⟨expr, bound⟩ := coherent.memory.bound place derived owned
    have answer : session.lookup derived = .ok expr := bound
    simp only [answer]
    exact .reused known answer

theorem Coherent.allocated_of_pointee {session : Session} (coherent : session.Coherent)
    {pointer : Expr} {base : VarId} {address : UInt32}
    (pointed : session.pointee pointer = .ok (base, address)) : session.Allocated base :=
  ⟨address, (coherent.pointee pointed).1⟩

theorem Resolution.answered {session : Session} {base : VarId} {offset : Int64}
    {reply : Reply Session Expr} (resolution : session.Resolution base offset reply)
    (coherent : session.Coherent) (allocated : session.Allocated base) {expr : Expr}
    (answer : reply.answer = .ok expr) :
    ∃ derived, session.graph.derive base offset = (.ok derived, reply.state.graph) ∧
      reply.state.Allocated derived ∧ reply.state.lookup derived = .ok expr := by
  cases resolution with
  | refused | full => cases answer
  | @reused derived _ known bound =>
    cases answer
    obtain ⟨_, _, taken, again⟩ := coherent.memo base offset derived known
    exact ⟨derived, again, taken, bound⟩
  | itself unknown again bound =>
    cases answer
    exact ⟨base, again, allocated, bound⟩
  | @settled derived graph address unknown reached other placed =>
    cases answer
    have taken := coherent.memory.exact.owners_take_self coherent.memory.clear placed
    exact ⟨derived, reached, ⟨address, taken⟩, Store.lookup_bind_self session.store derived _⟩

theorem Resolution.model_eq {session : Session} {base : VarId} {offset : Int64}
    {reply : Reply Session Expr} (resolution : session.Resolution base offset reply) :
    reply.state.store.model = session.store.model := by
  cases resolution with
  | reused | refused | itself | full | settled => rfl

theorem resolve_of_pointee_error {session : Session} {pointer : Expr} {fault : Fault}
    (refused : session.pointee pointer = .error fault) (offset : Int64) :
    session.resolve pointer offset = ⟨.error fault, session, []⟩ := by
  rw [resolve, refused]

end CellMemory.Session
