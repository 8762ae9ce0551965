import CellMemory.Proofs.Memory.Binding
import CellMemory.Proofs.Store.Frame
import CellMemory.Session.Start

/-! What holds of the memory of a graph. Owners of addresses are bound storage, each at its place, and
contents are at taken addresses. A memory is faithful while nothing but its address is bound to an
owner. -/

namespace CellMemory.Memory

open Address (Clear numeral)

structure Coherent (graph : Graph) (memory : Memory) : Prop where
  clear : Clear memory.addresses.mask
  exact : memory.addresses.Exact
  storage : ∀ (address : UInt32) (id : VarId), memory.addresses.owners[address]? = some id →
    ∃ item, graph.find? id = some item ∧ item.node.isStorage = true
  bound : ∀ (address : UInt32) (id : VarId), memory.addresses.owners[address]? = some id →
    ∃ expr, memory.store.lookup id = .ok expr
  contents : ∀ (address : UInt32) (expr : Expr), memory.store.written address = some expr →
    ∃ id, memory.addresses.owners[address]? = some id

def Faithful (memory : Memory) : Prop :=
  ∀ (address : UInt32) (id : VarId), memory.addresses.owners[address]? = some id →
    memory.store.lookup id = .ok (.num (numeral address))

variable {graph : Graph} {memory : Memory}

theorem coherent_new (graph : Graph) {mask : UInt32} (clear : Clear mask) :
    (Memory.new mask).Coherent graph where
  clear := clear
  exact := by simp [AddressSpace.Exact, Memory.new, AddressSpace.new]
  storage := by simp [Memory.new, AddressSpace.new]
  bound := by simp [Memory.new, AddressSpace.new]
  contents := by simp [Memory.new, Store.empty, Store.written]

theorem faithful_new (mask : UInt32) : (Memory.new mask).Faithful := by
  simp [Faithful, Memory.new, AddressSpace.new]

theorem Coherent.extend {later : Graph} (coherent : memory.Coherent graph)
    (grown : graph.Extends later) : memory.Coherent later where
  clear := coherent.clear
  exact := coherent.exact
  storage := by
    intro address id taken
    obtain ⟨item, found, storage⟩ := coherent.storage address id taken
    exact ⟨item, grown.vars id item found, storage⟩
  bound := coherent.bound
  contents := coherent.contents

/-- Any store will do that has lost no binding and holds contents at taken addresses only. -/
theorem Coherent.withStore (coherent : memory.Coherent graph) {store : Store}
    (bound : ∀ id expr, memory.store.lookup id = .ok expr → ∃ later, store.lookup id = .ok later)
    (contents : ∀ address expr, store.written address = some expr →
      ∃ id, memory.addresses.owners[address]? = some id) :
    Memory.Coherent graph { memory with store } where
  clear := coherent.clear
  exact := coherent.exact
  storage := coherent.storage
  bound := by
    intro address id taken
    obtain ⟨expr, lookup⟩ := coherent.bound address id taken
    exact bound id expr lookup
  contents := contents

theorem Coherent.bind (coherent : memory.Coherent graph) (id : VarId) (expr : Expr) :
    Memory.Coherent graph { memory with store := memory.store.bind id expr } :=
  coherent.withStore (fun _ _ bound => Store.lookup_bind_isOk id expr bound) coherent.contents

theorem Coherent.nameValue (coherent : memory.Coherent graph) (id : VarId) :
    (memory.nameValue id).Coherent graph := by
  have named : Memory.Coherent graph
      { memory with store := (memory.store.constant id.valueName).2 } :=
    coherent.withStore (fun _ old bound => ⟨old, bound⟩) coherent.contents
  exact named.bind id _

theorem Coherent.write (coherent : memory.Coherent graph) {address : UInt32} {id : VarId}
    (taken : memory.addresses.owners[address]? = some id) (expr : Expr) :
    Memory.Coherent graph { memory with store := memory.store.write address expr } := by
  refine coherent.withStore (fun _ old bound => ⟨old, bound⟩) ?_
  intro other value written
  rw [Store.written_write] at written
  split at written
  · next same => exact ⟨id, same ▸ taken⟩
  · exact coherent.contents other value written

theorem Coherent.read (coherent : memory.Coherent graph) (address : UInt32) :
    Memory.Coherent graph { memory with store := (memory.store.read address).2 } := by
  refine coherent.withStore ?_ ?_
  · intro id expr bound
    exact ⟨expr, by rw [Store.lookup_read, bound]⟩
  · intro other value written
    rw [Store.written_read] at written
    exact coherent.contents other value written

theorem Coherent.assign (coherent : memory.Coherent graph) (symbol : Symbol) (value : Int64) :
    Memory.Coherent graph { memory with store := memory.store.assign symbol value } :=
  coherent.withStore (fun _ old bound => ⟨old, bound⟩) coherent.contents

theorem Coherent.settle (coherent : memory.Coherent graph) {id : VarId} {item : Variable}
    {address : UInt32} (found : graph.find? id = some item) (storage : item.node.isStorage = true)
    (placed : memory.addresses.place id = .ok address) :
    (memory.settle id address).Coherent graph where
  clear := coherent.clear
  exact := coherent.exact.take placed
  storage := by
    intro other owner taken
    rcases AddressSpace.owners_take taken with ⟨rfl, rfl⟩ | known
    · exact ⟨item, found, storage⟩
    · exact coherent.storage other owner known
  bound := by
    intro other owner taken
    rcases AddressSpace.owners_take taken with ⟨rfl, rfl⟩ | known
    · exact ⟨_, Store.lookup_bind_self _ _ _⟩
    · obtain ⟨expr, bound⟩ := coherent.bound other owner known
      exact Store.lookup_bind_isOk id _ bound
  contents := by
    intro other expr written
    obtain ⟨owner, taken⟩ := coherent.contents other expr written
    exact ⟨owner, AddressSpace.owners_take_of_some taken⟩

theorem Coherent.bindVariable (coherent : memory.Coherent graph) {item : Variable}
    (found : graph.find? item.id = some item) :
    (memory.bindVariable item).state.Coherent graph := by
  have outcome := binding memory item
  generalize memory.bindVariable item = reply at outcome ⊢
  cases outcome with
  | value => exact coherent.nameValue item.id
  | storage storage placed => exact coherent.settle found storage placed
  | constant => exact coherent.bind item.id _
  | full | aggregate | unrecognized => exact coherent

theorem Faithful.bind (faithful : memory.Faithful) {id : VarId}
    (free : ∀ address : UInt32, memory.addresses.owners[address]? ≠ some id) (expr : Expr) :
    Faithful { memory with store := memory.store.bind id expr } := by
  intro address owner taken
  have other : owner ≠ id := by
    rintro rfl
    exact free address taken
  rw [Store.lookup_bind, if_neg other]
  exact faithful address owner taken

theorem Faithful.settle (faithful : memory.Faithful) (coherent : memory.Coherent graph)
    {id : VarId} {address : UInt32} (placed : memory.addresses.place id = .ok address) :
    (memory.settle id address).Faithful := by
  intro other owner taken
  have exact := coherent.exact.take placed other owner taken
  change Store.lookup (memory.store.bind id _) owner = _
  rw [Store.lookup_bind]
  split
  · next same =>
    rw [same, AddressSpace.place_take, placed] at exact
    rw [Except.ok.inj exact]
  · next different =>
    rcases AddressSpace.owners_take taken with ⟨_, same⟩ | known
    · exact absurd same different
    · exact faithful other owner known

theorem Faithful.settle_of_taken (faithful : memory.Faithful) {address : UInt32} {id : VarId}
    (taken : memory.addresses.owners[address]? = some id) : memory.settle id address = memory := by
  rw [Memory.settle, Store.bind_of_bound (faithful address id taken),
    AddressSpace.take_of_some taken]

theorem Coherent.free_of_not_storage (coherent : memory.Coherent graph) {item : Variable}
    (found : graph.find? item.id = some item) (notStorage : item.node.isStorage = false)
    (address : UInt32) : memory.addresses.owners[address]? ≠ some item.id := by
  intro taken
  obtain ⟨owner, known, storage⟩ := coherent.storage address item.id taken
  cases Option.some.inj (found.symm.trans known)
  rw [notStorage] at storage
  cases storage

theorem Faithful.bindVariable (faithful : memory.Faithful) (coherent : memory.Coherent graph)
    {item : Variable} (found : graph.find? item.id = some item) :
    (memory.bindVariable item).state.Faithful := by
  have outcome := binding memory item
  generalize memory.bindVariable item = reply at outcome ⊢
  cases outcome with
  | value kind =>
    have notStorage : item.node.isStorage = false := by
      cases storage : item.node.isStorage with
      | false => rfl
      | true => simp [Node.kind_of_isStorage storage] at kind
    exact faithful.bind (coherent.free_of_not_storage found notStorage) _
  | storage storage placed => exact faithful.settle coherent placed
  | constant kind notStorage => exact faithful.bind (coherent.free_of_not_storage found notStorage) _
  | full | aggregate | unrecognized => exact faithful

theorem bindAll_cons_state (memory : Memory) (item : Variable) (items : List Variable) :
    (memory.bindAll (item :: items)).state = (memory.bindVariable item).state ∨
      (memory.bindAll (item :: items)).state =
        ((memory.bindVariable item).state.bindAll items).state := by
  rw [bindAll]
  cases memory.bindVariable item with
  | mk answer state events =>
    cases answer with
    | error fault => exact .inl rfl
    | ok expr => exact .inr rfl

theorem bindAll_induction (property : Memory → Prop) {items : List Variable}
    (step : ∀ memory item, item ∈ items → property memory → property (memory.bindVariable item).state)
    {memory : Memory} (start : property memory) : property (memory.bindAll items).state := by
  induction items generalizing memory with
  | nil => exact start
  | cons item items ih =>
    have first := step memory item List.mem_cons_self start
    rcases bindAll_cons_state memory item items with stopped | went
    · rw [stopped]
      exact first
    · rw [went]
      exact ih (fun memory other member => step memory other (List.mem_cons_of_mem item member)) first

theorem mask_bindVariable (memory : Memory) (item : Variable) :
    (memory.bindVariable item).state.addresses.mask = memory.addresses.mask := by
  have outcome := binding memory item
  generalize memory.bindVariable item = reply at outcome ⊢
  cases outcome <;> rfl

theorem Coherent.bindAll (coherent : memory.Coherent graph) (wellFormed : graph.Coherent) :
    (memory.bindAll graph.vars.toList).state.Coherent graph := by
  refine bindAll_induction (fun memory => memory.Coherent graph) ?_ coherent
  intro memory item member coherent
  exact coherent.bindVariable (wellFormed.find?_of_mem (Array.mem_toList_iff.mp member))

theorem Faithful.bindAll (faithful : memory.Faithful) (coherent : memory.Coherent graph)
    (wellFormed : graph.Coherent) : (memory.bindAll graph.vars.toList).state.Faithful := by
  have both : (memory.bindAll graph.vars.toList).state.Coherent graph ∧
      (memory.bindAll graph.vars.toList).state.Faithful := by
    refine bindAll_induction (fun memory => memory.Coherent graph ∧ memory.Faithful) ?_
      ⟨coherent, faithful⟩
    rintro memory item member ⟨coherent, faithful⟩
    have found := wellFormed.find?_of_mem (Array.mem_toList_iff.mp member)
    exact ⟨coherent.bindVariable found, faithful.bindVariable coherent found⟩
  exact both.2

theorem bindAll_cons_ok {item : Variable} {items : List Variable}
    (bound : (memory.bindAll (item :: items)).answer = .ok ()) :
    (∃ expr, (memory.bindVariable item).answer = .ok expr) ∧
      ((memory.bindVariable item).state.bindAll items).answer = .ok () ∧
        (memory.bindAll (item :: items)).state =
          ((memory.bindVariable item).state.bindAll items).state := by
  rw [bindAll] at bound ⊢
  cases first : memory.bindVariable item with
  | mk answer state events =>
    cases answer with
    | error fault =>
      rw [first] at bound
      cases bound
    | ok expr =>
      rw [first] at bound
      exact ⟨⟨expr, rfl⟩, bound, rfl⟩

theorem owners_bindVariable (item : Variable) {address : UInt32} {id : VarId}
    (taken : memory.addresses.owners[address]? = some id) :
    (memory.bindVariable item).state.addresses.owners[address]? = some id := by
  have outcome := binding memory item
  generalize memory.bindVariable item = reply at outcome ⊢
  cases outcome with
  | storage => exact AddressSpace.owners_take_of_some taken
  | value | constant | full | aggregate | unrecognized => exact taken

theorem owners_bindAll (items : List Variable) {address : UInt32} {id : VarId}
    (taken : memory.addresses.owners[address]? = some id) :
    (memory.bindAll items).state.addresses.owners[address]? = some id := by
  refine bindAll_induction (fun later => later.addresses.owners[address]? = some id) ?_ taken
  intro later item _ held
  exact owners_bindVariable item held

theorem Coherent.taken_bindVariable (coherent : memory.Coherent graph) {item : Variable}
    {expr : Expr} (storage : item.node.isStorage = true)
    (bound : (memory.bindVariable item).answer = .ok expr) :
    ∃ address : UInt32,
      (memory.bindVariable item).state.addresses.owners[address]? = some item.id := by
  have outcome := binding memory item
  generalize memory.bindVariable item = reply at outcome bound ⊢
  cases outcome with
  | value kind =>
    rw [Node.kind_of_isStorage storage] at kind
    cases kind
  | storage storage placed =>
    exact ⟨_, coherent.exact.owners_take_self coherent.clear placed⟩
  | constant kind notStorage =>
    rw [storage] at notStorage
    cases notStorage
  | full | aggregate | unrecognized => cases bound

theorem Coherent.taken_bindAll (coherent : memory.Coherent graph) {items : List Variable}
    (found : ∀ item ∈ items, graph.find? item.id = some item)
    (bound : (memory.bindAll items).answer = .ok ()) :
    ∀ item ∈ items, item.node.isStorage = true →
      ∃ address : UInt32, (memory.bindAll items).state.addresses.owners[address]? = some item.id := by
  induction items generalizing memory with
  | nil => exact fun _ member => nomatch member
  | cons first items ih =>
    intro item member storage
    obtain ⟨⟨expr, firstBound⟩, restBound, state⟩ := bindAll_cons_ok bound
    rw [state]
    rcases List.mem_cons.mp member with rfl | later
    · obtain ⟨address, taken⟩ := coherent.taken_bindVariable storage firstBound
      exact ⟨address, owners_bindAll items taken⟩
    · have middle := coherent.bindVariable (found first List.mem_cons_self)
      have rest := fun other listed => found other (List.mem_cons_of_mem first listed)
      exact ih middle rest restBound item later storage

theorem lookup_bindVariable {item : Variable} {id : VarId} {expr : Expr}
    (bound : (memory.bindVariable item).state.store.lookup id = .ok expr) :
    id = item.id ∨ memory.store.lookup id = .ok expr := by
  have outcome := binding memory item
  generalize memory.bindVariable item = reply at outcome bound
  have only : ∀ store : Store, ∀ other, (store.bind item.id other).lookup id = .ok expr →
      id = item.id ∨ store.lookup id = .ok expr := by
    intro store other held
    rw [Store.lookup_bind] at held
    split at held
    · next same => exact .inl same
    · exact .inr held
  cases outcome with
  | value => exact only _ _ bound
  | storage => exact only _ _ bound
  | constant => exact only _ _ bound
  | full | aggregate | unrecognized => exact .inr bound

theorem mem_of_lookup_bindAll {items : List Variable}
    (blank : ∀ id expr, memory.store.lookup id ≠ .ok expr) {id : VarId} {expr : Expr}
    (bound : (memory.bindAll items).state.store.lookup id = .ok expr) :
    ∃ item ∈ items, item.id = id := by
  have kept : ∀ id expr, (memory.bindAll items).state.store.lookup id = .ok expr →
      ∃ item ∈ items, item.id = id := by
    refine bindAll_induction (fun later => ∀ id expr, later.store.lookup id = .ok expr →
      ∃ item ∈ items, item.id = id) ?_ fun id expr held => absurd held (blank id expr)
    intro later item member listed id expr held
    rcases lookup_bindVariable held with rfl | before
    · exact ⟨item, member, rfl⟩
    · exact listed id expr before
  exact kept id expr bound

theorem mask_bindAll (memory : Memory) (items : List Variable) :
    (memory.bindAll items).state.addresses.mask = memory.addresses.mask := by
  refine bindAll_induction (fun later => later.addresses.mask = memory.addresses.mask) ?_ rfl
  intro later item _ same
  rw [mask_bindVariable, same]

end CellMemory.Memory
