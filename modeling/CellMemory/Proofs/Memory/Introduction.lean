import CellMemory.Proofs.Memory.Coherence
import CellMemory.Proofs.Store.Naming

/-! Variables as they are introduced. A variable alone decides whether it can be bound and, if not, what
goes wrong; so binding many stops at the first that cannot be. What was bound is neither bound anew nor
renamed by the variables after it. -/

namespace CellMemory

open Address (numeral toInt_numeral)

namespace Variable

/-- Neither an aggregate nor a constant of unknown kind, nor storage that no address is left for. -/
structure Bindable (item : Variable) : Prop where
  scalar : item.node ≠ .constantAggregate
  recognized : ∀ kind, item.node ≠ .constantScalar (.other kind)
  fits : item.node.isStorage = true → item.id.number.toNat < Address.idLimit

def obstacle? (item : Variable) : Option Fault :=
  match item.node with
  | .constantAggregate => some (.aggregateConstant item.id)
  | .constantScalar (.other kind) => some (.unrecognizedConstant item.id kind)
  | node =>
    if node.isStorage = true ∧ Address.idLimit ≤ item.id.number.toNat then
      some (.addressSpaceExhausted item.id)
    else none

theorem obstacle?_of_storage {item : Variable} (storage : item.node.isStorage = true) :
    item.obstacle? =
      if item.id.number.toNat < Address.idLimit then none
      else some (.addressSpaceExhausted item.id) := by
  unfold obstacle?
  split
  · next node => simp [node, Node.isStorage] at storage
  · next kind node => simp [node, Node.isStorage] at storage
  · by_cases fits : item.id.number.toNat < Address.idLimit
    · rw [if_pos fits, if_neg fun full => absurd full.2 (Nat.not_le_of_lt fits)]
    · rw [if_neg fits, if_pos ⟨storage, Nat.le_of_not_lt fits⟩]

theorem obstacle?_eq_none_iff {item : Variable} : item.obstacle? = none ↔ item.Bindable := by
  unfold obstacle?
  split
  · next node => exact ⟨nofun, fun bindable => absurd node bindable.scalar⟩
  · next kind node => exact ⟨nofun, fun bindable => absurd node (bindable.recognized kind)⟩
  · next scalar recognized =>
    rw [ite_eq_right_iff]
    constructor
    · intro room
      refine ⟨scalar, recognized, fun storage => ?_⟩
      by_contra large
      exact absurd (room ⟨storage, Nat.le_of_not_lt large⟩) nofun
    · rintro bindable ⟨storage, large⟩
      exact absurd (bindable.fits storage) (Nat.not_lt_of_le large)

theorem obstacle?_eq_some_iff {item : Variable} {fault : Fault} :
    item.obstacle? = some fault ↔
      (item.node = .constantAggregate ∧ fault = .aggregateConstant item.id) ∨
        (∃ kind, item.node = .constantScalar (.other kind) ∧
          fault = .unrecognizedConstant item.id kind) ∨
        item.node.isStorage = true ∧ Address.idLimit ≤ item.id.number.toNat ∧
          fault = .addressSpaceExhausted item.id := by
  unfold obstacle?
  split
  · next node => simp [node, Node.isStorage, eq_comm]
  · next kind node => simp [node, Node.isStorage, eq_comm]
  · next scalar recognized =>
    rw [Option.ite_none_right_eq_some, Option.some.injEq]
    constructor
    · rintro ⟨⟨storage, large⟩, rfl⟩
      exact .inr (.inr ⟨storage, large, rfl⟩)
    · rintro (⟨node, _⟩ | ⟨kind, node, _⟩ | ⟨storage, large, rfl⟩)
      · exact absurd node scalar
      · exact absurd node (recognized kind)
      · exact ⟨⟨storage, large⟩, rfl⟩

instance (item : Variable) : Decidable item.Bindable := decidable_of_iff _ obstacle?_eq_none_iff

end Variable

namespace Memory

variable {memory : Memory}

/-- What the expression of a newly bound variable is: the constant of its own name, its address, or the
number it carries, in 32 bits. -/
inductive Represents (memory : Memory) (item : Variable) : Expr → Prop
  | name {symbol : Symbol} (kind : item.node.kind = .value)
      (named : memory.store.symbols.names[symbol.index]? = some item.id.valueName) :
      Represents memory item (.const symbol)
  | place (storage : item.node.isStorage = true) :
      Represents memory item (.num (numeral (memory.addresses.mask ||| item.id.number)))
  | payload {value : Int64} (kind : item.node.kind = .object)
      (notStorage : item.node.isStorage = false) (low : -0x80000000 ≤ value.toInt)
      (high : value.toInt ≤ 0xffffffff) : Represents memory item (.num value)

theorem Represents.const_of_value {item : Variable} {expr : Expr}
    (represents : memory.Represents item expr) (kind : item.node.kind = .value) :
    ∃ symbol : Symbol, expr = .const symbol ∧
      memory.store.symbols.names[symbol.index]? = some item.id.valueName := by
  cases represents with
  | @name symbol _ named => exact ⟨symbol, rfl, named⟩
  | place storage =>
    rw [Node.kind_of_isStorage storage] at kind
    cases kind
  | payload object =>
    rw [object] at kind
    cases kind

theorem Represents.num_of_object {item : Variable} {expr : Expr}
    (represents : memory.Represents item expr) (kind : item.node.kind = .object) :
    ∃ value, expr = .num value := by
  cases represents with
  | name value =>
    rw [value] at kind
    cases kind
  | place storage => exact ⟨_, rfl⟩
  | payload object => exact ⟨_, rfl⟩

theorem bindVariable_of_storage (memory : Memory) {item : Variable}
    (storage : item.node.isStorage = true) :
    memory.bindVariable item = memory.bindAddress item.id := by
  unfold bindVariable
  rw [Node.kind_of_isStorage storage]
  exact bindObject_of_storage memory storage

theorem bindVariable_error_iff {item : Variable} {fault : Fault} :
    (memory.bindVariable item).answer = .error fault ↔ item.obstacle? = some fault := by
  cases storage : item.node.isStorage with
  | true =>
    rw [bindVariable_of_storage memory storage, Variable.obstacle?_of_storage storage]
    by_cases fits : item.id.number.toNat < Address.idLimit
    · rw [bindAddress_of_place (AddressSpace.place_eq_ok_iff.mpr ⟨fits, rfl⟩), if_pos fits]
      exact ⟨nofun, nofun⟩
    · rw [bindAddress_of_full (Nat.le_of_not_lt fits), if_neg fits, Except.error.injEq,
        Option.some.injEq]
  | false =>
    cases node : item.node with
    | location | placeholderObject => simp [node, Node.isStorage] at storage
    | typedValue | placeholderValue | constantAggregate =>
      simp [bindVariable, bindValue, bindObject, Variable.obstacle?, node, Node.kind, Node.isStorage]
    | constantScalar constant =>
      cases constant with
      | globalRef => simp [node, Node.isStorage] at storage
      | int | float | nullPtr | other =>
        simp [bindVariable, bindObject, bindTo, Variable.obstacle?, node, Node.kind, Node.isStorage]

/-- Constants are kept in the range of 32-bit numbers, signed or not. -/
theorem payload_of_bindVariable {item : Variable} {expr : Expr} (kind : item.node.kind = .object)
    (notStorage : item.node.isStorage = false)
    (bound : (memory.bindVariable item).answer = .ok expr) :
    ∃ value : Int64, expr = .num value ∧ -0x80000000 ≤ value.toInt ∧ value.toInt ≤ 0xffffffff := by
  cases node : item.node with
  | typedValue | placeholderValue => simp [node, Node.kind] at kind
  | location | placeholderObject => simp [node, Node.isStorage] at notStorage
  | constantAggregate => simp [bindVariable, bindObject, node, Node.kind] at bound
  | constantScalar constant =>
    simp only [bindVariable, node, Node.kind, bindObject] at bound
    cases constant with
    | globalRef => simp [node, Node.isStorage] at notStorage
    | other => cases bound
    | nullPtr =>
      cases bound
      exact ⟨0, rfl, by decide, by decide⟩
    | int value =>
      cases bound
      refine ⟨value.toInt32.toInt64, rfl, ?_, ?_⟩
      · rw [Int32.toInt_toInt64]
        exact Int32.le_toInt _
      · rw [Int32.toInt_toInt64]
        have high := Int32.toInt_lt value.toInt32
        omega
    | float value =>
      cases bound
      have word := toInt_numeral value.clamped
      have high := value.clamped.toNat_lt
      exact ⟨numeral value.clamped, rfl, by omega, by omega⟩

theorem represents_bindVariable {item : Variable} {expr : Expr}
    (bound : (memory.bindVariable item).answer = .ok expr) :
    (memory.bindVariable item).state.store.lookup item.id = .ok expr ∧
      (memory.bindVariable item).state.Represents item expr := by
  -- an outcome does not tell the number of a constant, so its range is read off beforehand
  have payload := fun kind notStorage => payload_of_bindVariable kind notStorage bound
  have outcome := binding memory item
  generalize memory.bindVariable item = reply at outcome bound ⊢
  cases outcome with
  | value kind =>
    cases bound
    refine ⟨Store.lookup_bind_self _ _ _, .name kind ?_⟩
    exact Symbols.getElem?_of_find? (Symbols.find?_intern _ _)
  | storage storage placed =>
    cases bound
    obtain ⟨fits, rfl⟩ := AddressSpace.place_eq_ok_iff.mp placed
    exact ⟨Store.lookup_bind_self _ _ _, .place storage⟩
  | constant kind notStorage =>
    obtain ⟨value, rfl, low, high⟩ := payload kind notStorage
    cases bound
    exact ⟨Store.lookup_bind_self _ _ _, .payload kind notStorage low high⟩
  | full | aggregate | unrecognized => cases bound

theorem lookup_bindVariable_of_ne {item : Variable} {id : VarId} (other : id ≠ item.id) :
    (memory.bindVariable item).state.store.lookup id = memory.store.lookup id := by
  have outcome := binding memory item
  generalize memory.bindVariable item = reply at outcome ⊢
  have kept : ∀ (store : Store) (expr : Expr),
      (store.bind item.id expr).lookup id = store.lookup id :=
    fun store expr => Store.lookup_bind_of_ne store expr other.symm
  cases outcome with
  | value => exact kept _ _
  | storage => exact kept _ _
  | constant => exact kept _ _
  | full | aggregate | unrecognized => rfl

theorem symbols_bindVariable (memory : Memory) (item : Variable) :
    memory.store.symbols.Extends (memory.bindVariable item).state.store.symbols := by
  have outcome := binding memory item
  generalize memory.bindVariable item = reply at outcome ⊢
  cases outcome with
  | value => exact Symbols.extends_intern _ _
  | storage | constant | full | aggregate | unrecognized => exact .refl _

theorem mem_names_bindVariable {item : Variable} {name : String} :
    name ∈ (memory.bindVariable item).state.store.symbols.names ↔
      name ∈ memory.store.symbols.names ∨
        item.node.kind = .value ∧ name = item.id.valueName := by
  have outcome := binding memory item
  generalize memory.bindVariable item = reply at outcome ⊢
  cases outcome with
  | value kind =>
    rw [and_iff_right kind]
    exact Symbols.mem_intern
  | storage storage =>
    rw [Node.kind_of_isStorage storage]
    exact (or_iff_left nofun).symm
  | constant kind =>
    rw [kind]
    exact (or_iff_left nofun).symm
  | full storage =>
    rw [Node.kind_of_isStorage storage]
    exact (or_iff_left nofun).symm
  | aggregate node | unrecognized node =>
    rw [node]
    exact (or_iff_left nofun).symm

theorem distinct_bindVariable (item : Variable) (distinct : memory.store.symbols.Distinct) :
    (memory.bindVariable item).state.store.symbols.Distinct := by
  have outcome := binding memory item
  generalize memory.bindVariable item = reply at outcome ⊢
  cases outcome with
  | value => exact distinct.intern item.id.valueName
  | storage | constant | full | aggregate | unrecognized => exact distinct

/-- The first variable that cannot be bound tells what goes wrong. -/
theorem bindAll_error_iff {items : List Variable} {fault : Fault} :
    (memory.bindAll items).answer = .error fault ↔
      items.findSome? Variable.obstacle? = some fault := by
  induction items generalizing memory with
  | nil => exact ⟨nofun, nofun⟩
  | cons item items ih =>
    have single : ∀ cause, (memory.bindVariable item).answer = .error cause ↔
        item.obstacle? = some cause := fun cause => bindVariable_error_iff
    rw [bindAll, List.findSome?_cons]
    cases first : memory.bindVariable item with
    | mk answer state events =>
      rw [first] at single
      cases answer with
      | error cause =>
        rw [(single cause).mp rfl]
        simp
      | ok expr =>
        have free : item.obstacle? = none := by
          rw [Option.eq_none_iff_forall_ne_some]
          intro cause obstacle
          cases (single cause).mpr obstacle
        rw [free]
        exact ih

theorem lookup_bindAll_of_ne {items : List Variable} {id : VarId}
    (others : ∀ item ∈ items, id ≠ item.id) :
    (memory.bindAll items).state.store.lookup id = memory.store.lookup id := by
  refine bindAll_induction (fun later => later.store.lookup id = memory.store.lookup id) ?_ rfl
  intro later item member same
  rw [lookup_bindVariable_of_ne (others item member), same]

theorem symbols_bindAll (memory : Memory) (items : List Variable) :
    memory.store.symbols.Extends (memory.bindAll items).state.store.symbols := by
  refine bindAll_induction (fun later => memory.store.symbols.Extends later.store.symbols) ?_
    (.refl _)
  intro later item _ grown
  exact grown.trans (symbols_bindVariable later item)

theorem mem_names_bindAll {items : List Variable} {name : String}
    (member : name ∈ (memory.bindAll items).state.store.symbols.names) :
    name ∈ memory.store.symbols.names ∨
      ∃ item ∈ items, item.node.kind = .value ∧ name = item.id.valueName := by
  have kept : ∀ name ∈ (memory.bindAll items).state.store.symbols.names,
      name ∈ memory.store.symbols.names ∨
        ∃ item ∈ items, item.node.kind = .value ∧ name = item.id.valueName := by
    refine bindAll_induction (fun later => ∀ name ∈ later.store.symbols.names,
      name ∈ memory.store.symbols.names ∨
        ∃ item ∈ items, item.node.kind = .value ∧ name = item.id.valueName) ?_ fun _ => .inl
    intro later item listed names name member
    rcases mem_names_bindVariable.mp member with known | ⟨kind, same⟩
    · exact names name known
    · exact .inr ⟨item, listed, kind, same⟩
  exact kept name member

theorem distinct_bindAll (items : List Variable) (distinct : memory.store.symbols.Distinct) :
    (memory.bindAll items).state.store.symbols.Distinct := by
  refine bindAll_induction (fun later => later.store.symbols.Distinct) ?_ distinct
  intro later item _ still
  exact distinct_bindVariable item still

theorem Represents.mono {later : Memory} {item : Variable} {expr : Expr}
    (represents : memory.Represents item expr)
    (symbols : memory.store.symbols.Extends later.store.symbols)
    (mask : later.addresses.mask = memory.addresses.mask) : later.Represents item expr := by
  cases represents with
  | name kind named => exact .name kind (symbols.getElem? named)
  | place storage =>
    rw [← mask]
    exact .place storage
  | payload kind notStorage low high => exact .payload kind notStorage low high

theorem represents_bindAll {items : List Variable} (distinct : (items.map Variable.id).Nodup)
    (bound : (memory.bindAll items).answer = .ok ()) :
    ∀ item ∈ items, ∃ expr, (memory.bindAll items).state.store.lookup item.id = .ok expr ∧
      (memory.bindAll items).state.Represents item expr := by
  induction items generalizing memory with
  | nil => exact fun _ member => nomatch member
  | cons first items ih =>
    rw [List.map_cons, List.nodup_cons] at distinct
    obtain ⟨⟨expr, firstBound⟩, restBound, state⟩ := bindAll_cons_ok bound
    rw [state]
    intro item member
    rcases List.mem_cons.mp member with rfl | later
    · -- the variables after it have other ids and leave its binding alone
      obtain ⟨known, represents⟩ := represents_bindVariable firstBound
      have others : ∀ other ∈ items, item.id ≠ other.id := fun other listed same =>
        distinct.1 (same ▸ List.mem_map_of_mem listed)
      refine ⟨expr, ?_, represents.mono (symbols_bindAll _ items) (mask_bindAll _ items)⟩
      rw [lookup_bindAll_of_ne others, known]
    · exact ih distinct.2 restBound item later

end Memory

end CellMemory
