import CellMemory.Proofs.Memory.Introduction

/-! What binding a variable touches. A variable that cannot be bound leaves no trace. Where one is bound,
only its own binding, the name of its constant and the owner of its address can be new; an address that
has an owner keeps it, whatever the mask makes two objects share. So to bind a variable again comes to
the same and changes nothing. -/

namespace CellMemory

open Address (numeral)

namespace AddressSpace

variable (space : AddressSpace) (address : UInt32) (id : VarId)

theorem owners_take_cases (other : UInt32) :
    (space.take address id).owners[other]? = space.owners[other]? ∨
      other = address ∧ space.owners[other]? = none ∧
        (space.take address id).owners[other]? = some id := by
  cases known : space.owners[other]? with
  | some owner => exact .inl (owners_take_of_some known)
  | none =>
    cases taken : (space.take address id).owners[other]? with
    | none => exact .inl rfl
    | some owner =>
      rcases owners_take taken with ⟨here, same⟩ | held
      · exact .inr ⟨here, rfl, congrArg some same⟩
      · cases known.symm.trans held

theorem take_take : (space.take address id).take address id = space.take address id := by
  cases known : space.owners[address]? with
  | some owner => exact take_of_some (owners_take_of_some known) id
  | none => exact take_of_some (owners_take_of_free known id) id

end AddressSpace

theorem Store.constant_bind_constant (store : Store) (name : String) (id : VarId) (expr : Expr) :
    ((store.constant name).2.bind id expr).constant name =
      ((store.constant name).1, (store.constant name).2.bind id expr) := by
  have known := Symbols.intern_of_find? (Symbols.find?_intern store.symbols name)
  simp only [Store.constant, Store.bind, known]

namespace Memory

/-- What can be different after a variable was bound to an expression. -/
structure BindsOnly (before after : Memory) (id : VarId) (expr : Expr) : Prop where
  bound : after.store.lookup id = .ok expr
  others : ∀ other, other ≠ id → after.store.lookup other = before.store.lookup other
  contents : ∀ address, after.store.written address = before.store.written address
  model : after.store.model = before.store.model
  names : after.store.symbols = before.store.symbols ∨
    id.valueName ∉ before.store.symbols.names ∧
      after.store.symbols.names = before.store.symbols.names.push id.valueName
  mask : after.addresses.mask = before.addresses.mask
  owners : ∀ address, after.addresses.owners[address]? = before.addresses.owners[address]? ∨
    address = before.addresses.mask ||| id.number ∧ before.addresses.owners[address]? = none ∧
      after.addresses.owners[address]? = some id

/-- A way to bind variables that leaves no trace where it fails, touches what it has to where it
succeeds, and comes to the same if it is taken again. -/
structure Tidy (bind : Memory → Variable → Reply Memory Expr) : Prop where
  atomic : ∀ memory item fault, (bind memory item).answer = .error fault →
    (bind memory item).state = memory
  confined : ∀ memory item expr, (bind memory item).answer = .ok expr →
    memory.BindsOnly (bind memory item).state item.id expr
  again : ∀ memory item, bind (bind memory item).state item = bind memory item

variable (memory : Memory) (item : Variable)

theorem bindsOnly_bind (id : VarId) (expr : Expr) :
    memory.BindsOnly { memory with store := memory.store.bind id expr } id expr where
  bound := Store.lookup_bind_self _ _ _
  others := fun _ different => Store.lookup_bind_of_ne _ _ different.symm
  contents := fun _ => rfl
  model := rfl
  names := .inl rfl
  mask := rfl
  owners := fun _ => .inl rfl

theorem bindsOnly_settle {id : VarId} {address : UInt32}
    (placed : memory.addresses.place id = .ok address) :
    memory.BindsOnly (memory.settle id address) id (.num (numeral address)) where
  __ := memory.bindsOnly_bind id (.num (numeral address))
  mask := rfl
  owners := by
    obtain ⟨_, rfl⟩ := AddressSpace.place_eq_ok_iff.mp placed
    exact memory.addresses.owners_take_cases _ id

theorem bindsOnly_nameValue (id : VarId) :
    memory.BindsOnly (memory.nameValue id) id (memory.store.constant id.valueName).1 where
  bound := Store.lookup_bind_self _ _ _
  others := fun _ different => Store.lookup_bind_of_ne _ _ different.symm
  contents := fun _ => rfl
  model := rfl
  names := by
    change (memory.store.symbols.intern id.valueName).2 = _ ∨
      _ ∧ (memory.store.symbols.intern id.valueName).2.names = _
    cases found : memory.store.symbols.find? id.valueName with
    | some symbol => exact .inl (by rw [Symbols.intern_of_find? found])
    | none =>
      have absent := Symbols.find?_eq_none.mp found
      exact .inr ⟨absent, by rw [Symbols.intern_of_absent absent]⟩
  mask := rfl
  owners := fun _ => .inl rfl

theorem bindsOnly_bindVariable {expr : Expr}
    (bound : (memory.bindVariable item).answer = .ok expr) :
    memory.BindsOnly (memory.bindVariable item).state item.id expr := by
  have outcome := binding memory item
  generalize memory.bindVariable item = reply at outcome bound ⊢
  cases outcome with
  | value =>
    cases bound
    exact memory.bindsOnly_nameValue item.id
  | storage storage placed =>
    cases bound
    exact memory.bindsOnly_settle placed
  | constant =>
    cases bound
    exact memory.bindsOnly_bind item.id _
  | full | aggregate | unrecognized => cases bound

theorem state_of_bindVariable_error {fault : Fault}
    (failed : (memory.bindVariable item).answer = .error fault) :
    (memory.bindVariable item).state = memory := by
  have outcome := binding memory item
  generalize memory.bindVariable item = reply at outcome failed ⊢
  cases outcome with
  | value | storage | constant => cases failed
  | full | aggregate | unrecognized => rfl

theorem bindTo_bindTo (id : VarId) (expr : Expr) :
    (memory.bindTo id expr).state.bindTo id expr = memory.bindTo id expr := by
  have same := Store.bind_of_bound (Store.lookup_bind_self memory.store id expr)
  simp only [bindTo, same]

theorem bindAddress_bindAddress (id : VarId) :
    (memory.bindAddress id).state.bindAddress id = memory.bindAddress id := by
  cases placed : memory.addresses.place id with
  | ok address =>
    have again : (memory.settle id address).addresses.place id = .ok address := placed
    have same := Store.bind_of_bound
      (Store.lookup_bind_self memory.store id (.num (numeral address)))
    rw [bindAddress_of_place placed, bindAddress_of_place again]
    simp only [settle, same, AddressSpace.take_take]
  | error fault =>
    have large := (AddressSpace.place_eq_error_iff.mp placed).1
    simp only [bindAddress_of_full large]

theorem bindValue_bindValue :
    (memory.bindValue item).state.bindValue item = memory.bindValue item := by
  cases kind : item.node.kind with
  | object => simp only [bindValue, kind]
  | value =>
    have same := Store.bind_of_bound (Store.lookup_bind_self
      (memory.store.constant item.id.valueName).2 item.id
      (memory.store.constant item.id.valueName).1)
    simp only [bindValue, kind, Store.constant_bind_constant, same]

/-- Which expression an object is bound to is read off the object and its place, so it is the same
the second time. -/
theorem bindObject_bindObject :
    (memory.bindObject item).state.bindObject item = memory.bindObject item := by
  cases storage : item.node.isStorage with
  | true =>
    rw [bindObject_of_storage _ storage, bindObject_of_storage _ storage]
    exact memory.bindAddress_bindAddress item.id
  | false =>
    cases node : item.node with
    | location | placeholderObject => simp [node, Node.isStorage] at storage
    | typedValue | placeholderValue | constantAggregate => simp only [bindObject, node]
    | constantScalar constant =>
      cases constant with
      | globalRef => simp [node, Node.isStorage] at storage
      | other => simp only [bindObject, node]
      | int | float | nullPtr =>
        simp only [bindObject, node]
        exact memory.bindTo_bindTo item.id _

theorem tidy_bindValue : Tidy bindValue where
  atomic := by
    intro memory item fault failed
    cases kind : item.node.kind with
    | value => simp [bindValue, kind] at failed
    | object => simp only [bindValue, kind]
  confined := by
    intro memory item expr bound
    have same : memory.bindVariable item = memory.bindValue item := by
      cases kind : item.node.kind with
      | value => simp only [bindVariable, kind]
      | object => simp [bindValue, kind] at bound
    rw [← same] at bound ⊢
    exact memory.bindsOnly_bindVariable item bound
  again := bindValue_bindValue

theorem bindObject_of_object (object : item.node.kind = .object) :
    memory.bindObject item = memory.bindVariable item := by
  simp only [bindVariable, object]

theorem bindObject_of_value (value : item.node.kind = .value) :
    memory.bindObject item = ⟨.error (.notAnObject item.id), memory, []⟩ := by
  cases node : item.node with
  | typedValue | placeholderValue => simp only [bindObject, node]
  | constantScalar | constantAggregate | location | placeholderObject =>
    simp [node, Node.kind] at value

theorem tidy_bindObject : Tidy bindObject where
  atomic := by
    intro memory item fault failed
    cases kind : item.node.kind with
    | value => rw [memory.bindObject_of_value item kind]
    | object =>
      rw [memory.bindObject_of_object item kind] at failed ⊢
      exact memory.state_of_bindVariable_error item failed
  confined := by
    intro memory item expr bound
    cases kind : item.node.kind with
    | value =>
      rw [memory.bindObject_of_value item kind] at bound
      cases bound
    | object =>
      rw [memory.bindObject_of_object item kind] at bound ⊢
      exact memory.bindsOnly_bindVariable item bound
  again := bindObject_bindObject

theorem bindObject_error_iff {fault : Fault} :
    (memory.bindObject item).answer = .error fault ↔
      (item.node.kind = .value ∧ fault = .notAnObject item.id) ∨
        item.node.kind = .object ∧ item.obstacle? = some fault := by
  cases kind : item.node.kind with
  | value =>
    rw [memory.bindObject_of_value item kind]
    simp [eq_comm]
  | object =>
    rw [memory.bindObject_of_object item kind, bindVariable_error_iff]
    simp

/-- Both ways to bind a variable are tidy in any memory. A variable cannot be bound as an object if it
is a value, an aggregate, a constant of unknown kind, or storage whose id leaves no address for it;
nothing else stands in the way. -/
theorem tidy_binding :
    Tidy bindObject ∧ Tidy bindValue ∧
      ∀ memory item fault, (bindObject memory item).answer = .error fault ↔
        (item.node.kind = .value ∧ fault = .notAnObject item.id) ∨
        (item.node = .constantAggregate ∧ fault = .aggregateConstant item.id) ∨
        (∃ kind, item.node = .constantScalar (.other kind) ∧
          fault = .unrecognizedConstant item.id kind) ∨
        item.node.isStorage = true ∧ 0x1000000 ≤ item.id.number.toNat ∧
          fault = .addressSpaceExhausted item.id := by
  refine ⟨tidy_bindObject, tidy_bindValue, ?_⟩
  intro memory item fault
  have object : item.obstacle? = some fault → item.node.kind = .object := by
    rw [Variable.obstacle?_eq_some_iff]
    rintro (⟨node, _⟩ | ⟨kind, node, _⟩ | ⟨storage, _⟩)
    · rw [node]
      rfl
    · rw [node]
      rfl
    · exact Node.kind_of_isStorage storage
  rw [bindObject_error_iff, and_iff_right_of_imp object, Variable.obstacle?_eq_some_iff]
  rfl

/-- A mask that covers a bit of ids gives two objects one address, and the first of them keeps it. -/
example :
    let first := ((new 0x7f000001).bindObject ⟨⟨2⟩, .placeholderObject, none⟩).state
    let second := first.bindObject ⟨⟨3⟩, .location .stack none, none⟩
    second.answer = .ok (.num 0x7f000003) ∧
      second.state.addresses.owners[(0x7f000003 : UInt32)]? = some ⟨2⟩ := by
  decide +kernel

end Memory

end CellMemory
