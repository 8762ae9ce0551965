import CellMemory.Memory
import CellMemory.Proofs.AddressSpace.Placement
import CellMemory.Proofs.Graph.Coherence

/-! How a variable is bound. Storage takes its address as it is bound to it; every other binding
leaves the addresses alone, and a variable that cannot be bound leaves the memory as it is. -/

namespace CellMemory

open Address (numeral)

def Node.isStorage : Node → Bool
  | location _ _ | placeholderObject | constantScalar .globalRef => true
  | typedValue _ | placeholderValue | constantAggregate | constantScalar _ => false

theorem Node.isStorage_of_isLocation {node : Node} (location : node.IsLocation) :
    node.isStorage = true := by
  rcases location with ⟨region, ty, rfl⟩
  rfl

theorem Node.kind_of_isStorage {node : Node} (storage : node.isStorage = true) :
    node.kind = .object := by
  cases node with
  | typedValue | placeholderValue => cases storage
  | constantScalar | constantAggregate | location | placeholderObject => rfl

namespace Memory

def settle (memory : Memory) (id : VarId) (address : UInt32) : Memory :=
  ⟨memory.store.bind id (.num (numeral address)), memory.addresses.take address id⟩

def nameValue (memory : Memory) (id : VarId) : Memory :=
  { memory with
    store := (memory.store.constant id.valueName).2.bind id (memory.store.constant id.valueName).1 }

inductive Binding (memory : Memory) (item : Variable) : Reply Memory Expr → Prop
  | value (kind : item.node.kind = .value) :
      Binding memory item ⟨.ok (memory.store.constant item.id.valueName).1,
        memory.nameValue item.id, [.boundValue item.id]⟩
  | storage {address : UInt32} (storage : item.node.isStorage = true)
      (placed : memory.addresses.place item.id = .ok address) :
      Binding memory item ⟨.ok (.num (numeral address)), memory.settle item.id address,
        [.boundObject item.id (.num (numeral address))]⟩
  | constant {value : Int64} (kind : item.node.kind = .object)
      (notStorage : item.node.isStorage = false) :
      Binding memory item (memory.bindTo item.id (.num value))
  | full (storage : item.node.isStorage = true) (large : Address.idLimit ≤ item.id.number.toNat) :
      Binding memory item ⟨.error (.addressSpaceExhausted item.id), memory, []⟩
  | aggregate (node : item.node = .constantAggregate) :
      Binding memory item ⟨.error (.aggregateConstant item.id), memory, []⟩
  | unrecognized {kind : String} (node : item.node = .constantScalar (.other kind)) :
      Binding memory item ⟨.error (.unrecognizedConstant item.id kind), memory, []⟩

theorem bindAddress_of_place {memory : Memory} {id : VarId} {address : UInt32}
    (placed : memory.addresses.place id = .ok address) :
    memory.bindAddress id = ⟨.ok (.num (numeral address)), memory.settle id address,
      [.boundObject id (.num (numeral address))]⟩ := by
  rw [bindAddress, AddressSpace.allocate_of_place placed]
  rfl

theorem bindAddress_of_full {memory : Memory} {id : VarId}
    (large : Address.idLimit ≤ id.number.toNat) :
    memory.bindAddress id = ⟨.error (.addressSpaceExhausted id), memory, []⟩ := by
  rw [bindAddress, AddressSpace.allocate_of_full large]

theorem bindObject_of_storage (memory : Memory) {object : Variable}
    (storage : object.node.isStorage = true) :
    memory.bindObject object = memory.bindAddress object.id := by
  unfold bindObject
  cases node : object.node with
  | location | placeholderObject => rfl
  | typedValue | placeholderValue | constantAggregate =>
    rw [node] at storage
    cases storage
  | constantScalar constant =>
    cases constant with
    | globalRef => rfl
    | int | float | nullPtr | other =>
      rw [node] at storage
      cases storage

theorem binding_of_storage (memory : Memory) {item : Variable}
    (storage : item.node.isStorage = true) : Binding memory item (memory.bindObject item) := by
  rw [bindObject_of_storage memory storage]
  cases placed : memory.addresses.place item.id with
  | ok address =>
    rw [bindAddress_of_place placed]
    exact .storage storage placed
  | error fault =>
    have large := (AddressSpace.place_eq_error_iff.mp placed).1
    rw [bindAddress_of_full large]
    exact .full storage large

theorem binding (memory : Memory) (item : Variable) :
    Binding memory item (memory.bindVariable item) := by
  unfold bindVariable
  cases node : item.node with
  | typedValue | placeholderValue =>
    have kind : item.node.kind = .value := by rw [node]; rfl
    simp only [Node.kind, bindValue, node]
    exact .value kind
  | location | placeholderObject => exact binding_of_storage memory (by rw [node]; rfl)
  | constantAggregate =>
    simp only [Node.kind, bindObject, node]
    exact .aggregate node
  | constantScalar constant =>
    have kind : item.node.kind = .object := by rw [node]; rfl
    cases constant with
    | globalRef => exact binding_of_storage memory (by rw [node]; rfl)
    | int | float | nullPtr =>
      simp only [Node.kind, bindObject, node]
      exact .constant kind (by rw [node]; rfl)
    | other name =>
      simp only [Node.kind, bindObject, node]
      exact .unrecognized node

end Memory

end CellMemory
