import CellMemory.AddressSpace
import CellMemory.Event
import CellMemory.Graph.Variable
import CellMemory.Store

/-! First expressions of variables. A value becomes a constant named after it; an object becomes the
numeral of its payload or the address of the storage it denotes. -/

namespace CellMemory

structure Memory where
  store : Store
  addresses : AddressSpace

namespace Memory

def new (mask : UInt32) : Memory := ⟨.empty, .new mask⟩

def bindTo (memory : Memory) (id : VarId) (expr : Expr) : Reply Memory Expr :=
  ⟨.ok expr, { memory with store := memory.store.bind id expr }, [.boundObject id expr]⟩

def bindAddress (memory : Memory) (id : VarId) : Reply Memory Expr :=
  match memory.addresses.allocate id with
  | (.error fault, addresses) => ⟨.error fault, { memory with addresses }, []⟩
  | (.ok address, addresses) =>
    { memory with addresses }.bindTo id (.num (Int64.ofNat address.toNat))

def bindObject (memory : Memory) (object : Variable) : Reply Memory Expr :=
  let id := object.id
  match object.node with
  | .placeholderObject | .location _ _ | .constantScalar .globalRef => memory.bindAddress id
  | .constantScalar (.int value) => memory.bindTo id (.num value.toInt32.toInt64)
  | .constantScalar (.float value) => memory.bindTo id (.num (Int64.ofNat value.clamped.toNat))
  | .constantScalar .nullPtr => memory.bindTo id (.num 0)
  | .constantScalar (.other kind) => ⟨.error (.unrecognizedConstant id kind), memory, []⟩
  | .constantAggregate => ⟨.error (.aggregateConstant id), memory, []⟩
  | .typedValue _ | .placeholderValue => ⟨.error (.notAnObject id), memory, []⟩

def bindValue (memory : Memory) (value : Variable) : Reply Memory Expr :=
  match value.node.kind with
  | .object => ⟨.error (.notAValue value.id), memory, []⟩
  | .value =>
    match memory.store.constant value.id.valueName with
    | (expr, store) =>
      ⟨.ok expr, { memory with store := store.bind value.id expr }, [.boundValue value.id]⟩

def bindVariable (memory : Memory) (item : Variable) : Reply Memory Expr :=
  match item.node.kind with
  | .value => memory.bindValue item
  | .object => memory.bindObject item

end Memory

end CellMemory
