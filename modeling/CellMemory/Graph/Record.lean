import CellMemory.Fault
import CellMemory.Graph.Variable

/-! A record is what a graph document says of one variable. Classification turns it into a node. -/

namespace CellMemory

inductive Payload where
  | constant (value : Constant)
  | constantArray
  | constantStruct
  | location (region : Region)
  deriving DecidableEq

structure Record where
  id : VarId
  kind : Kind
  ty : Option TypeId
  placeholder : Bool
  payload : Option Payload
  deriving DecidableEq

/-- A value goes by its type and an object by its payload; only what lacks these can be a
placeholder. -/
def Record.classify (record : Record) : Except Fault Node :=
  match record.kind, record.ty, record.payload with
  | .value, some ty, _ => .ok (.typedValue ty)
  | .value, none, _ =>
    if record.placeholder then .ok .placeholderValue else .error (.untypedValue record.id)
  | .object, _, none =>
    if record.placeholder then .ok .placeholderObject else .error (.missingPayload record.id)
  | .object, _, some (.constant value) => .ok (.constantScalar value)
  | .object, _, some .constantArray => .ok .constantAggregate
  | .object, _, some .constantStruct => .ok .constantAggregate
  | .object, ty, some (.location region) => .ok (.location region ty)

end CellMemory
