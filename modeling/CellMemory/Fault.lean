import CellMemory.Address
import CellMemory.Id
import CellMemory.Numeral.Basic

/-! What can go wrong, by cause, and the message of each cause. -/

namespace CellMemory

inductive Quantity where
  | arraySlots
  | structSlots
  | fieldOffset
  | elementOffset
  | derivedOffset
  | variableId
  | gepOffset
  deriving DecidableEq

def Quantity.text : Quantity → String
  | arraySlots => "array element count"
  | structSlots => "struct element count"
  | fieldOffset => "field offset"
  | elementOffset => "array index offset"
  | derivedOffset => "derived object offset"
  | variableId => "variable id"
  | gepOffset => "gep offset"

inductive SettingsFlaw where
  /-- The text is refused by its decoder, for this reason. -/
  | unreadable (reason : String)
  | zeroMask
  | overlappingMask (mask : UInt32)
  deriving DecidableEq

def SettingsFlaw.text : SettingsFlaw → String
  | unreadable reason => reason
  | zeroMask => "address_mask must be non-zero"
  | overlappingMask mask =>
    "address_mask " ++ Numeral.hex mask.toNat ++ " overlaps the low " ++ Address.idBits.repr
      ++ " id bits"

inductive Fault where
  | untypedValue (id : VarId)
  | missingPayload (id : VarId)
  | aggregateConstant (id : VarId)
  | unrecognizedConstant (id : VarId) (kind : String)
  | unboundVariable (id : VarId)
  | unknownVariable (id : VarId)
  | notAnObject (id : VarId)
  | notAValue (id : VarId)
  | unmappedAddress (address : Int64)
  | invalidPointer (pointer : String)
  | symbolicOffset (operand : VarId)
  | addressSpaceExhausted (id : VarId)
  | unknownType (ty : TypeId)
  | fieldOutOfRange (ty : TypeId) (index : Int64)
  | duplicateVariable (id : VarId)
  | inconsistent (expr : String) (value : Int64)
  | overflow (quantity : Quantity)
  | invalidSettings (flaw : SettingsFlaw)
  deriving DecidableEq

def Fault.message : Fault → String
  | untypedValue id => "value variable " ++ id.text ++ " has no type and is not a placeholder"
  | missingPayload id =>
    "object variable " ++ id.text ++ " has no payload and is not a placeholder object"
  | aggregateConstant id =>
    "constant aggregate payload of object " ++ id.text ++ " is not implemented"
  | unrecognizedConstant id kind =>
    "object " ++ id.text ++ " carries an unrecognized constant payload: " ++ kind
  | unboundVariable id => "variable " ++ id.text ++ " has no bound expression"
  | unknownVariable id => "variable " ++ id.text ++ " is not part of the graph"
  | notAnObject id => "variable " ++ id.text ++ " is not an object"
  | notAValue id => "variable " ++ id.text ++ " is not a value"
  | unmappedAddress address => Numeral.hexWord address ++ " is not an allocated virtual address"
  | invalidPointer pointer =>
    "pointer expression " ++ pointer ++ " does not evaluate to a virtual address"
  | symbolicOffset operand => "index operand " ++ operand.text ++ " does not resolve to a numeral"
  | addressSpaceExhausted id =>
    "object " ++ id.text ++ " does not fit in the virtual address range"
  | unknownType ty => "type " ++ ty.text ++ " is not part of the type table"
  | fieldOutOfRange ty index =>
    "field " ++ Numeral.decimal index ++ " is out of range for type " ++ ty.text
  | duplicateVariable id => "variable " ++ id.text ++ " is declared twice"
  | inconsistent expr value =>
    "expression " ++ expr ++ " cannot take value " ++ Numeral.decimal value
  | overflow quantity => quantity.text ++ " overflows"
  | invalidSettings flaw => "invalid configuration: " ++ flaw.text

end CellMemory
