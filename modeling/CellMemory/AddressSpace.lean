import CellMemory.Fault

/-! Virtual addresses of objects. An address is the mask with the object's id in the low bits,
so placing an object is a function of its id; the space only remembers which addresses are taken. -/

namespace CellMemory

structure AddressSpace where
  mask : UInt32
  /-- The object that first took each address. -/
  owners : Std.ExtTreeMap UInt32 VarId

namespace AddressSpace

def new (mask : UInt32) : AddressSpace := ⟨mask, ∅⟩

def place (space : AddressSpace) (id : VarId) : Except Fault UInt32 :=
  if id.number.toNat < Address.idLimit then .ok (space.mask ||| id.number)
  else .error (.addressSpaceExhausted id)

def allocate (space : AddressSpace) (id : VarId) : Except Fault UInt32 × AddressSpace :=
  match space.place id with
  | .error fault => (.error fault, space)
  | .ok address => (.ok address, { space with owners := space.owners.insertIfNew address id })

def isAddress (space : AddressSpace) (value : Int64) : Bool :=
  decide (0 ≤ value.toInt) && decide (value.toInt < 0x100000000)
    && Numeral.lowWord value &&& Address.maskField == space.mask

def owner (space : AddressSpace) (value : Int64) : Except Fault VarId :=
  if space.isAddress value then
    match space.owners[Numeral.lowWord value]? with
    | some id => .ok id
    | none => .error (.unmappedAddress value)
  else .error (.unmappedAddress value)

def allocated (space : AddressSpace) : Nat := space.owners.size

end AddressSpace

end CellMemory
