import CellMemory.Fault

/-! Settings of a session. -/

namespace CellMemory

structure Settings where
  /-- The high byte that every virtual address has. -/
  addressMask : UInt32
  /-- The width of the label column of a report. -/
  labelWidth : Nat
  deriving DecidableEq

namespace Settings

def standard : Settings := ⟨0x7f000000, 25⟩

/-- The mask has to tell addresses from small integers and to leave the bits of ids free. -/
def check (settings : Settings) : Except Fault Unit :=
  if settings.addressMask = 0 then .error (.invalidSettings .zeroMask)
  else if settings.addressMask &&& Address.idField ≠ 0 then
    .error (.invalidSettings (.overlappingMask settings.addressMask))
  else .ok ()

end Settings

end CellMemory
