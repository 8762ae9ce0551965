/-! A virtual address has 32 bits: the id of an object in the low ones, below a mask that all
addresses of a session share. -/

namespace CellMemory.Address

def idBits : Nat := 24

/-- Ids from here on do not fit in an address. -/
def idLimit : Nat := 0x1000000

def idField : UInt32 := 0xffffff

def maskField : UInt32 := 0xff000000

end CellMemory.Address
