import CellMemory.Id

/-! Types of the analysed program. An aggregate names its parts by their place in the table. -/

namespace CellMemory

inductive Ty where
  | int (bits : UInt32)
  | float
  | pointer (pointee : Option TypeId)
  | function
  | array (element : TypeId) (len : UInt32)
  | struct (fields : List TypeId)
  deriving DecidableEq

namespace Ty

def isPointer : Ty → Bool
  | pointer _ => true
  | _ => false

end Ty

end CellMemory
