import CellMemory.Double
import CellMemory.Id

/-! Variables of the analysed program. A value stands for a register, an object for storage or for
a constant; an object may be a cell of another object. -/

namespace CellMemory

inductive Kind where
  | value
  | object
  deriving DecidableEq

inductive Region where
  | stack
  | heap
  | global
  deriving DecidableEq

inductive Constant where
  | int (value : Int64)
  | float (value : Double)
  | nullPtr
  | globalRef
  | other (kind : String)
  deriving DecidableEq

inductive Node where
  | typedValue (ty : TypeId)
  | placeholderValue
  | constantScalar (constant : Constant)
  | constantAggregate
  | location (region : Region) (ty : Option TypeId)
  | placeholderObject
  deriving DecidableEq

def Node.kind : Node → Kind
  | typedValue _ | placeholderValue => .value
  | constantScalar _ | constantAggregate | location _ _ | placeholderObject => .object

structure Cell where
  base : VarId
  offset : Int64
  deriving DecidableEq

namespace Cell

instance : Ord Cell := ⟨compareLex (compareOn base) (compareOn offset)⟩

instance : Std.TransOrd Cell :=
  inferInstanceAs (Std.TransCmp (compareLex (compareOn base) (compareOn offset)))

instance : Std.LawfulEqOrd Cell where
  eq_of_compare := fun {a b} equal => by
    change (compare a.base b.base).then (compare a.offset b.offset) = .eq at equal
    obtain ⟨sameBase, sameOffset⟩ := Ordering.then_eq_eq.mp equal
    have base := Std.LawfulEqOrd.eq_of_compare sameBase
    have offset := Std.LawfulEqOrd.eq_of_compare sameOffset
    cases a
    cases b
    simp_all

end Cell

/-- A derived object remembers the cell it stands for; a declared variable has no origin. -/
structure Variable where
  id : VarId
  node : Node
  origin : Option Cell
  deriving DecidableEq

end CellMemory
