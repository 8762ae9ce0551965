import Std.Data.ExtTreeMap

/-! Numbers that name the variables of a graph and the types of its layout table, with the order
that keyed collections use. -/

namespace CellMemory

theorem lawfulEqCmp_compareOn {α β : Type} [Ord β] [Std.LawfulEqOrd β] (key : α → β)
    (injective : ∀ a b, key a = key b → a = b) : Std.LawfulEqCmp (compareOn key) where
  compare_self := Std.ReflOrd.compare_self
  eq_of_compare := fun equal => injective _ _ (Std.LawfulEqOrd.eq_of_compare equal)

structure VarId where
  number : UInt32
  deriving DecidableEq, Inhabited

structure TypeId where
  number : UInt32
  deriving DecidableEq, Inhabited

namespace VarId

instance : Ord VarId := ⟨compareOn number⟩

instance : Std.TransOrd VarId := inferInstanceAs (Std.TransCmp (compareOn number))

instance : Std.LawfulEqOrd VarId :=
  lawfulEqCmp_compareOn number fun a b equal => by cases a; cases b; simp_all

def text (id : VarId) : String := "#" ++ id.number.toNat.repr

def valueName (id : VarId) : String := "ValVar" ++ id.number.toNat.repr

def objectName (id : VarId) : String := "ObjVar" ++ id.number.toNat.repr

end VarId

namespace TypeId

def text (id : TypeId) : String := "ty" ++ id.number.toNat.repr

end TypeId

end CellMemory
