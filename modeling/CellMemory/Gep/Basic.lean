import CellMemory.Id
import CellMemory.Numeral.Basic

/-! Pointer arithmetic as the program states it: a list of indices, each stepping through a type,
or a single constant field. -/

namespace CellMemory

namespace Gep

inductive Operand where
  | constant (value : Int64)
  | var (id : VarId)
  deriving DecidableEq

/-- An index without a type is added as it is. -/
structure Index where
  operand : Operand
  ty : Option TypeId
  deriving DecidableEq

def Operand.text : Operand → String
  | constant value => "Constant(" ++ Numeral.decimal value ++ ")"
  | var id => "Var(" ++ id.text ++ ")"

def Index.text (index : Index) : String :=
  let ty := match index.ty with
    | none => "None"
    | some ty => "Some(" ++ ty.text ++ ")"
  "GepIndex \x7b operand: " ++ index.operand.text ++ ", ty: " ++ ty ++ " \x7d"

end Gep

structure Gep where
  indices : List Gep.Index
  /-- The offset where there are no indices. -/
  field : Int64
  /-- What a pointer-typed index steps over. -/
  pointee : Option TypeId
  deriving DecidableEq

namespace Gep

structure Query where
  pointer : VarId
  gep : Gep
  deriving DecidableEq

end Gep

end CellMemory
