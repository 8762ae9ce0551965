import CellMemory.Expr.Basic
import CellMemory.Fault
import CellMemory.Gep.Basic

/-! What a session does beside its answers is told by events. An operation replies with its answer,
the state it leaves and its events in order. -/

namespace CellMemory

namespace Gep

structure Step where
  index : Index
  value : Int64
  slots : Int64
  deriving DecidableEq

end Gep

inductive Level where
  | trace
  | debug
  | info
  deriving DecidableEq

inductive Event where
  | boundValue (id : VarId)
  | boundObject (id : VarId) (expr : Expr)
  | gepStep (step : Gep.Step)
  | derivedReused (base : VarId) (offset : Int64) (derived : VarId)
  | derivedBound (base : VarId) (offset : Int64) (derived : VarId)
  | initialized (values objects : Nat)
  deriving DecidableEq

namespace Event

def level : Event → Level
  | boundValue _ | gepStep _ => .trace
  | boundObject _ _ | derivedReused _ _ _ | derivedBound _ _ _ => .debug
  | initialized _ _ => .info

def message : Event → String
  | boundValue _ => "bound value"
  | boundObject _ _ => "bound object"
  | gepStep _ => "gep step"
  | derivedReused _ _ _ => "derived object reused"
  | derivedBound _ _ _ => "derived object bound"
  | initialized _ _ => "memory model initialized"

def fields : Event → List (String × String)
  | boundValue id => [("id", id.text)]
  | boundObject id expr => [("id", id.text), ("expr", expr.anonymous), ("name", id.objectName)]
  | gepStep step =>
    [("index", step.index.text), ("value", Numeral.decimal step.value),
      ("step", Numeral.decimal step.slots)]
  | derivedReused base offset derived | derivedBound base offset derived =>
    [("base", base.text), ("offset", Numeral.decimal offset), ("derived", derived.text)]
  | initialized values objects => [("values", values.repr), ("objects", objects.repr)]

end Event

structure Reply (σ α : Type) where
  answer : Except Fault α
  state : σ
  events : List Event

end CellMemory
