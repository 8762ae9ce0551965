import CellMemory.Id
import CellMemory.Numeral.Basic

/-! Integer expressions over numerals and named constants. An application of two numerals is folded
as it is built, so a concrete computation leaves no tree behind. -/

namespace CellMemory

structure Symbol where
  index : Nat
  deriving DecidableEq

namespace Symbol

instance : Ord Symbol := ⟨compareOn index⟩

instance : Std.TransOrd Symbol := inferInstanceAs (Std.TransCmp (compareOn index))

instance : Std.LawfulEqOrd Symbol :=
  lawfulEqCmp_compareOn index fun a b equal => by cases a; cases b; simp_all

def text (symbol : Symbol) : String := "sym" ++ symbol.index.repr

end Symbol

inductive BinOp where
  | add
  | sub
  | mul
  deriving DecidableEq

namespace BinOp

def apply : BinOp → Int64 → Int64 → Int64
  | add, x, y => x + y
  | sub, x, y => x - y
  | mul, x, y => x * y

def sign : BinOp → String
  | add => "+"
  | sub => "-"
  | mul => "*"

end BinOp

abbrev Model := Std.ExtTreeMap Symbol Int64

inductive Expr where
  | num (value : Int64)
  | const (symbol : Symbol)
  | apply (op : BinOp) (left right : Expr)

namespace Expr

/-- Expressions share their parts, so one that is small in memory can be a huge tree. A part held by
both sides is equal without a look inside. -/
def decideEq (first second : Expr) : Decidable (first = second) :=
  withPtrEqDecEq first second fun _ =>
    match first, second with
    | num x, num y =>
      if same : x = y then isTrue (congrArg num same) else isFalse fun equal => same (num.inj equal)
    | const x, const y =>
      if same : x = y then isTrue (congrArg const same)
      else isFalse fun equal => same (const.inj equal)
    | apply op left right, apply op' left' right' =>
      if sameOp : op = op' then
        match decideEq left left' with
        | isFalse different => isFalse fun equal => different (apply.inj equal).2.1
        | isTrue sameLeft =>
          match decideEq right right' with
          | isFalse different => isFalse fun equal => different (apply.inj equal).2.2
          | isTrue sameRight => isTrue (by rw [sameOp, sameLeft, sameRight])
      else isFalse fun equal => sameOp (apply.inj equal).1
    | num _, const _ | num _, apply _ _ _ | const _, num _ | const _, apply _ _ _
    | apply _ _ _, num _ | apply _ _ _, const _ => isFalse nofun

instance : DecidableEq Expr := decideEq

def combine (op : BinOp) (left right : Expr) : Expr :=
  match left, right with
  | num x, num y => num (op.apply x y)
  | left, right => apply op left right

def numeral? : Expr → Option Int64
  | num value => some value
  | _ => none

def symbol? : Expr → Option Symbol
  | const symbol => some symbol
  | _ => none

def evaluate (model : Model) : Expr → Option Int64
  | num value => some value
  | const symbol => model[symbol]?
  | apply op left right =>
    match left.evaluate model, right.evaluate model with
    | some x, some y => some (op.apply x y)
    | _, _ => none

theorem evaluate_combine (model : Model) (op : BinOp) (left right : Expr) :
    (combine op left right).evaluate model = (apply op left right).evaluate model := by
  unfold combine
  split <;> rfl

def render (name : Symbol → String) : Expr → String
  | num value => Numeral.decimal value
  | const symbol => name symbol
  | apply op left right =>
    "(" ++ left.render name ++ " " ++ op.sign ++ " " ++ right.render name ++ ")"

def anonymous : Expr → String := render Symbol.text

end Expr

end CellMemory
