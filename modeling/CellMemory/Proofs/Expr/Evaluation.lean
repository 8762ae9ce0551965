import CellMemory.Expr.Basic

/-! What the value of an expression depends on. A value stays when more constants are given one, and
only the constants that occur in an expression count for it. -/

namespace CellMemory

def Model.Extends (first last : Model) : Prop :=
  ∀ (symbol : Symbol) (value : Int64), first[symbol]? = some value → last[symbol]? = some value

namespace Model

theorem Extends.refl (model : Model) : model.Extends model := by
  intro symbol value known
  exact known

theorem Extends.trans {first middle last : Model} (before : first.Extends middle)
    (after : middle.Extends last) : first.Extends last := by
  intro symbol value known
  exact after symbol value (before symbol value known)

theorem getElem?_insert (model : Model) (symbol other : Symbol) (value : Int64) :
    (model.insert symbol value)[other]? = if other = symbol then some value else model[other]? := by
  rw [Std.ExtTreeMap.getElem?_insert]
  by_cases same : other = symbol
  · subst same
    rw [if_pos Std.ReflCmp.compare_self, if_pos rfl]
  · rw [if_neg same, if_neg fun equal => same (Std.LawfulEqOrd.eq_of_compare equal).symm]

theorem extends_insert {model : Model} {symbol : Symbol} (unknown : model[symbol]? = none)
    (value : Int64) : model.Extends (model.insert symbol value) := by
  intro other old known
  have different : other ≠ symbol := by
    rintro rfl
    simp [unknown] at known
  rw [getElem?_insert, if_neg different]
  exact known

theorem insert_of_known {model : Model} {symbol : Symbol} {value : Int64}
    (known : model[symbol]? = some value) : model.insert symbol value = model := by
  apply Std.ExtTreeMap.ext_getElem?
  intro other
  rw [getElem?_insert]
  split
  · next same => rw [same, known]
  · rfl

theorem insert_comm (model : Model) {first second : Symbol} (different : first ≠ second)
    (x y : Int64) :
    (model.insert first x).insert second y = (model.insert second y).insert first x := by
  apply Std.ExtTreeMap.ext_getElem?
  intro other
  simp only [getElem?_insert]
  by_cases atFirst : other = first
  · subst atFirst
    rw [if_neg different, if_pos rfl, if_pos rfl]
  · rw [if_neg atFirst, if_neg atFirst]

end Model

namespace Expr

def Mentions (symbol : Symbol) : Expr → Prop
  | num _ => False
  | const other => other = symbol
  | apply _ left right => left.Mentions symbol ∨ right.Mentions symbol

theorem mentions_combine {op : BinOp} {left right : Expr} {symbol : Symbol} :
    (combine op left right).Mentions symbol ↔ left.Mentions symbol ∨ right.Mentions symbol := by
  unfold combine
  split
  · simp only [Mentions, or_self]
  · rfl

theorem evaluate_apply_eq_some {model : Model} {op : BinOp} {left right : Expr} {value : Int64} :
    (apply op left right).evaluate model = some value ↔
      ∃ x y, left.evaluate model = some x ∧ right.evaluate model = some y ∧ op.apply x y = value := by
  rw [evaluate]
  cases left.evaluate model with
  | none => simp
  | some x =>
    cases right.evaluate model with
    | none => simp
    | some y => simp

theorem evaluate_of_extends {first last : Model} (grown : first.Extends last) {expr : Expr}
    {value : Int64} (known : expr.evaluate first = some value) :
    expr.evaluate last = some value := by
  induction expr generalizing value with
  | num number => exact known
  | const symbol => exact grown symbol value known
  | apply op left right leftKept rightKept =>
    obtain ⟨x, y, leftValue, rightValue, result⟩ := evaluate_apply_eq_some.mp known
    apply evaluate_apply_eq_some.mpr
    exact ⟨x, y, leftKept leftValue, rightKept rightValue, result⟩

theorem evaluate_congr {first last : Model} {expr : Expr}
    (agree : ∀ symbol, expr.Mentions symbol → last[symbol]? = first[symbol]?) :
    expr.evaluate last = expr.evaluate first := by
  induction expr with
  | num number => rfl
  | const symbol => exact agree symbol rfl
  | apply op left right leftAgrees rightAgrees =>
    have leftSame := leftAgrees fun symbol mentioned => agree symbol (.inl mentioned)
    have rightSame := rightAgrees fun symbol mentioned => agree symbol (.inr mentioned)
    rw [evaluate, evaluate, leftSame, rightSame]

theorem evaluate_eq_none_iff {model : Model} {expr : Expr} :
    expr.evaluate model = none ↔ ∃ symbol, expr.Mentions symbol ∧ model[symbol]? = none := by
  induction expr with
  | num value => simp [evaluate, Mentions]
  | const symbol => simp [evaluate, Mentions]
  | apply op left right leftUnknown rightUnknown =>
    have either : (apply op left right).evaluate model = none ↔
        left.evaluate model = none ∨ right.evaluate model = none := by
      rw [evaluate]
      cases left.evaluate model <;> cases right.evaluate model <;> simp
    rw [either, leftUnknown, rightUnknown]
    simp only [Mentions, or_and_right, exists_or]

theorem evaluate_insert {expr : Expr} {symbol : Symbol} (absent : ¬expr.Mentions symbol)
    (model : Model) (value : Int64) :
    expr.evaluate (model.insert symbol value) = expr.evaluate model := by
  apply evaluate_congr
  intro other mentioned
  have different : other ≠ symbol := by
    rintro rfl
    exact absent mentioned
  rw [Model.getElem?_insert, if_neg different]

end Expr

end CellMemory
