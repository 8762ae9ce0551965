import CellMemory.Proofs.Expr.Evaluation
import CellMemory.Proofs.Store.Naming

/-! Terms and the expressions built for them. Building folds what is concrete as it goes, from the
leaves up; the value of the expression is still that of the whole term, and its constants are
those of the term. -/

namespace CellMemory

def BinOp.exact : BinOp → Int → Int → Int
  | add, x, y => x + y
  | sub, x, y => x - y
  | mul, x, y => x * y

theorem BinOp.apply_ofInt (op : BinOp) (x y : Int) :
    op.apply (Int64.ofInt x) (Int64.ofInt y) = Int64.ofInt (op.exact x y) := by
  cases op with
  | add => exact (Int64.ofInt_add x y).symm
  | sub => exact (Int64.ofInt_sub x y).symm
  | mul => exact (Int64.ofInt_mul x y).symm

inductive Term where
  | numeral (value : Int64)
  | constant (name : String)
  | apply (op : BinOp) (left right : Term)

namespace Term

def Names (name : String) : Term → Prop
  | numeral _ => False
  | constant other => other = name
  | apply _ left right => left.Names name ∨ right.Names name

def exact (values : String → Int64) : Term → Int
  | numeral value => value.toInt
  | constant name => (values name).toInt
  | apply op left right => op.exact (left.exact values) (right.exact values)

end Term

namespace Symbols

def known (symbols : Symbols) (model : Model) (name : String) : Option Int64 :=
  (symbols.find? name).bind fun symbol => model[symbol]?

def build (symbols : Symbols) : Term → Expr × Symbols
  | .numeral value => (.num value, symbols)
  | .constant name => (.const (symbols.intern name).1, (symbols.intern name).2)
  | .apply op left right =>
    let (first, symbols) := symbols.build left
    let (second, symbols) := symbols.build right
    (.combine op first second, symbols)

/-- By the time the names are these, the expression has been built for the term. The parts of a
term may be built in any order, and other names may come to the table before, between and after. -/
inductive Made : Symbols → Term → Expr → Prop
  | numeral (symbols : Symbols) (value : Int64) : Made symbols (.numeral value) (.num value)
  | constant (symbols : Symbols) (name : String) :
      Made (symbols.intern name).2 (.constant name) (.const (symbols.intern name).1)
  | apply {symbols : Symbols} {left right : Term} {first second : Expr} (op : BinOp)
      (leftMade : Made symbols left first) (rightMade : Made symbols right second) :
      Made symbols (.apply op left right) (.combine op first second)
  | later {symbols : Symbols} {term : Term} {expr : Expr} (name : String)
      (made : Made symbols term expr) : Made (symbols.intern name).2 term expr

end Symbols

namespace Expr

/-- No operator in the expression is applied to two numerals. -/
def Folded : Expr → Prop
  | num _ | const _ => True
  | apply _ left right =>
    left.Folded ∧ right.Folded ∧ (left.numeral? = none ∨ right.numeral? = none)

theorem Folded.combine {left right : Expr} (leftFolded : left.Folded) (rightFolded : right.Folded)
    (op : BinOp) : (Expr.combine op left right).Folded := by
  cases left with
  | num x =>
    cases right with
    | num y => trivial
    | const | apply => exact ⟨leftFolded, rightFolded, .inr rfl⟩
  | const | apply => exact ⟨leftFolded, rightFolded, .inl rfl⟩

theorem Folded.isNum_iff {expr : Expr} (folded : expr.Folded) :
    (∃ value, expr = num value) ↔ ∀ symbol, ¬expr.Mentions symbol := by
  induction expr with
  | num value => simp [Mentions]
  | const symbol => simp [Mentions]
  | apply op left right leftNum rightNum =>
    obtain ⟨leftFolded, rightFolded, apart⟩ := folded
    refine iff_of_false ?_ ?_
    · rintro ⟨value, same⟩
      cases same
    · intro bare
      obtain ⟨x, rfl⟩ := (leftNum leftFolded).mpr fun symbol inLeft => bare symbol (.inl inLeft)
      obtain ⟨y, rfl⟩ := (rightNum rightFolded).mpr fun symbol inRight => bare symbol (.inr inRight)
      rcases apart with absent | absent <;> cases absent

end Expr

namespace Symbols

theorem known_of_find? {symbols : Symbols} {model : Model} {name : String} {symbol : Symbol}
    (found : symbols.find? name = some symbol) : symbols.known model name = model[symbol]? := by
  rw [known, found, Option.bind_some]

variable {symbols : Symbols} {term : Term} {expr : Expr}

/-- What is built stays built while another term is. -/
theorem Made.beside (made : symbols.Made term expr) (other : Term) :
    (symbols.build other).2.Made term expr := by
  induction other generalizing symbols with
  | numeral value => exact made
  | constant name => exact made.later name
  | apply op left right leftBeside rightBeside => exact rightBeside (leftBeside made)

theorem made_build (symbols : Symbols) (term : Term) :
    (symbols.build term).2.Made term (symbols.build term).1 := by
  induction term generalizing symbols with
  | numeral value => exact .numeral symbols value
  | constant name => exact .constant symbols name
  | apply op left right leftMade rightMade =>
    exact .apply op ((leftMade symbols).beside right) (rightMade _)

theorem Made.find? (made : symbols.Made term expr) {name : String} (named : term.Names name) :
    ∃ symbol, symbols.find? name = some symbol := by
  induction made with
  | numeral => cases named
  | constant symbols =>
    subst named
    exact ⟨_, find?_intern symbols _⟩
  | apply op _ _ leftFound rightFound =>
    rcases named with inLeft | inRight
    · exact leftFound inLeft
    · exact rightFound inRight
  | @later symbols _ _ other _ found =>
    obtain ⟨symbol, before⟩ := found named
    exact ⟨symbol, (symbols.extends_intern other).find? before⟩

theorem Made.find?_intern (made : symbols.Made term expr) {name : String}
    (named : term.Names name) (other : String) :
    (symbols.intern other).2.find? name = symbols.find? name := by
  obtain ⟨symbol, found⟩ := made.find? named
  rw [found, (symbols.extends_intern other).find? found]

theorem Made.mentions_iff (made : symbols.Made term expr) {symbol : Symbol} :
    expr.Mentions symbol ↔ ∃ name, term.Names name ∧ symbols.find? name = some symbol := by
  induction made with
  | numeral => simp [Expr.Mentions, Term.Names]
  | constant symbols name =>
    simp [Expr.Mentions, Term.Names, Symbols.find?_intern symbols name]
  | apply op _ _ leftMentions rightMentions =>
    rw [Expr.mentions_combine, leftMentions, rightMentions]
    simp only [Term.Names, or_and_right, exists_or]
  | later other made mentions =>
    rw [mentions]
    refine exists_congr fun name => and_congr_right fun named => ?_
    rw [made.find?_intern named other]

theorem Made.folded (made : symbols.Made term expr) : expr.Folded := by
  induction made with
  | numeral | constant => trivial
  | apply op _ _ leftFolded rightFolded => exact leftFolded.combine rightFolded op
  | later other _ folded => exact folded

theorem Made.evaluate_of_known (made : symbols.Made term expr) {model : Model}
    {values : String → Int64}
    (known : ∀ name, term.Names name → symbols.known model name = some (values name)) :
    expr.evaluate model = some (Int64.ofInt (term.exact values)) := by
  induction made with
  | numeral symbols value => rw [Expr.evaluate, Term.exact, Int64.ofInt_toInt]
  | constant symbols name =>
    have valued := known name rfl
    rw [known_of_find? (Symbols.find?_intern symbols name)] at valued
    rw [Expr.evaluate, valued, Term.exact, Int64.ofInt_toInt]
  | apply op _ _ leftValue rightValue =>
    have leftKnown := leftValue fun name named => known name (.inl named)
    have rightKnown := rightValue fun name named => known name (.inr named)
    rw [Expr.evaluate_combine, Expr.evaluate_apply_eq_some]
    exact ⟨_, _, leftKnown, rightKnown, BinOp.apply_ofInt op _ _⟩
  | later other made value =>
    apply value
    intro name named
    rw [← known name named, Symbols.known, Symbols.known, made.find?_intern named other]

theorem Made.evaluate_of_unknown (made : symbols.Made term expr) {model : Model} {name : String}
    (named : term.Names name) (unknown : symbols.known model name = none) :
    expr.evaluate model = none := by
  obtain ⟨symbol, found⟩ := made.find? named
  rw [known_of_find? found] at unknown
  exact Expr.evaluate_eq_none_iff.mpr ⟨symbol, made.mentions_iff.mpr ⟨name, named, found⟩, unknown⟩

theorem Made.isNum_iff (made : symbols.Made term expr) :
    (∃ value, expr = .num value) ↔ ∀ name, ¬term.Names name := by
  rw [made.folded.isNum_iff]
  constructor
  · intro bare name named
    obtain ⟨symbol, found⟩ := made.find? named
    exact bare symbol (made.mentions_iff.mpr ⟨name, named, found⟩)
  · intro bare symbol mentioned
    obtain ⟨name, named, _⟩ := made.mentions_iff.mp mentioned
    exact bare name named

/-- Folding does not show in what an expression evaluates to. Any term can be built in any table of
names. However its building went, the expression has a value if the model gives one to each of
its constants, and this is the value of the term in wrapping arithmetic; if one of them has no
value then neither has the expression, whatever it is multiplied by. Everything concrete is
folded, so a term without constants is a numeral, and no constant is lost or added. -/
theorem evaluate_of_made (symbols : Symbols) (term : Term) :
    (symbols.build term).2.Made term (symbols.build term).1 ∧
    ∀ (last : Symbols) (expr : Expr), last.Made term expr →
      (∀ (model : Model) (values : String → Int64),
        (∀ name, term.Names name → last.known model name = some (values name)) →
          expr.evaluate model = some (Int64.ofInt (term.exact values))) ∧
      (∀ (model : Model) (name : String), term.Names name → last.known model name = none →
        expr.evaluate model = none) ∧
      expr.Folded ∧
      ((∃ value, expr = .num value) ↔ ∀ name, ¬term.Names name) ∧
      ∀ symbol, expr.Mentions symbol ↔
        ∃ name, term.Names name ∧ last.find? name = some symbol := by
  refine ⟨made_build symbols term, ?_⟩
  intro last expr made
  refine ⟨?_, ?_, made.folded, made.isNum_iff, fun _ => made.mentions_iff⟩
  · intro model values known
    exact made.evaluate_of_known known
  · intro model name named unknown
    exact made.evaluate_of_unknown named unknown

def overflowing : Term :=
  .apply .sub (.apply .add (.numeral 0x7fffffffffffffff) (.numeral 1))
    (.apply .mul (.numeral 0) (.constant "x"))

/-- It is built where another name is known, and one more is added before it is evaluated. -/
theorem evaluate_of_made_overflowing :
    ∃ last expr, last = (((⟨#["y"]⟩ : Symbols).build overflowing).2.intern "z").2 ∧
      last.Made overflowing expr ∧ last.names = #["y", "x", "z"] ∧
      expr = .apply .sub (.num (-0x8000000000000000)) (.apply .mul (.num 0) (.const ⟨1⟩)) ∧
      expr.evaluate ∅ = none ∧
      expr.evaluate ((∅ : Model).insert ⟨1⟩ 5) = some (-0x8000000000000000) ∧
      expr.Mentions ⟨1⟩ ∧ ¬expr.Mentions ⟨0⟩ := by
  have only : ∀ name, overflowing.Names name → name = "x" := by
    simp [overflowing, Term.Names, eq_comm]
  obtain ⟨made, built⟩ := evaluate_of_made ⟨#["y"]⟩ overflowing
  have after := made.later "z"
  obtain ⟨valued, symbolic, _, _, mentions⟩ := built _ _ after
  have unknown := symbolic ∅ "x" (.inr (.inr rfl)) (by decide +kernel)
  refine ⟨_, _, rfl, after, by decide +kernel, by decide +kernel, unknown,
    valued _ (fun _ => 5) ?_, ?_, ?_⟩
  · intro name named
    rw [only name named]
    decide +kernel
  · exact (mentions ⟨1⟩).mpr ⟨"x", .inr (.inr rfl), by decide +kernel⟩
  · intro mentioned
    obtain ⟨name, named, found⟩ := (mentions ⟨0⟩).mp mentioned
    rw [only name named] at found
    exact absurd found (by decide +kernel)

end Symbols

end CellMemory
