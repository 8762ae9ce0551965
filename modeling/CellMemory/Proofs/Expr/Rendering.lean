import CellMemory.Proofs.Expr.Evaluation
import CellMemory.Proofs.Store.Naming

/-! Texts of expressions can be read in one way only. A numeral or the name of a constant is a word
without blanks and parentheses, and an application stands in parentheses of its own; so the text of
a part ends where the next blank or closing parenthesis outside it stands, and parts are told apart
from the left. -/

namespace CellMemory

def IsPlain (letter : Char) : Prop := letter ≠ ' ' ∧ letter ≠ '(' ∧ letter ≠ ')'

instance (letter : Char) : Decidable (IsPlain letter) := inferInstanceAs (Decidable (_ ∧ _))

structure IsWord (text : List Char) : Prop where
  nonempty : text ≠ []
  plain : ∀ letter ∈ text, IsPlain letter

/-- What follows a word: nothing, a blank or a closing parenthesis. -/
def Closes (rest : List Char) : Prop := ∀ letter ∈ rest.head?, letter = ' ' ∨ letter = ')'

theorem closes_nil : Closes [] := nofun

theorem closes_blank (rest : List Char) : Closes (' ' :: rest) := by
  rintro letter ⟨⟩
  exact .inl rfl

theorem closes_parenthesis (rest : List Char) : Closes (')' :: rest) := by
  rintro letter ⟨⟩
  exact .inr rfl

theorem Closes.not_plain {rest : List Char} (closes : Closes rest) :
    ∀ letter ∈ rest.head?, ¬IsPlain letter := by
  rintro letter next ⟨noBlank, _, noParenthesis⟩
  rcases closes letter next with blank | parenthesis
  · exact noBlank blank
  · exact noParenthesis parenthesis

/-- Of two equal texts that begin with letters of one kind, these beginnings are the same if what
follows them does not go on with such letters. -/
theorem append_inj_of_kind {kind : Char → Prop} {first second rest other : List Char}
    (firstKind : ∀ letter ∈ first, kind letter) (secondKind : ∀ letter ∈ second, kind letter)
    (restStops : ∀ letter ∈ rest.head?, ¬kind letter)
    (otherStops : ∀ letter ∈ other.head?, ¬kind letter)
    (same : first ++ rest = second ++ other) : first = second ∧ rest = other := by
  induction first generalizing second with
  | nil =>
    cases second with
    | nil => exact ⟨rfl, same⟩
    | cons letter second =>
      have split : rest = letter :: (second ++ other) := same
      rw [split] at restStops
      exact absurd (secondKind letter List.mem_cons_self) (restStops letter rfl)
  | cons letter first ih =>
    cases second with
    | nil =>
      have split : letter :: (first ++ rest) = other := same
      rw [← split] at otherStops
      exact absurd (firstKind letter List.mem_cons_self) (otherStops letter rfl)
    | cons head second =>
      obtain ⟨rfl, tails⟩ := List.cons.inj same
      obtain ⟨rfl, rests⟩ := ih (fun c member => firstKind c (List.mem_cons_of_mem letter member))
        (fun c member => secondKind c (List.mem_cons_of_mem letter member)) tails
      exact ⟨rfl, rests⟩

theorem append_inj_of_plain {first second rest other : List Char}
    (firstPlain : ∀ letter ∈ first, IsPlain letter)
    (secondPlain : ∀ letter ∈ second, IsPlain letter)
    (restCloses : Closes rest) (otherCloses : Closes other)
    (same : first ++ rest = second ++ other) : first = second ∧ rest = other :=
  append_inj_of_kind firstPlain secondPlain restCloses.not_plain otherCloses.not_plain same

theorem IsWord.append {text rest : List Char} (word : IsWord text)
    (plain : ∀ letter ∈ rest, IsPlain letter) : IsWord (text ++ rest) where
  nonempty := List.append_ne_nil_of_left_ne_nil word.nonempty rest
  plain := by
    intro letter listed
    rcases List.mem_append.mp listed with front | back
    · exact word.plain letter front
    · exact plain letter back

theorem IsWord.ne_parenthesis {text rest other : List Char} (word : IsWord text) :
    text ++ rest ≠ '(' :: other := by
  intro same
  cases text with
  | nil => exact word.nonempty rfl
  | cons letter text =>
    obtain ⟨rfl, _⟩ := List.cons.inj same
    exact (word.plain '(' List.mem_cons_self).2.1 rfl

namespace Numeral

theorem mem_toDigits {base number : Nat} {letter : Char} (many : 1 < base)
    (listed : letter ∈ Nat.toDigits base number) : ∃ digit < base, letter = digit.digitChar := by
  induction number using Nat.strongRecOn with
  | ind number ih =>
    rw [Nat.toDigits_eq_if many] at listed
    split at listed
    · next small => exact ⟨number, small, List.mem_singleton.mp listed⟩
    · next large =>
      rcases List.mem_append.mp listed with before | last
      · exact ih (number / base) (Nat.div_lt_self (by omega) many) before
      · exact ⟨number % base, Nat.mod_lt number (by omega), List.mem_singleton.mp last⟩

theorem plain_of_digit {base number : Nat} {letter : Char} (many : 1 < base) (few : base ≤ 16)
    (listed : letter ∈ Nat.toDigits base number) : IsPlain letter := by
  have plain : ∀ digit < 16, IsPlain (Nat.digitChar digit) := by decide
  obtain ⟨digit, small, rfl⟩ := mem_toDigits many listed
  exact plain digit (Nat.lt_of_lt_of_le small few)

theorem isWord_hex (value : Nat) : IsWord (hex value).toList := by
  have mark : IsWord "0x".toList := ⟨by decide, by simp [IsPlain]⟩
  rw [hex, String.toList_append]
  refine mark.append fun letter digit => ?_
  rw [String.toList_ofList] at digit
  exact plain_of_digit (by decide) (by decide) digit

theorem toList_decimal (value : Int64) :
    (decimal value).toList =
      if 0 ≤ value.toInt then Nat.toDigits 10 value.toInt.toNat
      else '-' :: Nat.toDigits 10 (-value.toInt).toNat := by
  rw [decimal, Int.repr_eq_if]
  split
  · exact String.toList_ofList
  · rw [String.toList_append]
    exact congrArg (List.cons '-') String.toList_ofList

theorem mem_decimal {value : Int64} {letter : Char} (listed : letter ∈ (decimal value).toList) :
    letter.isDigit = true ∨ letter = '-' := by
  rw [toList_decimal] at listed
  split at listed
  · exact .inl (Nat.isDigit_of_mem_toDigits (by decide) (by decide) listed)
  · rcases List.mem_cons.mp listed with sign | digit
    · exact .inr sign
    · exact .inl (Nat.isDigit_of_mem_toDigits (by decide) (by decide) digit)

theorem ne_decimal {text : String} {letter : Char} (listed : letter ∈ text.toList)
    (noDigit : letter.isDigit = false) (noSign : letter ≠ '-') (value : Int64) :
    text ≠ decimal value := by
  rintro rfl
  rcases mem_decimal listed with digit | sign
  · rw [noDigit] at digit
    cases digit
  · exact noSign sign

theorem isWord_decimal (value : Int64) : IsWord (decimal value).toList := by
  rw [toList_decimal]
  split
  · refine ⟨Nat.toDigits_ne_nil, fun letter listed => ?_⟩
    exact plain_of_digit (by decide) (by decide) listed
  · refine ⟨nofun, fun letter listed => ?_⟩
    rcases List.mem_cons.mp listed with rfl | digit
    · decide
    · exact plain_of_digit (by decide) (by decide) digit

theorem decimal_injective {first second : Int64} (same : decimal first = decimal second) :
    first = second := by
  have noSign : ∀ number, '-' ∉ Nat.toDigits 10 number := fun number listed =>
    absurd (Nat.isDigit_of_mem_toDigits (by decide) (by decide) listed) (by decide)
  have letters := congrArg String.toList same
  rw [toList_decimal, toList_decimal] at letters
  apply Int64.toInt_inj.mp
  by_cases firstSign : 0 ≤ first.toInt
  · by_cases secondSign : 0 ≤ second.toInt
    · rw [if_pos firstSign, if_pos secondSign] at letters
      have digits := toDigits_injective (by decide) (by decide) letters
      omega
    · rw [if_pos firstSign, if_neg secondSign] at letters
      exact absurd (letters ▸ List.mem_cons_self) (noSign first.toInt.toNat)
  · by_cases secondSign : 0 ≤ second.toInt
    · rw [if_neg firstSign, if_pos secondSign] at letters
      exact absurd (letters ▸ List.mem_cons_self) (noSign second.toInt.toNat)
    · rw [if_neg firstSign, if_neg secondSign] at letters
      have digits := toDigits_injective (by decide) (by decide) (List.cons.inj letters).2
      omega

end Numeral

namespace Expr

/-- Names that a reader can tell from numerals, from each other and from what stands around them. -/
structure Legible (name : Symbol → String) (known : Symbol → Prop) : Prop where
  word : ∀ symbol, known symbol → IsWord (name symbol).toList
  noNumeral : ∀ symbol, known symbol → ∀ value, name symbol ≠ Numeral.decimal value
  injective : ∀ first second, known first → known second → name first = name second →
    first = second

def IsAtom : Expr → Prop
  | num _ | const _ => True
  | apply _ _ _ => False

def Within (known : Symbol → Prop) (expr : Expr) : Prop :=
  ∀ symbol, expr.Mentions symbol → known symbol

theorem toList_render_apply (name : Symbol → String) (op : BinOp) (left right : Expr) :
    ((apply op left right).render name).toList = '(' :: ((left.render name).toList ++
      ' ' :: (op.sign.toList ++ ' ' :: ((right.render name).toList ++ [')']))) := by
  simp [render, String.toList_append]

theorem sign_append_inj {op other : BinOp} {rest more : List Char}
    (same : op.sign.toList ++ rest = other.sign.toList ++ more) : op = other ∧ rest = more := by
  cases op <;> cases other <;> simp_all [BinOp.sign]

section Legible

variable {name : Symbol → String} {known : Symbol → Prop} (legible : Legible name known)

include legible

theorem Legible.isWord_render {expr : Expr} (atom : expr.IsAtom) (within : expr.Within known) :
    IsWord (expr.render name).toList := by
  cases expr with
  | num value => exact Numeral.isWord_decimal value
  | const symbol => exact legible.word symbol (within symbol rfl)
  | apply => cases atom

theorem Legible.atom_inj {first second : Expr} (firstAtom : first.IsAtom)
    (secondAtom : second.IsAtom) (firstWithin : first.Within known)
    (secondWithin : second.Within known) (same : first.render name = second.render name) :
    first = second := by
  cases first with
  | num value =>
    cases second with
    | num other => exact congrArg num (Numeral.decimal_injective same)
    | const symbol =>
      exact absurd same.symm (legible.noNumeral symbol (secondWithin symbol rfl) value)
    | apply => cases secondAtom
  | const symbol =>
    cases second with
    | num value => exact absurd same (legible.noNumeral symbol (firstWithin symbol rfl) value)
    | const other =>
      exact congrArg const (legible.injective symbol other (firstWithin symbol rfl)
        (secondWithin other rfl) same)
    | apply => cases secondAtom
  | apply => cases firstAtom

theorem Legible.atom_append_inj {first second : Expr} {rest other : List Char}
    (firstAtom : first.IsAtom) (secondAtom : second.IsAtom) (firstWithin : first.Within known)
    (secondWithin : second.Within known) (restCloses : Closes rest) (otherCloses : Closes other)
    (same : (first.render name).toList ++ rest = (second.render name).toList ++ other) :
    first = second ∧ rest = other := by
  obtain ⟨texts, rests⟩ := append_inj_of_plain
    (legible.isWord_render firstAtom firstWithin).plain
    (legible.isWord_render secondAtom secondWithin).plain restCloses otherCloses same
  have atoms := legible.atom_inj firstAtom secondAtom firstWithin secondWithin
    (String.toList_inj.mp texts)
  exact ⟨atoms, rests⟩

theorem Legible.atom_ne_apply {atom : Expr} {op : BinOp} {left right : Expr}
    {rest other : List Char} (isAtom : atom.IsAtom) (within : atom.Within known) :
    (atom.render name).toList ++ rest ≠ ((apply op left right).render name).toList ++ other := by
  rw [toList_render_apply]
  exact (legible.isWord_render isAtom within).ne_parenthesis

/-- The expression at the beginning of a text is read off it, whatever closes it. -/
theorem Legible.render_append_inj {first second : Expr} {rest other : List Char}
    (firstWithin : first.Within known) (secondWithin : second.Within known)
    (restCloses : Closes rest) (otherCloses : Closes other)
    (same : (first.render name).toList ++ rest = (second.render name).toList ++ other) :
    first = second ∧ rest = other := by
  induction first generalizing second rest other with
  | num | const =>
    cases second with
    | num | const =>
      exact legible.atom_append_inj trivial trivial firstWithin secondWithin restCloses otherCloses
        same
    | apply => exact absurd same (legible.atom_ne_apply trivial firstWithin)
  | apply op left right leftRead rightRead =>
    cases second with
    | num | const => exact absurd same.symm (legible.atom_ne_apply trivial secondWithin)
    | apply op' left' right' =>
      simp only [toList_render_apply, List.cons_append, List.append_assoc, List.cons.injEq,
        true_and] at same
      -- the left part ends at the blank before the operator, the right one at the parenthesis
      obtain ⟨rfl, signs⟩ := leftRead (fun symbol mentioned => firstWithin symbol (.inl mentioned))
        (fun symbol mentioned => secondWithin symbol (.inl mentioned)) (closes_blank _)
        (closes_blank _) same
      obtain ⟨rfl, rights⟩ := sign_append_inj (List.cons.inj signs).2
      obtain ⟨rfl, rests⟩ := rightRead
        (fun symbol mentioned => firstWithin symbol (.inr mentioned))
        (fun symbol mentioned => secondWithin symbol (.inr mentioned)) (closes_parenthesis _)
        (closes_parenthesis _) (List.cons.inj rights).2
      exact ⟨rfl, (List.cons.inj rests).2⟩

theorem Legible.render_inj {first second : Expr} (firstWithin : first.Within known)
    (secondWithin : second.Within known) :
    first.render name = second.render name ↔ first = second := by
  refine ⟨fun same => ?_, congrArg (render name)⟩
  have letters := congrArg (fun text => String.toList text ++ []) same
  exact (legible.render_append_inj firstWithin secondWithin closes_nil closes_nil letters).1

end Legible

end Expr

end CellMemory
