import CellMemory.Document.Literal
import CellMemory.Numeral.Basic

/-! The value a document holds. Numbers stay as they are written and members keep their order and
their repetitions, because some readings refuse what others pass over. -/

namespace CellMemory.Document

/-- A string is `none` if its escapes write half of a surrogate pair, which is no text. -/
inductive Value where
  | null
  | bool (value : Bool)
  | number (literal : Literal)
  | text (content : Option String)
  | array (items : List Value)
  | object (members : List (Option String × Value))

namespace Value

mutual

/-- Whether every part of a value can be kept: numbers in range, strings that are text, and no more
than `levels` containers inside one another. -/
def storable (levels : Nat) : Value → Bool
  | .null | .bool _ => true
  | .number literal => literal.double?.isSome
  | .text content => content.isSome
  | .array items => decide (0 < levels) && storableItems (levels - 1) items
  | .object members => decide (0 < levels) && storableMembers (levels - 1) members

def storableItems (levels : Nat) : List Value → Bool
  | [] => true
  | item :: items => item.storable levels && storableItems levels items

def storableMembers (levels : Nat) : List (Option String × Value) → Bool
  | [] => true
  | (name, value) :: members =>
    name.isSome && value.storable levels && storableMembers levels members

end

def integer? : Value → Option Int
  | .number literal => literal.integer?
  | _ => none

def word? (value : Value) : Option UInt32 :=
  match value.integer? with
  | some n => if 0 ≤ n ∧ n < 0x100000000 then some (UInt32.ofNat n.toNat) else none
  | none => none

def numeral? (value : Value) : Option Int64 := value.integer?.bind Numeral.ofInt?

def count? (value : Value) : Option Nat :=
  match value.integer? with
  | some n => if 0 ≤ n then some n.toNat else none
  | none => none

def bool? : Value → Option Bool
  | .bool value => some value
  | _ => none

def text? : Value → Option String
  | .text content => content
  | _ => none

def double? : Value → Option Double
  | .number literal => literal.double?
  | _ => none

def list? {α : Type} (read : Value → Option α) : Value → Option (List α)
  | .array items => items.mapM read
  | _ => none

end Value

end CellMemory.Document
