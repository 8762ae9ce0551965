import CellMemory.Expr.Basic

/-! The names of the constants in the order they were first used. One name is one constant. -/

namespace CellMemory

structure Symbols where
  names : Array String
  deriving DecidableEq

namespace Symbols

def empty : Symbols := ⟨#[]⟩

def find? (symbols : Symbols) (name : String) : Option Symbol :=
  (symbols.names.findIdx? (· == name)).map Symbol.mk

def intern (symbols : Symbols) (name : String) : Symbol × Symbols :=
  match symbols.find? name with
  | some symbol => (symbol, symbols)
  | none => (⟨symbols.names.size⟩, ⟨symbols.names.push name⟩)

/-- A symbol of another table has no name here, and asking for one is a mistake of the caller that
the program does not survive. It goes by its number, so that the name is total. -/
def name (symbols : Symbols) (symbol : Symbol) : String :=
  symbols.names[symbol.index]?.getD symbol.text

@[simp]
theorem name_intern (symbols : Symbols) (name : String) :
    (symbols.intern name).2.name (symbols.intern name).1 = name := by
  unfold intern
  cases found : symbols.find? name with
  | none => simp [Symbols.name]
  | some symbol =>
    rw [find?, Option.map_eq_some_iff] at found
    obtain ⟨index, position, rfl⟩ := found
    obtain ⟨bound, same, _⟩ := Array.findIdx?_eq_some_iff_getElem.mp position
    simp_all [Symbols.name]

def display (symbols : Symbols) (expr : Expr) : String := expr.render symbols.name

end Symbols

end CellMemory
