import CellMemory.Expr.Symbols
import CellMemory.Fault

/-! The store keeps the expression bound to each variable and the expression written at each
address, with the names and the values of the constants in them. -/

namespace CellMemory

structure Store where
  symbols : Symbols
  model : Model
  bindings : Std.ExtTreeMap VarId Expr
  contents : Std.ExtTreeMap UInt32 Expr

namespace Store

def empty : Store := ⟨.empty, ∅, ∅, ∅⟩

def constant (store : Store) (name : String) : Expr × Store :=
  match store.symbols.intern name with
  | (symbol, symbols) => (.const symbol, { store with symbols })

def evaluate (store : Store) (expr : Expr) : Option Int64 := expr.evaluate store.model

def display (store : Store) (expr : Expr) : String := store.symbols.display expr

def assign (store : Store) (symbol : Symbol) (value : Int64) : Store :=
  { store with model := store.model.insert symbol value }

def bind (store : Store) (id : VarId) (expr : Expr) : Store :=
  { store with bindings := store.bindings.insert id expr }

def lookup (store : Store) (id : VarId) : Except Fault Expr :=
  match store.bindings[id]? with
  | some expr => .ok expr
  | none => .error (.unboundVariable id)

@[simp]
theorem lookup_bind_self (store : Store) (id : VarId) (expr : Expr) :
    (store.bind id expr).lookup id = .ok expr := by
  simp [bind, lookup]

theorem lookup_bind_of_ne (store : Store) {id other : VarId} (expr : Expr)
    (different : id ≠ other) : (store.bind id expr).lookup other = store.lookup other := by
  simp [bind, lookup, Std.ExtTreeMap.getElem?_insert, different]

def ids (store : Store) : List VarId := store.bindings.keys

def size (store : Store) : Nat := store.bindings.size

def write (store : Store) (address : UInt32) (expr : Expr) : Store :=
  { store with contents := store.contents.insert address expr }

def written (store : Store) (address : UInt32) : Option Expr := store.contents[address]?

@[simp]
theorem written_write_self (store : Store) (address : UInt32) (expr : Expr) :
    (store.write address expr).written address = some expr := by
  simp [write, written]

theorem written_write_of_ne (store : Store) {address other : UInt32} (expr : Expr)
    (different : address ≠ other) :
    (store.write address expr).written other = store.written other := by
  simp [write, written, Std.ExtTreeMap.getElem?_insert, different]

def contentName (address : UInt32) : String := "Mem" ++ Numeral.hex address.toNat

/-- The contents of an address. Where nothing was written they are a constant of their own. -/
def read (store : Store) (address : UInt32) : Expr × Store :=
  match store.written address with
  | some expr => (expr, store)
  | none => store.constant (contentName address)

end Store

end CellMemory
