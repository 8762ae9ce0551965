import CellMemory.Store

/-! What each change of a store does to the look-ups of bindings and contents. -/

namespace CellMemory.Store

theorem lookup_bind (store : Store) (id other : VarId) (expr : Expr) :
    (store.bind id expr).lookup other = if other = id then .ok expr else store.lookup other := by
  by_cases same : other = id
  · subst same
    rw [if_pos rfl, lookup_bind_self]
  · rw [if_neg same, lookup_bind_of_ne store expr fun equal => same equal.symm]

theorem lookup_eq_ok_iff {store : Store} {id : VarId} {expr : Expr} :
    store.lookup id = .ok expr ↔ store.bindings[id]? = some expr := by
  unfold lookup
  cases store.bindings[id]? <;> simp

theorem lookup_of_unbound {store : Store} {id : VarId} (unbound : ∀ expr, store.lookup id ≠ .ok expr) :
    store.lookup id = .error (.unboundVariable id) := by
  have absent : store.bindings[id]? = none :=
    Option.eq_none_iff_forall_ne_some.mpr fun expr bound => unbound expr (lookup_eq_ok_iff.mpr bound)
  rw [lookup, absent]

theorem mem_ids {store : Store} {id : VarId} :
    id ∈ store.ids ↔ ∃ expr, store.lookup id = .ok expr := by
  simp only [lookup_eq_ok_iff, ids, Std.ExtTreeMap.mem_keys,
    Std.ExtTreeMap.mem_iff_isSome_getElem?, Option.isSome_iff_exists]

theorem ascending_ids (store : Store) :
    store.ids.Pairwise fun first second => first.number < second.number := by
  have ordered : store.bindings.keys.Pairwise fun first second => compare first second = .lt :=
    Std.ExtTreeMap.ordered_keys
  apply ordered.imp
  intro first second earlier
  exact Std.compare_eq_lt.mp earlier

theorem bind_of_bound {store : Store} {id : VarId} {expr : Expr}
    (bound : store.lookup id = .ok expr) : store.bind id expr = store := by
  have same : store.bindings.insert id expr = store.bindings := by
    apply Std.ExtTreeMap.ext_getElem?
    intro other
    rw [Std.ExtTreeMap.getElem?_insert]
    split
    · next equal =>
      cases Std.LawfulEqOrd.eq_of_compare equal
      unfold lookup at bound
      cases held : store.bindings[id]? <;> simp_all
    · rfl
  rw [bind, same]

theorem lookup_bind_isOk {store : Store} {other : VarId} {old : Expr} (id : VarId) (expr : Expr)
    (bound : store.lookup other = .ok old) : ∃ later, (store.bind id expr).lookup other = .ok later := by
  rw [lookup_bind]
  split
  · exact ⟨expr, rfl⟩
  · exact ⟨old, bound⟩

theorem size_bind_of_unbound {store : Store} {id : VarId}
    (unbound : ∀ old, store.lookup id ≠ .ok old) (expr : Expr) :
    (store.bind id expr).size = store.size + 1 := by
  have absent : ¬store.bindings.contains id = true := by
    intro member
    rw [Std.ExtTreeMap.contains_eq_isSome_getElem?, Option.isSome_iff_exists] at member
    rcases member with ⟨old, held⟩
    exact unbound old (by simp only [lookup, held])
  rw [size, size, bind, Std.ExtTreeMap.size_insert, if_neg absent]

theorem written_write (store : Store) (address other : UInt32) (expr : Expr) :
    (store.write address expr).written other =
      if other = address then some expr else store.written other := by
  by_cases same : other = address
  · subst same
    rw [if_pos rfl, written_write_self]
  · rw [if_neg same, written_write_of_ne store expr fun equal => same equal.symm]

@[simp]
theorem lookup_constant (store : Store) (name : String) (id : VarId) :
    (store.constant name).2.lookup id = store.lookup id := rfl

@[simp]
theorem written_constant (store : Store) (name : String) (address : UInt32) :
    (store.constant name).2.written address = store.written address := rfl

@[simp]
theorem model_constant (store : Store) (name : String) :
    (store.constant name).2.model = store.model := rfl

theorem read_cases (store : Store) (address : UInt32) :
    (store.read address).2 = store ∨
      (store.read address).2 = (store.constant (contentName address)).2 := by
  unfold read
  cases store.written address with
  | some expr => exact .inl rfl
  | none => exact .inr rfl

@[simp]
theorem lookup_read (store : Store) (address : UInt32) (id : VarId) :
    (store.read address).2.lookup id = store.lookup id := by
  rcases store.read_cases address with same | named
  · rw [same]
  · rw [named, lookup_constant]

@[simp]
theorem written_read (store : Store) (address other : UInt32) :
    (store.read address).2.written other = store.written other := by
  rcases store.read_cases address with same | named
  · rw [same]
  · rw [named, written_constant]

@[simp]
theorem model_read (store : Store) (address : UInt32) :
    (store.read address).2.model = store.model := by
  rcases store.read_cases address with same | named
  · rw [same]
  · rw [named, model_constant]

theorem read_of_written {store : Store} {address : UInt32} {expr : Expr}
    (written : store.written address = some expr) : store.read address = (expr, store) := by
  simp only [read, written]

theorem read_of_unwritten {store : Store} {address : UInt32}
    (unwritten : store.written address = none) :
    store.read address = store.constant (contentName address) := by
  simp only [read, unwritten]

theorem read_write_of_ne (store : Store) {address other : UInt32} (different : address ≠ other)
    (expr : Expr) : ((store.write address expr).read other).1 = (store.read other).1 := by
  have same := store.written_write_of_ne expr different
  cases held : store.written other with
  | some old =>
    rw [held] at same
    rw [read_of_written held, read_of_written same]
  | none =>
    rw [held] at same
    rw [read_of_unwritten held, read_of_unwritten same]
    rfl

end CellMemory.Store
