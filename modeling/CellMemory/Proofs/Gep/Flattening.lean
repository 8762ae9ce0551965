import CellMemory.Gep.Offset
import CellMemory.Proofs.Layout.Members
import Mathlib.Data.Set.Function

/-! Statements that follow a path down to a scalar. Each index steps over the members before the one
it names, so the offset of the statement is the slot at the end of the path; an index through a
pointer in front of it steps over whole values. -/

namespace CellMemory

def Layout.Table.indices (table : Table) (id : TypeId) : List Nat → List Gep.Index
  | [] => []
  | index :: path =>
    ⟨.constant (Int64.ofNat index), some id⟩ ::
      match (table.members id)[index]? with
      | some member => indices table member path
      | none => []

namespace Gep

open Layout (Table)

def through (indices : List Index) (pointee : Option TypeId) : Gep := ⟨indices, 0, pointee⟩

variable {types : Table}

theorem indices_cons {id member : TypeId} {ty : Ty} {index : Nat} (known : types.get id = .ok ty)
    (inside : ty.members[index]? = some member) (path : List Nat) :
    types.indices id (index :: path) =
      ⟨.constant (Int64.ofNat index), some id⟩ :: types.indices member path := by
  have own : types.members id = ty.members := by simp only [Table.members, known]
  simp only [Table.indices, own, inside]

section Walks

variable (store : Store) (pointee : Option TypeId)

theorem walk_append {front back : List Index} {counted middle : Int64}
    (done : (walk types store pointee counted front).1 = .ok middle) :
    (walk types store pointee counted (front ++ back)).1 =
      (walk types store pointee middle back).1 := by
  induction front generalizing counted with
  | nil =>
    cases done
    rfl
  | cons index front ih =>
    simp only [walk, List.cons_append] at done ⊢
    cases stepped : index.step types store pointee with
    | error fault => simp [stepped] at done
    | ok step =>
      simp only [stepped] at done ⊢
      cases summed : Numeral.exact .gepOffset (counted.toInt + step.slots.toInt) with
      | error fault => simp [summed] at done
      | ok sum =>
        simp only [summed] at done ⊢
        exact ih done

theorem walk_append_of_error {front : List Index} {counted : Int64} {fault : Fault}
    (failed : (walk types store pointee counted front).1 = .error fault) (back : List Index) :
    (walk types store pointee counted (front ++ back)).1 = .error fault := by
  induction front generalizing counted with
  | nil => cases failed
  | cons index front ih =>
    simp only [walk, List.cons_append] at failed ⊢
    cases stepped : index.step types store pointee with
    | error cause => simpa [stepped] using failed
    | ok step =>
      simp only [stepped] at failed ⊢
      cases summed : Numeral.exact .gepOffset (counted.toInt + step.slots.toInt) with
      | error cause => simpa [summed] using failed
      | ok sum =>
        simp only [summed] at failed ⊢
        exact ih failed

theorem walk_singleton {index : Index} {step : Step} {counted sum : Int64}
    (stepped : index.step types store pointee = .ok step)
    (exact : sum.toInt = counted.toInt + step.slots.toInt) :
    (walk types store pointee counted [index]).1 = .ok sum := by
  simp only [walk, stepped, Numeral.exact_eq_ok_iff.mpr exact]

theorem offset_through (indices : List Index) :
    ((through indices pointee).offset types store).1 =
      (walk types store pointee 0 indices.reverse).1 := by
  cases indices <;> rfl

theorem step_of_member (measured : types.Measured) {id member : TypeId} {ty : Ty} {index : Nat}
    (known : types.get id = .ok ty) (inside : ty.members[index]? = some member)
    (small : index < 0x8000000000000000) :
    Index.step types store pointee ⟨.constant (Int64.ofNat index), some id⟩ =
      .ok ⟨⟨.constant (Int64.ofNat index), some id⟩, Int64.ofNat index,
        Int64.ofNat (types.countAll (ty.members.take index))⟩ := by
  have aggregate : types.isPointer id = .ok false := by
    rw [Table.isPointer_of_get known]
    cases ty with
    | pointer => cases inside
    | int | float | function | array | struct => rfl
  simp only [Index.step, Operand.value, Index.slots, aggregate,
    measured.memberOffset_of_member known inside small]

/-- The walk back along a path counts the slots before its end. No sum on the way is more than the
slots of the type, so none overflows. -/
theorem walk_indices (measured : types.Measured) (indexable : types.Indexable) {id : TypeId}
    {path : List Nat} (leaf : types.Leaf id path) :
    (walk types store pointee 0 (types.indices id path).reverse).1 =
      .ok (Int64.ofNat (types.slotOf id path)) := by
  induction leaf with
  | scalar => rfl
  | @member id member ty index path known inside rest ih =>
    have stepped := step_of_member store pointee measured known inside
      (indexable.index_lt known inside)
    have total : types.slotOf id (index :: path) < 0x8000000000000000 :=
      Nat.lt_trans (measured.slotOf_lt (.member known inside rest)) (types.count_lt id)
    rw [indices_cons known inside, List.reverse_cons, walk_append store pointee ih]
    apply walk_singleton store pointee stepped
    rw [Int64.toInt_ofNat_of_lt total]
    rw [Table.slotOf_cons known inside] at total ⊢
    rw [Int64.toInt_ofNat_of_lt (by omega), Int64.toInt_ofNat_of_lt (by omega)]
    omega

theorem offset_indices (measured : types.Measured) (indexable : types.Indexable) {id : TypeId}
    {path : List Nat} (leaf : types.Leaf id path) :
    ((through (types.indices id path) pointee).offset types store).1 =
      .ok (Int64.ofNat (types.slotOf id path)) := by
  rw [offset_through, walk_indices store pointee measured indexable leaf]

end Walks

theorem step_of_pointer (store : Store) {pointer id : TypeId} {slots : Slots}
    {number product : Int64} (pointed : types.isPointer pointer = .ok true)
    (counted : types.slots id = .ok slots) (exact : product.toInt = number.toInt * slots.count) :
    Index.step types store (some id) ⟨.constant number, some pointer⟩ =
      .ok ⟨⟨.constant number, some pointer⟩, number, product⟩ := by
  have stepped : Numeral.exact .gepOffset (number.toInt * slots.toNumeral.toInt) = .ok product := by
    rw [Numeral.exact_eq_ok_iff, Slots.toInt_toNumeral, exact]
  simp only [Index.step, Operand.value, Index.slots, pointed, stride, counted, stepped]

/-- The statements that follow the paths of a type to its scalars have an offset each: they map the
paths one to one onto the slots of the type. An index through a pointer in front of such a
statement adds as many whole values, as long as numerals hold the product and the sum. -/
theorem offset_bijOn_leaves {types : Table} (listed : types.Listed) (indexable : types.Indexable)
    {id : TypeId} {slots : Slots} (counted : types.slots id = .ok slots) (store : Store)
    (pointee : Option TypeId) :
    Set.BijOn (fun path => ((through (types.indices id path) pointee).offset types store).1)
        {path | types.Leaf id path}
        {answer | ∃ offset : Int64, answer = .ok offset ∧
          0 ≤ offset.toInt ∧ offset.toInt < slots.count} ∧
      ∀ (path : List Nat) (pointer : TypeId) (number start product sum : Int64),
        types.Leaf id path → types.isPointer pointer = .ok true →
        ((through (types.indices id path) pointee).offset types store).1 = .ok start →
        product.toInt = number.toInt * slots.count → sum.toInt = product.toInt + start.toInt →
        ((through (⟨.constant number, some pointer⟩ :: types.indices id path)
          (some id)).offset types store).1 = .ok sum := by
  have measured := listed.measured
  have fits := slots.fits
  have count := Table.count_of_slots counted
  have answer := fun {path} (leaf : types.Leaf id path) =>
    offset_indices store pointee measured indexable leaf
  have number : ∀ slot < slots.count, (Int64.ofNat slot).toInt = slot := by
    intro slot inside
    exact Int64.toInt_ofNat_of_lt (Nat.lt_trans inside fits)
  refine ⟨⟨?_, ?_, ?_⟩, ?_⟩
  · intro path leaf
    have inside := measured.slotOf_lt leaf
    rw [count] at inside
    refine ⟨_, answer leaf, ?_⟩
    rw [number _ inside]
    omega
  · intro path leaf other second same
    have inside := measured.slotOf_lt leaf
    have beside := measured.slotOf_lt second
    rw [count] at inside beside
    simp only [answer leaf, answer second, Except.ok.injEq] at same
    have equal := congrArg Int64.toInt same
    rw [number _ inside, number _ beside] at equal
    exact measured.eq_of_slotOf leaf second (Int.ofNat_inj.mp equal)
  · rintro _ ⟨offset, rfl, low, high⟩
    have inside : offset.toInt.toNat < types.count id := by omega
    obtain ⟨path, leaf, reached⟩ := measured.exists_leaf inside
    refine ⟨path, leaf, ?_⟩
    simp only [answer leaf, reached, Except.ok.injEq]
    apply Int64.toInt_inj.mp
    rw [number _ (by omega), Int.toNat_of_nonneg low]
  · intro path pointer values start product sum leaf pointed first whole total
    have walked := walk_indices store (some id) measured indexable leaf
    rw [answer leaf, Except.ok.injEq] at first
    rw [first] at walked
    rw [offset_through, List.reverse_cons, walk_append store (some id) walked]
    apply walk_singleton store (some id) (step_of_pointer store pointed counted whole)
    rw [total, Int.add_comm]

def nested : Table :=
  let scalars := (Table.empty.add (.int 32)).2
  let arrays := (scalars.add (.array ⟨0⟩ 3)).2
  let empties := (arrays.add (.struct [])).2
  let structs := (empties.add (.struct [⟨0⟩, ⟨2⟩, ⟨1⟩, ⟨2⟩, ⟨1⟩])).2
  let rows := (structs.add (.array ⟨3⟩ 2)).2
  (rows.add (.pointer (some ⟨4⟩))).2

theorem listed_nested : nested.Listed :=
  .add (.add (.add (.add (.add (.add .empty _) _) _) _) _) _

theorem offset_bijOn_leaves_nested :
    nested.slots ⟨4⟩ = .ok ⟨14, by decide⟩ ∧ nested.Leaf ⟨4⟩ [1, 4, 2] ∧
      (∃ path, nested.Leaf ⟨4⟩ path ∧
        ((through (nested.indices ⟨4⟩ path) none).offset nested .empty).1 = .ok 8) ∧
      ((through (⟨.constant (-2), some ⟨5⟩⟩ :: nested.indices ⟨4⟩ [1, 4, 2])
        (some ⟨4⟩)).offset nested .empty).1 = .ok (-15) := by
  have counted : nested.slots ⟨4⟩ = .ok ⟨14, by decide⟩ := rfl
  have leaf : nested.Leaf ⟨4⟩ [1, 4, 2] :=
    .member rfl rfl (.member rfl rfl (.member rfl rfl (.scalar rfl rfl)))
  obtain ⟨tiled, behind⟩ := offset_bijOn_leaves listed_nested (by decide) counted .empty none
  obtain ⟨path, found, reached⟩ := tiled.surjOn ⟨8, rfl, by decide, by decide⟩
  exact ⟨counted, leaf, ⟨path, found, reached⟩,
    behind [1, 4, 2] ⟨5⟩ (-2) 13 (-28) (-15) leaf rfl rfl (by decide) (by decide)⟩

end Gep

end CellMemory
