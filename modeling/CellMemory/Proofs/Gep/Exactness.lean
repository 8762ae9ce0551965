import CellMemory.Proofs.Gep.Flattening
import CellMemory.Proofs.Store.Frame
import Mathlib.Algebra.Ring.Int.Defs
import Mathlib.Data.List.Forall2

/-! What a statement selects, told without the walk. The indices step over whole numbers of slots that
are added up from the last index to the first; the sum is exact, and the first index from the end
where something is missing or beyond 64 bits is the one whose error is told. -/

namespace CellMemory.Gep

open Layout (Table)
open Numeral (Fits)

inductive Operand.Denotes (store : Store) : Operand → Int64 → Prop
  | constant {value : Int64} : Denotes store (.constant value) value
  | var {id : VarId} {expr : Expr} {value : Int64} (bound : store.lookup id = .ok expr)
      (known : store.evaluate expr = some value) : Denotes store (.var id) value

inductive Operand.Lacks (store : Store) : Operand → Fault → Prop
  | unbound {id : VarId} (absent : ∀ expr, store.lookup id ≠ .ok expr) :
      Lacks store (.var id) (.unboundVariable id)
  | symbolic {id : VarId} {expr : Expr} (bound : store.lookup id = .ok expr)
      (symbolic : store.evaluate expr = none) : Lacks store (.var id) (.symbolicOffset id)

/-- The slots that a value steps over in a type, and behind a pointer in whole pointees. -/
inductive Covers (types : Table) : Option TypeId → Option TypeId → Int64 → Int → Prop
  | untyped {pointee : Option TypeId} {value : Int64} : Covers types pointee none value value.toInt
  | pointer {ty : TypeId} {value : Int64} (isPointer : types.isPointer ty = .ok true) :
      Covers types none (some ty) value value.toInt
  | pointees {element ty : TypeId} {value : Int64} {slots : Slots}
      (isPointer : types.isPointer ty = .ok true) (listed : types.slots element = .ok slots) :
      Covers types (some element) (some ty) value (value.toInt * slots.count)
  | member {pointee : Option TypeId} {ty : TypeId} {value offset : Int64}
      (other : types.isPointer ty = .ok false) (inside : types.memberOffset ty value = .ok offset) :
      Covers types pointee (some ty) value offset.toInt

/-- Why a value steps over no slots, or over more than a numeral holds. -/
inductive Balks (types : Table) : Option TypeId → Option TypeId → Int64 → Fault → Prop
  | unlisted {pointee : Option TypeId} {ty : TypeId} {value : Int64} (absent : ¬types.Lists ty) :
      Balks types pointee (some ty) value (.unknownType ty)
  | unlistedPointee {element ty : TypeId} {value : Int64} (isPointer : types.isPointer ty = .ok true)
      (absent : ¬types.Lists element) :
      Balks types (some element) (some ty) value (.unknownType element)
  | beyond {element ty : TypeId} {value : Int64} {slots : Slots}
      (isPointer : types.isPointer ty = .ok true) (listed : types.slots element = .ok slots)
      (beyond : ¬Fits (value.toInt * slots.count)) :
      Balks types (some element) (some ty) value (.overflow .gepOffset)
  | member {pointee : Option TypeId} {ty : TypeId} {value : Int64} {fault : Fault}
      (other : types.isPointer ty = .ok false)
      (outside : types.memberOffset ty value = .error fault) :
      Balks types pointee (some ty) value fault

section Statement

variable (types : Table) (store : Store) (pointee : Option TypeId)

def Index.Amounts (index : Index) (step : Int) : Prop :=
  ∃ value, index.operand.Denotes store value ∧ Covers types pointee index.ty value step ∧ Fits step

inductive Index.Raises (index : Index) (behind : Int) : Fault → Prop
  | operand {fault : Fault} (lacks : index.operand.Lacks store fault) : Raises index behind fault
  | step {value : Int64} {fault : Fault} (denotes : index.operand.Denotes store value)
      (balks : Balks types pointee index.ty value fault) : Raises index behind fault
  | sum {step : Int} (amounts : index.Amounts types store pointee step)
      (beyond : ¬Fits (step + behind)) : Raises index behind (.overflow .gepOffset)

/-- Steps of the indices all of which fit in a numeral, together with all steps behind them. -/
structure Fitting (indices : List Index) (steps : List Int) : Prop where
  amounts : List.Forall₂ (Index.Amounts types store pointee) indices steps
  behind : ∀ back, back <:+ steps → Fits back.sum

end Statement

variable {types : Table} {store : Store} {pointee : Option TypeId}

theorem Operand.Denotes.value_eq {operand : Operand} {value : Int64}
    (denotes : operand.Denotes store value) : operand.value store = .ok value := by
  cases denotes with
  | constant => rfl
  | var bound known => simp only [Operand.value, bound, known]

theorem Operand.Lacks.value_eq {operand : Operand} {fault : Fault}
    (lacks : operand.Lacks store fault) : operand.value store = .error fault := by
  cases lacks with
  | unbound absent => simp only [Operand.value, Store.lookup_of_unbound absent]
  | symbolic bound symbolic => simp only [Operand.value, bound, symbolic]

theorem Operand.denotes_or_lacks (store : Store) (operand : Operand) :
    (∃ value, operand.Denotes store value) ∨ ∃ fault, operand.Lacks store fault := by
  cases operand with
  | constant value => exact .inl ⟨value, .constant⟩
  | var id =>
    by_cases unbound : ∀ expr, store.lookup id ≠ .ok expr
    · exact .inr ⟨_, .unbound unbound⟩
    · obtain ⟨expr, bound⟩ := not_forall_not.mp unbound
      cases known : store.evaluate expr with
      | none => exact .inr ⟨_, .symbolic bound known⟩
      | some value => exact .inl ⟨value, .var bound known⟩

theorem Covers.slots_eq {operand : Operand} {ty : Option TypeId} {value : Int64} {step : Int}
    (covers : Covers types pointee ty value step) (fits : Fits step) :
    Index.slots types pointee ⟨operand, ty⟩ value = .ok (Int64.ofInt step) := by
  cases covers with
  | untyped => simp only [Index.slots, Int64.ofInt_toInt]
  | pointer isPointer =>
    have same : value.toInt * (1 : Int64).toInt = value.toInt := Int.mul_one _
    simp only [Index.slots, isPointer, stride, same, Numeral.exact_of_fits _ fits]
  | pointees isPointer listed =>
    simp only [Index.slots, isPointer, stride, listed, Slots.toInt_toNumeral,
      Numeral.exact_of_fits _ fits]
  | member other inside => simp only [Index.slots, other, inside, Int64.ofInt_toInt]

theorem Balks.slots_eq {operand : Operand} {ty : Option TypeId} {value : Int64} {fault : Fault}
    (balks : Balks types pointee ty value fault) :
    Index.slots types pointee ⟨operand, ty⟩ value = .error fault := by
  cases balks with
  | unlisted absent => simp only [Index.slots, Table.isPointer, Table.entry_of_unlisted absent]
  | unlistedPointee isPointer absent =>
    simp only [Index.slots, isPointer, stride, Table.slots, Table.entry_of_unlisted absent]
  | beyond isPointer listed beyond =>
    simp only [Index.slots, isPointer, stride, listed, Slots.toInt_toNumeral,
      Numeral.exact_of_not_fits _ beyond]
  | member other outside => simp only [Index.slots, other, outside]

theorem pointer_covers_or_balks (pointee : Option TypeId) {ty : TypeId}
    (isPointer : types.isPointer ty = .ok true) (value : Int64) :
    (∃ step, Covers types pointee (some ty) value step ∧ Fits step) ∨
      ∃ fault, Balks types pointee (some ty) value fault := by
  cases pointee with
  | none => exact .inl ⟨_, .pointer isPointer, Numeral.fits_toInt value⟩
  | some element =>
    by_cases listed : types.Lists element
    · obtain ⟨slots, counted⟩ := listed
      by_cases fits : Fits (value.toInt * slots.count)
      · exact .inl ⟨_, .pointees isPointer counted, fits⟩
      · exact .inr ⟨_, .beyond isPointer counted fits⟩
    · exact .inr ⟨_, .unlistedPointee isPointer listed⟩

theorem covers_or_balks (types : Table) (pointee ty : Option TypeId) (value : Int64) :
    (∃ step, Covers types pointee ty value step ∧ Fits step) ∨
      ∃ fault, Balks types pointee ty value fault := by
  cases ty with
  | none => exact .inl ⟨_, .untyped, Numeral.fits_toInt value⟩
  | some ty =>
    by_cases listed : types.Lists ty
    · obtain ⟨pointer, isPointer⟩ := Table.isPointer_of_listed listed
      cases pointer with
      | true => exact pointer_covers_or_balks pointee isPointer value
      | false =>
        cases inside : types.memberOffset ty value with
        | error fault => exact .inr ⟨fault, .member isPointer inside⟩
        | ok offset => exact .inl ⟨_, .member isPointer inside, Numeral.fits_toInt offset⟩
    · exact .inr ⟨_, .unlisted listed⟩

theorem Index.Amounts.step_eq {index : Index} {step : Int}
    (amounts : index.Amounts types store pointee step) :
    ∃ taken, index.step types store pointee = .ok taken ∧ taken.slots.toInt = step := by
  obtain ⟨value, denotes, covers, fits⟩ := amounts
  refine ⟨⟨index, value, Int64.ofInt step⟩, ?_, Numeral.toInt_ofInt_of_fits fits⟩
  have slots : index.slots types pointee value = .ok (Int64.ofInt step) := covers.slots_eq fits
  simp only [Index.step, denotes.value_eq, slots]

theorem Index.amounts_or_raises (types : Table) (store : Store) (pointee : Option TypeId)
    (index : Index) (behind : Int) :
    (∃ step, index.Amounts types store pointee step ∧ Fits (step + behind)) ∨
      ∃ fault, index.Raises types store pointee behind fault := by
  rcases index.operand.denotes_or_lacks store with ⟨value, denotes⟩ | ⟨fault, lacks⟩
  · rcases covers_or_balks types pointee index.ty value with ⟨step, covers, fits⟩ | ⟨fault, balks⟩
    · have amounts : index.Amounts types store pointee step := ⟨value, denotes, covers, fits⟩
      by_cases sum : Fits (step + behind)
      · exact .inl ⟨step, amounts, sum⟩
      · exact .inr ⟨_, .sum amounts sum⟩
    · exact .inr ⟨fault, .step denotes balks⟩
  · exact .inr ⟨fault, .operand lacks⟩

theorem Index.Amounts.walk_eq {index : Index} {step : Int}
    (amounts : index.Amounts types store pointee step) {behind : Int64}
    (fits : Fits (step + behind.toInt)) :
    (walk types store pointee behind [index]).1 = .ok (Int64.ofInt (step + behind.toInt)) := by
  obtain ⟨taken, stepped, slots⟩ := amounts.step_eq
  apply walk_singleton store pointee stepped
  rw [Numeral.toInt_ofInt_of_fits fits, slots, Int.add_comm]

theorem Index.Raises.walk_eq {index : Index} {behind : Int64} {fault : Fault}
    (raises : index.Raises types store pointee behind.toInt fault) :
    (walk types store pointee behind [index]).1 = .error fault := by
  cases raises with
  | operand lacks => simp only [walk, Index.step, lacks.value_eq]
  | @step value _ denotes balks =>
    have slots : index.slots types pointee value = .error fault := balks.slots_eq
    simp only [walk, Index.step, denotes.value_eq, slots]
  | @sum step amounts beyond =>
    obtain ⟨taken, stepped, slots⟩ := amounts.step_eq
    rw [← slots, Int.add_comm] at beyond
    simp only [walk, stepped, Numeral.exact_of_not_fits _ beyond]

theorem Fitting.nil : Fitting types store pointee [] [] := by
  refine ⟨.nil, ?_⟩
  intro back suffix
  rw [List.suffix_nil.mp suffix]
  decide

theorem fitting_cons {index : Index} {indices : List Index} {step : Int} {steps : List Int} :
    Fitting types store pointee (index :: indices) (step :: steps) ↔
      index.Amounts types store pointee step ∧ Fits (step + steps.sum) ∧
        Fitting types store pointee indices steps := by
  constructor
  · intro ⟨amounts, behind⟩
    obtain ⟨first, rest⟩ := List.forall₂_cons.mp amounts
    refine ⟨first, behind _ (List.suffix_refl _), rest, ?_⟩
    intro back suffix
    exact behind back (suffix.trans (List.suffix_cons step steps))
  · intro ⟨first, whole, rest⟩
    refine ⟨.cons first rest.amounts, ?_⟩
    intro back suffix
    rcases List.suffix_cons_iff.mp suffix with rfl | further
    · exact whole
    · exact rest.behind back further

theorem Fitting.toInt_sum {indices : List Index} {steps : List Int}
    (fitting : Fitting types store pointee indices steps) :
    (Int64.ofInt steps.sum).toInt = steps.sum :=
  Numeral.toInt_ofInt_of_fits (fitting.behind steps (List.suffix_refl steps))

theorem Fitting.walk_eq {indices : List Index} {steps : List Int}
    (fitting : Fitting types store pointee indices steps) :
    (walk types store pointee 0 indices.reverse).1 = .ok (Int64.ofInt steps.sum) := by
  induction indices generalizing steps with
  | nil =>
    cases fitting.amounts
    rfl
  | cons index indices ih =>
    cases fitting.amounts with
    | @cons _ step _ steps _ _ =>
      obtain ⟨first, whole, rest⟩ := fitting_cons.mp fitting
      -- the walk comes to the first index last, with the steps of all others counted
      rw [← rest.toInt_sum] at whole
      rw [List.reverse_cons, walk_append store pointee (ih rest), first.walk_eq whole, rest.toInt_sum]
      rfl

/-- The first index from the end that raises an error ends the walk. -/
theorem Fitting.walk_eq_of_raises {back : List Index} {steps : List Int} {index : Index}
    {fault : Fault} (fitting : Fitting types store pointee back steps)
    (raises : index.Raises types store pointee steps.sum fault) (front : List Index) :
    (walk types store pointee 0 (front ++ index :: back).reverse).1 = .error fault := by
  rw [← fitting.toInt_sum] at raises
  rw [List.reverse_append, List.reverse_cons]
  apply walk_append_of_error
  rw [walk_append store pointee fitting.walk_eq, raises.walk_eq]

/-- Either all indices fit or one of them raises an error and all behind it fit. -/
theorem exists_fitting_or_raises (types : Table) (store : Store) (pointee : Option TypeId)
    (indices : List Index) :
    (∃ steps, Fitting types store pointee indices steps) ∨
      ∃ front index back steps fault, indices = front ++ index :: back ∧
        Fitting types store pointee back steps ∧
          index.Raises types store pointee steps.sum fault := by
  induction indices with
  | nil => exact .inl ⟨[], .nil⟩
  | cons index indices ih =>
    rcases ih with ⟨steps, fitting⟩ | ⟨front, other, back, steps, fault, split, fitting, raises⟩
    · rcases index.amounts_or_raises types store pointee steps.sum with
        ⟨step, amounts, whole⟩ | ⟨fault, raises⟩
      · exact .inl ⟨step :: steps, fitting_cons.mpr ⟨amounts, whole, fitting⟩⟩
      · exact .inr ⟨[], index, indices, steps, fault, rfl, fitting, raises⟩
    · rw [split]
      exact .inr ⟨index :: front, other, back, steps, fault, rfl, fitting, raises⟩

theorem walk_ok_iff {indices : List Index} {total : Int64} :
    (walk types store pointee 0 indices.reverse).1 = .ok total ↔
      ∃ steps, Fitting types store pointee indices steps ∧ total.toInt = steps.sum := by
  constructor
  · intro counted
    rcases exists_fitting_or_raises types store pointee indices with
      ⟨steps, fitting⟩ | ⟨front, index, back, steps, fault, split, fitting, raises⟩
    · rw [fitting.walk_eq] at counted
      cases counted
      exact ⟨steps, fitting, fitting.toInt_sum⟩
    · rw [split, fitting.walk_eq_of_raises raises front] at counted
      cases counted
  · intro ⟨steps, fitting, sum⟩
    rw [fitting.walk_eq, ← sum, Int64.ofInt_toInt]

theorem walk_error_iff {indices : List Index} {fault : Fault} :
    (walk types store pointee 0 indices.reverse).1 = .error fault ↔
      ∃ front index back steps, indices = front ++ index :: back ∧
        Fitting types store pointee back steps ∧
          index.Raises types store pointee steps.sum fault := by
  constructor
  · intro failed
    rcases exists_fitting_or_raises types store pointee indices with
      ⟨steps, fitting⟩ | ⟨front, index, back, steps, cause, split, fitting, raises⟩
    · rw [fitting.walk_eq] at failed
      cases failed
    · rw [split, fitting.walk_eq_of_raises raises front] at failed
      cases failed
      exact ⟨front, index, back, steps, split, fitting, raises⟩
  · intro ⟨front, index, back, steps, split, fitting, raises⟩
    rw [split]
    exact fitting.walk_eq_of_raises raises front

theorem offset_of_indices {gep : Gep} (present : gep.indices ≠ []) :
    gep.offset types store = walk types store gep.pointee 0 gep.indices.reverse := by
  rcases gep with ⟨indices, field, pointee⟩
  cases indices with
  | nil => exact absurd rfl present
  | cons index indices => rfl

/-- A statement without indices selects its field. Any other selects the exact sum of what its indices
step over, if each has a step and each sum from one of them to the last fits; otherwise the error is
that of the last index of which this does not hold, by operand, type, step and sum in this order. -/
theorem offset_exact (types : Table) (store : Store) (gep : Gep) :
    (∀ total, (gep.offset types store).1 = .ok total ↔
      gep.indices = [] ∧ total = gep.field ∨
        gep.indices ≠ [] ∧ ∃ steps, Fitting types store gep.pointee gep.indices steps ∧
          total.toInt = steps.sum) ∧
    ∀ fault, (gep.offset types store).1 = .error fault ↔
      ∃ front index back steps, gep.indices = front ++ index :: back ∧
        Fitting types store gep.pointee back steps ∧
          index.Raises types store gep.pointee steps.sum fault := by
  by_cases none : gep.indices = []
  · have field : (gep.offset types store).1 = .ok gep.field := by rw [offset, none]
    constructor
    · intro total
      simp [field, none, eq_comm]
    · intro fault
      simp [field, none]
  · rw [offset_of_indices none]
    constructor
    · intro total
      rw [walk_ok_iff]
      simp [none]
    · intro fault
      exact walk_error_iff

/-- All three together are the largest numeral, but the last two are beyond it. -/
example : ((through [⟨.constant (-1), none⟩, ⟨.constant 0x7fffffffffffffff, none⟩,
    ⟨.constant 1, none⟩] none).offset .empty .empty).1 = .error (.overflow .gepOffset) := rfl

end CellMemory.Gep
