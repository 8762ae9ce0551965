import CellMemory.Proofs.Layout.Measure

/-! The types of a table written out in full. Types are listed one after the other, accepted or not;
each keeps its id, and the slots in the table are those of its whole expansion. The sums on the way
never lose a type that fits and never let one in that does not. -/

namespace CellMemory

def Ty.slotsOver (slots : TypeId → Nat) : Ty → Nat
  | array element len => len.toNat * slots element
  | struct fields => (fields.map slots).sum
  | int _ | float | pointer _ | function => 1

theorem Ty.slotsOver_congr {ty : Ty} {slots others : TypeId → Nat}
    (same : ∀ part ∈ ty.parts, slots part = others part) :
    ty.slotsOver slots = ty.slotsOver others := by
  cases ty with
  | int | float | pointer | function => rfl
  | array element len => rw [slotsOver, slotsOver, same element (List.mem_singleton_self element)]
  | struct fields => exact congrArg List.sum (List.map_congr_left same)

namespace Layout.Table

/-- The scalar slots of a type once every type it refers to is written out. A type can only refer to
earlier ones; others count nothing. -/
def expanded (table : Table) (id : TypeId) : Nat :=
  match table.get id with
  | .error _ => 0
  | .ok ty =>
    ty.slotsOver fun part =>
      if _earlier : part.number.toNat < id.number.toNat then table.expanded part else 0
termination_by id.number.toNat

def addEach (table : Table) : List Ty → List (Except Fault TypeId) × Table
  | [] => ([], table)
  | ty :: types =>
    match table.add ty with
    | (answer, table) =>
      match addEach table types with
      | (answers, table) => (answer :: answers, table)

variable {table : Table} {id : TypeId} {ty : Ty} {types : List Ty}

theorem span_eq_slotsOver (ty : Ty) : table.span ty = ty.slotsOver table.count := by
  cases ty with
  | int | float | pointer | function => rfl
  | array element len => exact countAll_replicate len.toNat element
  | struct fields => rfl

theorem expanded_of_get (listed : table.get id = .ok ty) :
    table.expanded id = ty.slotsOver fun part =>
      if part.number.toNat < id.number.toNat then table.expanded part else 0 := by
  rw [expanded, listed]
  rfl

theorem Measured.count_eq_expanded (measured : table.Measured) (id : TypeId) :
    table.count id = table.expanded id := by
  -- the parts of a type are earlier types, so the induction is on the id
  induction position : id.number.toNat using Nat.strongRecOn generalizing id with
  | ind bound ih =>
    cases known : table.entry id with
    | error fault => simp [count, slots, expanded, get, known]
    | ok entry =>
      have listed : table.get id = .ok entry.ty := by rw [get, known]
      have parts : ∀ part ∈ entry.ty.parts, table.count part =
          if part.number.toNat < id.number.toNat then table.expanded part else 0 := by
        intro part member
        have before := measured.earlier id entry known part member
        rw [if_pos before]
        exact ih _ (position ▸ before) part rfl
      calc table.count id
        _ = table.span entry.ty := measured.count_of_get listed
        _ = entry.ty.slotsOver table.count := span_eq_slotsOver entry.ty
        _ = table.expanded id := by rw [expanded_of_get listed, Ty.slotsOver_congr parts]

theorem Measured.expanded_eq_count (measured : table.Measured) : table.expanded = table.count :=
  funext fun id => (measured.count_eq_expanded id).symm

theorem measure_isOk_iff :
    (∃ slots, table.measure ty = .ok slots) ↔
      (∀ part ∈ ty.parts, table.Lists part) ∧ table.span ty < 0x8000000000000000 := by
  constructor
  · intro ⟨slots, counted⟩
    obtain ⟨listed, whole⟩ := measure_eq_ok_iff.mp counted
    exact ⟨listed, whole ▸ slots.fits⟩
  · intro ⟨listed, fits⟩
    exact ⟨⟨table.span ty, fits⟩, measure_eq_ok_iff.mpr ⟨listed, rfl⟩⟩

theorem add_error_iff :
    (∃ fault, (table.add ty).1 = .error fault) ↔
      (∃ part ∈ ty.parts, ¬table.Lists part) ∨ 0x8000000000000000 ≤ table.span ty := by
  have countable : (∃ slots, table.measure ty = .ok slots) ↔ _ := measure_isOk_iff
  cases counted : table.measure ty with
  | ok slots =>
    obtain ⟨listed, fits⟩ := countable.mp ⟨slots, counted⟩
    rw [add_of_measure counted]
    constructor
    · intro ⟨fault, refused⟩
      cases refused
    · intro ill
      rcases ill with ⟨part, member, absent⟩ | large
      · exact absurd (listed part member) absent
      · omega
  | error fault =>
    rw [add_of_measure_error counted]
    refine iff_of_true ⟨fault, rfl⟩ ?_
    by_cases listed : ∀ part ∈ ty.parts, table.Lists part
    · right
      apply Nat.le_of_not_lt
      intro fits
      obtain ⟨slots, accepted⟩ := countable.mpr ⟨listed, fits⟩
      rw [counted] at accepted
      cases accepted
    · left
      simpa using listed

theorem size_push (new : Entry) : (table.push new).size = table.size + 1 :=
  Array.size_push new

theorem get_push (listed : table.get id = .ok ty) (new : Entry) :
    (table.push new).get id = .ok ty := by
  obtain ⟨slots, known⟩ := get_eq_ok_iff.mp listed
  exact get_eq_ok_iff.mpr ⟨slots, entry_push.mpr (.inr known)⟩

theorem get_push_self {slots : Slots} (few : table.size < 0x100000000) :
    (table.push ⟨ty, slots⟩).get ⟨UInt32.ofNat table.size⟩ = .ok ty := by
  have last : (UInt32.ofNat table.size).toNat = table.size := UInt32.toNat_ofNat_of_lt' few
  exact get_eq_ok_iff.mpr ⟨slots, entry_push.mpr (.inl ⟨last, rfl⟩)⟩

theorem add_cases (table : Table) (ty : Ty) :
    (∃ fault, table.add ty = (.error fault, table)) ∨
      ∃ slots, table.add ty = (.ok ⟨UInt32.ofNat table.size⟩, table.push ⟨ty, slots⟩) := by
  cases counted : table.measure ty with
  | error fault => exact .inl ⟨fault, add_of_measure_error counted⟩
  | ok slots => exact .inr ⟨slots, add_of_measure counted⟩

theorem size_add (table : Table) (ty : Ty) :
    (table.add ty).2.size = table.size + if (table.add ty).1.isOk = true then 1 else 0 := by
  rcases table.add_cases ty with ⟨fault, refused⟩ | ⟨slots, accepted⟩
  · rw [refused]
    rfl
  · rw [accepted, size_push]
    rfl

theorem addEach_cons (table : Table) (ty : Ty) (types : List Ty) :
    table.addEach (ty :: types) =
      ((table.add ty).1 :: ((table.add ty).2.addEach types).1,
        ((table.add ty).2.addEach types).2) := rfl

theorem size_addEach (table : Table) (types : List Ty) :
    (table.addEach types).2.size = table.size + (table.addEach types).1.countP Except.isOk := by
  induction types generalizing table with
  | nil => rfl
  | cons ty types ih =>
    rw [addEach_cons, ih, List.countP_cons, size_add]
    omega

theorem size_le_addEach (table : Table) (types : List Ty) :
    table.size ≤ (table.addEach types).2.size := by
  rw [size_addEach]
  exact Nat.le_add_right _ _

theorem get_addEach (listed : table.get id = .ok ty) (types : List Ty) :
    (table.addEach types).2.get id = .ok ty := by
  induction types generalizing table with
  | nil => exact listed
  | cons next types ih =>
    rw [addEach_cons]
    rcases table.add_cases next with ⟨fault, refused⟩ | ⟨slots, accepted⟩
    · rw [refused]
      exact ih listed
    · rw [accepted]
      exact ih (get_push listed _)

theorem Listed.addEach (listed : table.Listed) (types : List Ty) :
    (table.addEach types).2.Listed := by
  induction types generalizing table with
  | nil => exact listed
  | cons ty types ih => exact ih (listed.add ty)

theorem addEach_answer (few : (table.addEach types).2.size ≤ 0x100000000) {position : Nat}
    (answered : (table.addEach types).1[position]? = some (.ok id)) :
    id.number.toNat = table.size + ((table.addEach types).1.take position).countP Except.isOk ∧
      ∃ ty, types[position]? = some ty ∧ (table.addEach types).2.get id = .ok ty := by
  induction types generalizing table position with
  | nil => cases answered
  | cons ty types ih =>
    have rest : ((table.add ty).2.addEach types).2.size ≤ 0x100000000 := few
    have room := Nat.le_trans (size_le_addEach (table.add ty).2 types) rest
    rw [addEach_cons] at answered ⊢
    cases position with
    | zero =>
      have first : (table.add ty).1 = .ok id := Option.some.inj answered
      rcases table.add_cases ty with ⟨fault, refused⟩ | ⟨slots, accepted⟩
      · rw [refused] at first
        cases first
      · rw [accepted] at first ⊢
        cases first
        simp only [accepted, size_push] at room
        exact ⟨UInt32.toNat_ofNat_of_lt' room, ty, rfl, get_addEach (get_push_self room) types⟩
    | succ position =>
      obtain ⟨number, listed⟩ := ih rest answered
      refine ⟨?_, listed⟩
      rw [number, List.take_succ_cons, List.countP_cons, size_add]
      omega

theorem ok_mem_addEach (few : (table.addEach types).2.size ≤ 0x100000000) :
    .ok id ∈ (table.addEach types).1 ↔
      table.size ≤ id.number.toNat ∧ id.number.toNat < (table.addEach types).2.size := by
  induction types generalizing table with
  | nil =>
    simp only [addEach, List.not_mem_nil, false_iff]
    omega
  | cons ty types ih =>
    have rest : ((table.add ty).2.addEach types).2.size ≤ 0x100000000 := few
    have grown := size_le_addEach (table.add ty).2 types
    have room := Nat.le_trans grown rest
    rw [addEach_cons, List.mem_cons, ih rest]
    rcases table.add_cases ty with ⟨fault, refused⟩ | ⟨slots, accepted⟩
    · simp [refused]
    · simp only [accepted, size_push] at room grown ⊢
      have last : (UInt32.ofNat table.size).toNat = table.size := UInt32.toNat_ofNat_of_lt' room
      have next : (Except.ok id : Except Fault TypeId) = .ok ⟨UInt32.ofNat table.size⟩ ↔
          id.number.toNat = table.size := by
        cases id
        rw [Except.ok.injEq, TypeId.mk.injEq, ← UInt32.toNat_inj, last]
      rw [next]
      omega

/-- Whatever types are listed, each that is accepted has as its id how many were before it, and stays
there. Its slots are those of its whole expansion. What is refused changes nothing, and a type is
refused only if it refers to one that is not there or its expansion has more slots than a numeral
holds. -/
theorem addEach_exact {answers : List (Except Fault TypeId)}
    (added : Table.empty.addEach types = (answers, table)) (few : table.size ≤ 0x100000000) :
    (∀ (position : Nat) (id : TypeId), answers[position]? = some (.ok id) →
      id.number.toNat = (answers.take position).countP Except.isOk ∧
        ∃ ty, types[position]? = some ty ∧ table.get id = .ok ty) ∧
    (∀ (id : TypeId) (ty : Ty), table.get id = .ok ty →
      table.expanded id = ty.slotsOver table.expanded ∧
        table.expanded id ≤ 0x7fffffffffffffff ∧
          ∃ slots, table.slots id = .ok slots ∧ slots.toNumeral.toInt = table.expanded id) ∧
    ∀ ty : Ty,
      ((∃ fault, (table.add ty).1 = .error fault) ↔
        (∃ part ∈ ty.parts, .ok part ∉ answers) ∨
          0x7fffffffffffffff < ty.slotsOver table.expanded) ∧
      ∀ fault, (table.add ty).1 = .error fault → (table.add ty).2 = table := by
  have run : table = (Table.empty.addEach types).2 := (congrArg Prod.snd added).symm
  have told : answers = (Table.empty.addEach types).1 := (congrArg Prod.fst added).symm
  have measured : table.Measured := run ▸ (Listed.empty.addEach types).measured
  rw [run] at few
  refine ⟨?_, ?_, ?_⟩
  · intro position id answered
    rw [told] at answered ⊢
    rw [run]
    obtain ⟨number, listed⟩ := addEach_answer few answered
    exact ⟨number.trans (Nat.zero_add _), listed⟩
  · intro id ty listed
    obtain ⟨slots, known⟩ := get_eq_ok_iff.mp listed
    have own : table.slots id = .ok slots := slots_eq_ok_iff.mpr ⟨ty, known⟩
    rw [measured.expanded_eq_count, ← span_eq_slotsOver]
    refine ⟨measured.count_of_get listed, Nat.le_of_lt_succ (count_lt id), slots, own, ?_⟩
    rw [Slots.toInt_toNumeral, count_of_slots own]
  · intro ty
    constructor
    · have answered : ∀ part : TypeId, .ok part ∉ answers ↔ ¬table.Lists part := by
        intro part
        rw [told, ok_mem_addEach few, lists_iff, run]
        simp [Table.empty, size]
      simp only [add_error_iff, answered, measured.expanded_eq_count, span_eq_slotsOver]
      rfl
    · intro fault refused
      rcases table.add_cases ty with ⟨_, same⟩ | ⟨slots, accepted⟩
      · rw [same]
      · rw [accepted] at refused
        cases refused

def huge : List Ty :=
  [.int 32, .array ⟨0⟩ 0xffffffff, .array ⟨1⟩ 0xffffffff, .array ⟨1⟩ 0x80000000, .array ⟨2⟩ 0,
    .struct [⟨3⟩, ⟨1⟩, ⟨3⟩, ⟨0⟩], .struct [⟨3⟩, ⟨2⟩, ⟨2⟩], .pointer (some ⟨9⟩)]

def hugeAnswers : List (Except Fault TypeId) :=
  [.ok ⟨0⟩, .ok ⟨1⟩, .error (.overflow .arraySlots), .ok ⟨2⟩, .ok ⟨3⟩, .ok ⟨4⟩,
    .error (.overflow .structSlots), .ok ⟨5⟩]

/-- The fifth type that is accepted is the sixth of the list. Two of the largest type together are
refused, though the type is there. -/
theorem addEach_exact_huge :
    ∃ table, Table.empty.addEach huge = (hugeAnswers, table) ∧
      (hugeAnswers.take 5).countP Except.isOk = 4 ∧ table.expanded ⟨4⟩ = 0x100000000 ∧
        0x7fffffffffffffff < (Ty.struct [⟨2⟩, ⟨3⟩, ⟨2⟩]).slotsOver table.expanded := by
  have added : Table.empty.addEach huge = (hugeAnswers, _) := rfl
  obtain ⟨ids, counts, refusals⟩ := addEach_exact added (by decide)
  obtain ⟨number, _⟩ := ids 5 ⟨4⟩ rfl
  obtain ⟨_, _, slots, own, exact⟩ := counts ⟨4⟩ (.struct [⟨3⟩, ⟨1⟩, ⟨3⟩, ⟨0⟩]) rfl
  cases own
  have listed : ∀ part ∈ (Ty.struct [⟨2⟩, ⟨3⟩, ⟨2⟩]).parts, .ok part ∈ hugeAnswers := by
    simp [Ty.parts, hugeAnswers]
  rcases (refusals (.struct [⟨2⟩, ⟨3⟩, ⟨2⟩])).1.mp ⟨_, rfl⟩ with ⟨part, member, absent⟩ | large
  · exact absurd (listed part member) absent
  · exact ⟨_, added, number.symm, Int.ofNat_inj.mp exact.symm, large⟩

end Layout.Table

end CellMemory
