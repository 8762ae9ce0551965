import CellMemory.Proofs.Layout.Leaves

/-! Where members start. A type is asked for any of its members by a numeral, one that it has or not.
What a listed type refers to is listed too, and no sum of the slots of some fields exceeds the slots of
the struct; so nothing goes wrong on the way to a member that is there. -/

namespace CellMemory.Layout.Table

open Numeral (Fits)

variable {table : Table} {id : TypeId}

/-- Every member of an aggregate has a numeral for its index, as in any list that fits in memory. -/
def Indexable (table : Table) : Prop :=
  ∀ entry ∈ table.entries, entry.ty.members.length ≤ 0x8000000000000000

instance (table : Table) : Decidable table.Indexable :=
  inferInstanceAs (Decidable (∀ entry ∈ table.entries,
    entry.ty.members.length ≤ 0x8000000000000000))

theorem Indexable.index_lt (indexable : table.Indexable) {member : TypeId} {ty : Ty} {index : Nat}
    (known : table.get id = .ok ty) (inside : ty.members[index]? = some member) :
    index < 0x8000000000000000 := by
  obtain ⟨slots, listed⟩ := get_eq_ok_iff.mp known
  have entry := Array.mem_of_getElem? (entry_eq_ok_iff.mp listed)
  have bound := (List.getElem?_eq_some_iff.mp inside).1
  exact Nat.lt_of_lt_of_le bound (indexable _ entry)

theorem isPointer_of_get {ty : Ty} (known : table.get id = .ok ty) :
    table.isPointer id = .ok ty.isPointer := by
  obtain ⟨slots, listed⟩ := get_eq_ok_iff.mp known
  simp only [Table.isPointer, listed]

theorem isPointer_of_listed (listed : table.Lists id) :
    ∃ pointer, table.isPointer id = .ok pointer := by
  obtain ⟨slots, counted⟩ := listed
  obtain ⟨ty, known⟩ := slots_eq_ok_iff.mp counted
  exact ⟨ty.isPointer, isPointer_of_get (get_eq_ok_iff.mpr ⟨slots, known⟩)⟩

theorem Measured.lists_part (measured : table.Measured) {ty : Ty} (known : table.get id = .ok ty) :
    ∀ part ∈ ty.parts, table.Lists part := by
  obtain ⟨slots, entry⟩ := get_eq_ok_iff.mp known
  exact measured.lists entry

theorem Measured.countAll_take_add_le (measured : table.Measured) {member : TypeId} {ty : Ty}
    {index : Nat} (known : table.get id = .ok ty) (inside : ty.members[index]? = some member) :
    table.countAll (ty.members.take index) + table.count member ≤ table.count id := by
  rw [measured.count_of_members known inside]
  exact countAll_take_add_le_all inside

theorem Measured.total_take (measured : table.Measured) {fields : List TypeId}
    (known : table.get id = .ok (.struct fields)) (quantity : Quantity) (position : Nat) :
    ∃ slots, table.total quantity .zero (fields.take position) = .ok slots ∧
      slots.count = table.countAll (fields.take position) := by
  have listed := measured.lists_part known
  have whole : table.count id = table.countAll fields := measured.count_of_get known
  have fits : table.countAll (fields.take position) < 0x8000000000000000 := by
    have split := congrArg table.countAll (List.take_append_drop position fields)
    rw [countAll_append] at split
    have bound := table.count_lt id
    omega
  refine ⟨⟨_, fits⟩, total_eq_ok_iff.mpr ⟨?_, (Nat.zero_add _).symm⟩, rfl⟩
  intro part taken
  exact listed part (List.mem_of_mem_take taken)

theorem Measured.memberOffset_of_field (measured : table.Measured) {fields : List TypeId}
    {index : Int64} {position : Nat} (known : table.get id = .ok (.struct fields))
    (number : index.toInt = position) (bound : position < fields.length) :
    ∃ offset, table.memberOffset id index = .ok offset ∧
      offset.toInt = table.countAll (fields.take position) := by
  obtain ⟨slots, summed, count⟩ := measured.total_take known .fieldOffset position
  have inRange : 0 ≤ (position : Int) ∧ (position : Int) < fields.length :=
    ⟨Int.natCast_nonneg position, Int.ofNat_lt.mpr bound⟩
  refine ⟨slots.toNumeral, ?_, ?_⟩
  · simp only [memberOffset, known, number, if_pos inRange, Int.toNat_natCast, summed]
  · rw [Slots.toInt_toNumeral, count]

theorem Measured.memberOffset_add_slots_le (measured : table.Measured) {fields : List TypeId}
    {field : TypeId} {index : Int64} {position : Nat}
    (known : table.get id = .ok (.struct fields)) (number : index.toInt = position)
    (inside : fields[position]? = some field) :
    ∃ offset own whole, table.memberOffset id index = .ok offset ∧
      table.slots field = .ok own ∧ table.slots id = .ok whole ∧
      offset.toInt = table.countAll (fields.take position) ∧
      offset.toInt + own.count ≤ whole.count := by
  have bound := (List.getElem?_eq_some_iff.mp inside).1
  obtain ⟨offset, answered, exact⟩ := measured.memberOffset_of_field known number bound
  obtain ⟨own, counted⟩ := measured.lists_part known field (List.mem_of_getElem? inside)
  obtain ⟨whole, entry⟩ := get_eq_ok_iff.mp known
  have slots : table.slots id = .ok whole := slots_eq_ok_iff.mpr ⟨_, entry⟩
  have within := measured.countAll_take_add_le known inside
  rw [count_of_slots counted, count_of_slots slots] at within
  refine ⟨offset, own, whole, answered, counted, slots, exact, ?_⟩
  rw [exact]
  exact Int.ofNat_le.mpr within

theorem memberOffset_of_array {element : TypeId} {len : UInt32} {own : Slots}
    (known : table.get id = .ok (.array element len)) (counted : table.slots element = .ok own)
    (index : Int64) :
    table.memberOffset id index = Numeral.exact .elementOffset (index.toInt * own.count) := by
  simp only [memberOffset, known, counted]

theorem Measured.memberOffset_of_member (measured : table.Measured) {member : TypeId} {ty : Ty}
    {index : Nat} (known : table.get id = .ok ty) (inside : ty.members[index]? = some member)
    (small : index < 0x8000000000000000) :
    table.memberOffset id (Int64.ofNat index) =
      .ok (Int64.ofNat (table.countAll (ty.members.take index))) := by
  have bound := (List.getElem?_eq_some_iff.mp inside).1
  have number : (Int64.ofNat index).toInt = index := Int64.toInt_ofNat_of_lt small
  have fits : table.countAll (ty.members.take index) < 0x8000000000000000 :=
    calc table.countAll (ty.members.take index)
      _ ≤ table.countAll (ty.members.take index) + table.count member := Nat.le_add_right _ _
      _ ≤ table.count id := measured.countAll_take_add_le known inside
      _ < 0x8000000000000000 := table.count_lt id
  have start := Int64.toInt_ofNat_of_lt fits
  cases ty with
  | int | float | pointer | function => cases inside
  | struct fields =>
    obtain ⟨offset, answered, exact⟩ := measured.memberOffset_of_field known number bound
    rw [answered]
    exact congrArg Except.ok (Int64.toInt_inj.mp (exact.trans start.symm))
  | array element len =>
    obtain ⟨own, counted⟩ := measured.lists_part known element List.mem_cons_self
    have whole : table.countAll ((List.replicate len.toNat element).take index) =
        index * own.count := by
      have most : min index len.toNat = index := by
        simp only [Ty.members, List.length_replicate] at bound
        omega
      rw [List.take_replicate, most, countAll_replicate, count_of_slots counted]
    rw [memberOffset_of_array known counted, Numeral.exact_eq_ok_iff, start, number]
    simp only [Ty.members, whole]
    exact Int.natCast_mul index own.count

theorem memberOffset_of_unlisted (absent : ¬table.Lists id) (index : Int64) :
    table.memberOffset id index = .error (.unknownType id) := by
  have unknown : table.get id = .error (.unknownType id) := by rw [get, entry_of_unlisted absent]
  simp only [memberOffset, unknown]

theorem memberOffset_of_outside {fields : List TypeId} {index : Int64}
    (known : table.get id = .ok (.struct fields))
    (outside : index.toInt < 0 ∨ fields.length ≤ index.toInt) :
    table.memberOffset id index = .error (.fieldOutOfRange id index) := by
  have beyond : ¬(0 ≤ index.toInt ∧ index.toInt < fields.length) := by omega
  simp only [memberOffset, known, if_neg beyond]

theorem memberOffset_of_scalar {ty : Ty} (known : table.get id = .ok ty)
    (scalar : ty.isScalar = true) (index : Int64) :
    table.memberOffset id index =
      if index = 0 then .ok 0 else .error (.fieldOutOfRange id index) := by
  cases ty with
  | int | float | pointer | function => simp only [memberOffset, known]
  | array | struct => cases scalar

theorem get_of_lists (listed : table.Lists id) : ∃ ty, table.get id = .ok ty := by
  obtain ⟨slots, counted⟩ := listed
  obtain ⟨ty, known⟩ := slots_eq_ok_iff.mp counted
  exact ⟨ty, get_eq_ok_iff.mpr ⟨slots, known⟩⟩

theorem Measured.memberOffset_struct_error_iff (measured : table.Measured) {fields : List TypeId}
    (known : table.get id = .ok (.struct fields)) {index : Int64} {fault : Fault} :
    table.memberOffset id index = .error fault ↔
      fault = .fieldOutOfRange id index ∧ (index.toInt < 0 ∨ fields.length ≤ index.toInt) := by
  by_cases outside : index.toInt < 0 ∨ fields.length ≤ index.toInt
  · rw [memberOffset_of_outside known outside, Except.error.injEq, and_iff_left outside, eq_comm]
  · obtain ⟨position, number⟩ := Int.eq_ofNat_of_zero_le (a := index.toInt) (by omega)
    obtain ⟨offset, answered, _⟩ :=
      measured.memberOffset_of_field known number (by omega)
    rw [answered]
    exact iff_of_false nofun fun refused => outside refused.2

theorem Measured.fault_of_memberOffset (measured : table.Measured) (listed : table.Lists id)
    {index : Int64} {fault : Fault} (failed : table.memberOffset id index = .error fault) :
    fault = .fieldOutOfRange id index ∨ fault = .overflow .elementOffset := by
  obtain ⟨ty, known⟩ := get_of_lists listed
  cases ty with
  | struct fields => exact .inl ((measured.memberOffset_struct_error_iff known).mp failed).1
  | array element len =>
    obtain ⟨own, counted⟩ := measured.lists_part known element List.mem_cons_self
    rw [memberOffset_of_array known counted] at failed
    exact .inr (Numeral.exact_eq_error_iff.mp failed).1
  | int | float | pointer | function =>
    rw [memberOffset_of_scalar known rfl] at failed
    split at failed
    · cases failed
    · exact .inl (Except.error.inj failed).symm

/-- A type that is not listed is the only reason for an unknown type. A struct has a member for each
of its fields and no other: it starts after the slots of the fields before it, and with its own slots
it stays within those of the struct, so their sum never overflows. An array has a member for each
index whose product with the slots of an element is a numeral, and starts it there. A scalar has the
member zero only. -/
theorem memberOffset_exact (listed : table.Listed) (id : TypeId) (index : Int64) :
    ((∃ other, table.memberOffset id index = .error (.unknownType other)) ↔ ¬table.Lists id) ∧
    (¬table.Lists id → table.memberOffset id index = .error (.unknownType id)) ∧
    (∀ fields, table.get id = .ok (.struct fields) →
      (table.memberOffset id index = .error (.fieldOutOfRange id index) ↔
        index.toInt < 0 ∨ fields.length ≤ index.toInt) ∧
      (∀ (position : Nat) (field : TypeId), index.toInt = position →
        fields[position]? = some field →
          ∃ offset own whole, table.memberOffset id index = .ok offset ∧
            table.slots field = .ok own ∧ table.slots id = .ok whole ∧
            offset.toInt = table.countAll (fields.take position) ∧
            offset.toInt + own.count ≤ whole.count) ∧
      ∀ position, ∃ slots, table.total .fieldOffset .zero (fields.take position) = .ok slots) ∧
    (∀ element len, table.get id = .ok (.array element len) →
      ∃ own, table.slots element = .ok own ∧
        (table.memberOffset id index = .error (.overflow .elementOffset) ↔
          ¬Fits (index.toInt * own.count)) ∧
        ∀ offset, table.memberOffset id index = .ok offset ↔
          offset.toInt = index.toInt * own.count) ∧
    (∀ ty, table.get id = .ok ty → ty.isScalar = true →
      (table.memberOffset id index = .ok 0 ↔ index = 0) ∧
      (table.memberOffset id index = .error (.fieldOutOfRange id index) ↔ index ≠ 0)) ∧
    table.memberOffset id index ≠ .error (.overflow .fieldOffset) := by
  have measured := listed.measured
  have unknown : (∃ other, table.memberOffset id index = .error (.unknownType other)) ↔
      ¬table.Lists id := by
    constructor
    · intro ⟨other, failed⟩ present
      rcases measured.fault_of_memberOffset present failed with outside | beyond
      · cases outside
      · cases beyond
    · intro absent
      exact ⟨id, memberOffset_of_unlisted absent index⟩
  refine ⟨unknown, fun absent => memberOffset_of_unlisted absent index, ?_, ?_, ?_, ?_⟩
  · intro fields known
    refine ⟨?_, fun position field => measured.memberOffset_add_slots_le known, ?_⟩
    · rw [measured.memberOffset_struct_error_iff known, and_iff_right rfl]
    · intro position
      obtain ⟨slots, summed, _⟩ := measured.total_take known .fieldOffset position
      exact ⟨slots, summed⟩
  · intro element len known
    obtain ⟨own, counted⟩ := measured.lists_part known element List.mem_cons_self
    rw [memberOffset_of_array known counted]
    refine ⟨own, counted, ?_, fun offset => Numeral.exact_eq_ok_iff⟩
    rw [Numeral.exact_eq_error_iff, and_iff_right rfl, Fits]
    omega
  · intro ty known scalar
    rw [memberOffset_of_scalar known scalar]
    by_cases zero : index = 0 <;> simp [zero]
  · intro overflow
    by_cases present : table.Lists id
    · rcases measured.fault_of_memberOffset present overflow with outside | beyond
      · cases outside
      · cases beyond
    · rw [memberOffset_of_unlisted present] at overflow
      cases overflow

def vast : Table :=
  let scalars := (Table.empty.add (.int 8)).2
  let rows := (scalars.add (.array ⟨0⟩ 0x100000)).2
  let planes := (rows.add (.array ⟨1⟩ 0x100000)).2
  let blocks := (planes.add (.array ⟨2⟩ 0x100000)).2
  (blocks.add (.struct [⟨0⟩, ⟨3⟩, ⟨3⟩])).2

theorem listed_vast : vast.Listed :=
  .add (.add (.add (.add (.add .empty _) _) _) _) _

theorem memberOffset_exact_vast :
    vast.memberOffset ⟨9⟩ 0 = .error (.unknownType ⟨9⟩) ∧
      vast.memberOffset ⟨4⟩ (-1) = .error (.fieldOutOfRange ⟨4⟩ (-1)) ∧
      (∃ offset, vast.memberOffset ⟨4⟩ 2 = .ok offset ∧ offset.toInt = 0x1000000000000001) ∧
      vast.memberOffset ⟨3⟩ 0x7fffffffffffffff = .error (.overflow .elementOffset) ∧
      vast.memberOffset ⟨3⟩ (-8) = .ok (-0x80000000000) ∧
      vast.memberOffset ⟨0⟩ 1 = .error (.fieldOutOfRange ⟨0⟩ 1) := by
  have exact := memberOffset_exact listed_vast
  have unlisted : ¬vast.Lists ⟨9⟩ := by
    rw [lists_iff]
    decide
  obtain ⟨_, _, struct, _⟩ := exact ⟨4⟩ 2
  obtain ⟨offset, own, whole, answered, _, _, sum, _⟩ := (struct _ rfl).2.1 2 ⟨3⟩ (by decide) rfl
  obtain ⟨_, _, _, array, _⟩ := exact ⟨3⟩ 0x7fffffffffffffff
  obtain ⟨_, _, _, backward, _⟩ := exact ⟨3⟩ (-8)
  obtain ⟨plane, counted, beyond, _⟩ := array _ _ rfl
  obtain ⟨same, counts, _, steps⟩ := backward _ _ rfl
  cases counted
  cases counts
  refine ⟨(exact ⟨9⟩ 0).2.1 unlisted, ?_, ⟨offset, answered, sum⟩, ?_, ?_, ?_⟩
  · exact ((exact ⟨4⟩ (-1)).2.2.1 _ rfl).1.mpr (by decide)
  · exact beyond.mpr (by decide)
  · exact (steps _).mpr (by decide)
  · exact ((exact ⟨0⟩ 1).2.2.2.2.1 _ rfl rfl).2.mpr (by decide)

end CellMemory.Layout.Table
