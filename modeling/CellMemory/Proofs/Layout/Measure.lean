import CellMemory.Layout.Table
import Mathlib.Algebra.GroupWithZero.Nat

/-! How many slots listed types take. An aggregate refers to types listed before it, and it takes
what its members take together; so the count in the table is that of the whole expansion. -/

namespace CellMemory

namespace Ty

def isScalar : Ty → Bool
  | int _ | float | pointer _ | function => true
  | array _ _ | struct _ => false

/-- The types an aggregate refers to. What a pointer points to is no part of it. -/
def parts : Ty → List TypeId
  | array element _ => [element]
  | struct fields => fields
  | int _ | float | pointer _ | function => []

def members : Ty → List TypeId
  | array element len => List.replicate len.toNat element
  | struct fields => fields
  | int _ | float | pointer _ | function => []

theorem mem_parts_of_mem_members {ty : Ty} {id : TypeId} (member : id ∈ ty.members) :
    id ∈ ty.parts := by
  cases ty with
  | array element len => exact List.mem_singleton.mpr (List.mem_replicate.mp member).2
  | struct fields => exact member
  | int | float | pointer | function => cases member

theorem members_of_isScalar {ty : Ty} (scalar : ty.isScalar = true) : ty.members = [] := by
  cases ty with
  | array | struct => cases scalar
  | int | float | pointer | function => rfl

end Ty

theorem Slots.ofNat_eq_ok_iff {quantity : Quantity} {number : Nat} {slots : Slots} :
    Slots.ofNat quantity number = .ok slots ↔ slots.count = number := by
  unfold Slots.ofNat
  split
  · next fits =>
    cases slots
    simp [eq_comm]
  · next large =>
    have fits := slots.fits
    simp only [reduceCtorEq, false_iff]
    omega

theorem Slots.ofNat_eq_error_iff {quantity : Quantity} {number : Nat} {fault : Fault} :
    Slots.ofNat quantity number = .error fault ↔
      fault = .overflow quantity ∧ 0x8000000000000000 ≤ number := by
  unfold Slots.ofNat
  split
  · next fits => simp [Nat.not_le_of_lt fits]
  · next large => simp [Nat.le_of_not_lt large, eq_comm]

namespace Layout.Table

def Lists (table : Table) (id : TypeId) : Prop := ∃ slots, table.slots id = .ok slots

def count (table : Table) (id : TypeId) : Nat :=
  match table.slots id with
  | .ok slots => slots.count
  | .error _ => 0

def countAll (table : Table) (members : List TypeId) : Nat := (members.map table.count).sum

def span (table : Table) (ty : Ty) : Nat := if ty.isScalar then 1 else table.countAll ty.members

variable {table : Table}

theorem entry_eq_ok_iff {id : TypeId} {entry : Entry} :
    table.entry id = .ok entry ↔ table.entries[id.number.toNat]? = some entry := by
  unfold Table.entry
  cases table.entries[id.number.toNat]? <;> simp

theorem get_eq_ok_iff {id : TypeId} {ty : Ty} :
    table.get id = .ok ty ↔ ∃ slots, table.entry id = .ok ⟨ty, slots⟩ := by
  unfold Table.get
  cases table.entry id with
  | error fault => simp
  | ok entry =>
    constructor
    · rintro ⟨⟩
      exact ⟨entry.slots, rfl⟩
    · rintro ⟨slots, ⟨⟩⟩
      rfl

theorem slots_eq_ok_iff {id : TypeId} {slots : Slots} :
    table.slots id = .ok slots ↔ ∃ ty, table.entry id = .ok ⟨ty, slots⟩ := by
  unfold Table.slots
  cases table.entry id with
  | error fault => simp
  | ok entry =>
    constructor
    · rintro ⟨⟩
      exact ⟨entry.ty, rfl⟩
    · rintro ⟨ty, ⟨⟩⟩
      rfl

theorem lists_iff {id : TypeId} : table.Lists id ↔ id.number.toNat < table.size := by
  unfold Lists
  constructor
  · rintro ⟨slots, listed⟩
    obtain ⟨ty, known⟩ := slots_eq_ok_iff.mp listed
    exact (Array.getElem?_eq_some_iff.mp (entry_eq_ok_iff.mp known)).1
  · intro inside
    exact ⟨_, slots_eq_ok_iff.mpr ⟨_, entry_eq_ok_iff.mpr (Array.getElem?_eq_getElem inside)⟩⟩

theorem entry_of_unlisted {id : TypeId} (absent : ¬table.Lists id) :
    table.entry id = .error (.unknownType id) := by
  rw [lists_iff] at absent
  rw [Table.entry, Array.getElem?_eq_none (Nat.le_of_not_lt absent)]

theorem count_of_slots {id : TypeId} {slots : Slots} (listed : table.slots id = .ok slots) :
    table.count id = slots.count := by
  rw [count, listed]

theorem count_lt (id : TypeId) : table.count id < 0x8000000000000000 := by
  unfold count
  split
  · next slots _ => exact slots.fits
  · decide

@[simp]
theorem countAll_nil : table.countAll [] = 0 := rfl

@[simp]
theorem countAll_cons (member : TypeId) (members : List TypeId) :
    table.countAll (member :: members) = table.count member + table.countAll members := by
  simp [countAll]

theorem countAll_append (front back : List TypeId) :
    table.countAll (front ++ back) = table.countAll front + table.countAll back := by
  simp [countAll]

theorem countAll_replicate (number : Nat) (element : TypeId) :
    table.countAll (List.replicate number element) = number * table.count element := by
  simp [countAll]

theorem total_eq_ok_iff {quantity : Quantity} {counted slots : Slots} {members : List TypeId} :
    table.total quantity counted members = .ok slots ↔
      (∀ member ∈ members, table.Lists member) ∧
        slots.count = counted.count + table.countAll members := by
  induction members generalizing counted with
  | nil =>
    cases counted
    cases slots
    simp [total, eq_comm]
  | cons member members ih =>
    rw [total, List.forall_mem_cons, countAll_cons]
    cases listed : table.slots member with
    | error fault => simp [Lists, listed]
    | ok own =>
      have known : table.Lists member := ⟨own, listed⟩
      rw [count_of_slots listed]
      cases summed : Slots.ofNat quantity (counted.count + own.count) with
      | error fault =>
        have large := (Slots.ofNat_eq_error_iff.mp summed).2
        have fits := slots.fits
        simp only [summed, reduceCtorEq, false_iff, not_and]
        omega
      | ok sum =>
        simp only [summed, ih, known, true_and, Slots.ofNat_eq_ok_iff.mp summed, Nat.add_assoc]

theorem measure_eq_ok_iff {ty : Ty} {slots : Slots} :
    table.measure ty = .ok slots ↔
      (∀ part ∈ ty.parts, table.Lists part) ∧ slots.count = table.span ty := by
  cases ty with
  | int | float | pointer | function =>
    cases slots
    simp [measure, Ty.parts, span, Ty.isScalar, Slots.one, eq_comm]
  | struct fields =>
    rw [measure, total_eq_ok_iff, Slots.zero, Nat.zero_add]
    rfl
  | array element len =>
    have whole : table.span (.array element len) = len.toNat * table.count element :=
      countAll_replicate len.toNat element
    rw [measure, whole, Ty.parts, List.forall_mem_singleton]
    cases listed : table.slots element with
    | error fault => simp [Lists, listed]
    | ok own =>
      have known : table.Lists element := ⟨own, listed⟩
      simp only [Slots.ofNat_eq_ok_iff, count_of_slots listed, known, true_and, Nat.mul_comm]

/-- Every type refers to earlier types only and is counted as they are. -/
structure Measured (table : Table) : Prop where
  earlier : ∀ id entry, table.entry id = .ok entry → ∀ part ∈ entry.ty.parts,
    part.number.toNat < id.number.toNat
  exact : ∀ id entry, table.entry id = .ok entry → entry.slots.count = table.span entry.ty

/-- The tables that listing types makes, whether or not a type is accepted. -/
inductive Listed : Table → Prop
  | empty : Listed .empty
  | add {table : Table} (listed : Listed table) (ty : Ty) : Listed (table.add ty).2

def push (table : Table) (entry : Entry) : Table := ⟨table.entries.push entry⟩

theorem entries_push {position : Nat} {entry new : Entry} :
    (table.push new).entries[position]? = some entry ↔
      (position = table.size ∧ entry = new) ∨ table.entries[position]? = some entry := by
  rw [push, Array.getElem?_push]
  split
  · next last => simp [last, size, eq_comm]
  · next other => simp [size, other]

theorem entry_push {id : TypeId} {entry new : Entry} :
    (table.push new).entry id = .ok entry ↔
      (id.number.toNat = table.size ∧ entry = new) ∨ table.entry id = .ok entry := by
  rw [entry_eq_ok_iff, entry_eq_ok_iff, entries_push]

theorem slots_push {id : TypeId} {slots : Slots} (listed : table.slots id = .ok slots)
    (new : Entry) : (table.push new).slots id = .ok slots := by
  obtain ⟨ty, known⟩ := slots_eq_ok_iff.mp listed
  exact slots_eq_ok_iff.mpr ⟨ty, entry_push.mpr (.inr known)⟩

theorem span_push {ty : Ty} (listed : ∀ part ∈ ty.parts, table.Lists part) (new : Entry) :
    (table.push new).span ty = table.span ty := by
  have same : ty.members.map (table.push new).count = ty.members.map table.count := by
    apply List.map_congr_left
    intro member inside
    obtain ⟨slots, known⟩ := listed member (Ty.mem_parts_of_mem_members inside)
    rw [count_of_slots known, count_of_slots (slots_push known new)]
  rw [span, span, countAll, countAll, same]

theorem Measured.lists (measured : table.Measured) {id : TypeId} {entry : Entry}
    (known : table.entry id = .ok entry) : ∀ part ∈ entry.ty.parts, table.Lists part := by
  intro part member
  have before := measured.earlier id entry known part member
  have inside : table.Lists id := ⟨_, slots_eq_ok_iff.mpr ⟨_, known⟩⟩
  exact lists_iff.mpr (Nat.lt_trans before (lists_iff.mp inside))

theorem Measured.count_of_get (measured : table.Measured) {id : TypeId} {ty : Ty}
    (known : table.get id = .ok ty) : table.count id = table.span ty := by
  obtain ⟨slots, listed⟩ := get_eq_ok_iff.mp known
  rw [count_of_slots (slots_eq_ok_iff.mpr ⟨ty, listed⟩)]
  exact measured.exact id ⟨ty, slots⟩ listed

theorem Measured.push (measured : table.Measured) {ty : Ty} {slots : Slots}
    (counted : table.measure ty = .ok slots) : (table.push ⟨ty, slots⟩).Measured := by
  obtain ⟨listed, total⟩ := measure_eq_ok_iff.mp counted
  refine ⟨?_, ?_⟩
  · intro id entry known part member
    rcases entry_push.mp known with ⟨last, rfl⟩ | old
    · rw [last]
      exact lists_iff.mp (listed part member)
    · exact measured.earlier id entry old part member
  · intro id entry known
    rcases entry_push.mp known with ⟨_, rfl⟩ | old
    · rw [span_push listed, total]
    · rw [span_push (measured.lists old), measured.exact id entry old]

theorem add_of_measure {ty : Ty} {slots : Slots} (counted : table.measure ty = .ok slots) :
    table.add ty = (.ok ⟨UInt32.ofNat table.size⟩, table.push ⟨ty, slots⟩) := by
  simp only [Table.add, counted, push]

theorem add_of_measure_error {ty : Ty} {fault : Fault} (refused : table.measure ty = .error fault) :
    table.add ty = (.error fault, table) := by
  simp only [Table.add, refused]

theorem Measured.add (measured : table.Measured) (ty : Ty) : (table.add ty).2.Measured := by
  cases counted : table.measure ty with
  | error fault =>
    rw [add_of_measure_error counted]
    exact measured
  | ok slots =>
    rw [add_of_measure counted]
    exact measured.push counted

theorem Listed.measured (listed : table.Listed) : table.Measured := by
  induction listed with
  | empty =>
    have none : ∀ id entry, Table.empty.entry id ≠ .ok entry := by
      simp [entry_eq_ok_iff, Table.empty]
    exact ⟨fun id entry known => absurd known (none id entry),
      fun id entry known => absurd known (none id entry)⟩
  | add listed ty measured => exact measured.add ty

end Layout.Table

end CellMemory
