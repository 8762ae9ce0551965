import CellMemory.Graph.Source
import CellMemory.Proofs.Layout.Expansion
import Mathlib.Data.List.Induction

/-! Types listed in the order of a document. The list alone tells the table they make, where each
type refers to earlier ones and has the slots counted from theirs. A list that makes no table has a
first type that the table of those before it refuses, for one reason. -/

namespace CellMemory

/-- A pass over a list fails at the first member that is refused where those before it have led. -/
theorem foldlM_eq_error_iff {σ α ε : Type} {step : σ → α → Except ε σ} {items : List α} {start : σ}
    {fault : ε} :
    items.foldlM step start = .error fault ↔
      ∃ front item back middle, items = front ++ item :: back ∧
        front.foldlM step start = .ok middle ∧ step middle item = .error fault := by
  constructor
  · intro failed
    induction items generalizing start with
    | nil => cases failed
    | cons item items ih =>
      rw [List.foldlM_cons] at failed
      cases first : step start item with
      | error other =>
        rw [first] at failed
        cases failed
        exact ⟨[], item, items, start, rfl, rfl, first⟩
      | ok next =>
        rw [first] at failed
        obtain ⟨front, last, back, middle, rfl, led, refused⟩ := ih failed
        refine ⟨item :: front, last, back, middle, rfl, ?_, refused⟩
        rw [List.foldlM_cons, first]
        exact led
  · rintro ⟨front, item, back, middle, rfl, led, refused⟩
    rw [List.foldlM_append, led]
    change (step middle item >>= fun next => back.foldlM step next) = _
    rw [refused]
    rfl

theorem foldlM_concat_eq_ok_iff {σ α ε : Type} {step : σ → α → Except ε σ} {front : List α}
    {item : α} {start last : σ} :
    (front ++ [item]).foldlM step start = .ok last ↔
      ∃ middle, front.foldlM step start = .ok middle ∧ step middle item = .ok last := by
  rw [List.foldlM_append]
  cases front.foldlM step start with
  | error fault => simp [bind, Except.bind]
  | ok middle =>
    change (step middle item >>= pure) = .ok last ↔ _
    rw [bind_pure]
    exact ⟨fun taken => ⟨middle, rfl, taken⟩, fun ⟨_, same, taken⟩ => by cases same; exact taken⟩

namespace Layout.Table

variable {table : Table} {ty : Ty} {types : List Ty} {fault : Fault}

/-- Why a table does not take a type: an array of what is not listed or with more slots than a count
holds, or a struct with a first field of which this holds, together with the fields before it. -/
inductive Refuses (table : Table) : Ty → Fault → Prop
  | element {element : TypeId} {len : UInt32} (absent : ¬table.Lists element) :
      Refuses table (.array element len) (.unknownType element)
  | array {element : TypeId} {len : UInt32} (listed : table.Lists element)
      (large : 0x8000000000000000 ≤ len.toNat * table.count element) :
      Refuses table (.array element len) (.overflow .arraySlots)
  | field {before after : List TypeId} {field : TypeId}
      (listed : ∀ member ∈ before, table.Lists member)
      (fits : table.countAll before < 0x8000000000000000) (absent : ¬table.Lists field) :
      Refuses table (.struct (before ++ field :: after)) (.unknownType field)
  | struct {before after : List TypeId} {field : TypeId}
      (listed : ∀ member ∈ before ++ [field], table.Lists member)
      (fits : table.countAll before < 0x8000000000000000)
      (large : 0x8000000000000000 ≤ table.countAll (before ++ [field])) :
      Refuses table (.struct (before ++ field :: after)) (.overflow .structSlots)

theorem slots_of_unlisted {id : TypeId} (absent : ¬table.Lists id) :
    table.slots id = .error (.unknownType id) := by
  rw [slots, entry_of_unlisted absent]

def countMember (table : Table) (quantity : Quantity) (counted : Slots) (member : TypeId) :
    Except Fault Slots :=
  table.slots member >>= fun slots => Slots.ofNat quantity (counted.count + slots.count)

theorem total_eq_foldlM (quantity : Quantity) (counted : Slots) (members : List TypeId) :
    table.total quantity counted members = members.foldlM (table.countMember quantity) counted := by
  induction members generalizing counted with
  | nil => rfl
  | cons member members ih =>
    rw [total, List.foldlM_cons, countMember]
    cases table.slots member with
    | error fault => rfl
    | ok slots =>
      simp only [bind, Except.bind]
      cases Slots.ofNat quantity (counted.count + slots.count) with
      | error fault => rfl
      | ok sum => exact ih sum

theorem countMember_eq_error_iff {quantity : Quantity} {counted : Slots} {member : TypeId} :
    table.countMember quantity counted member = .error fault ↔
      (¬table.Lists member ∧ fault = .unknownType member) ∨
        table.Lists member ∧ 0x8000000000000000 ≤ counted.count + table.count member ∧
          fault = .overflow quantity := by
  by_cases listed : table.Lists member
  · obtain ⟨slots, known⟩ := listed
    have listed : table.Lists member := ⟨slots, known⟩
    rw [countMember, known, count_of_slots known]
    simp only [bind, Except.bind, Slots.ofNat_eq_error_iff, listed, not_true, false_and, true_and,
      false_or, and_comm]
  · rw [countMember, slots_of_unlisted listed]
    simp [bind, Except.bind, listed, eq_comm]

theorem total_eq_error_iff {quantity : Quantity} {members : List TypeId} :
    table.total quantity .zero members = .error fault ↔
      ∃ before field after, members = before ++ field :: after ∧
        (∀ member ∈ before, table.Lists member) ∧ table.countAll before < 0x8000000000000000 ∧
        ((¬table.Lists field ∧ fault = .unknownType field) ∨
          table.Lists field ∧ 0x8000000000000000 ≤ table.countAll (before ++ [field]) ∧
            fault = .overflow quantity) := by
  rw [total_eq_foldlM, foldlM_eq_error_iff]
  refine exists_congr fun before => exists_congr fun field => exists_congr fun after => ?_
  constructor
  · rintro ⟨counted, split, led, refused⟩
    rw [← total_eq_foldlM, total_eq_ok_iff] at led
    have whole : counted.count = table.countAll before := led.2.trans (Nat.zero_add _)
    have fits := counted.fits
    rw [countMember_eq_error_iff, whole] at refused
    rw [countAll_append, countAll_cons, countAll_nil, Nat.add_zero]
    exact ⟨split, led.1, whole ▸ fits, refused⟩
  · rintro ⟨split, listed, fits, refused⟩
    rw [countAll_append, countAll_cons, countAll_nil, Nat.add_zero] at refused
    refine ⟨⟨table.countAll before, fits⟩, split, ?_, countMember_eq_error_iff.mpr refused⟩
    rw [← total_eq_foldlM, total_eq_ok_iff]
    exact ⟨listed, (Nat.zero_add _).symm⟩

theorem measure_eq_error_iff : table.measure ty = .error fault ↔ table.Refuses ty fault := by
  cases ty with
  | int | float | pointer | function => exact ⟨nofun, nofun⟩
  | array element len =>
    rw [measure]
    by_cases listed : table.Lists element
    · obtain ⟨slots, known⟩ := listed
      rw [known]
      simp only [Slots.ofNat_eq_error_iff, ← count_of_slots known]
      constructor
      · rintro ⟨rfl, large⟩
        exact .array ⟨slots, known⟩ (Nat.mul_comm _ _ ▸ large)
      · intro refused
        cases refused with
        | element absent => exact absurd ⟨slots, known⟩ absent
        | array _ large => exact ⟨rfl, Nat.mul_comm _ _ ▸ large⟩
    · rw [slots_of_unlisted listed]
      constructor
      · rintro ⟨⟩
        exact .element listed
      · intro refused
        cases refused with
        | element => rfl
        | array known => exact absurd known listed
  | struct fields =>
    rw [measure, total_eq_error_iff]
    constructor
    · rintro ⟨before, field, after, rfl, listed, fits, ⟨absent, rfl⟩ | ⟨known, large, rfl⟩⟩
      · exact .field listed fits absent
      · refine .struct ?_ fits large
        simpa [or_imp, forall_and] using ⟨listed, known⟩
    · intro refused
      generalize whole : Ty.struct fields = ty at refused
      cases refused with
      | element | array => cases whole
      | field listed fits absent =>
        cases whole
        exact ⟨_, _, _, rfl, listed, fits, .inl ⟨absent, rfl⟩⟩
      | struct listed fits large =>
        cases whole
        rw [List.forall_mem_append, List.forall_mem_singleton] at listed
        exact ⟨_, _, _, rfl, listed.1, fits, .inr ⟨listed.2, large, rfl⟩⟩

structure Counts (table : Table) (position : Nat) (entry : Entry) : Prop where
  earlier : ∀ part ∈ entry.ty.parts, part.number.toNat < position
  exact : entry.slots.count = entry.ty.slotsOver table.count

/-- The table lists just these types, in order, each counted from those before it. -/
structure Tabulates (table : Table) (types : List Ty) : Prop where
  types : table.entries.toList.map Entry.ty = types
  counts : ∀ (position : Nat) (entry : Entry), table.entries[position]? = some entry →
    table.Counts position entry

theorem tabulates_empty : Table.empty.Tabulates [] :=
  ⟨rfl, by simp [Table.empty]⟩

theorem counts_size_iff {new : Entry} :
    table.Counts table.size new ↔ table.measure new.ty = .ok new.slots := by
  rw [measure_eq_ok_iff, span_eq_slotsOver]
  constructor
  · intro ⟨earlier, exact⟩
    exact ⟨fun part member => lists_iff.mpr (earlier part member), exact⟩
  · intro ⟨listed, exact⟩
    exact ⟨fun part member => lists_iff.mp (listed part member), exact⟩

theorem counts_push_iff {position : Nat} (within : position ≤ table.size) (entry new : Entry) :
    (table.push new).Counts position entry ↔ table.Counts position entry := by
  have same (earlier : ∀ part ∈ entry.ty.parts, part.number.toNat < position) :
      entry.ty.slotsOver (table.push new).count = entry.ty.slotsOver table.count := by
    rw [← span_eq_slotsOver, ← span_eq_slotsOver, span_push]
    exact fun part member => lists_iff.mpr (Nat.lt_of_lt_of_le (earlier part member) within)
  constructor
  · intro ⟨earlier, exact⟩
    exact ⟨earlier, exact.trans (same earlier)⟩
  · intro ⟨earlier, exact⟩
    exact ⟨earlier, exact.trans (same earlier).symm⟩

theorem tabulates_push_iff {new : Entry} :
    (table.push new).Tabulates (types ++ [ty]) ↔
      table.Tabulates types ∧ new.ty = ty ∧ table.measure ty = .ok new.slots := by
  have within {position : Nat} {entry : Entry} (found : table.entries[position]? = some entry) :
      position ≤ table.size := Nat.le_of_lt (Array.getElem?_eq_some_iff.mp found).1
  constructor
  · intro tabulates
    have listed := tabulates.types
    rw [push, Array.toList_push, List.map_append] at listed
    obtain ⟨types, last⟩ := List.append_inj' listed rfl
    obtain rfl := List.singleton_inj.mp last
    have counted := tabulates.counts table.size new (entries_push.mpr (.inl ⟨rfl, rfl⟩))
    refine ⟨⟨types, ?_⟩, rfl, counts_size_iff.mp ((counts_push_iff (Nat.le_refl _) _ _).mp counted)⟩
    intro position entry found
    exact (counts_push_iff (within found) _ _).mp
      (tabulates.counts position entry (entries_push.mpr (.inr found)))
  · rintro ⟨tabulates, rfl, measured⟩
    refine ⟨?_, ?_⟩
    · rw [push, Array.toList_push, List.map_append, tabulates.types]
      rfl
    · intro position entry found
      rcases entries_push.mp found with ⟨rfl, rfl⟩ | old
      · exact (counts_push_iff (Nat.le_refl _) _ _).mpr (counts_size_iff.mpr measured)
      · exact (counts_push_iff (within old) _ _).mpr (tabulates.counts position entry old)

theorem Tabulates.exists_push (tabulates : table.Tabulates (types ++ [ty])) :
    ∃ (before : Table) (new : Entry), table = before.push new := by
  obtain ⟨front, back, entries, _, rest⟩ := List.map_eq_append_iff.mp tabulates.types
  obtain ⟨new, back, rfl, _, nothing⟩ := List.map_eq_cons_iff.mp rest
  obtain rfl := List.map_eq_nil_iff.mp nothing
  refine ⟨⟨front.toArray⟩, new, ?_⟩
  obtain ⟨listed⟩ := table
  rw [push, Table.mk.injEq, ← Array.toList_inj, entries]
  simp

def withType (table : Table) (ty : Ty) : Except Fault Table :=
  (table.measure ty).map fun slots => table.push ⟨ty, slots⟩

theorem addAll_eq_foldlM (table : Table) (types : List Ty) :
    table.addAll types = types.foldlM withType table := by
  induction types generalizing table with
  | nil => rfl
  | cons ty types ih =>
    rw [addAll, List.foldlM_cons, withType]
    cases counted : table.measure ty with
    | error fault =>
      rw [add_of_measure_error counted]
      rfl
    | ok slots =>
      rw [add_of_measure counted]
      exact ih _

theorem addAll_eq_ok_iff : Table.empty.addAll types = .ok table ↔ table.Tabulates types := by
  rw [addAll_eq_foldlM]
  induction types using List.reverseRecOn generalizing table with
  | nil =>
    constructor
    · rintro ⟨⟩
      exact tabulates_empty
    · intro tabulates
      obtain ⟨entries⟩ := table
      obtain rfl := Array.toList_eq_nil_iff.mp (List.map_eq_nil_iff.mp tabulates.types)
      rfl
  | append_singleton front ty ih =>
    rw [foldlM_concat_eq_ok_iff]
    constructor
    · rintro ⟨middle, led, taken⟩
      rw [withType] at taken
      cases counted : middle.measure ty with
      | error fault => simp [counted, Except.map] at taken
      | ok slots =>
        rw [counted] at taken
        cases taken
        exact tabulates_push_iff.mpr ⟨ih.mp led, rfl, counted⟩
    · intro tabulates
      obtain ⟨middle, new, rfl⟩ := tabulates.exists_push
      obtain ⟨before, rfl, counted⟩ := tabulates_push_iff.mp tabulates
      exact ⟨middle, ih.mpr before, by rw [withType, counted]; rfl⟩

theorem addAll_eq_error_iff :
    Table.empty.addAll types = .error fault ↔
      ∃ (front : List Ty) (ty : Ty) (back : List Ty) (table : Table), types = front ++ ty :: back ∧
        table.Tabulates front ∧ table.Refuses ty fault := by
  have refused : ∀ (table : Table) (ty : Ty),
      table.withType ty = .error fault ↔ table.Refuses ty fault := by
    intro table ty
    rw [← measure_eq_error_iff, withType]
    cases table.measure ty <;> simp [Except.map]
  rw [addAll_eq_foldlM, foldlM_eq_error_iff]
  simp only [← addAll_eq_foldlM, addAll_eq_ok_iff, refused]

end Layout.Table

end CellMemory
