import CellMemory.Proofs.AddressSpace.Placement
import Mathlib.Data.Finset.Card
import Mathlib.Data.Finset.Dedup

/-! Which masks are accepted. Under an accepted mask the space knows the objects that were placed, and
no others, by their addresses, and no small or negative numeral passes for an address. Every other
mask fails in one of these. -/

namespace CellMemory

namespace Address

theorem toNat_and_idField (word : UInt32) : (word &&& idField).toNat = word.toNat % idLimit := by
  rw [UInt32.toNat_and]
  exact Nat.and_two_pow_sub_one_eq_mod word.toNat 24

theorem clear_of_and_maskField {mask word : UInt32} (same : word &&& maskField = mask) :
    Clear mask := by
  apply UInt32.toNat_inj.mp
  rw [toNat_and_idField, ← same, toNat_and_maskField]
  exact Nat.mul_mod_right _ _

theorem or_and_idField {mask word : UInt32} (same : word &&& maskField = mask) :
    mask ||| (word &&& idField) = word := by
  have clear := clear_of_and_maskField same
  have fits : (word &&& idField).toNat < idLimit := by
    rw [toNat_and_idField]
    exact Nat.mod_lt _ (by decide)
  apply UInt32.toNat_inj.mp
  calc (mask ||| (word &&& idField)).toNat
    _ = mask.toNat + (word &&& idField).toNat := toNat_or clear fits
    _ = idLimit * (word.toNat / idLimit) + word.toNat % idLimit := by
      rw [← same, toNat_and_maskField, toNat_and_idField]
    _ = word.toNat := Nat.div_add_mod word.toNat idLimit

end Address

namespace AddressSpace

open Address

def allocateAll (space : AddressSpace) : List VarId → AddressSpace
  | [] => space
  | id :: ids => (space.allocate id).2.allocateAll ids

def fitting (requests : List VarId) : Finset VarId :=
  requests.toFinset.filter fun id => id.number.toNat < idLimit

structure Holds (space : AddressSpace) (taken : Finset VarId) : Prop where
  owners : ∀ (address : UInt32) (id : VarId),
    space.owners[address]? = some id ↔ id ∈ taken ∧ space.place id = .ok address
  allocated : space.allocated = taken.card

variable {space : AddressSpace} {taken : Finset VarId}

theorem holds_new (mask : UInt32) : (new mask).Holds ∅ where
  owners := by simp [new]
  allocated := by simp [new, AddressSpace.allocated]

theorem Holds.exact (holds : space.Holds taken) : space.Exact :=
  fun address id owned => ((holds.owners address id).mp owned).2

theorem Holds.free (holds : space.Holds taken) (clear : Clear space.mask) {id : VarId}
    {address : UInt32} (absent : id ∉ taken) (placed : space.place id = .ok address) :
    space.owners[address]? = none := by
  cases owned : space.owners[address]? with
  | none => rfl
  | some owner =>
    obtain ⟨member, there⟩ := (holds.owners address owner).mp owned
    cases place_injective clear there placed
    exact absurd member absent

theorem Holds.take (holds : space.Holds taken) (clear : Clear space.mask) {id : VarId}
    {address : UInt32} (placed : space.place id = .ok address) :
    (space.take address id).Holds (insert id taken) := by
  by_cases member : id ∈ taken
  · rw [take_of_some ((holds.owners address id).mpr ⟨member, placed⟩), Finset.insert_eq_of_mem member]
    exact holds
  · refine ⟨?_, ?_⟩
    · intro other owner
      rw [Finset.mem_insert, place_take]
      constructor
      · intro owned
        rcases owners_take owned with ⟨rfl, rfl⟩ | known
        · exact ⟨.inl rfl, placed⟩
        · obtain ⟨old, there⟩ := (holds.owners other owner).mp known
          exact ⟨.inr old, there⟩
      · rintro ⟨rfl | old, there⟩
        · cases Except.ok.inj (placed.symm.trans there)
          exact holds.exact.owners_take_self clear placed
        · exact owners_take_of_some ((holds.owners other owner).mpr ⟨old, there⟩)
    · rw [allocated_take_of_free (holds.free clear member placed) id, holds.allocated,
        Finset.card_insert_of_notMem member]

@[simp]
theorem mask_allocate (space : AddressSpace) (id : VarId) :
    (space.allocate id).2.mask = space.mask := by
  unfold allocate
  cases space.place id <;> rfl

@[simp]
theorem mask_allocateAll (space : AddressSpace) (requests : List VarId) :
    (space.allocateAll requests).mask = space.mask := by
  induction requests generalizing space with
  | nil => rfl
  | cons id requests ih => rw [allocateAll, ih, mask_allocate]

theorem Holds.allocate (holds : space.Holds taken) (clear : Clear space.mask) (id : VarId) :
    (space.allocate id).2.Holds (fitting [id] ∪ taken) := by
  by_cases fits : id.number.toNat < idLimit
  · have only : fitting [id] = {id} := by simp [fitting, Finset.filter_singleton, fits]
    have placed : space.place id = .ok (space.mask ||| id.number) :=
      place_eq_ok_iff.mpr ⟨fits, rfl⟩
    rw [allocate_of_place placed, only, ← Finset.insert_eq]
    exact holds.take clear placed
  · have none : fitting [id] = ∅ := by simp [fitting, Finset.filter_singleton, fits]
    rw [allocate_of_full (Nat.le_of_not_lt fits), none, Finset.empty_union]
    exact holds

theorem fitting_cons (id : VarId) (requests : List VarId) :
    fitting (id :: requests) = fitting [id] ∪ fitting requests := by
  ext other
  simp [fitting, or_and_right]

theorem Holds.allocateAll (holds : space.Holds taken) (clear : Clear space.mask)
    (requests : List VarId) : (space.allocateAll requests).Holds (fitting requests ∪ taken) := by
  induction requests generalizing space taken with
  | nil =>
    rw [show fitting [] = ∅ from rfl, Finset.empty_union]
    exact holds
  | cons id requests ih =>
    have clear' : Clear (space.allocate id).2.mask := by rwa [mask_allocate]
    have rest := ih (holds.allocate clear id) clear'
    rw [fitting_cons, Finset.union_comm (fitting [id]), Finset.union_assoc]
    exact rest

/-- Whatever was requested, an object is told by a numeral exactly if it was requested, fits, and has
this address. -/
def Tells (mask : UInt32) : Prop :=
  ∀ (requests : List VarId) (value : Int64) (id : VarId),
    ((new mask).allocateAll requests).owner value = .ok id ↔
      id ∈ requests ∧ id.number.toNat < idLimit ∧ value = numeral (mask ||| id.number)

/-- Neither a negative numeral nor one that could be an id is in the range of addresses. -/
def Apart (mask : UInt32) : Prop :=
  ∀ (requests : List VarId) (value : Int64), value.toInt < idLimit →
    ((new mask).allocateAll requests).isAddress value = false

theorem isAddress_iff {mask : UInt32} (clear : Clear mask) (same : space.mask = mask)
    {value : Int64} : space.isAddress value = true ↔
      ∃ id : VarId, id.number.toNat < idLimit ∧ value = numeral (mask ||| id.number) := by
  subst same
  constructor
  · intro inside
    have word := inside
    simp only [isAddress, Bool.and_eq_true, beq_iff_eq] at word
    have fits : (Numeral.lowWord value &&& idField).toNat < idLimit := by
      rw [toNat_and_idField]
      exact Nat.mod_lt _ (by decide)
    refine ⟨⟨Numeral.lowWord value &&& idField⟩, fits, ?_⟩
    rw [or_and_idField word.2, numeral_of_isAddress inside]
  · rintro ⟨id, fits, rfl⟩
    exact isAddress_numeral clear (place_eq_ok_iff.mpr ⟨fits, rfl⟩)

theorem tells_of_clear {mask : UInt32} (clear : Clear mask) : Tells mask := by
  intro requests value id
  have holds := (holds_new mask).allocateAll clear requests
  rw [Finset.union_empty] at holds
  rw [owner_eq_ok_iff, holds.owners, place_eq_ok_iff, mask_allocateAll]
  constructor
  · rintro ⟨inside, member, fits, word⟩
    obtain ⟨listed, _⟩ := Finset.mem_filter.mp member
    refine ⟨List.mem_toFinset.mp listed, fits, ?_⟩
    rw [← numeral_of_isAddress inside, word]
    rfl
  · rintro ⟨listed, fits, rfl⟩
    have member : id ∈ fitting requests := Finset.mem_filter.mpr ⟨List.mem_toFinset.mpr listed, fits⟩
    have inside : ((new mask).allocateAll requests).isAddress (numeral (mask ||| id.number)) = true :=
      (isAddress_iff clear (mask_allocateAll (new mask) requests)).mpr ⟨id, fits, rfl⟩
    exact ⟨inside, member, fits, lowWord_numeral _⟩

theorem apart_of_clear {mask : UInt32} (clear : Clear mask) (some : mask ≠ 0) : Apart mask := by
  intro requests value small
  apply Bool.eq_false_iff.mpr
  intro inside
  obtain ⟨id, fits, rfl⟩ := (isAddress_iff clear (mask_allocateAll (new mask) requests)).mp inside
  rw [toInt_numeral, toNat_or clear fits] at small
  have rest := toNat_mod_of_clear clear
  have positive : mask.toNat ≠ 0 := fun zero => some (UInt32.toNat_inj.mp zero)
  simp only [idLimit] at small rest fits
  omega

theorem clear_of_tells {mask : UInt32} (tells : Tells mask) : Clear mask := by
  have told := (tells [⟨0⟩] (numeral (mask ||| 0)) ⟨0⟩).mpr ⟨List.mem_singleton_self _, by decide, rfl⟩
  have inside := (owner_eq_ok_iff.mp told).1
  simp only [isAddress, mask_allocateAll, Bool.and_eq_true, beq_iff_eq] at inside
  exact clear_of_and_maskField inside.2

theorem ne_zero_of_apart {mask : UInt32} (apart : Apart mask) : mask ≠ 0 := by
  rintro rfl
  have outside := apart [] 0 (by decide)
  exact absurd outside (by decide)

/-- Exactly the accepted masks tell objects by their addresses and keep addresses apart from small
and negative numerals. Under an accepted mask the range of addresses is that of the objects that
fit, different objects have different addresses, each is counted once however often it is
requested, and only an object that does not fit is refused, which changes nothing. -/
theorem check_eq_ok_iff_faithful (mask : UInt32) (labelWidth : Nat) :
    (Settings.check ⟨mask, labelWidth⟩ = .ok () ↔ Tells mask ∧ Apart mask) ∧
      (Settings.check ⟨mask, labelWidth⟩ = .ok () → ∀ requests : List VarId,
        (∀ value : Int64, ((new mask).allocateAll requests).isAddress value = true ↔
          ∃ id : VarId, id.number.toNat < idLimit ∧ value = numeral (mask ||| id.number)) ∧
        (∀ first second : VarId, first.number.toNat < idLimit → second.number.toNat < idLimit →
          mask ||| first.number = mask ||| second.number → first = second) ∧
        ((new mask).allocateAll requests).allocated = (fitting requests).card ∧
        ∀ id : VarId,
          (((new mask).allocateAll requests).allocate id =
              (.error (.addressSpaceExhausted id), (new mask).allocateAll requests) ↔
            idLimit ≤ id.number.toNat) ∧
          (id.number.toNat < idLimit →
            (((new mask).allocateAll requests).allocate id).1 = .ok (mask ||| id.number))) := by
  refine ⟨⟨?_, ?_⟩, ?_⟩
  · intro accepted
    obtain ⟨some, clear⟩ := Settings.check_eq_ok_iff.mp accepted
    exact ⟨tells_of_clear clear, apart_of_clear clear some⟩
  · rintro ⟨tells, apart⟩
    exact Settings.check_eq_ok_iff.mpr ⟨ne_zero_of_apart apart, clear_of_tells tells⟩
  · intro accepted requests
    obtain ⟨_, clear⟩ := Settings.check_eq_ok_iff.mp accepted
    have same := mask_allocateAll (new mask) requests
    have holds := (holds_new mask).allocateAll clear requests
    rw [Finset.union_empty] at holds
    generalize (new mask).allocateAll requests = space at same holds ⊢
    have placed : ∀ id : VarId, id.number.toNat < idLimit →
        (space.allocate id).1 = .ok (mask ||| id.number) := by
      intro id fits
      rw [allocate_of_place (place_eq_ok_iff.mpr ⟨fits, rfl⟩), same]
      rfl
    refine ⟨fun value => isAddress_iff clear same, ?_, holds.allocated, fun id => ⟨⟨?_, ?_⟩, placed id⟩⟩
    · intro first second firstFits secondFits equal
      exact congrArg VarId.mk (or_injective clear firstFits secondFits equal)
    · intro refused
      apply Nat.le_of_not_lt
      intro fits
      have answer := placed id fits
      rw [refused] at answer
      cases answer
    · exact allocate_of_full

theorem check_eq_ok_iff_faithful_standard :
    Settings.check ⟨0x7f000000, 25⟩ = .ok () ∧ Tells 0x7f000000 ∧ ¬(Tells 0x7f000001 ∧ Apart 0x7f000001) ∧
      ((new 0x7f000000).allocateAll [⟨1⟩, ⟨0x1000000⟩, ⟨2⟩, ⟨1⟩]).allocated = 2 := by
  have accepted : Settings.check ⟨0x7f000000, 25⟩ = .ok () := by decide
  obtain ⟨exactly, faithful⟩ := check_eq_ok_iff_faithful 0x7f000000 25
  have rejected := (check_eq_ok_iff_faithful 0x7f000001 25).1.not.mp (by decide)
  have counted := (faithful accepted [⟨1⟩, ⟨0x1000000⟩, ⟨2⟩, ⟨1⟩]).2.2.1
  exact ⟨accepted, (exactly.mp accepted).1, rejected, counted⟩

end AddressSpace

end CellMemory
