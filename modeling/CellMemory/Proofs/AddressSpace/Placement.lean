import CellMemory.AddressSpace
import CellMemory.Settings

/-! Where objects are placed. Below a mask that leaves the bits of ids free an address is the sum of
the mask and the id, so an address tells its object, and a numeral in range tells its address. -/

namespace CellMemory

namespace Address

/-- The mask leaves the bits of ids free. -/
def Clear (mask : UInt32) : Prop := mask &&& idField = 0

def numeral (address : UInt32) : Int64 := Int64.ofNat address.toNat

theorem toNat_mod_of_clear {mask : UInt32} (clear : Clear mask) : mask.toNat % idLimit = 0 := by
  have low : mask.toNat &&& (2 ^ 24 - 1) = 0 := by
    have bits := congrArg UInt32.toNat clear
    rwa [UInt32.toNat_and] at bits
  rwa [Nat.and_two_pow_sub_one_eq_mod] at low

theorem toNat_or {mask id : UInt32} (clear : Clear mask) (fits : id.toNat < idLimit) :
    (mask ||| id).toNat = mask.toNat + id.toNat := by
  have whole : mask.toNat = 2 ^ 24 * (mask.toNat / idLimit) := by
    have rest := toNat_mod_of_clear clear
    have parts := Nat.div_add_mod mask.toNat idLimit
    simp only [idLimit] at rest parts ⊢
    omega
  rw [UInt32.toNat_or, whole, Nat.two_pow_add_eq_or_of_lt fits]

theorem or_injective {mask first second : UInt32} (clear : Clear mask)
    (firstFits : first.toNat < idLimit) (secondFits : second.toNat < idLimit)
    (same : mask ||| first = mask ||| second) : first = second := by
  have sums := congrArg UInt32.toNat same
  rw [toNat_or clear firstFits, toNat_or clear secondFits] at sums
  exact UInt32.toNat_inj.mp (Nat.add_left_cancel sums)

theorem toNat_and_maskField (word : UInt32) :
    (word &&& maskField).toNat = idLimit * (word.toNat / idLimit) := by
  have bound := word.toNat_lt
  have high : (word.toNat &&& 255 * 2 ^ 24) / 2 ^ 24 = word.toNat / 2 ^ 24 := by
    rw [Nat.and_div_two_pow, Nat.mul_div_cancel _ (by decide)]
    rw [show 255 = 2 ^ 8 - 1 from rfl, Nat.and_two_pow_sub_one_eq_mod]
    exact Nat.mod_eq_of_lt (by omega)
  have low : (word.toNat &&& 255 * 2 ^ 24) % 2 ^ 24 = 0 := by
    rw [Nat.and_mod_two_pow, Nat.mul_mod_left, Nat.and_zero]
  have parts := Nat.div_add_mod (word.toNat &&& 255 * 2 ^ 24) (2 ^ 24)
  rw [high, low] at parts
  rw [UInt32.toNat_and]
  exact parts.symm

theorem or_and_maskField {mask id : UInt32} (clear : Clear mask) (fits : id.toNat < idLimit) :
    (mask ||| id) &&& maskField = mask := by
  apply UInt32.toNat_inj.mp
  rw [toNat_and_maskField, toNat_or clear fits]
  have rest := toNat_mod_of_clear clear
  simp only [idLimit] at rest fits ⊢
  omega

theorem toInt_numeral (address : UInt32) : (numeral address).toInt = address.toNat := by
  have bound := address.toNat_lt
  rw [numeral, Int64.toInt_ofNat_of_lt (by omega)]

@[simp]
theorem lowWord_numeral (address : UInt32) : Numeral.lowWord (numeral address) = address := by
  apply UInt32.toNat_inj.mp
  have bound := address.toNat_lt
  rw [Numeral.lowWord, numeral, Int64.toUInt64_ofNat', UInt64.toNat_toUInt32,
    UInt64.toNat_ofNat_of_lt' (by simp only [UInt64.size]; omega)]
  exact Nat.mod_eq_of_lt bound

theorem numeral_lowWord {value : Int64} (low : 0 ≤ value.toInt)
    (high : value.toInt < 0x100000000) : numeral (Numeral.lowWord value) = value := by
  have word : value.toUInt64.toNat = value.toInt.toNat :=
    Int64.toNat_toUInt64_of_le (Int64.le_iff_toInt_le.mpr low)
  apply Int64.toInt_inj.mp
  rw [toInt_numeral, Numeral.lowWord, UInt64.toNat_toUInt32, word]
  omega

theorem numeral_injective {first second : UInt32} (same : numeral first = numeral second) :
    first = second := by
  rw [← lowWord_numeral first, same, lowWord_numeral]

end Address

theorem Settings.check_eq_ok_iff {settings : Settings} :
    settings.check = .ok () ↔
      settings.addressMask ≠ 0 ∧ Address.Clear settings.addressMask := by
  unfold Settings.check
  split
  · next zero => simp [zero]
  · next some =>
    split
    · next overlaps => simp [Address.Clear, overlaps]
    · next apart => simp [Address.Clear, some, Decidable.not_not.mp apart]

namespace AddressSpace

open Address

theorem place_eq_ok_iff {space : AddressSpace} {id : VarId} {address : UInt32} :
    space.place id = .ok address ↔
      id.number.toNat < idLimit ∧ address = space.mask ||| id.number := by
  unfold place
  split
  · next fits => simp [fits, eq_comm]
  · next large => simp [large]

theorem place_eq_error_iff {space : AddressSpace} {id : VarId} {fault : Fault} :
    space.place id = .error fault ↔
      idLimit ≤ id.number.toNat ∧ fault = .addressSpaceExhausted id := by
  unfold place
  split
  · next fits => simp [Nat.not_le_of_lt fits]
  · next large => simp [Nat.le_of_not_lt large, eq_comm]

theorem place_injective {space : AddressSpace} (clear : Clear space.mask) {first second : VarId}
    {address : UInt32} (firstPlaced : space.place first = .ok address)
    (secondPlaced : space.place second = .ok address) : first = second := by
  obtain ⟨firstFits, firstAt⟩ := place_eq_ok_iff.mp firstPlaced
  obtain ⟨secondFits, secondAt⟩ := place_eq_ok_iff.mp secondPlaced
  have same := or_injective clear firstFits secondFits (firstAt.symm.trans secondAt)
  cases first
  cases second
  exact congrArg VarId.mk same

theorem isAddress_numeral {space : AddressSpace} (clear : Clear space.mask) {id : VarId}
    {address : UInt32} (placed : space.place id = .ok address) :
    space.isAddress (numeral address) = true := by
  obtain ⟨fits, rfl⟩ := place_eq_ok_iff.mp placed
  have bound := (space.mask ||| id.number).toNat_lt
  simp only [isAddress, lowWord_numeral, or_and_maskField clear fits, toInt_numeral]
  simp only [beq_self_eq_true, Bool.and_true, Bool.and_eq_true, decide_eq_true_eq]
  omega

theorem numeral_of_isAddress {space : AddressSpace} {value : Int64}
    (inside : space.isAddress value = true) : numeral (Numeral.lowWord value) = value := by
  simp only [isAddress, Bool.and_eq_true, decide_eq_true_eq] at inside
  exact numeral_lowWord inside.1.1 inside.1.2

theorem owner_eq_ok_iff {space : AddressSpace} {value : Int64} {id : VarId} :
    space.owner value = .ok id ↔
      space.isAddress value = true ∧ space.owners[Numeral.lowWord value]? = some id := by
  unfold owner
  split
  · next inside =>
    cases taken : space.owners[Numeral.lowWord value]? <;> simp [inside]
  · next outside => simp [outside]

theorem owner_eq_error {space : AddressSpace} {value : Int64} {fault : Fault}
    (failed : space.owner value = .error fault) : fault = .unmappedAddress value := by
  unfold owner at failed
  split at failed
  · cases taken : space.owners[Numeral.lowWord value]? <;> simp_all
  · simp_all

def Exact (space : AddressSpace) : Prop :=
  ∀ address id, space.owners[address]? = some id → space.place id = .ok address

theorem Exact.owner_numeral {space : AddressSpace} (exact : space.Exact)
    (clear : Clear space.mask) {address : UInt32} {id : VarId}
    (taken : space.owners[address]? = some id) : space.owner (numeral address) = .ok id := by
  refine owner_eq_ok_iff.mpr ⟨isAddress_numeral clear (exact address id taken), ?_⟩
  rwa [lowWord_numeral]

theorem Exact.address_injective {space : AddressSpace} (exact : space.Exact)
    {first second : UInt32} {id : VarId} (firstTaken : space.owners[first]? = some id)
    (secondTaken : space.owners[second]? = some id) : first = second := by
  have same := (exact first id firstTaken).symm.trans (exact second id secondTaken)
  exact Except.ok.inj same

def take (space : AddressSpace) (address : UInt32) (id : VarId) : AddressSpace :=
  { space with owners := space.owners.insertIfNew address id }

theorem allocate_of_place {space : AddressSpace} {id : VarId} {address : UInt32}
    (placed : space.place id = .ok address) :
    space.allocate id = (.ok address, space.take address id) := by
  simp only [allocate, placed, take]

theorem allocate_of_full {space : AddressSpace} {id : VarId} (large : idLimit ≤ id.number.toNat) :
    space.allocate id = (.error (.addressSpaceExhausted id), space) := by
  have full : space.place id = .error (.addressSpaceExhausted id) :=
    place_eq_error_iff.mpr ⟨large, rfl⟩
  simp only [allocate, full]

@[simp]
theorem place_take (space : AddressSpace) (address : UInt32) (id other : VarId) :
    (space.take address id).place other = space.place other := rfl

theorem owners_take_of_some {space : AddressSpace} {address other : UInt32} {id owner : VarId}
    (taken : space.owners[other]? = some owner) :
    (space.take address id).owners[other]? = some owner := by
  rw [take, Std.ExtTreeMap.getElem?_insertIfNew, if_neg]
  · exact taken
  · rintro ⟨same, absent⟩
    rw [Std.LawfulEqOrd.eq_of_compare same, Std.ExtTreeMap.mem_iff_isSome_getElem?, taken] at absent
    exact absent rfl

theorem owners_take {space : AddressSpace} {address other : UInt32} {id owner : VarId}
    (taken : (space.take address id).owners[other]? = some owner) :
    (other = address ∧ owner = id) ∨ space.owners[other]? = some owner := by
  rw [take, Std.ExtTreeMap.getElem?_insertIfNew] at taken
  split at taken
  · next fresh =>
    exact .inl ⟨(Std.LawfulEqOrd.eq_of_compare fresh.1).symm, (Option.some.inj taken).symm⟩
  · exact .inr taken

theorem owners_take_of_free {space : AddressSpace} {address : UInt32}
    (free : space.owners[address]? = none) (id : VarId) :
    (space.take address id).owners[address]? = some id := by
  rw [take, Std.ExtTreeMap.getElem?_insertIfNew, if_pos]
  refine ⟨Std.ReflCmp.compare_self, ?_⟩
  rw [Std.ExtTreeMap.mem_iff_isSome_getElem?, free]
  exact Bool.false_ne_true

theorem take_of_some {space : AddressSpace} {address : UInt32} {owner : VarId}
    (taken : space.owners[address]? = some owner) (id : VarId) : space.take address id = space := by
  have same : space.owners.insertIfNew address id = space.owners := by
    apply Std.ExtTreeMap.ext_getElem?
    intro other
    rw [Std.ExtTreeMap.getElem?_insertIfNew, if_neg]
    rintro ⟨_, absent⟩
    apply absent
    rw [Std.ExtTreeMap.mem_iff_isSome_getElem?, taken]
    rfl
  rw [AddressSpace.take, same]

theorem allocated_take_of_free {space : AddressSpace} {address : UInt32}
    (free : space.owners[address]? = none) (id : VarId) :
    (space.take address id).allocated = space.allocated + 1 := by
  have absent : address ∉ space.owners := by
    rw [Std.ExtTreeMap.mem_iff_isSome_getElem?, free]
    exact Bool.false_ne_true
  rw [allocated, allocated, AddressSpace.take, Std.ExtTreeMap.size_insertIfNew, if_neg absent]

theorem Exact.take {space : AddressSpace} (exact : space.Exact) {address : UInt32} {id : VarId}
    (placed : space.place id = .ok address) : (space.take address id).Exact := by
  intro other owner taken
  rcases owners_take taken with ⟨rfl, rfl⟩ | known
  · exact placed
  · exact exact other owner known

theorem Exact.owners_take_self {space : AddressSpace} (exact : space.Exact)
    (clear : Clear space.mask) {address : UInt32} {id : VarId}
    (placed : space.place id = .ok address) :
    (space.take address id).owners[address]? = some id := by
  cases known : space.owners[address]? with
  | some owner =>
    have same := place_injective clear (exact address owner known) placed
    rw [owners_take_of_some known, same]
  | none => exact owners_take_of_free known id

end AddressSpace

end CellMemory
