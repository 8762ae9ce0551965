import CellMemory.Memory
import CellMemory.Proofs.Store.Frame
import Mathlib.Algebra.Order.Field.Power
import Mathlib.Data.Int.ModEq
import Mathlib.Data.Rat.Floor
import Mathlib.Order.WithBotTop
import Mathlib.Tactic.Ring

/-! What numerals constants are bound to. A pattern of bits denotes a rational number, an infinity or
no number at all; its numeral is the number without its fractional part, held between 0 and the
largest 32-bit number. An integer keeps its lowest 32 bits, read with a sign. -/

namespace CellMemory

def towardZero (number : ℚ) : ℤ := if 0 ≤ number then ⌊number⌋ else ⌈number⌉

def truncated (number : WithBotTop ℚ) : EInt := WithBot.map (WithTop.map towardZero) number

/-- The nearest integer from 0 to the largest 32-bit number. -/
def clamp (number : EInt) : EInt := max (0 : ℤ) (min number (4294967295 : ℤ))

theorem towardZero_of_nonneg {number : ℚ} (nonneg : 0 ≤ number) : towardZero number = ⌊number⌋ :=
  if_pos nonneg

theorem towardZero_of_nonpos {number : ℚ} (nonpos : number ≤ 0) : towardZero number = ⌈number⌉ := by
  unfold towardZero
  split
  · next nonneg => simp [le_antisymm nonpos nonneg]
  · rfl

theorem towardZero_mono {lower upper : ℚ} (order : lower ≤ upper) :
    towardZero lower ≤ towardZero upper := by
  rcases le_total 0 lower with nonneg | nonpos
  · rw [towardZero_of_nonneg nonneg, towardZero_of_nonneg (nonneg.trans order)]
    exact Int.floor_mono order
  · rcases le_total 0 upper with above | below
    · rw [towardZero_of_nonpos nonpos, towardZero_of_nonneg above]
      exact (Int.ceil_nonpos.mpr nonpos).trans (Int.floor_nonneg.mpr above)
    · rw [towardZero_of_nonpos nonpos, towardZero_of_nonpos below]
      exact Int.ceil_mono order

theorem le_of_clamp_truncated {lower upper : WithBotTop ℚ} (order : lower ≤ upper) {number other : ℤ}
    (held : (number : EInt) = clamp (truncated lower))
    (otherHeld : (other : EInt) = clamp (truncated upper)) : number ≤ other := by
  have monotone : Monotone towardZero := fun _ _ => towardZero_mono
  have whole : truncated lower ≤ truncated upper := monotone.withTop_map.withBot_map order
  apply WithBotTop.coe_le_coe.mp
  rw [held, otherHeld]
  exact max_le_max le_rfl (min_le_min_right _ whole)

theorem clamp_coe (number : ℤ) : clamp number = (max 0 (min number 4294967295) : ℤ) := by
  have mono := WithBotTop.coe_monotone (ι := ℤ)
  rw [clamp, mono.map_max, mono.map_min]

theorem clamp_top : clamp ⊤ = (4294967295 : ℤ) := by
  rw [clamp, min_eq_right le_top, max_eq_right (WithBotTop.coe_le_coe.mpr (by norm_num))]

theorem clamp_bot : clamp ⊥ = (0 : ℤ) := by
  rw [clamp, min_eq_left bot_le, max_eq_left bot_le]

namespace Double

structure Parts (d : Double) (negative : Bool) (exponent fraction : Nat) : Prop where
  exponent_lt : exponent < 2 ^ 11
  fraction_lt : fraction < 2 ^ 52
  bits : d.bits.toNat = negative.toNat * 2 ^ 63 + exponent * 2 ^ 52 + fraction

/-- The size of a finite number. Its significand has a leading one, but for the lowest exponent. -/
def size (exponent fraction : Nat) : ℚ :=
  if exponent = 0 then fraction / 2 ^ 52 * 2 ^ (-1022 : ℤ)
  else (1 + fraction / 2 ^ 52) * 2 ^ ((exponent : ℤ) - 1023)

inductive Denotes (d : Double) : WithBotTop ℚ → Prop
  | positive {exponent fraction : Nat} (parts : d.Parts false exponent fraction)
      (finite : exponent < 2047) : Denotes d (size exponent fraction)
  | negative {exponent fraction : Nat} (parts : d.Parts true exponent fraction)
      (finite : exponent < 2047) : Denotes d ((-size exponent fraction : ℚ))
  | top (parts : d.Parts false 2047 0) : Denotes d ⊤
  | bot (parts : d.Parts true 2047 0) : Denotes d ⊥

def IsNaN (d : Double) : Prop :=
  ∃ (negative : Bool) (fraction : Nat), fraction ≠ 0 ∧ d.Parts negative 2047 fraction

variable {d : Double} {negative : Bool} {exponent fraction : Nat}

theorem parts_self (d : Double) : d.Parts d.negative d.exponent d.fraction := by
  have bound := d.bits.toNat_lt
  have sign : d.negative.toNat = d.bits.toNat / 2 ^ 63 % 2 := by
    rw [Double.negative, Nat.testBit_eq_decide_div_mod_eq]
    rcases Nat.mod_two_eq_zero_or_one (d.bits.toNat / 2 ^ 63) with zero | one
    · rw [zero]
      rfl
    · rw [one]
      rfl
  refine ⟨?_, ?_, ?_⟩
  · exact Nat.mod_lt _ (by decide)
  · exact Nat.mod_lt _ (by decide)
  · rw [sign, Double.exponent, Double.fraction, Nat.shiftRight_eq_div_pow]
    omega

theorem Parts.unique {otherNegative : Bool} {otherExponent otherFraction : Nat}
    (parts : d.Parts negative exponent fraction)
    (others : d.Parts otherNegative otherExponent otherFraction) :
    negative = otherNegative ∧ exponent = otherExponent ∧ fraction = otherFraction := by
  obtain ⟨exponentLt, fractionLt, bits⟩ := parts
  obtain ⟨otherExponentLt, otherFractionLt, otherBits⟩ := others
  rw [bits] at otherBits
  cases negative <;> cases otherNegative <;> simp at otherBits ⊢ <;> omega

theorem isNaN_or_denotes (d : Double) : d.IsNaN ∨ ∃ number, d.Denotes number := by
  have parts := d.parts_self
  have bound := parts.exponent_lt
  generalize d.negative = negative at parts
  generalize d.exponent = exponent at parts bound
  generalize d.fraction = fraction at parts
  by_cases finite : exponent < 2047
  · cases negative with
    | false => exact .inr ⟨_, .positive parts finite⟩
    | true => exact .inr ⟨_, .negative parts finite⟩
  · obtain rfl : exponent = 2047 := by omega
    by_cases whole : fraction = 0
    · subst whole
      cases negative with
      | false => exact .inr ⟨_, .top parts⟩
      | true => exact .inr ⟨_, .bot parts⟩
    · exact .inl ⟨negative, fraction, whole, parts⟩

theorem size_nonneg (exponent fraction : Nat) : 0 ≤ size exponent fraction := by
  unfold size
  split <;> positivity

theorem size_eq (d : Double) :
    size d.exponent d.fraction = d.significand * 2 ^ ((max d.exponent 1 : ℕ) - 1075 : ℤ) := by
  have two : (2 : ℚ) ≠ 0 := by norm_num
  rw [size, significand]
  by_cases lowest : d.exponent = 0
  · rw [if_pos lowest, if_pos lowest, lowest]
    have unit : ((max 0 1 : ℕ) - 1075 : ℤ) = -1022 - 52 := by norm_num
    rw [unit, zpow_sub₀ two, zpow_ofNat, div_mul_eq_mul_div, mul_div_assoc]
  · rw [if_neg lowest, if_neg lowest, Nat.max_eq_left (Nat.one_le_iff_ne_zero.mpr lowest)]
    have unit : (d.exponent - 1075 : ℤ) = (d.exponent - 1023) - 52 := by ring
    rw [unit, zpow_sub₀ two _ 52, zpow_ofNat]
    push_cast
    ring

theorem floor_size (d : Double) : ⌊size d.exponent d.fraction⌋ = d.magnitude := by
  have shifted : d.magnitude = if 1075 ≤ max d.exponent 1
      then d.significand <<< (max d.exponent 1 - 1075)
      else d.significand >>> (1075 - max d.exponent 1) := rfl
  rw [size_eq, shifted]
  generalize max d.exponent 1 = exponent
  split
  · next large =>
    -- a whole number of units of one or more, so there is nothing to cut off
    obtain ⟨shift, rfl⟩ := Nat.exists_eq_add_of_le large
    have power : ((1075 + shift : ℕ) - 1075 : ℤ) = shift := by push_cast; ring
    rw [power, zpow_natCast, Nat.add_sub_cancel_left, Nat.shiftLeft_eq]
    exact_mod_cast Int.floor_natCast (R := ℚ) (d.significand * 2 ^ shift)
  · next small =>
    obtain ⟨shift, whole⟩ := Nat.exists_eq_add_of_le (Nat.le_of_not_le small)
    have power : ((exponent : ℕ) - 1075 : ℤ) = -shift := by omega
    have left : 1075 - exponent = shift := by omega
    rw [power, left, zpow_neg, zpow_natCast, ← div_eq_mul_inv, Nat.shiftRight_eq_div_pow]
    exact_mod_cast Rat.floor_natCast_div_natCast d.significand (2 ^ shift)

theorem clamped_of_isNaN (none : d.IsNaN) : d.clamped = 0 := by
  obtain ⟨negative, fraction, some, parts⟩ := none
  obtain ⟨_, exponent, same⟩ := d.parts_self.unique parts
  rw [clamped, if_pos exponent, if_neg]
  rintro ⟨zero, _⟩
  exact some (same.symm.trans zero)

theorem toNat_clamped_of_finite (finite : d.exponent < 2047) (positive : d.negative = false) :
    d.clamped.toNat = min d.magnitude 4294967295 := by
  rw [clamped, if_neg (Nat.ne_of_lt finite), positive]
  exact UInt32.toNat_ofNat_of_lt' (Nat.lt_of_le_of_lt (Nat.min_le_right _ _) (by decide))

theorem Denotes.toNat_clamped {number : WithBotTop ℚ} (denotes : d.Denotes number) :
    ((d.clamped.toNat : ℤ) : EInt) = clamp (truncated number) := by
  cases denotes with
  | positive parts finite =>
    obtain ⟨positive, rfl, rfl⟩ := d.parts_self.unique parts
    have whole : truncated (size d.exponent d.fraction : ℚ) = ((d.magnitude : ℤ) : EInt) := by
      rw [← floor_size, ← towardZero_of_nonneg (size_nonneg _ _)]
      rfl
    rw [whole, clamp_coe, toNat_clamped_of_finite finite positive]
    congr 1
    omega
  | negative parts finite =>
    obtain ⟨negative, rfl, rfl⟩ := d.parts_self.unique parts
    have whole : truncated ((-size d.exponent d.fraction : ℚ)) =
        (towardZero (-size d.exponent d.fraction) : ℤ) := rfl
    have below : -size d.exponent d.fraction ≤ 0 := neg_nonpos.mpr (size_nonneg _ _)
    have held := Int.ceil_nonpos.mpr below
    rw [whole, clamp_coe, towardZero_of_nonpos below, clamped, if_neg (Nat.ne_of_lt finite),
      negative, max_eq_left (min_le_of_left_le held)]
    rfl
  | top parts =>
    obtain ⟨positive, exponent, fraction⟩ := d.parts_self.unique parts
    rw [clamped, if_pos exponent, if_pos ⟨fraction, positive⟩]
    exact clamp_top.symm
  | bot parts =>
    obtain ⟨negative, exponent, _⟩ := d.parts_self.unique parts
    rw [clamped, if_pos exponent, if_neg (by simp [negative])]
    exact clamp_bot.symm

end Double

def Constant.BindsAs (constant : Constant) (number : Int64) : Prop :=
  ∀ (memory : Memory) (object : Variable), object.node = .constantScalar constant →
    (memory.bindObject object).answer = .ok (.num number) ∧
      (memory.bindObject object).state.store.lookup object.id = .ok (.num number)

namespace Constant

variable {constant : Constant} {number : Int64}

theorem bindsAs_of_bindTo
    (bound : ∀ (memory : Memory) (object : Variable), object.node = .constantScalar constant →
      memory.bindObject object = memory.bindTo object.id (.num number)) :
    constant.BindsAs number := by
  intro memory object node
  rw [bound memory object node]
  exact ⟨rfl, Store.lookup_bind_self _ _ _⟩

theorem bindsAs_float (d : Double) : (float d).BindsAs (Int64.ofNat d.clamped.toNat) :=
  bindsAs_of_bindTo fun memory object node => by simp only [Memory.bindObject, node]

theorem bindsAs_int (value : Int64) : (int value).BindsAs value.toInt32.toInt64 :=
  bindsAs_of_bindTo fun memory object node => by simp only [Memory.bindObject, node]

theorem BindsAs.unique {other : Int64} (binds : constant.BindsAs number)
    (again : constant.BindsAs other) : number = other := by
  have first := (binds (.new 0) ⟨⟨0⟩, .constantScalar constant, none⟩ rfl).1
  have second := (again (.new 0) ⟨⟨0⟩, .constantScalar constant, none⟩ rfl).1
  cases first.symm.trans second
  rfl

theorem toInt_ofNat_clamped (d : Double) : (Int64.ofNat d.clamped.toNat).toInt = d.clamped.toNat :=
  Int64.toInt_ofNat_of_lt (by have := d.clamped.toNat_lt; omega)

/-- The lowest 32 bits of an integer, read with a sign, are the only number of their range that is
congruent to it. -/
theorem eq_toInt32_iff (value : Int64) (number : ℤ) :
    number = value.toInt32.toInt64.toInt ↔
      -2 ^ 31 ≤ number ∧ number < 2 ^ 31 ∧ number ≡ value.toInt [ZMOD 2 ^ 32] := by
  have kept : value.toInt32.toInt64.toInt = value.toInt.bmod (2 ^ 32) := by
    rw [Int32.toInt_toInt64, Int64.toInt_toInt32]
  have low := Int.le_bmod (x := value.toInt) (m := 2 ^ 32) (by decide)
  have high := Int.bmod_lt (x := value.toInt) (m := 2 ^ 32) (by decide)
  have same : value.toInt.bmod (2 ^ 32) % 2 ^ 32 = value.toInt % 2 ^ 32 := by
    exact_mod_cast Int.bmod_emod
  rw [kept, Int.ModEq]
  omega

/-- A double that is no number is bound to zero. Any other denotes a number and is bound to this,
truncated toward zero and clamped; so a larger number is never bound to a smaller numeral. An
integer is bound to the only number of 32 bits with a sign that is congruent to it. -/
theorem numeral_of_constant :
    (∀ d : Double, ∃ number : Int64, (float d).BindsAs number ∧
      (d.IsNaN ∨ ∃ denoted, d.Denotes denoted) ∧ (d.IsNaN → number = 0) ∧
      ∀ denoted, d.Denotes denoted → (number.toInt : EInt) = clamp (truncated denoted)) ∧
    (∀ (d e : Double) (lower upper : WithBotTop ℚ) (number other : Int64),
      d.Denotes lower → e.Denotes upper → lower ≤ upper →
        (float d).BindsAs number → (float e).BindsAs other → number ≤ other) ∧
    ∀ value : Int64, ∃ number : Int64, (int value).BindsAs number ∧
      ∀ n : ℤ, n = number.toInt ↔
        -2 ^ 31 ≤ n ∧ n < 2 ^ 31 ∧ n ≡ value.toInt [ZMOD 2 ^ 32] := by
  refine ⟨?_, ?_, ?_⟩
  · intro d
    refine ⟨_, bindsAs_float d, d.isNaN_or_denotes, ?_, ?_⟩
    · intro none
      rw [Double.clamped_of_isNaN none]
      rfl
    · intro denoted denotes
      rw [toInt_ofNat_clamped]
      exact denotes.toNat_clamped
  · intro d e lower upper number other denotes others order binds otherBinds
    obtain rfl := binds.unique (bindsAs_float d)
    obtain rfl := otherBinds.unique (bindsAs_float e)
    rw [Int64.le_iff_toInt_le, toInt_ofNat_clamped, toInt_ofNat_clamped]
    exact le_of_clamp_truncated order denotes.toNat_clamped others.toNat_clamped
  · exact fun value => ⟨_, bindsAs_int value, eq_toInt32_iff value⟩

/-- A number a little below four, infinity, what is no number, and an integer of 32 ones. -/
theorem numeral_of_constant_extremes :
    (∃ number other : Int64, (float ⟨0x400f333333333333⟩).BindsAs number ∧
      (float ⟨0x7ff0000000000000⟩).BindsAs other ∧ number.toInt = 3 ∧ number ≤ other) ∧
    (float ⟨0xfff8000000000001⟩).BindsAs 0 ∧
    ∃ number : Int64, (int 0xffffffff).BindsAs number ∧ number.toInt = -1 := by
  obtain ⟨patterns, monotone, integers⟩ := numeral_of_constant
  have finite : Double.Denotes ⟨0x400f333333333333⟩ (Double.size 1024 0xf333333333333 : ℚ) :=
    .positive ⟨by decide, by decide, by decide⟩ (by decide)
  have infinite : Double.Denotes ⟨0x7ff0000000000000⟩ ⊤ := .top ⟨by decide, by decide, by decide⟩
  have none : Double.IsNaN ⟨0xfff8000000000001⟩ :=
    ⟨true, 0x8000000000001, by decide, by decide, by decide, by decide⟩
  have size : truncated (Double.size 1024 0xf333333333333 : ℚ) = (3 : ℤ) := by
    have floor : towardZero (Double.size 1024 0xf333333333333) = 3 := by
      rw [towardZero_of_nonneg (Double.size_nonneg _ _), Double.size, if_neg (by decide),
        Int.floor_eq_iff]
      norm_num
    exact congrArg WithBotTop.coe floor
  refine ⟨?_, ?_, ?_⟩
  · obtain ⟨number, binds, _, _, held⟩ := patterns ⟨0x400f333333333333⟩
    obtain ⟨other, otherBinds, _⟩ := patterns ⟨0x7ff0000000000000⟩
    have three := held _ finite
    rw [size, clamp_coe] at three
    exact ⟨number, other, binds, otherBinds, WithBotTop.coe_injective three,
      monotone _ _ _ _ _ _ finite infinite le_top binds otherBinds⟩
  · obtain ⟨number, binds, _, zero, _⟩ := patterns ⟨0xfff8000000000001⟩
    exact zero none ▸ binds
  · obtain ⟨number, binds, only⟩ := integers 0xffffffff
    exact ⟨number, binds, ((only (-1)).mpr (by decide)).symm⟩

end Constant

end CellMemory
