/-! Numerals are 64-bit integers. Arithmetic that may not wrap is done on the integers and brought
back to a numeral, if one holds the result. -/

namespace CellMemory.Numeral

def ofInt? (value : Int) : Option Int64 :=
  if -0x8000000000000000 ≤ value ∧ value < 0x8000000000000000 then some (Int64.ofInt value)
  else none

theorem ofInt?_eq_some_iff {value : Int} {numeral : Int64} :
    ofInt? value = some numeral ↔ numeral.toInt = value := by
  unfold ofInt?
  split
  · next range =>
    rw [Option.some.injEq]
    constructor
    · intro same
      rw [← same, Int64.toInt_ofInt_of_le range.1 range.2]
    · intro same
      rw [← same, Int64.ofInt_toInt]
  · next range =>
    refine ⟨nofun, fun same => ?_⟩
    have low := numeral.le_toInt
    have high := numeral.toInt_lt
    exact absurd (by omega) range

theorem ofInt?_eq_none_iff {value : Int} :
    ofInt? value = none ↔ value < -0x8000000000000000 ∨ 0x8000000000000000 ≤ value := by
  unfold ofInt?
  split <;> simp <;> omega

def decimal (value : Int64) : String := value.toInt.repr

def hex (value : Nat) : String := "0x" ++ String.ofList (Nat.toDigits 16 value)

def hexWord (value : Int64) : String := hex value.toUInt64.toNat

def lowWord (value : Int64) : UInt32 := value.toUInt64.toUInt32

end CellMemory.Numeral
