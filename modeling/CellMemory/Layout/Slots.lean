import CellMemory.Fault

/-! Numbers of scalar slots. A count always fits in 63 bits, so it is a numeral too. -/

namespace CellMemory

structure Slots where
  count : Nat
  fits : count < 0x8000000000000000
  deriving DecidableEq

namespace Slots

def zero : Slots := ⟨0, by decide⟩

def one : Slots := ⟨1, by decide⟩

def ofNat (quantity : Quantity) (count : Nat) : Except Fault Slots :=
  if fits : count < 0x8000000000000000 then .ok ⟨count, fits⟩ else .error (.overflow quantity)

def toNumeral (slots : Slots) : Int64 := Int64.ofNat slots.count

@[simp]
theorem toInt_toNumeral (slots : Slots) : slots.toNumeral.toInt = slots.count := by
  rw [toNumeral, Int64.toInt_ofNat_of_lt slots.fits]

/-- An offset held within the slots: past the last they are counted from the first again. Where
there are no slots the offset stays as it is. -/
def wrap (slots : Slots) (offset : Int64) : Int64 :=
  if slots.count = 0 then offset else Int64.ofInt (offset.toInt % slots.count)

theorem toInt_wrap (slots : Slots) (offset : Int64) (positive : 0 < slots.count) :
    (slots.wrap offset).toInt = offset.toInt % slots.count := by
  have fits := slots.fits
  have low := Int.emod_nonneg offset.toInt (b := slots.count) (by omega)
  have high := Int.emod_lt_of_pos offset.toInt (b := slots.count) (by omega)
  rw [wrap, if_neg (by omega), Int64.toInt_ofInt_of_le (by omega) (by omega)]

end Slots

end CellMemory
