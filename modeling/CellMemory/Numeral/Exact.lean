import CellMemory.Fault

/-! Arithmetic that fails where its exact result is no numeral. -/

namespace CellMemory.Numeral

def exact (quantity : Quantity) (value : Int) : Except Fault Int64 :=
  match ofInt? value with
  | some numeral => .ok numeral
  | none => .error (.overflow quantity)

theorem exact_eq_ok_iff {quantity : Quantity} {value : Int} {numeral : Int64} :
    exact quantity value = .ok numeral ↔ numeral.toInt = value := by
  rw [← ofInt?_eq_some_iff]
  unfold exact
  cases ofInt? value <;> simp

theorem exact_eq_error_iff {quantity : Quantity} {value : Int} {fault : Fault} :
    exact quantity value = .error fault ↔
      fault = .overflow quantity ∧
        (value < -0x8000000000000000 ∨ 0x8000000000000000 ≤ value) := by
  rw [← ofInt?_eq_none_iff]
  unfold exact
  cases ofInt? value <;> simp [eq_comm]

def Fits (value : Int) : Prop := -0x8000000000000000 ≤ value ∧ value < 0x8000000000000000

instance (value : Int) : Decidable (Fits value) := inferInstanceAs (Decidable (_ ∧ _))

theorem fits_toInt (numeral : Int64) : Fits numeral.toInt := ⟨numeral.le_toInt, numeral.toInt_lt⟩

theorem toInt_ofInt_of_fits {value : Int} (fits : Fits value) : (Int64.ofInt value).toInt = value :=
  Int64.toInt_ofInt_of_le fits.1 fits.2

theorem exact_of_fits (quantity : Quantity) {value : Int} (fits : Fits value) :
    exact quantity value = .ok (Int64.ofInt value) :=
  exact_eq_ok_iff.mpr (toInt_ofInt_of_fits fits)

theorem exact_of_not_fits (quantity : Quantity) {value : Int} (beyond : ¬Fits value) :
    exact quantity value = .error (.overflow quantity) := by
  refine exact_eq_error_iff.mpr ⟨rfl, ?_⟩
  rw [Fits] at beyond
  omega

end CellMemory.Numeral
