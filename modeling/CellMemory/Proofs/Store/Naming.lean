import CellMemory.Proofs.Store.Frame

/-! Names of constants. A table of names only grows at its end, so a name stays one constant; the
names of contents tell addresses apart, and none of them is the name of a value. -/

namespace CellMemory

namespace Symbols

def Extends (first last : Symbols) : Prop := ∃ more, last.names = first.names ++ more

theorem Extends.refl (symbols : Symbols) : symbols.Extends symbols := ⟨#[], by simp⟩

theorem Extends.trans {first middle last : Symbols} (before : first.Extends middle)
    (after : middle.Extends last) : first.Extends last := by
  obtain ⟨more, middleNames⟩ := before
  obtain ⟨most, lastNames⟩ := after
  exact ⟨more ++ most, by rw [lastNames, middleNames, Array.append_assoc]⟩

theorem Extends.size_le {first last : Symbols} (grown : first.Extends last) :
    first.names.size ≤ last.names.size := by
  obtain ⟨more, names⟩ := grown
  rw [names, Array.size_append]
  omega

theorem Extends.getElem? {first last : Symbols} (grown : first.Extends last) {index : Nat}
    {name : String} (listed : first.names[index]? = some name) :
    last.names[index]? = some name := by
  obtain ⟨more, names⟩ := grown
  obtain ⟨bound, _⟩ := Array.getElem?_eq_some_iff.mp listed
  rw [names, Array.getElem?_append_left bound, listed]

theorem Extends.find? {first last : Symbols} (grown : first.Extends last) {name : String}
    {symbol : Symbol} (found : first.find? name = some symbol) : last.find? name = some symbol := by
  obtain ⟨more, names⟩ := grown
  obtain ⟨index, position, same⟩ := Option.map_eq_some_iff.mp found
  have here : (first.names ++ more).findIdx? (· == name) = some index := by
    rw [Array.findIdx?_append, position, Option.some_or]
  rw [Symbols.find?, names, here, Option.map_some, same]

theorem find?_eq_none {symbols : Symbols} {name : String} :
    symbols.find? name = none ↔ name ∉ symbols.names := by
  rw [find?, Option.map_eq_none_iff, Array.findIdx?_eq_none_iff]
  constructor
  · intro apart member
    simpa using apart name member
  · intro absent other member
    have different : other ≠ name := by
      rintro rfl
      exact absent member
    simpa using different

theorem getElem?_of_find? {symbols : Symbols} {name : String} {symbol : Symbol}
    (found : symbols.find? name = some symbol) : symbols.names[symbol.index]? = some name := by
  obtain ⟨index, position, rfl⟩ := Option.map_eq_some_iff.mp found
  obtain ⟨bound, same, _⟩ := Array.findIdx?_eq_some_iff_getElem.mp position
  rw [Array.getElem?_eq_getElem bound]
  simpa using same

theorem getElem?_name {symbols : Symbols} {symbol : Symbol}
    (bound : symbol.index < symbols.names.size) :
    symbols.names[symbol.index]? = some (symbols.name symbol) := by
  rw [name, Array.getElem?_eq_getElem bound, Option.getD_some]

theorem intern_of_find? {symbols : Symbols} {name : String} {symbol : Symbol}
    (found : symbols.find? name = some symbol) : symbols.intern name = (symbol, symbols) := by
  simp only [intern, found]

theorem intern_of_absent {symbols : Symbols} {name : String} (absent : name ∉ symbols.names) :
    symbols.intern name = (⟨symbols.names.size⟩, ⟨symbols.names.push name⟩) := by
  simp only [intern, find?_eq_none.mpr absent]

theorem extends_intern (symbols : Symbols) (name : String) :
    symbols.Extends (symbols.intern name).2 := by
  cases found : symbols.find? name with
  | some symbol =>
    rw [intern_of_find? found]
    exact .refl symbols
  | none =>
    rw [intern_of_absent (find?_eq_none.mp found)]
    exact ⟨#[name], by simp⟩

theorem find?_intern (symbols : Symbols) (name : String) :
    (symbols.intern name).2.find? name = some (symbols.intern name).1 := by
  cases found : symbols.find? name with
  | some symbol =>
    rw [intern_of_find? found]
    exact found
  | none =>
    have absent := find?_eq_none.mp found
    have nowhere : symbols.names.findIdx? (· == name) = none := by
      simpa [find?] using found
    rw [intern_of_absent absent, find?, Array.findIdx?_push, nowhere]
    simp

theorem mem_intern {symbols : Symbols} {name other : String} :
    other ∈ (symbols.intern name).2.names ↔ other ∈ symbols.names ∨ other = name := by
  cases found : symbols.find? name with
  | some symbol =>
    have listed : name ∈ symbols.names := Array.mem_of_getElem? (getElem?_of_find? found)
    rw [intern_of_find? found]
    constructor
    · exact .inl
    · rintro (member | rfl)
      · exact member
      · exact listed
  | none =>
    rw [intern_of_absent (find?_eq_none.mp found)]
    exact Array.mem_push

def Distinct (symbols : Symbols) : Prop := symbols.names.toList.Nodup

theorem distinct_empty : Symbols.empty.Distinct := List.nodup_nil

theorem Distinct.intern {symbols : Symbols} (distinct : symbols.Distinct) (name : String) :
    (symbols.intern name).2.Distinct := by
  cases found : symbols.find? name with
  | some symbol =>
    rw [intern_of_find? found]
    exact distinct
  | none =>
    have absent := find?_eq_none.mp found
    rw [intern_of_absent absent, Distinct, Array.toList_push, List.nodup_append]
    refine ⟨distinct, List.pairwise_singleton _ name, ?_⟩
    rintro other listed last only rfl
    rw [List.mem_singleton] at only
    subst only
    exact absent (Array.mem_toList_iff.mp listed)

theorem Distinct.eq_iff {symbols : Symbols} (distinct : symbols.Distinct) {first second : Symbol}
    {name other : String} (firstNamed : symbols.names[first.index]? = some name)
    (secondNamed : symbols.names[second.index]? = some other) : first = second ↔ name = other := by
  constructor
  · rintro rfl
    exact Option.some.inj (firstNamed.symm.trans secondNamed)
  · rintro rfl
    obtain ⟨bound, _⟩ := Array.getElem?_eq_some_iff.mp firstNamed
    rw [← Array.getElem?_toList] at firstNamed secondNamed
    have same : first.index = second.index :=
      (List.getElem?_inj bound distinct).mp (firstNamed.trans secondNamed.symm)
    cases first
    cases second
    exact congrArg Symbol.mk same

end Symbols

namespace Numeral

theorem digitChar_injective {first second : Nat} (firstSmall : first < 16)
    (secondSmall : second < 16) (same : first.digitChar = second.digitChar) : first = second := by
  have apart : ∀ x < 16, ∀ y < 16, Nat.digitChar x = Nat.digitChar y → x = y := by decide
  exact apart first firstSmall second secondSmall same

/-- Numbers with the same digits are equal: the last digits are, and so is what comes before them. -/
theorem toDigits_injective {base first second : Nat} (many : 1 < base) (few : base ≤ 16)
    (same : Nat.toDigits base first = Nat.toDigits base second) : first = second := by
  induction first using Nat.strongRecOn generalizing second with
  | ind first ih =>
    have digit : ∀ number, number % base < 16 := fun number =>
      Nat.lt_of_lt_of_le (Nat.mod_lt number (Nat.zero_lt_of_lt many)) few
    rw [Nat.toDigits_eq_if many, Nat.toDigits_eq_if (n := second) many] at same
    by_cases firstSmall : first < base
    · by_cases secondSmall : second < base
      · rw [if_pos firstSmall, if_pos secondSmall] at same
        exact digitChar_injective (by omega) (by omega) (List.singleton_inj.mp same)
      · rw [if_pos firstSmall, if_neg secondSmall] at same
        have lengths := congrArg List.length same
        have some := Nat.length_toDigits_pos (b := base) (n := second / base)
        simp only [List.length_append, List.length_singleton] at lengths
        omega
    · by_cases secondSmall : second < base
      · rw [if_neg firstSmall, if_pos secondSmall] at same
        have lengths := congrArg List.length same
        have some := Nat.length_toDigits_pos (b := base) (n := first / base)
        simp only [List.length_append, List.length_singleton] at lengths
        omega
      · rw [if_neg firstSmall, if_neg secondSmall] at same
        obtain ⟨high, low⟩ := List.append_inj' same rfl
        have smaller : first / base < first := Nat.div_lt_self (by omega) many
        have sameHigh := ih (first / base) smaller high
        have sameLow := digitChar_injective (digit first) (digit second) (List.singleton_inj.mp low)
        calc first
          _ = base * (first / base) + first % base := (Nat.div_add_mod first base).symm
          _ = base * (second / base) + second % base := by rw [sameHigh, sameLow]
          _ = second := Nat.div_add_mod second base

theorem hex_injective {first second : Nat} (same : hex first = hex second) : first = second := by
  have digits := congrArg String.toList same
  simp only [hex, String.toList_append, String.toList_ofList] at digits
  exact toDigits_injective (by decide) (by decide) (List.append_cancel_left digits)

theorem repr_injective {first second : Nat} (same : first.repr = second.repr) : first = second :=
  toDigits_injective (by decide) (by decide) (String.ofList_inj.mp same)

end Numeral

theorem VarId.eq_of_numbered {word : String} {first second : VarId}
    (same : word ++ first.number.toNat.repr = word ++ second.number.toNat.repr) :
    first = second := by
  have letters := congrArg String.toList same
  simp only [String.toList_append] at letters
  have numbers := String.toList_inj.mp (List.append_cancel_left letters)
  exact congrArg VarId.mk (UInt32.toNat_inj.mp (Numeral.repr_injective numbers))

theorem VarId.valueName_injective {first second : VarId}
    (same : first.valueName = second.valueName) : first = second :=
  eq_of_numbered same

theorem VarId.objectName_injective {first second : VarId}
    (same : first.objectName = second.objectName) : first = second :=
  eq_of_numbered same

namespace Store

theorem contentName_injective {first second : UInt32}
    (same : contentName first = contentName second) : first = second := by
  have letters := congrArg String.toList same
  simp only [contentName, String.toList_append] at letters
  have numbers := String.toList_inj.mp (List.append_cancel_left letters)
  exact UInt32.toNat_inj.mp (Numeral.hex_injective numbers)

theorem contentName_ne_valueName (address : UInt32) (id : VarId) :
    contentName address ≠ id.valueName := by
  intro same
  have letters := congrArg String.toList same
  simp [contentName, VarId.valueName] at letters

end Store

end CellMemory
