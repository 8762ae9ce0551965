import CellMemory.Document.Fields
import CellMemory.Settings

/-! Settings documents. Fields that are left out have their standard values, and no other field is
accepted. -/

namespace CellMemory.Document

def settings? (value : Value) : Option Settings := do
  let fields ← Fields.ofValue ["address_mask", "label_width"] true value
  return {
    addressMask := ← fields.defaulted "address_mask" Settings.standard.addressMask Value.word?
    labelWidth := ← fields.defaulted "label_width" Settings.standard.labelWidth Value.count? }

end CellMemory.Document
