import CellMemory.Document.Fields
import CellMemory.Document.Reader
import CellMemory.Graph.Source

/-! Graph documents: types, variables and queries. -/

namespace CellMemory.Document

def maxLevels : Nat := 127

def varId? (value : Value) : Option VarId := value.word?.map VarId.mk

def typeId? (value : Value) : Option TypeId := value.word?.map TypeId.mk

def ty? (levels : Nat) (value : Value) : Option Ty :=
  match value.tagged? "kind" levels with
  | some ("int", body) => do
    let fields ← Fields.ofBody ["bits"] body
    return .int (← fields.required "bits" Value.word?)
  | some ("float", body) => do
    let _ ← Fields.ofBody [] body
    return .float
  | some ("pointer", body) => do
    let fields ← Fields.ofBody ["pointee"] body
    return .pointer (← fields.optional "pointee" typeId?)
  | some ("function", body) => do
    let _ ← Fields.ofBody [] body
    return .function
  | some ("array", body) => do
    let fields ← Fields.ofBody ["element", "len"] body
    return .array (← fields.required "element" typeId?) (← fields.required "len" Value.word?)
  | some ("struct", body) => do
    let fields ← Fields.ofBody ["fields"] body
    return .struct (← fields.required "fields" (Value.list? typeId?))
  | _ => none

def kind? (value : Value) : Option Kind :=
  match value.caseName? false with
  | some "value" => some .value
  | some "object" => some .object
  | _ => none

def region? (value : Value) : Option Region :=
  match value.caseName? true with
  | some "stack" => some .stack
  | some "heap" => some .heap
  | some "global" => some .global
  | _ => none

def constant? (value : Value) : Option Constant :=
  match value.case? with
  | some ("int", some content) => content.numeral?.map .int
  | some ("float", some content) => content.double?.map .float
  | some ("other", some content) => content.text?.map .other
  | _ =>
    match value.caseName? true with
    | some "null_ptr" => some .nullPtr
    | some "global_ref" => some .globalRef
    | _ => none

def payload? (levels : Nat) (value : Value) : Option Payload :=
  match value.tagged? "class" levels with
  | some ("constant", body) => do
    let fields ← Fields.ofBody ["value"] body
    return .constant (← fields.required "value" constant?)
  | some ("constant_array", body) => do
    let _ ← Fields.ofBody [] body
    return .constantArray
  | some ("constant_struct", body) => do
    let _ ← Fields.ofBody [] body
    return .constantStruct
  | some ("location", body) => do
    let fields ← Fields.ofBody ["region"] body
    return .location (← fields.required "region" region?)
  | _ => none

def record? (levels : Nat) (value : Value) : Option Record := do
  let fields ← Fields.ofValue ["id", "kind", "ty", "placeholder", "payload"] false value
  return {
    id := ← fields.required "id" varId?
    kind := ← fields.required "kind" kind?
    ty := ← fields.optional "ty" typeId?
    placeholder := ← fields.defaulted "placeholder" false Value.bool?
    payload := ← fields.optional "payload" (payload? (levels - 1)) }

def operand? (value : Value) : Option Gep.Operand :=
  match value.case? with
  | some ("constant", some content) => content.numeral?.map .constant
  | some ("var", some content) => (varId? content).map .var
  | _ => none

def index? (value : Value) : Option Gep.Index := do
  let fields ← Fields.ofValue ["operand", "ty"] false value
  return {
    operand := ← fields.required "operand" operand?
    ty := ← fields.optional "ty" typeId? }

def gep? (value : Value) : Option Gep := do
  let fields ← Fields.ofValue ["indices", "constant_field_index", "src_pointee"] false value
  return {
    indices := ← fields.defaulted "indices" [] (Value.list? index?)
    field := ← fields.defaulted "constant_field_index" 0 Value.numeral?
    pointee := ← fields.optional "src_pointee" typeId? }

def query? (value : Value) : Option Gep.Query := do
  let fields ← Fields.ofValue ["pointer", "gep"] false value
  return {
    pointer := ← fields.required "pointer" varId?
    gep := ← fields.required "gep" gep? }

/-- Types and records stand inside two containers: the document and a list. -/
def source? (value : Value) : Option Graph.Source := do
  let fields ← Fields.ofValue ["types", "variables", "geps"] false value
  return {
    types := ← fields.defaulted "types" [] (Value.list? (ty? (maxLevels - 2)))
    records := ← fields.required "variables" (Value.list? (record? (maxLevels - 2)))
    queries := ← fields.defaulted "geps" [] (Value.list? query?) }

end CellMemory.Document
