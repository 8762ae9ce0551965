import CellMemory.Document.Value

/-! Records in documents. A record is an object whose members name its fields, or an array of its
fields in order. A choice between cases is written as a case's name, as an object whose only member
names the case, or as a record with a tag. -/

namespace CellMemory.Document

abbrev Fields := List (String × Value)

namespace Fields

/-- The named members of an object. A field may not be given twice; a strict record refuses any
other member, and a lenient one does not look at its value. -/
def ofMembers (names : List String) (strict : Bool) :
    List (Option String × Value) → Option Fields
  | [] => some []
  | (none, _) :: _ => none
  | (some name, value) :: members =>
    match ofMembers names strict members with
    | none => none
    | some fields =>
      if names.contains name then
        if (fields.lookup name).isSome then none else some ((name, value) :: fields)
      else if strict then none
      else some fields

/-- The fields of a record. An array may leave out fields at its end. -/
def ofValue (names : List String) (strict : Bool) : Value → Option Fields
  | .object members => ofMembers names strict members
  | .array items => if items.length ≤ names.length then some (names.zip items) else none
  | _ => none

def ofBody (names : List String) : Value → Option Fields
  | .object members => ofMembers names false members
  | .array items => if items.length = names.length then some (names.zip items) else none
  | _ => none

variable {α : Type}

def required (fields : Fields) (name : String) (read : Value → Option α) : Option α :=
  match fields.lookup name with
  | some value => read value
  | none => none

def defaulted (fields : Fields) (name : String) (default : α) (read : Value → Option α) :
    Option α :=
  match fields.lookup name with
  | some value => read value
  | none => some default

def optional (fields : Fields) (name : String) (read : Value → Option α) : Option (Option α) :=
  match fields.lookup name with
  | none | some .null => some none
  | some value => (read value).map some

end Fields

namespace Value

/-- The tag of a record and the record without it. An array has the tag in front. The record is
gathered before its case is known, so all of it has to be storable. -/
def tagged? (tag : String) (levels : Nat) (value : Value) : Option (String × Value) :=
  if value.storable levels then
    match value with
    | .array (.text (some name) :: items) => some (name, .array items)
    | .object members =>
      match members.filter (·.1 == some tag) with
      | [(_, .text (some name))] => some (name, .object (members.filter (·.1 != some tag)))
      | _ => none
    | _ => none
  else none

def case? : Value → Option (String × Option Value)
  | .text (some name) => some (name, none)
  | .object [(some name, content)] => some (name, some content)
  | _ => none

/-- The name of a case without content. In a gathered record its content may also be an empty
object. -/
def caseName? (gathered : Bool) (value : Value) : Option String :=
  match value.case? with
  | some (name, none) => some name
  | some (name, some .null) => some name
  | some (name, some (.object [])) => if gathered then some name else none
  | _ => none

end Value

end CellMemory.Document
