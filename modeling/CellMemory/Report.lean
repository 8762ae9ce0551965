import CellMemory.Session.Basic

/-! A report shows every bound variable of the graph that has a value: objects first, then values,
each in ascending order. An object shows what is written at its address rather than the address. -/

namespace CellMemory

/-- How a value is shown: addresses in hexadecimal, other numerals in decimal. -/
inductive Shown where
  | hex (value : Int64)
  | dec (value : Int64)
  | null
  deriving DecidableEq

def Shown.text : Shown → String
  | hex value => Numeral.hexWord value
  | dec value => Numeral.decimal value
  | null => "NULL"

def AddressSpace.shown (space : AddressSpace) (value : Int64) : Shown :=
  if space.isAddress value then .hex value else .dec value

def AddressSpace.label (space : AddressSpace) (id : VarId) : String :=
  match space.place id with
  | .ok address => id.objectName ++ " (" ++ Numeral.hex address.toNat ++ ") "
  | .error _ => id.objectName ++ " "

namespace Report

structure Line where
  id : VarId
  kind : Kind
  label : String
  value : Shown
  deriving DecidableEq

/-- Labels are padded to the width of their column; a longer one is left whole. -/
def Line.text (width : Nat) (line : Line) : String :=
  line.label ++ String.ofList (List.replicate (width - line.label.length) ' ')
    ++ "\t Value: " ++ line.value.text ++ "\n"

end Report

structure Report where
  lines : List Report.Line
  labelWidth : Nat
  deriving DecidableEq

namespace Session

def contentShown (session : Session) (value : Int64) : Shown :=
  if session.addresses.isAddress value then
    match session.store.written (Numeral.lowWord value) with
    | none => .null
    | some expr =>
      match session.evaluate expr with
      | some content => session.addresses.shown content
      | none => .null
  else .null

def reportLine (session : Session) (id : VarId) : Option Report.Line :=
  match session.graph.kind id, session.lookup id with
  | .ok kind, .ok expr =>
    match session.evaluate expr, kind with
    | none, _ => none
    | some value, .value => some ⟨id, .value, id.valueName, session.addresses.shown value⟩
    | some value, .object =>
      some ⟨id, .object, session.addresses.label id, session.contentShown value⟩
  | _, _ => none

def report (session : Session) : Report :=
  let lines := session.store.ids.filterMap session.reportLine
  ⟨lines.filter (·.kind = .object) ++ lines.filter (·.kind = .value),
    session.settings.labelWidth⟩

end Session

namespace Report

def header : String := "-----------SVFVar and Value-----------\n"

def footer : String := "-----------------------------------------\n"

def maxWidth : Nat := 65535

/-- The text of a report, unless a line of it is too wide to be padded. -/
def text? (report : Report) : Option String :=
  if report.labelWidth ≤ maxWidth ∨ report.lines = [] then
    some (header ++ String.join (report.lines.map (Line.text report.labelWidth)) ++ footer)
  else none

end Report

end CellMemory
