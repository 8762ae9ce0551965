import CellMemory.Layout.Slots
import CellMemory.Layout.Ty
import CellMemory.Numeral.Exact

/-! The layout table lists the types of one graph, each with the number of scalar slots it takes
once nested aggregates are flattened. An aggregate refers to earlier types only, so its slots are
counted when it is added, and a count always fits in 63 bits. -/

namespace CellMemory

namespace Layout

structure Entry where
  ty : Ty
  slots : Slots

structure Table where
  entries : Array Entry

namespace Table

def empty : Table := ⟨#[]⟩

def size (table : Table) : Nat := table.entries.size

def entry (table : Table) (id : TypeId) : Except Fault Entry :=
  match table.entries[id.number.toNat]? with
  | some entry => .ok entry
  | none => .error (.unknownType id)

def get (table : Table) (id : TypeId) : Except Fault Ty :=
  match table.entry id with
  | .ok entry => .ok entry.ty
  | .error fault => .error fault

def slots (table : Table) (id : TypeId) : Except Fault Slots :=
  match table.entry id with
  | .ok entry => .ok entry.slots
  | .error fault => .error fault

def isPointer (table : Table) (id : TypeId) : Except Fault Bool :=
  match table.entry id with
  | .ok entry => .ok entry.ty.isPointer
  | .error fault => .error fault

def total (table : Table) (quantity : Quantity) (counted : Slots) :
    List TypeId → Except Fault Slots
  | [] => .ok counted
  | member :: members =>
    match table.slots member with
    | .error fault => .error fault
    | .ok slots =>
      match Slots.ofNat quantity (counted.count + slots.count) with
      | .error fault => .error fault
      | .ok counted => total table quantity counted members

def measure (table : Table) : Ty → Except Fault Slots
  | .int _ | .float | .pointer _ | .function => .ok .one
  | .array element len =>
    match table.slots element with
    | .error fault => .error fault
    | .ok slots => Slots.ofNat .arraySlots (slots.count * len.toNat)
  | .struct fields => table.total .structSlots .zero fields

def add (table : Table) (ty : Ty) : Except Fault TypeId × Table :=
  match table.measure ty with
  | .error fault => (.error fault, table)
  | .ok slots => (.ok ⟨UInt32.ofNat table.size⟩, ⟨table.entries.push ⟨ty, slots⟩⟩)

/-- How many slots into a value of the type its member `index` starts. An array may be indexed
beyond its length; a scalar has itself as its only member. -/
def memberOffset (table : Table) (id : TypeId) (index : Int64) : Except Fault Int64 :=
  match table.get id with
  | .error fault => .error fault
  | .ok (.struct fields) =>
    if 0 ≤ index.toInt ∧ index.toInt < fields.length then
      match table.total .fieldOffset .zero (fields.take index.toInt.toNat) with
      | .error fault => .error fault
      | .ok slots => .ok slots.toNumeral
    else .error (.fieldOutOfRange id index)
  | .ok (.array element _) =>
    match table.slots element with
    | .error fault => .error fault
    | .ok slots => Numeral.exact .elementOffset (index.toInt * slots.count)
  | .ok _ => if index = 0 then .ok 0 else .error (.fieldOutOfRange id index)

end Table

end Layout

end CellMemory
