import CellMemory.Event
import CellMemory.Layout.Table
import CellMemory.Store

/-! The offset a statement selects, in slots. Indices are taken from the last to the first, and each
step is told before it is added. -/

namespace CellMemory.Gep

def Operand.value (store : Store) : Operand → Except Fault Int64
  | constant value => .ok value
  | var id =>
    match store.lookup id with
    | .error fault => .error fault
    | .ok expr =>
      match store.evaluate expr with
      | some value => .ok value
      | none => .error (.symbolicOffset id)

def stride (types : Layout.Table) : Option TypeId → Except Fault Int64
  | none => .ok 1
  | some ty =>
    match types.slots ty with
    | .error fault => .error fault
    | .ok slots => .ok slots.toNumeral

def Index.slots (types : Layout.Table) (pointee : Option TypeId) (index : Index) (value : Int64) :
    Except Fault Int64 :=
  match index.ty with
  | none => .ok value
  | some ty =>
    match types.isPointer ty with
    | .error fault => .error fault
    | .ok true =>
      match stride types pointee with
      | .error fault => .error fault
      | .ok stride => Numeral.exact .gepOffset (value.toInt * stride.toInt)
    | .ok false => types.memberOffset ty value

def Index.step (types : Layout.Table) (store : Store) (pointee : Option TypeId) (index : Index) :
    Except Fault Step :=
  match index.operand.value store with
  | .error fault => .error fault
  | .ok value =>
    match index.slots types pointee value with
    | .error fault => .error fault
    | .ok slots => .ok ⟨index, value, slots⟩

/-- Adds the steps of the indices, in the given order, to what is already counted. -/
def walk (types : Layout.Table) (store : Store) (pointee : Option TypeId) (counted : Int64) :
    List Index → Except Fault Int64 × List Step
  | [] => (.ok counted, [])
  | index :: indices =>
    match index.step types store pointee with
    | .error fault => (.error fault, [])
    | .ok step =>
      match Numeral.exact .gepOffset (counted.toInt + step.slots.toInt) with
      | .error fault => (.error fault, [step])
      | .ok counted =>
        match walk types store pointee counted indices with
        | (answer, steps) => (answer, step :: steps)

def offset (types : Layout.Table) (store : Store) (gep : Gep) : Except Fault Int64 × List Step :=
  match gep.indices with
  | [] => (.ok gep.field, [])
  | _ => walk types store gep.pointee 0 gep.indices.reverse

end CellMemory.Gep
