import CellMemory.Graph.Variable
import CellMemory.Layout.Table

/-! The graph holds the declared variables, in the order they were declared, followed by the cells
that pointer arithmetic has reached. A cell is told by its root, which is a declared object, and its
distance from it, so all routes to a cell end at one object. -/

namespace CellMemory

def Variable.rebase (object : Variable) (offset : Int64) : Except Fault Cell :=
  match object.origin with
  | none => .ok ⟨object.id, offset⟩
  | some origin =>
    match Numeral.exact .derivedOffset (origin.offset.toInt + offset.toInt) with
    | .error fault => .error fault
    | .ok offset => .ok ⟨origin.base, offset⟩

structure Graph where
  types : Layout.Table
  vars : Array Variable
  /-- The object of each cell that has been reached. -/
  derived : Std.ExtTreeMap Cell VarId
  /-- One more than the largest id in use. -/
  nextId : Nat

namespace Graph

def new (types : Layout.Table) : Graph := ⟨types, #[], ∅, 0⟩

def size (graph : Graph) : Nat := graph.vars.size

def ids (graph : Graph) : List VarId := graph.vars.toList.map Variable.id

def find? (graph : Graph) (id : VarId) : Option Variable :=
  graph.vars.find? fun item => item.id = id

def node (graph : Graph) (id : VarId) : Except Fault Node :=
  match graph.find? id with
  | some found => .ok found.node
  | none => .error (.unknownVariable id)

def kind (graph : Graph) (id : VarId) : Except Fault Kind :=
  match graph.node id with
  | .ok node => .ok node.kind
  | .error fault => .error fault

def declare (graph : Graph) (id : VarId) (node : Node) : Except Fault Unit × Graph :=
  match graph.find? id with
  | some _ => (.error (.duplicateVariable id), graph)
  | none =>
    (.ok (), { graph with
      vars := graph.vars.push ⟨id, node, none⟩
      nextId := max graph.nextId (id.number.toNat + 1) })

/-- The distance from a root, within the root's slots if its type is known. An object that is no
location is all one cell. -/
def distance (graph : Graph) (root : Variable) (offset : Int64) : Except Fault Int64 :=
  match root.node with
  | .location _ (some ty) =>
    match graph.types.slots ty with
    | .error fault => .error fault
    | .ok slots => .ok (slots.wrap offset)
  | .location _ none => .ok offset
  | _ => .ok 0

/-- The root of an object and how far past it the cell `offset` slots beyond the object lies. -/
def locate (graph : Graph) (base : VarId) (offset : Int64) : Except Fault (Variable × Int64) :=
  match graph.find? base with
  | none => .error (.unknownVariable base)
  | some object =>
    if object.node.kind = .value then .error (.notAnObject base)
    else
      match object.rebase offset with
      | .error fault => .error fault
      | .ok cell =>
        match graph.find? cell.base with
        | none => .error (.unknownVariable cell.base)
        | some root =>
          match graph.distance root cell.offset with
          | .error fault => .error fault
          | .ok distance => .ok (root, distance)

/-- The object of the cell `offset` slots past `base`, added on first request. A cell at distance
zero is the root itself. -/
def derive (graph : Graph) (base : VarId) (offset : Int64) : Except Fault VarId × Graph :=
  match graph.locate base offset with
  | .error fault => (.error fault, graph)
  | .ok (root, distance) =>
    if distance = 0 then (.ok root.id, graph)
    else
      match graph.derived[Cell.mk root.id distance]? with
      | some id => (.ok id, graph)
      | none =>
        if graph.nextId < 0x100000000 then
          let id : VarId := ⟨UInt32.ofNat graph.nextId⟩
          let cell : Cell := ⟨root.id, distance⟩
          (.ok id, { graph with
            vars := graph.vars.push ⟨id, root.node, some cell⟩
            derived := graph.derived.insert cell id
            nextId := graph.nextId + 1 })
        else (.error (.overflow .variableId), graph)

end Graph

end CellMemory
