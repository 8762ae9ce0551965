import CellMemory.Gep.Basic
import CellMemory.Graph.Basic
import CellMemory.Graph.Record

/-! A source is what a graph document holds: types that refer to earlier ones, variables in the
order they are to be listed, and queries. -/

namespace CellMemory

def Layout.Table.addAll (table : Table) : List Ty → Except Fault Table
  | [] => .ok table
  | ty :: types =>
    match table.add ty with
    | (.error fault, _) => .error fault
    | (.ok _, table) => addAll table types

namespace Graph

def enter (graph : Graph) (record : Record) : Except Fault Unit × Graph :=
  match record.classify with
  | .error fault => (.error fault, graph)
  | .ok node => graph.declare record.id node

def enterAll (graph : Graph) : List Record → Except Fault Graph
  | [] => .ok graph
  | record :: records =>
    match graph.enter record with
    | (.error fault, _) => .error fault
    | (.ok _, graph) => enterAll graph records

structure Source where
  types : List Ty
  records : List Record
  queries : List Gep.Query

/-- The graph a source describes, with its queries. Types come first, and the first failure
counts. -/
def Source.load (source : Source) : Except Fault (Graph × List Gep.Query) :=
  match Layout.Table.empty.addAll source.types with
  | .error fault => .error fault
  | .ok types =>
    match (Graph.new types).enterAll source.records with
    | .error fault => .error fault
    | .ok graph => .ok (graph, source.queries)

end Graph

end CellMemory
