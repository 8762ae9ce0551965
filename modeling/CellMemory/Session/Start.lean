import CellMemory.Session.Basic

/-! A session starts with every variable of its graph bound, in the graph's order. -/

namespace CellMemory

/-- Binds variables in turn up to the first that cannot be bound. -/
def Memory.bindAll (memory : Memory) : List Variable → Reply Memory Unit
  | [] => ⟨.ok (), memory, []⟩
  | item :: items =>
    match memory.bindVariable item with
    | ⟨.error fault, memory, events⟩ => ⟨.error fault, memory, events⟩
    | ⟨.ok _, memory, events⟩ =>
      match bindAll memory items with
      | ⟨answer, memory, more⟩ => ⟨answer, memory, events ++ more⟩

namespace Graph

def count (graph : Graph) (kind : Kind) : Nat :=
  graph.vars.toList.countP fun item => item.node.kind = kind

end Graph

namespace Session

def start (graph : Graph) (settings : Settings) : Except Fault (Session × List Event) :=
  match settings.check with
  | .error fault => .error fault
  | .ok _ =>
    match (Memory.new settings.addressMask).bindAll graph.vars.toList with
    | ⟨.error fault, _, _⟩ => .error fault
    | ⟨.ok _, memory, events⟩ =>
      .ok (⟨settings, graph, memory, ∅⟩,
        events ++ [.initialized (graph.count .value) (graph.count .object)])

end Session

end CellMemory
