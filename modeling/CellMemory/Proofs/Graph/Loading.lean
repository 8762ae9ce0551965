import CellMemory.Graph.Source
import CellMemory.Proofs.Graph.Built

/-! Graphs as sources describe them. A loaded graph was built by declaring alone, so each of its
variables is its own root. -/

namespace CellMemory.Graph

def Plain (graph : Graph) : Prop := ∀ id item, graph.find? id = some item → item.origin = none

theorem plain_new (types : Layout.Table) : (Graph.new types).Plain := by
  simp [Plain, Graph.new, find?]

theorem Plain.declare {graph : Graph} (plain : graph.Plain) (id : VarId) (node : Node) :
    (graph.declare id node).2.Plain := by
  cases known : graph.find? id with
  | some item =>
    rw [declare_of_some known]
    exact plain
  | none =>
    rw [declare_of_none known]
    intro other item found
    rw [find?_withVariable known] at found
    split at found
    · cases Option.some.inj found
      rfl
    · exact plain other item found

theorem enter_ok {graph later : Graph} {record : Record} {done : Unit}
    (entered : graph.enter record = (.ok done, later)) :
    ∃ node, later = (graph.declare record.id node).2 := by
  unfold enter at entered
  cases classified : record.classify with
  | error fault => simp [classified] at entered
  | ok node =>
    simp only [classified] at entered
    exact ⟨node, by rw [entered]⟩

theorem enterAll_ok {graph later : Graph} {records : List Record}
    (entered : graph.enterAll records = .ok later) (built : graph.Built) (plain : graph.Plain) :
    later.Built ∧ later.Plain := by
  induction records generalizing graph with
  | nil =>
    cases entered
    exact ⟨built, plain⟩
  | cons record records ih =>
    rw [enterAll] at entered
    cases first : graph.enter record with
    | mk answer middle =>
      cases answer with
      | error fault => simp [first] at entered
      | ok done =>
        simp only [first] at entered
        obtain ⟨node, rfl⟩ := enter_ok first
        exact ih entered (built.declare record.id node) (plain.declare record.id node)

theorem load_ok {source : Source} {graph : Graph} {queries : List Gep.Query}
    (loaded : source.load = .ok (graph, queries)) : graph.Built ∧ graph.Plain := by
  unfold Source.load at loaded
  cases listed : Layout.Table.empty.addAll source.types with
  | error fault => simp [listed] at loaded
  | ok types =>
    simp only [listed] at loaded
    cases entered : (Graph.new types).enterAll source.records with
    | error fault => simp [entered] at loaded
    | ok later =>
      simp only [entered, Except.ok.injEq, Prod.mk.injEq] at loaded
      obtain ⟨rfl, -⟩ := loaded
      exact enterAll_ok entered (.new types) (plain_new types)

end CellMemory.Graph
