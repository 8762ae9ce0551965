import CellMemory.Proofs.Graph.Derivation

/-! Graphs as they are built: from an empty one by declaring variables and deriving cells, in any
order and whether or not a step succeeds. Each of them is coherent, and each step only adds. -/

namespace CellMemory.Graph

theorem find?_eq_none {graph : Graph} {id : VarId} :
    graph.find? id = none ↔ id ∉ graph.ids := by
  simp [find?, ids, Array.find?_eq_none]

theorem distinct_of_push {graph later : Graph} {item : Variable}
    (pushed : later.vars = graph.vars.push item) (fresh : graph.find? item.id = none)
    (distinct : graph.ids.Nodup) : later.ids.Nodup := by
  have listed : later.ids = graph.ids ++ [item.id] := by simp [ids, pushed]
  rw [listed, List.nodup_append]
  refine ⟨distinct, by simp, ?_⟩
  rintro id member other (only : other ∈ [item.id]) rfl
  rw [List.mem_singleton] at only
  subst only
  exact find?_eq_none.mp fresh member

theorem extends_of_push {graph later : Graph} {item : Variable} (types : later.types = graph.types)
    (pushed : later.vars = graph.vars.push item) (fresh : graph.find? item.id = none)
    (derived : ∀ (cell : Cell) (id : VarId),
      graph.derived[cell]? = some id → later.derived[cell]? = some id) :
    graph.Extends later where
  types := types
  vars := by
    intro id known found
    rw [find?_of_push pushed fresh, if_neg]
    · exact found
    · rintro rfl
      simp [fresh] at found
  derived := derived

theorem coherent_new (types : Layout.Table) : (Graph.new types).Coherent where
  distinct := by simp [Graph.new, ids]
  below := by simp [Graph.new, find?]
  derived_iff := by simp [Graph.new, find?]
  rooted := by simp [Graph.new, find?]

def withVariable (graph : Graph) (id : VarId) (node : Node) : Graph :=
  { graph with
    vars := graph.vars.push ⟨id, node, none⟩
    nextId := max graph.nextId (id.number.toNat + 1) }

theorem declare_of_some {graph : Graph} {id : VarId} {node : Node} {item : Variable}
    (known : graph.find? id = some item) :
    graph.declare id node = (.error (.duplicateVariable id), graph) := by
  simp only [Graph.declare, known]

theorem declare_of_none {graph : Graph} {id : VarId} {node : Node}
    (fresh : graph.find? id = none) :
    graph.declare id node = (.ok (), graph.withVariable id node) := by
  simp only [Graph.declare, fresh, withVariable]

theorem find?_withVariable {graph : Graph} {id : VarId} (fresh : graph.find? id = none)
    (node : Node) (other : VarId) : (graph.withVariable id node).find? other =
      if other = id then some ⟨id, node, none⟩ else graph.find? other := by
  have pushed : (graph.withVariable id node).vars = graph.vars.push ⟨id, node, none⟩ := rfl
  exact find?_of_push pushed fresh other

theorem extends_withVariable {graph : Graph} {id : VarId} (fresh : graph.find? id = none)
    (node : Node) : graph.Extends (graph.withVariable id node) := by
  have pushed : (graph.withVariable id node).vars = graph.vars.push ⟨id, node, none⟩ := rfl
  exact extends_of_push rfl pushed fresh fun _ _ reached => reached

theorem Coherent.withVariable {graph : Graph} (coherent : graph.Coherent) {id : VarId}
    (fresh : graph.find? id = none) (node : Node) : (graph.withVariable id node).Coherent := by
  have pushed : (graph.withVariable id node).vars = graph.vars.push ⟨id, node, none⟩ := rfl
  have lookup := find?_withVariable fresh node
  refine ⟨distinct_of_push pushed fresh coherent.distinct, ?_, ?_, ?_⟩
  · intro other item found
    rw [lookup] at found
    split at found
    · next same =>
      subst same
      exact Nat.lt_of_lt_of_le (Nat.lt_succ_self _) (Nat.le_max_right _ _)
    · exact Nat.lt_of_lt_of_le (coherent.below other item found) (Nat.le_max_left _ _)
  · intro cell other
    rw [lookup]
    refine (coherent.derived_iff cell other).trans ?_
    split
    · next same =>
      subst same
      simp [fresh]
    · rfl
  · intro other item cell found from?
    rw [lookup] at found
    split at found
    · cases Option.some.inj found
      cases from?
    · obtain ⟨root, anchored⟩ := coherent.rooted other item cell found from?
      exact ⟨root, (extends_withVariable fresh node).rootedAt anchored⟩

theorem Coherent.declare {graph : Graph} (coherent : graph.Coherent) (id : VarId) (node : Node) :
    (graph.declare id node).2.Coherent := by
  cases known : graph.find? id with
  | some item => rw [declare_of_some known]; exact coherent
  | none => rw [declare_of_none known]; exact coherent.withVariable known node

theorem Coherent.find?_freshId {graph : Graph} (coherent : graph.Coherent)
    (room : graph.nextId < 0x100000000) : graph.find? graph.freshId = none := by
  cases found : graph.find? graph.freshId with
  | none => rfl
  | some item =>
    have below := coherent.below _ item found
    rw [toNat_freshId room] at below
    exact absurd below (Nat.lt_irrefl _)

theorem Coherent.extends_withCell {graph : Graph} (coherent : graph.Coherent) {root : Variable}
    {distance : Int64} (unknown : graph.derived[Cell.mk root.id distance]? = none)
    (room : graph.nextId < 0x100000000) : graph.Extends (graph.withCell root distance) := by
  refine extends_of_push rfl rfl (coherent.find?_freshId room) ?_
  intro cell id known
  rw [withCell, Std.ExtTreeMap.getElem?_insert, if_neg]
  · exact known
  · intro same
    rw [← Std.LawfulEqOrd.eq_of_compare same, unknown] at known
    cases known

theorem Coherent.find?_withCell {graph : Graph} (coherent : graph.Coherent)
    (room : graph.nextId < 0x100000000) (root : Variable) (distance : Int64) (id : VarId) :
    (graph.withCell root distance).find? id =
      if id = graph.freshId then some ⟨graph.freshId, root.node, some ⟨root.id, distance⟩⟩
      else graph.find? id := by
  have pushed : (graph.withCell root distance).vars =
      graph.vars.push ⟨graph.freshId, root.node, some ⟨root.id, distance⟩⟩ := rfl
  exact find?_of_push pushed (coherent.find?_freshId room) id

theorem Coherent.derived_withCell {graph : Graph} (coherent : graph.Coherent) {root : Variable}
    {distance : Int64} (unknown : graph.derived[Cell.mk root.id distance]? = none)
    (room : graph.nextId < 0x100000000) (cell : Cell) (id : VarId) :
    (graph.withCell root distance).derived[cell]? = some id ↔
      ∃ item, (graph.withCell root distance).find? id = some item ∧ item.origin = some cell := by
  have fresh := coherent.find?_freshId room
  rw [coherent.find?_withCell room, Graph.withCell, Std.ExtTreeMap.getElem?_insert]
  by_cases atCell : (⟨root.id, distance⟩ : Cell) = cell
  · subst atCell
    rw [if_pos Std.ReflCmp.compare_self]
    split
    · next same => simp [same]
    · next other =>
      have noObject := (coherent.derived_iff ⟨root.id, distance⟩ id).not.mp (by simp [unknown])
      simp only [Option.some.injEq, iff_false_right noObject]
      exact fun same => other same.symm
  · rw [if_neg fun same => atCell (Std.LawfulEqOrd.eq_of_compare same)]
    refine (coherent.derived_iff cell id).trans ?_
    split
    · next same =>
      subst same
      simp [fresh, atCell]
    · rfl

theorem Coherent.withCell {graph : Graph} (coherent : graph.Coherent) {root : Variable}
    {distance : Int64} (rooted : graph.find? root.id = some root) (declared : root.origin = none)
    (apart : distance ≠ 0) (reduced : graph.distance root distance = .ok distance)
    (unknown : graph.derived[Cell.mk root.id distance]? = none)
    (room : graph.nextId < 0x100000000) : (graph.withCell root distance).Coherent := by
  have grown := coherent.extends_withCell unknown room
  have lookup := coherent.find?_withCell room root distance
  have fresh := coherent.find?_freshId room
  refine ⟨distinct_of_push rfl fresh coherent.distinct, ?_, ?_, ?_⟩
  · intro id item found
    rw [lookup] at found
    split at found
    · next same =>
      subst same
      rw [toNat_freshId room]
      exact Nat.lt_succ_self _
    · exact Nat.lt_succ_of_lt (coherent.below id item found)
  · exact coherent.derived_withCell unknown room
  · intro id item cell found from?
    rw [lookup] at found
    split at found
    · cases Option.some.inj found
      cases Option.some.inj from?
      have place : graph.RootedAt ⟨graph.freshId, root.node, some ⟨root.id, distance⟩⟩
          ⟨root.id, distance⟩ root :=
        ⟨rooted, declared, rfl, distance_apart reduced apart, apart, reduced⟩
      exact ⟨root, grown.rootedAt place⟩
    · obtain ⟨top, anchored⟩ := coherent.rooted id item cell found from?
      exact ⟨top, grown.rootedAt anchored⟩

theorem Coherent.extends_derive {graph : Graph} (coherent : graph.Coherent) (base : VarId)
    (offset : Int64) : graph.Extends (graph.derive base offset).2 := by
  have outcome := derivation graph base offset
  generalize graph.derive base offset = result at outcome ⊢
  cases outcome with
  | refused | root | known | full => exact .refl graph
  | fresh located apart unknown room => exact coherent.extends_withCell unknown room

theorem Coherent.derive {graph : Graph} (coherent : graph.Coherent) (base : VarId)
    (offset : Int64) : (graph.derive base offset).2.Coherent := by
  have outcome := derivation graph base offset
  generalize graph.derive base offset = result at outcome ⊢
  cases outcome with
  | refused | root | known | full => exact coherent
  | fresh located apart unknown room =>
    obtain ⟨object, total, place⟩ := coherent.located located
    exact coherent.withCell place.rooted place.declared apart (distance_reduced place.reached)
      unknown room

inductive Built : Graph → Prop
  | new (types : Layout.Table) : Built (Graph.new types)
  | declare {graph : Graph} (built : Built graph) (id : VarId) (node : Node) :
      Built (graph.declare id node).2
  | derive {graph : Graph} (built : Built graph) (base : VarId) (offset : Int64) :
      Built (graph.derive base offset).2

theorem Built.coherent {graph : Graph} (built : graph.Built) : graph.Coherent := by
  induction built with
  | new types => exact coherent_new types
  | declare built id node coherent => exact coherent.declare id node
  | derive built base offset coherent => exact coherent.derive base offset

def single (id : VarId) : Graph := ((Graph.new .empty).declare id (.location .heap none)).2

theorem built_single (id : VarId) : (single id).Built := .declare (.new _) id _

def twoValues : Graph :=
  (((Graph.new .empty).declare ⟨1⟩ .placeholderValue).2.declare ⟨2⟩ .placeholderValue).2

theorem built_twoValues : twoValues.Built := .declare (.declare (.new _) _ _) _ _

def valueAndLocation : Graph :=
  (((Graph.new .empty).declare ⟨1⟩ .placeholderValue).2.declare ⟨2⟩ (.location .heap none)).2

theorem built_valueAndLocation : valueAndLocation.Built := .declare (.declare (.new _) _ _) _ _

end CellMemory.Graph
