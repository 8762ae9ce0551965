import CellMemory.Proofs.Graph.Target
import Mathlib.Data.Set.Function

/-! Graphs that differ in the ids of derived objects only. What pointer arithmetic adds to a graph
is told by the cells it reaches. Two graphs in which the same cells were reached from one graph
correspond: the objects of a cell do, and a declared variable is its own counterpart. -/

namespace CellMemory.Graph

/-- A renaming of the variables of one graph to those of another keeps nodes and origins, and the
declared variables altogether. -/
structure Renaming (declared first last : Graph) (rename : VarId → VarId) : Prop where
  fixed : ∀ id ∈ declared.ids, rename id = id
  bijective : Set.BijOn rename {id | id ∈ first.ids} {id | id ∈ last.ids}
  vars : ∀ id item, first.find? id = some item →
    last.find? (rename id) = some { item with id := rename id }

/-- The last graph has further derived objects and no further declared variables. -/
structure DerivesTo (first last : Graph) : Prop where
  grown : first.Extends last
  coherent : last.Coherent
  declared : ∀ id item, last.find? id = some item → item.origin = none → first.find? id = some item

def Occupied (graph : Graph) (cell : Cell) : Prop := ∃ id, graph.derived[cell]? = some id

variable {start first last : Graph}

theorem mem_ids {graph : Graph} {id : VarId} :
    id ∈ graph.ids ↔ ∃ item, graph.find? id = some item := by
  rw [← Option.isSome_iff_exists, ← Option.ne_none_iff_isSome, Ne, find?_eq_none, not_not]

theorem DerivesTo.refl (coherent : start.Coherent) : start.DerivesTo start :=
  ⟨.refl start, coherent, fun _ _ found _ => found⟩

theorem DerivesTo.trans (before : start.DerivesTo first) (after : first.DerivesTo last) :
    start.DerivesTo last where
  grown := before.grown.trans after.grown
  coherent := after.coherent
  declared := fun id item found declared =>
    before.declared id item (after.declared id item found declared) declared

theorem Coherent.derivesTo_derive (coherent : start.Coherent) (base : VarId) (offset : Int64) :
    start.DerivesTo (start.derive base offset).2 := by
  refine ⟨coherent.extends_derive base offset, coherent.derive base offset, ?_⟩
  have outcome := derivation start base offset
  generalize start.derive base offset = result at outcome ⊢
  cases outcome with
  | refused | root | known | full => exact fun _ _ found _ => found
  | fresh located apart unknown room =>
    intro id item found declared
    rw [coherent.find?_withCell room] at found
    split at found
    · cases Option.some.inj found
      cases declared
    · exact found

theorem occupied_withCell (graph : Graph) (root : Variable) (distance : Int64) (cell : Cell) :
    (graph.withCell root distance).Occupied cell ↔
      graph.Occupied cell ∨ cell = ⟨root.id, distance⟩ := by
  simp only [Occupied, withCell, Std.ExtTreeMap.getElem?_insert]
  by_cases same : cell = ⟨root.id, distance⟩
  · subst same
    simp [Std.ReflCmp.compare_self]
  · have differs : compare (Cell.mk root.id distance) cell ≠ .eq := by
      intro equal
      exact same (Std.LawfulEqOrd.eq_of_compare equal).symm
    simp only [if_neg differs, same, or_false]

theorem Coherent.occupied_derive (coherent : start.Coherent) {base derived : VarId}
    {offset : Int64} (reached : start.derive base offset = (.ok derived, last)) (cell : Cell) :
    last.Occupied cell ↔
      start.Occupied cell ∨ cell.offset ≠ 0 ∧ cell.place = start.target base offset := by
  have outcome := derivation start base offset
  rw [reached] at outcome
  cases outcome with
  | @root root located =>
    rw [coherent.target_of_locate located, iff_self_or]
    rintro ⟨apart, same⟩
    exact absurd (congrArg Cell.offset (Cell.place_injective same)) apart
  | @known root distance id located apart known =>
    rw [coherent.target_of_locate located, iff_self_or]
    rintro ⟨_, same⟩
    rw [Cell.place_injective same]
    exact ⟨derived, known⟩
  | @fresh root distance located apart unknown room =>
    rw [coherent.target_of_locate located, occupied_withCell]
    apply or_congr_right
    constructor
    · rintro rfl
      exact ⟨apart, rfl⟩
    · rintro ⟨_, same⟩
      exact Cell.place_injective same

def counterpart (graph other : Graph) (id : VarId) : VarId :=
  match (graph.find? id).bind Variable.origin with
  | none => id
  | some cell => other.derived[cell]?.getD id

theorem counterpart_of_declared {id : VarId} {item : Variable} (found : first.find? id = some item)
    (declared : item.origin = none) : first.counterpart last id = id := by
  simp only [counterpart, found, Option.bind_some, declared]

theorem counterpart_of_cell {id other : VarId} {item : Variable} {cell : Cell}
    (found : first.find? id = some item) (origin : item.origin = some cell)
    (known : last.derived[cell]? = some other) : first.counterpart last id = other := by
  simp only [counterpart, found, Option.bind_some, origin, known, Option.getD_some]

theorem DerivesTo.node_eq (firstDerived : start.DerivesTo first) (lastDerived : start.DerivesTo last)
    {id other : VarId} {item otherItem : Variable} {cell : Cell}
    (found : first.find? id = some item) (origin : item.origin = some cell)
    (otherFound : last.find? other = some otherItem) (otherOrigin : otherItem.origin = some cell) :
    otherItem.node = item.node := by
  obtain ⟨root, anchored⟩ := firstDerived.coherent.rooted id item cell found origin
  obtain ⟨otherRoot, otherAnchored⟩ :=
    lastDerived.coherent.rooted other otherItem cell otherFound otherOrigin
  have shared := firstDerived.declared cell.base root anchored.found anchored.declared
  have same := (lastDerived.grown.vars cell.base root shared).symm.trans otherAnchored.found
  rw [anchored.node, otherAnchored.node, Option.some.inj same]

theorem DerivesTo.find?_counterpart (firstDerived : start.DerivesTo first)
    (lastDerived : start.DerivesTo last)
    (same : ∀ cell, first.Occupied cell ↔ last.Occupied cell) {id : VarId} {item : Variable}
    (found : first.find? id = some item) :
    last.find? (first.counterpart last id) =
      some { item with id := first.counterpart last id } := by
  cases origin : item.origin with
  | none =>
    rw [counterpart_of_declared found origin]
    have shared := firstDerived.declared id item found origin
    have named := id_of_find? found
    rw [lastDerived.grown.vars id item shared, ← named]
    cases item
    simp_all
  | some cell =>
    have known := (firstDerived.coherent.derived_iff cell id).mpr ⟨item, found, origin⟩
    obtain ⟨other, otherKnown⟩ := (same cell).mp ⟨id, known⟩
    obtain ⟨otherItem, otherFound, otherOrigin⟩ :=
      (lastDerived.coherent.derived_iff cell other).mp otherKnown
    have node := firstDerived.node_eq lastDerived found origin otherFound otherOrigin
    rw [counterpart_of_cell found origin otherKnown, otherFound]
    have named := id_of_find? otherFound
    cases item
    cases otherItem
    simp_all

theorem DerivesTo.counterpart_counterpart (firstDerived : start.DerivesTo first)
    (lastDerived : start.DerivesTo last)
    (same : ∀ cell, first.Occupied cell ↔ last.Occupied cell) {id : VarId} (listed : id ∈ first.ids) :
    last.counterpart first (first.counterpart last id) = id := by
  obtain ⟨item, found⟩ := mem_ids.mp listed
  have there := firstDerived.find?_counterpart lastDerived same found
  cases origin : item.origin with
  | none =>
    rw [counterpart_of_declared there origin, counterpart_of_declared found origin]
  | some cell =>
    have known := (firstDerived.coherent.derived_iff cell id).mpr ⟨item, found, origin⟩
    exact counterpart_of_cell there origin known

/-- Where the same cells are reached, counterparts are a renaming. -/
theorem DerivesTo.renaming (firstDerived : start.DerivesTo first) (lastDerived : start.DerivesTo last)
    (same : ∀ cell, first.Occupied cell ↔ last.Occupied cell)
    (declared : ∀ id item, start.find? id = some item → item.origin = none) :
    Renaming start first last (first.counterpart last) where
  fixed := by
    intro id listed
    obtain ⟨item, found⟩ := mem_ids.mp listed
    exact counterpart_of_declared (firstDerived.grown.vars id item found) (declared id item found)
  bijective := by
    have back : ∀ cell, last.Occupied cell ↔ first.Occupied cell := fun cell => (same cell).symm
    have inverse : Set.InvOn (last.counterpart first) (first.counterpart last)
        {id | id ∈ first.ids} {id | id ∈ last.ids} :=
      ⟨fun _ listed => firstDerived.counterpart_counterpart lastDerived same listed,
        fun _ listed => lastDerived.counterpart_counterpart firstDerived back listed⟩
    apply inverse.bijOn
    · intro id listed
      obtain ⟨item, found⟩ := mem_ids.mp listed
      exact mem_ids.mpr ⟨_, firstDerived.find?_counterpart lastDerived same found⟩
    · intro id listed
      obtain ⟨item, found⟩ := mem_ids.mp listed
      exact mem_ids.mpr ⟨_, lastDerived.find?_counterpart firstDerived back found⟩
  vars := fun _ _ found => firstDerived.find?_counterpart lastDerived same found

theorem Renaming.size_eq {declared : Graph} {rename : VarId → VarId}
    (renamed : Renaming declared first last rename) (firstDistinct : first.ids.Nodup)
    (lastDistinct : last.ids.Nodup) : last.size = first.size := by
  have distinct : (first.ids.map rename).Nodup :=
    firstDistinct.map_on fun _ left _ right equal => renamed.bijective.injOn left right equal
  have permuted : (first.ids.map rename).Perm last.ids := by
    rw [List.perm_ext_iff_of_nodup distinct lastDistinct]
    intro id
    rw [List.mem_map]
    constructor
    · rintro ⟨other, listed, rfl⟩
      exact renamed.bijective.mapsTo listed
    · intro listed
      exact renamed.bijective.surjOn listed
  have lengths := permuted.length_eq
  simp only [List.length_map, ids, Array.length_toList] at lengths
  exact lengths.symm

theorem Renaming.eq_of_place {declared : Graph} {rename : VarId → VarId}
    (renamed : Renaming declared first last rename) (firstDerived : declared.DerivesTo first)
    (coherent : last.Coherent) {id other : VarId} {item otherItem : Variable}
    (found : first.find? id = some item) (otherFound : last.find? other = some otherItem)
    (same : item.cell.place = otherItem.cell.place) : rename id = other := by
  have there := renamed.vars id item found
  apply coherent.cell_injective there otherFound
  apply Cell.place_injective
  rw [← same]
  cases origin : item.origin with
  | none =>
    have shared := firstDerived.declared id item found origin
    have fixed := renamed.fixed id (mem_ids.mpr ⟨item, shared⟩)
    rw [Variable.cell, Variable.cell, origin, Option.getD_none, Option.getD_none, fixed,
      id_of_find? found]
  | some cell => rw [Variable.cell, Variable.cell, origin, Option.getD_some, Option.getD_some]

end CellMemory.Graph
