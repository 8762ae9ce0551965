import CellMemory.Proofs.Graph.Built

/-! Where a base and an offset lead, as a root and a whole number of slots. An answer of a derivation
is the one object that stands for this place, and it stays so in every graph that extends the
one the derivation left. -/

namespace CellMemory

structure Place where
  root : VarId
  slots : Int
  deriving DecidableEq

def Cell.place (cell : Cell) : Place := ⟨cell.base, cell.offset.toInt⟩

theorem Cell.place_injective {first second : Cell} (same : first.place = second.place) :
    first = second := by
  cases first
  cases second
  simp only [place, Place.mk.injEq, Int64.toInt_inj] at same
  rw [same.1, same.2]

namespace Graph

def cellOf (graph : Graph) (id : VarId) : Cell :=
  ((graph.find? id).bind Variable.origin).getD ⟨id, 0⟩

/-- How far from a root a number of slots lies. In a location of a type that has slots one comes
round to the first after the last, and what is no location is all one place. -/
def reduce (graph : Graph) (root : VarId) (slots : Int) : Int :=
  match graph.node root with
  | .ok (.location _ (some ty)) =>
    match graph.types.slots ty with
    | .ok count => if 0 < count.count then slots % count.count else slots
    | .error _ => slots
  | .ok (.location _ none) => slots
  | _ => 0

def target (graph : Graph) (base : VarId) (offset : Int64) : Place :=
  let cell := graph.cellOf base
  ⟨cell.base, graph.reduce cell.base (cell.offset.toInt + offset.toInt)⟩

theorem cellOf_of_find? {graph : Graph} {id : VarId} {item : Variable}
    (found : graph.find? id = some item) : graph.cellOf id = item.cell := by
  rw [cellOf, found, Option.bind_some, Variable.cell, id_of_find? found]

theorem reduce_cases (graph : Graph) (root : VarId) :
    (∃ count : Nat, ∀ slots, graph.reduce root slots = slots % count) ∨
      (∀ slots, graph.reduce root slots = slots) ∨ ∀ slots, graph.reduce root slots = 0 := by
  unfold reduce
  split
  · split
    · next count _ =>
      split
      · exact .inl ⟨count.count, fun _ => rfl⟩
      · exact .inr (.inl fun _ => rfl)
    · exact .inr (.inl fun _ => rfl)
  · exact .inr (.inl fun _ => rfl)
  · exact .inr (.inr fun _ => rfl)

theorem reduce_zero (graph : Graph) (root : VarId) : graph.reduce root 0 = 0 := by
  rcases graph.reduce_cases root with ⟨count, remainder⟩ | whole | nothing
  · rw [remainder, Int.zero_emod]
  · rw [whole]
  · rw [nothing]

/-- Slots come to the same place whether they are reduced before more are added or only then. -/
theorem reduce_add (graph : Graph) (root : VarId) (slots more : Int) :
    graph.reduce root (graph.reduce root slots + more) = graph.reduce root (slots + more) := by
  rcases graph.reduce_cases root with ⟨count, remainder⟩ | whole | nothing
  · rw [remainder, remainder, remainder, Int.emod_add_emod]
  · rw [whole, whole, whole]
  · rw [nothing, nothing]

theorem Extends.reduce_eq {first last : Graph} (grown : first.Extends last) {root : VarId}
    {item : Variable} (found : first.find? root = some item) (slots : Int) :
    last.reduce root slots = first.reduce root slots := by
  simp only [reduce, Graph.node, found, grown.vars root item found, grown.types]

theorem Coherent.target_of_extends {first last : Graph} (coherent : first.Coherent)
    (grown : first.Extends last) {base : VarId} {item : Variable}
    (found : first.find? base = some item) (offset : Int64) :
    last.target base offset = first.target base offset := by
  obtain ⟨root, rooted, declared, node⟩ := coherent.root_of_cell found
  simp only [target, cellOf_of_find? found, cellOf_of_find? (grown.vars base item found),
    grown.reduce_eq rooted]

theorem toInt_distance {graph : Graph} {root : Variable} {total distance : Int64}
    (rooted : graph.find? root.id = some root)
    (reached : graph.distance root total = .ok distance) :
    distance.toInt = graph.reduce root.id total.toInt := by
  have node : graph.node root.id = .ok root.node := by simp only [Graph.node, rooted]
  unfold Graph.distance at reached
  unfold reduce
  rw [node]
  split at reached
  · next region ty shape =>
    cases counted : graph.types.slots ty with
    | error fault => simp [counted] at reached
    | ok count =>
      simp only [counted, Except.ok.injEq] at reached
      subst reached
      simp only [shape, counted]
      by_cases positive : 0 < count.count
      · rw [if_pos positive, Slots.toInt_wrap count total positive]
      · rw [if_neg positive, Slots.wrap, if_pos (by omega)]
  · next region shape =>
    cases reached
    simp only [shape]
  · next noType noLocation =>
    cases reached
    cases shape : root.node with
    | location region ty =>
      cases ty with
      | some ty => exact absurd shape (noType region ty)
      | none => exact absurd shape (noLocation region)
    | typedValue | placeholderValue | constantScalar | constantAggregate | placeholderObject => rfl

theorem Coherent.target_of_locate {graph : Graph} (coherent : graph.Coherent) {base : VarId}
    {offset distance : Int64} {root : Variable}
    (located : graph.locate base offset = .ok (root, distance)) :
    graph.target base offset = (Cell.mk root.id distance).place := by
  obtain ⟨object, total, place⟩ := coherent.located located
  rw [target, cellOf_of_find? place.found, place.base, ← place.sum,
    ← toInt_distance place.rooted place.reached]
  rfl

theorem Coherent.reduce_cell {graph : Graph} (coherent : graph.Coherent) {id : VarId}
    {item : Variable} (found : graph.find? id = some item) :
    graph.reduce item.cell.base item.cell.offset.toInt = item.cell.offset.toInt := by
  cases origin : item.origin with
  | none =>
    rw [Variable.cell, origin, Option.getD_none]
    exact graph.reduce_zero item.id
  | some cell =>
    obtain ⟨root, anchored⟩ := coherent.rooted id item cell found origin
    have sameId := id_of_find? anchored.found
    have rooted := anchored.found
    rw [← sameId] at rooted
    rw [Variable.cell, origin, Option.getD_some, ← sameId]
    exact (toInt_distance rooted anchored.reduced).symm

theorem derive_error_graph {graph later : Graph} {base : VarId} {offset : Int64} {fault : Fault}
    (refused : graph.derive base offset = (.error fault, later)) : later = graph := by
  have outcome := derivation graph base offset
  rw [refused] at outcome
  cases outcome <;> rfl

theorem Coherent.derive_error {graph later : Graph} (coherent : graph.Coherent) {base : VarId}
    {object : Variable} {offset : Int64} {fault : Fault} (found : graph.find? base = some object)
    (storage : object.node.kind = .object)
    (refused : graph.derive base offset = (.error fault, later)) :
    (∃ quantity, fault = .overflow quantity) ∨ ∃ ty, fault = .unknownType ty := by
  have outcome := derivation graph base offset
  rw [refused] at outcome
  cases outcome with
  | refused located =>
    rcases coherent.locate_error found storage located with overflow | unknown
    · exact .inl ⟨_, overflow⟩
    · exact .inr unknown
  | full => exact .inl ⟨_, rfl⟩

/-- The answer of a derivation stands for the cell that the base and the offset lead to. -/
theorem Coherent.derive_ok {graph later : Graph} (coherent : graph.Coherent) {base id : VarId}
    {offset : Int64} (derived : graph.derive base offset = (.ok id, later)) :
    ∃ root distance item, graph.locate base offset = .ok (root, distance) ∧
      later.find? id = some item ∧ item.node = root.node ∧ item.cell = ⟨root.id, distance⟩ := by
  have outcome := derivation graph base offset
  rw [derived] at outcome
  cases outcome with
  | @root root located =>
    obtain ⟨object, total, place⟩ := coherent.located located
    refine ⟨root, 0, root, located, place.rooted, rfl, ?_⟩
    rw [Variable.cell, place.declared, Option.getD_none]
  | @known root distance id located apart known =>
    obtain ⟨item, found, origin⟩ := (coherent.derived_iff _ id).mp known
    obtain ⟨top, anchored⟩ := coherent.rooted id item _ found origin
    obtain ⟨object, total, place⟩ := coherent.located located
    have sameRoot := anchored.found.symm.trans place.rooted
    cases Option.some.inj sameRoot
    exact ⟨root, distance, item, located, found, anchored.node,
      by rw [Variable.cell, origin, Option.getD_some]⟩
  | @fresh root distance located apart unknown room =>
    refine ⟨root, distance, ⟨graph.freshId, root.node, some ⟨root.id, distance⟩⟩, located, ?_, rfl, rfl⟩
    rw [coherent.find?_withCell room, if_pos rfl]

theorem Coherent.place_of_derive {graph later : Graph} (coherent : graph.Coherent)
    {base derived : VarId} {offset : Int64}
    (reached : graph.derive base offset = (.ok derived, later)) :
    ∃ item, later.find? derived = some item ∧ item.cell.place = graph.target base offset := by
  obtain ⟨root, distance, item, located, found, node, cell⟩ := coherent.derive_ok reached
  exact ⟨item, found, by rw [coherent.target_of_locate located, cell]⟩

/-- Whatever has been added since, the same request has the same answer and adds nothing. -/
theorem Coherent.derive_again {graph later last : Graph} (coherent : graph.Coherent)
    {base id : VarId} {offset : Int64} (derived : graph.derive base offset = (.ok id, later))
    (grown : later.Extends last) : last.derive base offset = (.ok id, last) := by
  have outcome := derivation graph base offset
  have growth := coherent.extends_derive base offset
  rw [derived] at outcome growth
  have whole := growth.trans grown
  cases outcome with
  | root located => simp only [Graph.derive, whole.locate located, ↓reduceIte]
  | known located apart known =>
    simp only [Graph.derive, whole.locate located, if_neg apart, whole.derived _ _ known]
  | @fresh root distance located apart unknown room =>
    have held : (graph.withCell root distance).derived[Cell.mk root.id distance]? =
        some graph.freshId := Std.ExtTreeMap.getElem?_insert_self
    simp only [Graph.derive, whole.locate located, if_neg apart, grown.derived _ _ held]

theorem Coherent.derive_self {graph later : Graph} (coherent : graph.Coherent) {base : VarId}
    {object : Variable} {offset : Int64} (found : graph.find? base = some object)
    (derived : graph.derive base offset = (.ok base, later)) : later = graph := by
  have outcome := derivation graph base offset
  rw [derived] at outcome
  cases outcome with
  | root | known => rfl
  | fresh located apart unknown room =>
    have absent := coherent.find?_freshId room
    rw [found] at absent
    cases absent

theorem Coherent.derive_location {graph later : Graph} (coherent : graph.Coherent)
    {base id : VarId} {offset : Int64} (derived : graph.derive base offset = (.ok id, later))
    (other : id ≠ base) {item : Variable} (found : later.find? id = some item) :
    item.node.IsLocation := by
  obtain ⟨root, distance, same, located, lookup, node, cell⟩ := coherent.derive_ok derived
  cases Option.some.inj (lookup.symm.trans found)
  obtain ⟨object, total, place⟩ := coherent.located located
  rw [node]
  by_cases apart : distance = 0
  · subst apart
    cases from? : object.origin with
    | none =>
      -- both the base and the answer are the root
      have outcome := derivation graph base offset
      rw [derived] at outcome
      have baseRoot := place.base
      rw [Variable.cell, from?, Option.getD_none, id_of_find? place.found] at baseRoot
      cases outcome with
      | root again =>
        cases (Except.ok.inj (located.symm.trans again))
        exact absurd baseRoot.symm other
      | known again apart | fresh again apart =>
        cases (Except.ok.inj (located.symm.trans again))
        exact absurd rfl apart
    | some origin =>
      obtain ⟨top, anchored⟩ := coherent.rooted base object origin place.found from?
      rw [← place.node, anchored.node]
      exact anchored.location
  · exact distance_apart place.reached apart

theorem Coherent.cell_injective {graph : Graph} (coherent : graph.Coherent) {first second : VarId}
    {firstItem secondItem : Variable} (firstFound : graph.find? first = some firstItem)
    (secondFound : graph.find? second = some secondItem)
    (same : firstItem.cell = secondItem.cell) : first = second := by
  rw [Variable.cell, Variable.cell, id_of_find? firstFound, id_of_find? secondFound] at same
  cases firstFrom : firstItem.origin with
  | none =>
    cases secondFrom : secondItem.origin with
    | none =>
      rw [firstFrom, secondFrom] at same
      exact congrArg Cell.base same
    | some origin =>
      obtain ⟨root, anchored⟩ := coherent.rooted second secondItem origin secondFound secondFrom
      rw [firstFrom, secondFrom] at same
      exact absurd (congrArg Cell.offset same).symm anchored.apart
  | some cell =>
    cases secondFrom : secondItem.origin with
    | none =>
      obtain ⟨root, anchored⟩ := coherent.rooted first firstItem cell firstFound firstFrom
      rw [firstFrom, secondFrom] at same
      exact absurd (congrArg Cell.offset same) anchored.apart
    | some origin =>
      rw [firstFrom, secondFrom, Option.getD_some, Option.getD_some] at same
      subst same
      have firstKnown := (coherent.derived_iff cell first).mpr ⟨firstItem, firstFound, firstFrom⟩
      have secondKnown := (coherent.derived_iff cell second).mpr ⟨secondItem, secondFound, secondFrom⟩
      exact Option.some.inj (firstKnown.symm.trans secondKnown)

theorem Coherent.derive_of_place {graph : Graph} (coherent : graph.Coherent) {base id : VarId}
    {item root : Variable} {offset distance : Int64}
    (located : graph.locate base offset = .ok (root, distance))
    (found : graph.find? id = some item) (there : item.cell.place = graph.target base offset) :
    graph.derive base offset = (.ok id, graph) := by
  rw [coherent.target_of_locate located] at there
  have cell := Cell.place_injective there
  by_cases atRoot : distance = 0
  · obtain ⟨object, total, place⟩ := coherent.located located
    have rootCell : item.cell = root.cell := by
      rw [cell, atRoot, Variable.cell, place.declared, Option.getD_none]
    rw [coherent.cell_injective found place.rooted rootCell]
    simp only [Graph.derive, located, if_pos atRoot]
  · have origin : item.origin = some ⟨root.id, distance⟩ := by
      cases from? : item.origin with
      | none =>
        rw [Variable.cell, from?, Option.getD_none] at cell
        exact absurd (congrArg Cell.offset cell).symm atRoot
      | some origin =>
        rw [Variable.cell, from?, Option.getD_some] at cell
        rw [cell]
    have known := (coherent.derived_iff _ id).mpr ⟨item, found, origin⟩
    simp only [Graph.derive, located, if_neg atRoot, known]

end Graph

end CellMemory
