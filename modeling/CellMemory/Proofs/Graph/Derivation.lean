import CellMemory.Proofs.Graph.Coherence

/-! What deriving a cell does to a graph. `Derivation` lists the outcomes once; that coherence is kept,
that an answer stays valid, and which faults can occur are read off it. -/

namespace CellMemory

theorem Variable.rebase_ok {object : Variable} {offset : Int64} {cell : Cell}
    (rebased : object.rebase offset = .ok cell) :
    cell.base = object.cell.base ∧
      cell.offset.toInt = object.cell.offset.toInt + offset.toInt := by
  unfold rebase at rebased
  cases from? : object.origin with
  | none =>
    simp only [from?, Except.ok.injEq] at rebased
    subst rebased
    simp [Variable.cell, from?]
  | some origin =>
    simp only [from?] at rebased
    cases sum : Numeral.exact .derivedOffset (origin.offset.toInt + offset.toInt) with
    | error fault => simp [sum] at rebased
    | ok total =>
      simp only [sum, Except.ok.injEq] at rebased
      subst rebased
      simpa [Variable.cell, from?] using Numeral.exact_eq_ok_iff.mp sum

theorem Variable.rebase_error {object : Variable} {offset : Int64} {fault : Fault}
    (refused : object.rebase offset = .error fault) : fault = .overflow .derivedOffset := by
  unfold rebase at refused
  cases from? : object.origin with
  | none => simp [from?] at refused
  | some origin =>
    simp only [from?] at refused
    cases sum : Numeral.exact .derivedOffset (origin.offset.toInt + offset.toInt) with
    | error cause =>
      simp only [sum, Except.error.injEq] at refused
      subst refused
      exact (Numeral.exact_eq_error_iff.mp sum).1
    | ok total => simp [sum] at refused

namespace Graph

theorem distance_apart {graph : Graph} {root : Variable} {offset distance : Int64}
    (reached : graph.distance root offset = .ok distance) (apart : distance ≠ 0) :
    root.node.IsLocation := by
  unfold Graph.distance at reached
  split at reached
  · next region ty shape => exact ⟨region, some ty, shape⟩
  · next region shape => exact ⟨region, none, shape⟩
  · exact absurd (Except.ok.inj reached).symm apart

theorem distance_reduced {graph : Graph} {root : Variable} {offset distance : Int64}
    (reached : graph.distance root offset = .ok distance) :
    graph.distance root distance = .ok distance := by
  unfold Graph.distance at reached ⊢
  split at reached
  · next region ty shape =>
    cases counted : graph.types.slots ty with
    | error fault => simp [counted] at reached
    | ok slots =>
      simp only [counted, Except.ok.injEq] at reached
      simp [← reached, Slots.wrap_wrap]
  · rfl
  · exact reached

theorem distance_error {graph : Graph} {root : Variable} {offset : Int64} {fault : Fault}
    (refused : graph.distance root offset = .error fault) :
    ∃ ty, fault = .unknownType ty := by
  unfold Graph.distance at refused
  split at refused
  · next region ty shape =>
    refine ⟨ty, ?_⟩
    unfold Layout.Table.slots Layout.Table.entry at refused
    cases listed : graph.types.entries[ty.number.toNat]? <;> simp_all
  · cases refused
  · cases refused

/-- An object is a cell of a declared root, of the same kind; a declared object is its own root. -/
theorem Coherent.root_of_cell {graph : Graph} (coherent : graph.Coherent) {base : VarId}
    {object : Variable} (found : graph.find? base = some object) :
    ∃ root, graph.find? object.cell.base = some root ∧ root.origin = none ∧
      object.node = root.node := by
  cases from? : object.origin with
  | none =>
    refine ⟨object, ?_, from?, rfl⟩
    rw [Variable.cell, from?, Option.getD_none, id_of_find? found, found]
  | some origin =>
    obtain ⟨root, anchored⟩ := coherent.rooted base object origin found from?
    refine ⟨root, ?_, anchored.declared, anchored.node⟩
    rw [Variable.cell, from?, Option.getD_some, anchored.found]

/-- Where a base and an offset lead: an object with its declared root, and the distance from the
root that both offsets together amount to. -/
structure Located (graph : Graph) (base : VarId) (offset : Int64) (root : Variable)
    (distance : Int64) (object : Variable) (total : Int64) : Prop where
  found : graph.find? base = some object
  node : object.node = root.node
  base : object.cell.base = root.id
  rooted : graph.find? root.id = some root
  declared : root.origin = none
  sum : total.toInt = object.cell.offset.toInt + offset.toInt
  reached : graph.distance root total = .ok distance

theorem Coherent.located {graph : Graph} (coherent : graph.Coherent) {base : VarId}
    {offset distance : Int64} {root : Variable}
    (located : graph.locate base offset = .ok (root, distance)) :
    ∃ object total, graph.Located base offset root distance object total := by
  unfold locate at located
  cases found : graph.find? base with
  | none => simp [found] at located
  | some object =>
    simp only [found] at located
    split at located
    · cases located
    · cases rebased : object.rebase offset with
      | error fault => simp [rebased] at located
      | ok cell =>
        obtain ⟨sameBase, sum⟩ := Variable.rebase_ok rebased
        obtain ⟨top, rooted, declared, node⟩ := coherent.root_of_cell found
        rw [← sameBase] at rooted
        simp only [rebased, rooted] at located
        cases reached : graph.distance top cell.offset with
        | error fault => simp [reached] at located
        | ok reduced =>
          simp only [reached, Except.ok.injEq, Prod.mk.injEq] at located
          rcases located with ⟨rfl, rfl⟩
          have rootId := id_of_find? rooted
          exact ⟨object, cell.offset, found, node, by rw [rootId, sameBase],
            by rw [rootId, rooted], declared, sum, reached⟩

theorem Coherent.locate_error {graph : Graph} (coherent : graph.Coherent) {base : VarId}
    {object : Variable} {offset : Int64} {fault : Fault} (found : graph.find? base = some object)
    (storage : object.node.kind = .object) (refused : graph.locate base offset = .error fault) :
    fault = .overflow .derivedOffset ∨ ∃ ty, fault = .unknownType ty := by
  have notValue : object.node.kind ≠ .value := by rw [storage]; exact nofun
  simp only [locate, found, if_neg notValue] at refused
  cases rebased : object.rebase offset with
  | error cause =>
    simp only [rebased, Except.error.injEq] at refused
    subst refused
    exact .inl (Variable.rebase_error rebased)
  | ok cell =>
    obtain ⟨sameBase, sum⟩ := Variable.rebase_ok rebased
    obtain ⟨root, rooted, declared, node⟩ := coherent.root_of_cell found
    rw [← sameBase] at rooted
    simp only [rebased, rooted] at refused
    cases reached : graph.distance root cell.offset with
    | error cause =>
      simp only [reached, Except.error.injEq] at refused
      subst refused
      exact .inr (distance_error reached)
    | ok distance => simp [reached] at refused

def freshId (graph : Graph) : VarId := ⟨UInt32.ofNat graph.nextId⟩

theorem toNat_freshId {graph : Graph} (room : graph.nextId < 0x100000000) :
    graph.freshId.number.toNat = graph.nextId := by
  rw [freshId, UInt32.toNat_ofNat_of_lt' room]

def withCell (graph : Graph) (root : Variable) (distance : Int64) : Graph :=
  { graph with
    vars := graph.vars.push ⟨graph.freshId, root.node, some ⟨root.id, distance⟩⟩
    derived := graph.derived.insert ⟨root.id, distance⟩ graph.freshId
    nextId := graph.nextId + 1 }

theorem withCell_ne (graph : Graph) (root : Variable) (distance : Int64) :
    graph.withCell root distance ≠ graph := by
  intro same
  have later : graph.nextId + 1 = graph.nextId := congrArg Graph.nextId same
  omega

theorem derive_of_unknown {graph : Graph} {base : VarId} {offset distance : Int64}
    {root : Variable} (located : graph.locate base offset = .ok (root, distance))
    (apart : distance ≠ 0) (unknown : graph.derived[Cell.mk root.id distance]? = none)
    (room : graph.nextId < 0x100000000) :
    graph.derive base offset = (.ok graph.freshId, graph.withCell root distance) := by
  simp only [derive, located, if_neg apart, unknown, if_pos room]
  rfl

inductive Derivation (graph : Graph) (base : VarId) (offset : Int64) :
    Except Fault VarId × Graph → Prop
  | refused {fault : Fault} (located : graph.locate base offset = .error fault) :
      Derivation graph base offset (.error fault, graph)
  | root {root : Variable} (located : graph.locate base offset = .ok (root, 0)) :
      Derivation graph base offset (.ok root.id, graph)
  | known {root : Variable} {distance : Int64} {id : VarId}
      (located : graph.locate base offset = .ok (root, distance)) (apart : distance ≠ 0)
      (known : graph.derived[Cell.mk root.id distance]? = some id) :
      Derivation graph base offset (.ok id, graph)
  | fresh {root : Variable} {distance : Int64}
      (located : graph.locate base offset = .ok (root, distance)) (apart : distance ≠ 0)
      (unknown : graph.derived[Cell.mk root.id distance]? = none)
      (room : graph.nextId < 0x100000000) :
      Derivation graph base offset (.ok graph.freshId, graph.withCell root distance)
  | full {root : Variable} {distance : Int64}
      (located : graph.locate base offset = .ok (root, distance)) (apart : distance ≠ 0)
      (unknown : graph.derived[Cell.mk root.id distance]? = none)
      (full : ¬graph.nextId < 0x100000000) :
      Derivation graph base offset (.error (.overflow .variableId), graph)

theorem derivation (graph : Graph) (base : VarId) (offset : Int64) :
    Derivation graph base offset (graph.derive base offset) := by
  unfold derive
  cases located : graph.locate base offset with
  | error fault => exact .refused located
  | ok place =>
    rcases place with ⟨root, distance⟩
    by_cases atRoot : distance = 0
    · subst atRoot
      simp only [↓reduceIte]
      exact .root located
    · simp only [if_neg atRoot]
      cases reached : graph.derived[Cell.mk root.id distance]? with
      | some id => exact .known located atRoot reached
      | none =>
        by_cases room : graph.nextId < 0x100000000
        · simp only [if_pos room]
          exact .fresh located atRoot reached room
        · simp only [if_neg room]
          exact .full located atRoot reached room

end Graph

end CellMemory
