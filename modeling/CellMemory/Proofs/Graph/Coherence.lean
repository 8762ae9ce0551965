import CellMemory.Graph.Basic
import Mathlib.Data.List.Nodup

/-! What holds of every graph that was built by declaring variables and deriving cells: an id names
one variable, and cells and derived objects belong to each other. A graph only grows, so what a
base and an offset lead to stays the same from the first request on. -/

namespace CellMemory

def Variable.cell (item : Variable) : Cell := item.origin.getD ⟨item.id, 0⟩

def Node.IsLocation (node : Node) : Prop := ∃ region ty, node = .location region ty

theorem Slots.wrap_wrap (slots : Slots) (offset : Int64) :
    slots.wrap (slots.wrap offset) = slots.wrap offset := by
  by_cases empty : slots.count = 0
  · simp [wrap, empty]
  · have positive : 0 < slots.count := Nat.pos_of_ne_zero empty
    apply Int64.toInt_inj.mp
    rw [toInt_wrap slots _ positive, toInt_wrap slots _ positive, Int.emod_emod_of_dvd _ (Int.dvd_refl _)]

namespace Graph

theorem id_of_find? {graph : Graph} {id : VarId} {item : Variable}
    (found : graph.find? id = some item) : item.id = id := by
  simpa using Array.find?_some found

theorem find?_isSome_of_mem {graph : Graph} {item : Variable} (member : item ∈ graph.vars) :
    ∃ found, graph.find? item.id = some found := by
  apply Option.isSome_iff_exists.mp
  rw [find?, Array.find?_isSome]
  exact ⟨item, member, by simp⟩

theorem find?_of_push {graph later : Graph} {item : Variable}
    (pushed : later.vars = graph.vars.push item) (fresh : graph.find? item.id = none) (id : VarId) :
    later.find? id = if id = item.id then some item else graph.find? id := by
  rw [find?, pushed, Array.find?_push]
  by_cases same : id = item.id
  · subst same
    rw [find?] at fresh
    simp [fresh]
  · have miss : ¬item.id = id := fun equal => same equal.symm
    simp [find?, miss, same]

/-- Every variable and every cell of the first graph is in the second as it was. -/
structure Extends (first last : Graph) : Prop where
  types : last.types = first.types
  vars : ∀ (id : VarId) (item : Variable), first.find? id = some item → last.find? id = some item
  derived : ∀ (cell : Cell) (id : VarId),
    first.derived[cell]? = some id → last.derived[cell]? = some id

theorem Extends.refl (graph : Graph) : graph.Extends graph :=
  ⟨rfl, fun _ _ found => found, fun _ _ known => known⟩

theorem Extends.trans {first middle last : Graph} (before : first.Extends middle)
    (after : middle.Extends last) : first.Extends last :=
  ⟨after.types.trans before.types, fun id item found => after.vars id item (before.vars id item found),
    fun cell id known => after.derived cell id (before.derived cell id known)⟩

theorem Extends.distance {first last : Graph} (grown : first.Extends last) (root : Variable)
    (offset : Int64) : last.distance root offset = first.distance root offset := by
  simp only [Graph.distance, grown.types]

theorem Extends.locate {first last : Graph} (grown : first.Extends last) {base : VarId}
    {offset : Int64} {place : Variable × Int64} (located : first.locate base offset = .ok place) :
    last.locate base offset = .ok place := by
  unfold Graph.locate at located ⊢
  cases found : first.find? base with
  | none => simp [found] at located
  | some object =>
    simp only [found, grown.vars base object found] at located ⊢
    split at located
    · cases located
    · next storage =>
      simp only [if_neg storage]
      cases rebased : object.rebase offset with
      | error fault => simp [rebased] at located
      | ok cell =>
        simp only [rebased] at located ⊢
        cases rooted : first.find? cell.base with
        | none => simp [rooted] at located
        | some root =>
          simp only [rooted, grown.vars cell.base root rooted, grown.distance] at located ⊢
          exact located

/-- A derived object is a cell of a declared location, at a distance that is reduced already. -/
structure RootedAt (graph : Graph) (item : Variable) (cell : Cell) (root : Variable) : Prop where
  found : graph.find? cell.base = some root
  declared : root.origin = none
  node : item.node = root.node
  location : root.node.IsLocation
  apart : cell.offset ≠ 0
  reduced : graph.distance root cell.offset = .ok cell.offset

structure Coherent (graph : Graph) : Prop where
  distinct : graph.ids.Nodup
  below : ∀ id item, graph.find? id = some item → id.number.toNat < graph.nextId
  derived_iff : ∀ (cell : Cell) (id : VarId), graph.derived[cell]? = some id ↔
    ∃ item, graph.find? id = some item ∧ item.origin = some cell
  rooted : ∀ id item cell, graph.find? id = some item → item.origin = some cell →
    ∃ root, graph.RootedAt item cell root

theorem Extends.rootedAt {first last : Graph} (grown : first.Extends last) {item root : Variable}
    {cell : Cell} (rooted : first.RootedAt item cell root) : last.RootedAt item cell root where
  found := grown.vars cell.base root rooted.found
  declared := rooted.declared
  node := rooted.node
  location := rooted.location
  apart := rooted.apart
  reduced := by rw [grown.distance, rooted.reduced]

theorem Coherent.eq_of_id {graph : Graph} (coherent : graph.Coherent) {item other : Variable}
    (listed : item ∈ graph.vars) (beside : other ∈ graph.vars) (same : item.id = other.id) :
    item = other :=
  List.inj_on_of_nodup_map coherent.distinct (Array.mem_toList_iff.mpr listed)
    (Array.mem_toList_iff.mpr beside) same

theorem Coherent.find?_of_mem {graph : Graph} (coherent : graph.Coherent) {item : Variable}
    (member : item ∈ graph.vars) : graph.find? item.id = some item := by
  obtain ⟨found, lookup⟩ := find?_isSome_of_mem member
  have listed : found ∈ graph.vars := Array.mem_of_find?_eq_some lookup
  rw [lookup, coherent.eq_of_id listed member (id_of_find? lookup)]

end Graph

end CellMemory
