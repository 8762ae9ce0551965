import CellMemory.Proofs.Graph.Built
import Mathlib.Data.List.Nodup
import Mathlib.Data.List.Perm.Subperm

/-! How a graph grows. Declaring and deriving only add at the end of the list of variables, and a root
whose slots are known has no more derived objects than it has slots past the first. -/

namespace CellMemory.Graph

/-- The graphs that declaring and deriving make of a graph, whether or not a step succeeds. -/
inductive Leads (first : Graph) : Graph → Prop
  | refl : Leads first first
  | declare {last : Graph} (led : Leads first last) (id : VarId) (node : Node) :
      Leads first (last.declare id node).2
  | derive {last : Graph} (led : Leads first last) (base : VarId) (offset : Int64) :
      Leads first (last.derive base offset).2

variable {graph first last : Graph}

theorem Leads.built (led : first.Leads last) (built : first.Built) : last.Built := by
  induction led with
  | refl => exact built
  | declare led id node ih => exact ih.declare id node
  | derive led base offset ih => exact ih.derive base offset

theorem ids_push {later : Graph} {item : Variable} (pushed : later.vars = graph.vars.push item) :
    graph.ids <+: later.ids := by
  refine ⟨[item.id], ?_⟩
  simp [ids, pushed]

theorem ids_declare (graph : Graph) (id : VarId) (node : Node) :
    graph.ids <+: (graph.declare id node).2.ids := by
  cases known : graph.find? id with
  | some item => exact ⟨[], by rw [declare_of_some known, List.append_nil]⟩
  | none =>
    rw [declare_of_none known]
    exact ids_push rfl

theorem ids_derive (graph : Graph) (base : VarId) (offset : Int64) :
    graph.ids <+: (graph.derive base offset).2.ids := by
  have outcome := derivation graph base offset
  generalize graph.derive base offset = result at outcome ⊢
  cases outcome with
  | refused | root | known | full => exact List.prefix_refl _
  | fresh => exact ids_push rfl

theorem Leads.ids (led : first.Leads last) : first.ids <+: last.ids := by
  induction led with
  | refl => exact List.prefix_refl _
  | @declare last led id node ih => exact ih.trans (ids_declare last id node)
  | @derive last led base offset ih => exact ih.trans (ids_derive last base offset)

theorem extends_declare (graph : Graph) (id : VarId) (node : Node) :
    graph.Extends (graph.declare id node).2 := by
  cases known : graph.find? id with
  | some item =>
    rw [declare_of_some known]
    exact .refl graph
  | none =>
    rw [declare_of_none known]
    exact extends_withVariable known node

theorem Leads.extends (led : first.Leads last) (built : first.Built) : first.Extends last := by
  induction led with
  | refl => exact .refl first
  | @declare last led id node ih => exact ih.trans (extends_declare last id node)
  | @derive last led base offset ih =>
    exact ih.trans ((led.built built).coherent.extends_derive base offset)

def derivedFrom (graph : Graph) (root : VarId) : List Variable :=
  graph.vars.toList.filter fun item => item.origin.any fun cell => cell.base = root

theorem mem_derivedFrom {root : VarId} {item : Variable} :
    item ∈ graph.derivedFrom root ↔
      item ∈ graph.vars ∧ ∃ cell, item.origin = some cell ∧ cell.base = root := by
  simp [derivedFrom, Option.any_eq_true]

structure Spans (graph : Graph) (root : VarId) (slots : Slots) : Prop where
  typed : ∃ item region ty, graph.find? root = some item ∧ item.node = .location region (some ty) ∧
    graph.types.slots ty = .ok slots
  positive : 0 < slots.count

theorem Spans.offset_lt {root : VarId} {slots : Slots} (spans : graph.Spans root slots)
    {item top : Variable} {cell : Cell} (anchored : graph.RootedAt item cell top)
    (base : cell.base = root) : 0 < cell.offset.toInt ∧ cell.offset.toInt < slots.count := by
  obtain ⟨held, region, ty, found, shape, counted⟩ := spans.typed
  have positive := spans.positive
  have sameRoot := anchored.found
  rw [base, found] at sameRoot
  cases Option.some.inj sameRoot
  have reduced := anchored.reduced
  simp only [Graph.distance, shape, counted, Except.ok.injEq] at reduced
  have wrapped := Slots.toInt_wrap slots cell.offset positive
  rw [reduced] at wrapped
  have low := Int.emod_nonneg cell.offset.toInt (b := slots.count) (by omega)
  have high := Int.emod_lt_of_pos cell.offset.toInt (b := slots.count) (by omega)
  have apart : cell.offset.toInt ≠ 0 := by
    intro zero
    exact anchored.apart (Int64.toInt_inj.mp zero)
  omega

theorem Coherent.eq_of_origin (coherent : graph.Coherent) {item other : Variable} {cell : Cell}
    (listed : item ∈ graph.vars) (beside : other ∈ graph.vars) (origin : item.origin = some cell)
    (same : other.origin = some cell) : item = other := by
  have known := (coherent.derived_iff cell item.id).mpr
    ⟨item, coherent.find?_of_mem listed, origin⟩
  have knownOther := (coherent.derived_iff cell other.id).mpr
    ⟨other, coherent.find?_of_mem beside, same⟩
  rw [known, Option.some.injEq] at knownOther
  exact coherent.eq_of_id listed beside knownOther

theorem Coherent.nodup_derivedFrom (coherent : graph.Coherent) (root : VarId) :
    (graph.derivedFrom root).Nodup :=
  coherent.distinct.of_map.filter _

theorem Coherent.cell_of_derived (coherent : graph.Coherent) {root : VarId} {slots : Slots}
    (spans : graph.Spans root slots) {item : Variable} (member : item ∈ graph.derivedFrom root) :
    ∃ cell, item.origin = some cell ∧ cell.base = root ∧
      0 < cell.offset.toInt ∧ cell.offset.toInt < slots.count := by
  obtain ⟨listed, cell, origin, base⟩ := mem_derivedFrom.mp member
  obtain ⟨top, anchored⟩ := coherent.rooted _ _ _ (coherent.find?_of_mem listed) origin
  exact ⟨cell, origin, base, spans.offset_lt anchored base⟩

def slotIn (item : Variable) : Nat := item.cell.offset.toInt.toNat

theorem slotIn_of_origin {item : Variable} {cell : Cell} (origin : item.origin = some cell) :
    slotIn item = cell.offset.toInt.toNat := by
  rw [slotIn, Variable.cell, origin, Option.getD_some]

theorem Coherent.nodup_slotIn (coherent : graph.Coherent) {root : VarId} {slots : Slots}
    (spans : graph.Spans root slots) : ((graph.derivedFrom root).map slotIn).Nodup := by
  refine (coherent.nodup_derivedFrom root).map_on ?_
  intro item member other beside same
  obtain ⟨cell, origin, atRoot, low, _⟩ := coherent.cell_of_derived spans member
  obtain ⟨cell', origin', atRoot', low', _⟩ := coherent.cell_of_derived spans beside
  rw [slotIn_of_origin origin, slotIn_of_origin origin'] at same
  have bases : cell'.base = cell.base := atRoot'.trans atRoot.symm
  have offsets : cell'.offset = cell.offset := Int64.toInt_inj.mp (by omega)
  have cells : cell' = cell := calc cell'
    _ = ⟨cell'.base, cell'.offset⟩ := rfl
    _ = ⟨cell.base, cell.offset⟩ := by rw [bases, offsets]
  rw [cells] at origin'
  exact coherent.eq_of_origin (mem_derivedFrom.mp member).1 (mem_derivedFrom.mp beside).1
    origin origin'

/-- The slots of the objects derived from a root are different ones past its first. -/
theorem Coherent.length_derivedFrom_le (coherent : graph.Coherent) {root : VarId} {slots : Slots}
    (spans : graph.Spans root slots) : (graph.derivedFrom root).length ≤ slots.count - 1 := by
  have within : (graph.derivedFrom root).map slotIn ⊆ List.range' 1 (slots.count - 1) := by
    intro number member
    obtain ⟨item, inside, rfl⟩ := List.mem_map.mp member
    obtain ⟨cell, origin, _, low, high⟩ := coherent.cell_of_derived spans inside
    rw [List.mem_range'_1, slotIn_of_origin origin]
    omega
  calc (graph.derivedFrom root).length
    _ = ((graph.derivedFrom root).map slotIn).length := (List.length_map slotIn).symm
    _ ≤ (List.range' 1 (slots.count - 1)).length :=
      (List.subperm_of_subset (coherent.nodup_slotIn spans) within).length_le
    _ = slots.count - 1 := List.length_range'

/-- What holds of a graph however it was built and however it goes on to grow. Ids are distinct and
below the next one, earlier variables stay first and as they are, cells and derived objects belong
to each other, and those of a root with slots are at different slots past its first. -/
theorem representation_of_leads (built : first.Built) (led : first.Leads last) :
    last.Coherent ∧ first.Extends last ∧ first.ids <+: last.ids ∧
      ∀ (root : VarId) (slots : Slots), last.Spans root slots →
        (∀ item ∈ last.derivedFrom root, ∃ cell, item.origin = some cell ∧
          0 < cell.offset.toInt ∧ cell.offset.toInt < slots.count) ∧
        (last.derivedFrom root).length ≤ slots.count - 1 := by
  have coherent := (led.built built).coherent
  refine ⟨coherent, led.extends built, led.ids, fun root slots spans => ⟨?_, ?_⟩⟩
  · intro item member
    obtain ⟨cell, origin, _, inside⟩ := coherent.cell_of_derived spans member
    exact ⟨cell, origin, inside⟩
  · exact coherent.length_derivedFrom_le spans

def ring : Graph :=
  let scalars := (Layout.Table.empty.add (.int 32)).2
  ((Graph.new (scalars.add (.array ⟨0⟩ 4)).2).declare ⟨1⟩ (.location .stack (some ⟨1⟩))).2

def ringDerived : Graph := (((ring.derive ⟨1⟩ 5).2.derive ⟨2⟩ (-3)).2.derive ⟨1⟩ 9).2

theorem representation_of_leads_ring :
    ringDerived.ids = [⟨1⟩, ⟨2⟩, ⟨3⟩] ∧ ringDerived.Coherent ∧
      (ringDerived.derivedFrom ⟨1⟩).length ≤ 3 := by
  have built : ring.Built := .declare (.new _) _ _
  have led : ring.Leads ringDerived := .derive (.derive (.derive .refl _ _) _ _) _ _
  obtain ⟨coherent, _, _, bounded⟩ := representation_of_leads built led
  have spans : ringDerived.Spans ⟨1⟩ ⟨4, by decide⟩ :=
    ⟨⟨_, .stack, ⟨1⟩, rfl, rfl, rfl⟩, by decide⟩
  exact ⟨rfl, coherent, (bounded ⟨1⟩ ⟨4, by decide⟩ spans).2⟩

end CellMemory.Graph
