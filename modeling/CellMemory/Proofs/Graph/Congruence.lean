import CellMemory.Proofs.Graph.Request
import Mathlib.Data.Int.ModEq

/-! Offsets that differ by a multiple of the root's slots. Counted from the root they lead to one place,
so requests with them have one answer. They are counted in 64 bits, though: where an offset is too
far from the root of a derived object the request fails, whatever is answered to a congruent one. -/

namespace CellMemory.Graph

variable {graph : Graph} {base : VarId} {item root : Variable} {slots : Slots}
  {offset first second : Int64}

theorem Spans.reduce_eq {id : VarId} (spans : graph.Spans id slots) (total : Int) :
    graph.reduce id total = total % slots.count := by
  obtain ⟨top, region, ty, found, node, counted⟩ := spans.typed
  have known : graph.node id = .ok top.node := by simp only [Graph.node, found]
  simp only [reduce, known, node, counted, if_pos spans.positive]

theorem Spans.sized (spans : graph.Spans root.id slots) (rooted : graph.find? root.id = some root) :
    graph.Sized root := by
  obtain ⟨top, region, ty, found, node, counted⟩ := spans.typed
  cases Option.some.inj (found.symm.trans rooted)
  refine ⟨⟨region, some ty, node⟩, ?_⟩
  intro other kind same
  cases node.symm.trans same
  exact ⟨slots, counted⟩

theorem Coherent.kind_of_spans (coherent : graph.Coherent) (found : graph.find? base = some item)
    (spans : graph.Spans item.cell.base slots) : item.node.kind = .object := by
  obtain ⟨root, rooted, _, node⟩ := coherent.root_of_cell found
  obtain ⟨top, region, ty, known, shape, _⟩ := spans.typed
  cases Option.some.inj (known.symm.trans rooted)
  rw [node, shape]
  rfl

theorem Coherent.locate_of_spans (coherent : graph.Coherent)
    (found : graph.find? base = some item) (spans : graph.Spans item.cell.base slots)
    (fits : Numeral.Fits (item.total offset)) :
    ∃ root distance, graph.locate base offset = .ok (root, distance) ∧
      graph.find? item.cell.base = some root ∧ distance.toInt = item.total offset % slots.count := by
  have kind := coherent.kind_of_spans found spans
  obtain ⟨root, aims, rooted, _⟩ := coherent.aims found kind fits
  have id := id_of_find? rooted
  rw [← id] at spans
  obtain ⟨distance, located, exact⟩ := aims.locate_sized (spans.sized aims.rooted)
  rw [spans.reduce_eq] at exact
  exact ⟨root, distance, located, rooted, exact⟩

theorem Coherent.locate_congr (coherent : graph.Coherent) (found : graph.find? base = some item)
    (spans : graph.Spans item.cell.base slots)
    (congruent : first.toInt ≡ second.toInt [ZMOD slots.count])
    (firstFits : Numeral.Fits (item.total first)) (secondFits : Numeral.Fits (item.total second)) :
    graph.locate base first = graph.locate base second := by
  obtain ⟨root, distance, located, rooted, exact⟩ :=
    coherent.locate_of_spans found spans firstFits
  obtain ⟨other, apart, reached, known, remainder⟩ :=
    coherent.locate_of_spans found spans secondFits
  cases Option.some.inj (rooted.symm.trans known)
  have totals : item.total first ≡ item.total second [ZMOD slots.count] := congruent.add_left _
  have same : distance = apart := by
    apply Int64.toInt_inj.mp
    rw [exact, remainder, totals]
  rw [located, reached, same]

theorem Coherent.derive_after (coherent : graph.Coherent)
    (same : graph.locate base first = graph.locate base second) :
    ((graph.derive base first).2.derive base second).1 = (graph.derive base first).1 := by
  have alike : graph.derive base second = graph.derive base first := by
    simp only [Graph.derive, same]
  cases derived : graph.derive base first with
  | mk answer later =>
    rw [derived] at alike
    cases answer with
    | error fault =>
      cases derive_error_graph derived
      rw [alike]
    | ok id => rw [coherent.derive_again alike (.refl later)]

theorem derive_of_not_fits (found : graph.find? base = some item)
    (kind : item.node.kind = .object) (beyond : ¬Numeral.Fits (item.total offset)) :
    graph.derive base offset = (.error (.overflow .derivedOffset), graph) :=
  derive_of_locate_error (locate_of_not_fits found kind beyond)

theorem derive_ne_of_located {place : Variable × Int64}
    (located : graph.locate base offset = .ok place) :
    (graph.derive base offset).1 ≠ .error (.overflow .derivedOffset) := by
  have outcome := derivation graph base offset
  generalize graph.derive base offset = result at outcome ⊢
  cases outcome with
  | refused refused =>
    rw [located] at refused
    cases refused
  | root | known | fresh => exact nofun
  | full => simp

/-- Two requests from one object with congruent offsets have the same outcome, one after the other,
exactly if both are within 64 bits of the root or neither is. From a declared object all are; from
a derived one a request that is not fails and leaves the graph as it is. -/
theorem derive_congr_iff (built : graph.Built) (found : graph.find? base = some item)
    (spans : graph.Spans item.cell.base slots)
    (congruent : first.toInt ≡ second.toInt [ZMOD slots.count]) :
    (((graph.derive base first).2.derive base second).1 = (graph.derive base first).1 ↔
      (Numeral.Fits (item.total first) ↔ Numeral.Fits (item.total second))) ∧
    (item.origin = none → ∀ offset, Numeral.Fits (item.total offset)) ∧
    ∀ offset, ¬Numeral.Fits (item.total offset) →
      graph.derive base offset = (.error (.overflow .derivedOffset), graph) := by
  have coherent := built.coherent
  have kind := coherent.kind_of_spans found spans
  have refused : ∀ offset, ¬Numeral.Fits (item.total offset) →
      graph.derive base offset = (.error (.overflow .derivedOffset), graph) :=
    fun _ beyond => derive_of_not_fits found kind beyond
  have grown := coherent.extends_derive base first
  refine ⟨?_, ?_, refused⟩
  · by_cases firstFits : Numeral.Fits (item.total first)
    · by_cases secondFits : Numeral.Fits (item.total second)
      · have same := coherent.locate_congr found spans congruent firstFits secondFits
        exact iff_of_true (coherent.derive_after same) (iff_of_true firstFits secondFits)
      · obtain ⟨root, distance, located, _⟩ := coherent.locate_of_spans found spans firstFits
        have later := derive_of_not_fits (grown.vars base item found) kind secondFits
        rw [later]
        refine iff_of_false (fun same => derive_ne_of_located located same.symm) ?_
        exact fun both => secondFits (both.mp firstFits)
    · rw [refused first firstFits]
      by_cases secondFits : Numeral.Fits (item.total second)
      · obtain ⟨root, distance, located, _⟩ := coherent.locate_of_spans found spans secondFits
        refine iff_of_false (derive_ne_of_located located) ?_
        exact fun both => firstFits (both.mpr secondFits)
      · rw [refused second secondFits]
        exact iff_of_true rfl (iff_of_false firstFits secondFits)
  · intro declared offset
    exact Variable.fits_of_declared declared offset

theorem spans_ringDerived : ringDerived.find? ⟨2⟩ =
      some ⟨⟨2⟩, .location .stack (some ⟨1⟩), some ⟨⟨1⟩, 1⟩⟩ ∧
    ringDerived.Spans ⟨1⟩ ⟨4, by decide⟩ :=
  ⟨rfl, ⟨⟨_, .stack, ⟨1⟩, rfl, rfl, rfl⟩, by decide⟩⟩

/-- Three slots on from there is the root, and so is five slots back. -/
theorem derive_congr_iff_ring :
    ((ringDerived.derive ⟨2⟩ 3).2.derive ⟨2⟩ (-5)).1 = (ringDerived.derive ⟨2⟩ 3).1 := by
  obtain ⟨found, spans⟩ := spans_ringDerived
  have congruent : (3 : Int64).toInt ≡ (-5 : Int64).toInt [ZMOD 4] := by decide
  obtain ⟨alike, _, _⟩ := derive_congr_iff built_ringDerived found spans congruent
  exact alike.mpr (by decide)

/-- The largest offset leaves three when divided by four, and one slot more is out of range. -/
theorem not_derive_congr :
    ¬∀ (graph : Graph) (base : VarId) (item : Variable) (slots : Slots) (first second : Int64),
      graph.Built → graph.find? base = some item → graph.Spans item.cell.base slots →
        first.toInt ≡ second.toInt [ZMOD slots.count] →
          ((graph.derive base first).2.derive base second).1 = (graph.derive base first).1 := by
  intro modulo
  obtain ⟨found, spans⟩ := spans_ringDerived
  have congruent : (0x7fffffffffffffff : Int64).toInt ≡ (3 : Int64).toInt [ZMOD 4] := by decide
  have same := modulo ringDerived ⟨2⟩ _ _ _ _ built_ringDerived found spans congruent
  cases same

end CellMemory.Graph
