import CellMemory.Proofs.Graph.Congruence

/-! Requests one after the other, each from the answer to the one before. Where they end depends on
the slots they come to together: one request with that many slots, or in a root whose slots are
known with a number congruent to it, has the same answer. It is counted from the root in 64 bits,
though, and fails where it is beyond them. -/

namespace CellMemory.Graph

/-- Requests in turn, each from the answer to the one before. The first that fails ends them. -/
def deriveAll (graph : Graph) (base : VarId) : List Int64 → Except Fault VarId × Graph
  | [] => (.ok base, graph)
  | offset :: offsets =>
    match graph.derive base offset with
    | (.error fault, graph) => (.error fault, graph)
    | (.ok id, graph) => deriveAll graph id offsets

def slotsOf (offsets : List Int64) : Int := (offsets.map Int64.toInt).sum

variable {first graph later : Graph} {base last : VarId} {item : Variable} {offset : Int64}
  {offsets : List Int64}

theorem slotsOf_cons (offset : Int64) (offsets : List Int64) :
    slotsOf (offset :: offsets) = offset.toInt + slotsOf offsets := rfl

theorem deriveAll_cons_ok
    (chained : graph.deriveAll base (offset :: offsets) = (.ok last, later)) :
    ∃ id middle, graph.derive base offset = (.ok id, middle) ∧
      middle.deriveAll id offsets = (.ok last, later) := by
  rw [deriveAll] at chained
  cases derived : graph.derive base offset with
  | mk answer middle =>
    cases answer with
    | error fault => simp [derived] at chained
    | ok id =>
      simp only [derived] at chained
      exact ⟨id, middle, rfl, chained⟩

theorem Leads.deriveAll (led : first.Leads graph) (base : VarId) (offsets : List Int64) :
    first.Leads (graph.deriveAll base offsets).2 := by
  induction offsets generalizing graph base with
  | nil => exact led
  | cons offset offsets ih =>
    have next := led.derive base offset
    rw [Graph.deriveAll]
    cases derived : graph.derive base offset with
    | mk answer middle =>
      rw [derived] at next
      cases answer with
      | error fault => exact next
      | ok id => exact ih next id

theorem Coherent.place_of_deriveAll (coherent : graph.Coherent)
    (found : graph.find? base = some item)
    (chained : graph.deriveAll base offsets = (.ok last, later)) :
    ∃ object, later.find? last = some object ∧ object.cell.place =
      ⟨item.cell.base,
        graph.reduce item.cell.base (item.cell.offset.toInt + slotsOf offsets)⟩ := by
  induction offsets generalizing graph base item with
  | nil =>
    cases chained
    refine ⟨item, found, ?_⟩
    rw [slotsOf, List.map_nil, List.sum_nil, Int.add_zero, coherent.reduce_cell found]
    rfl
  | cons offset offsets ih =>
    obtain ⟨id, middle, derived, rest⟩ := deriveAll_cons_ok chained
    have kept := coherent.derive base offset
    have grown := coherent.extends_derive base offset
    rw [derived] at kept grown
    obtain ⟨root, rooted, _, _⟩ := coherent.root_of_cell found
    obtain ⟨next, reached, place⟩ := coherent.place_of_derive derived
    rw [target, cellOf_of_find? found, Cell.place, Place.mk.injEq] at place
    obtain ⟨object, ending, there⟩ := ih kept reached rest
    refine ⟨object, ending, ?_⟩
    calc object.cell.place
      _ = ⟨next.cell.base, middle.reduce next.cell.base
            (next.cell.offset.toInt + slotsOf offsets)⟩ := there
      _ = ⟨item.cell.base, graph.reduce item.cell.base (graph.reduce item.cell.base
            (item.cell.offset.toInt + offset.toInt) + slotsOf offsets)⟩ := by
        rw [place.1, place.2, grown.reduce_eq rooted]
      _ = ⟨item.cell.base, graph.reduce item.cell.base
            (item.cell.offset.toInt + slotsOf (offset :: offsets))⟩ := by
        rw [reduce_add, slotsOf_cons, Int.add_assoc]

theorem kind_of_locate {place : Variable × Int64}
    (located : graph.locate base offset = .ok place) (found : graph.find? base = some item) :
    item.node.kind = .object := by
  cases kind : item.node.kind with
  | object => rfl
  | value =>
    rw [locate_of_value found kind] at located
    cases located

theorem Coherent.locate_of_locate (coherent : graph.Coherent) {root : Variable}
    {distance other : Int64} (located : graph.locate base offset = .ok (root, distance))
    (found : graph.find? base = some item) (fits : Numeral.Fits (item.total other)) :
    ∃ apart, graph.locate base other = .ok (root, apart) := by
  obtain ⟨object, total, place⟩ := coherent.located located
  cases Option.some.inj (place.found.symm.trans found)
  obtain ⟨top, aims, rooted, _⟩ := coherent.aims found (kind_of_locate located found) fits
  rw [place.base] at rooted
  cases Option.some.inj (rooted.symm.trans place.rooted)
  have listed := listed_of_distance place.reached
  obtain ⟨apart, reached⟩ := distance_of_listed listed (Int64.ofInt (item.total other))
  exact ⟨apart, by rw [aims.locate_eq, reached]; rfl⟩

theorem reduce_of_congruent {root : VarId} {slots other : Int}
    (alike : slots = other ∨
      ∃ count, graph.Spans root count ∧ slots ≡ other [ZMOD count.count]) (start : Int) :
    graph.reduce root (start + slots) = graph.reduce root (start + other) := by
  rcases alike with equal | ⟨count, spans, congruent⟩
  · rw [equal]
  · rw [spans.reduce_eq, spans.reduce_eq]
    exact congruent.add_left start

theorem Coherent.locate_of_deriveAll (coherent : graph.Coherent) (nonempty : offsets ≠ [])
    (chained : graph.deriveAll base offsets = (.ok last, later)) :
    ∃ start root distance, graph.locate base start = .ok (root, distance) := by
  cases offsets with
  | nil => exact absurd rfl nonempty
  | cons start offsets =>
    obtain ⟨id, middle, derived, _⟩ := deriveAll_cons_ok chained
    obtain ⟨root, distance, _, located, _⟩ := coherent.derive_ok derived
    exact ⟨start, root, distance, located⟩

/-- A request for as many slots as a chain of requests went comes to where the chain ended, unless it
is beyond 64 bits from the root. Where the slots of the root are known a congruent number does as
well. From a declared object no request is beyond them. -/
theorem derive_of_deriveAll (built : graph.Built) (found : graph.find? base = some item)
    (nonempty : offsets ≠ []) (chained : graph.deriveAll base offsets = (.ok last, later))
    (alike : offset.toInt = slotsOf offsets ∨
      ∃ slots, graph.Spans item.cell.base slots ∧
        offset.toInt ≡ slotsOf offsets [ZMOD slots.count]) :
    (later.derive base offset = (.ok last, later) ∨
      later.derive base offset = (.error (.overflow .derivedOffset), later) ∧
        ¬Numeral.Fits (item.total offset)) ∧
    (item.origin = none → later.derive base offset = (.ok last, later)) := by
  have coherent := built.coherent
  have led : graph.Leads later := by
    have steps : graph.Leads _ := Leads.refl.deriveAll base offsets
    rwa [chained] at steps
  have kept := (led.built built).coherent
  have grown := led.extends built
  have held := grown.vars base item found
  obtain ⟨start, root, distance, located⟩ := coherent.locate_of_deriveAll nonempty chained
  have answered : Numeral.Fits (item.total offset) →
      later.derive base offset = (.ok last, later) := by
    intro fits
    obtain ⟨object, ending, there⟩ := coherent.place_of_deriveAll found chained
    obtain ⟨apart, reached⟩ := kept.locate_of_locate (grown.locate located) held fits
    refine kept.derive_of_place reached ending ?_
    rw [there, coherent.target_of_extends grown found, target, cellOf_of_find? found,
      reduce_of_congruent alike]
  constructor
  · by_cases fits : Numeral.Fits (item.total offset)
    · exact .inl (answered fits)
    · exact .inr ⟨derive_of_not_fits held (kind_of_locate located found) fits, fits⟩
  · intro declared
    exact answered (Variable.fits_of_declared declared offset)

/-- Three requests from a root of four slots go further together than a numeral can tell, by way of the
root itself. Two slots back the object is the same one. From an object one slot past the root the
largest offset is too far, although it is congruent to the three slots that lead to the root. -/
theorem derive_of_deriveAll_ring :
    (∃ later, ring.deriveAll ⟨1⟩ [0x7fffffffffffffff, 1, 2] = (.ok ⟨3⟩, later) ∧
      ¬Numeral.Fits (slotsOf [0x7fffffffffffffff, 1, 2]) ∧
        later.derive ⟨1⟩ (-2) = (.ok ⟨3⟩, later)) ∧
    ringDerived.deriveAll ⟨2⟩ [3] = (.ok ⟨1⟩, ringDerived) ∧
      ringDerived.derive ⟨2⟩ 0x7fffffffffffffff =
        (.error (.overflow .derivedOffset), ringDerived) := by
  have built : ring.Built := .declare (.new _) _ _
  have spans : ring.Spans ⟨1⟩ ⟨4, by decide⟩ := ⟨⟨_, .stack, ⟨1⟩, rfl, rfl, rfl⟩, by decide⟩
  have declared : ring.find? ⟨1⟩ = some ⟨⟨1⟩, .location .stack (some ⟨1⟩), none⟩ := rfl
  have chained : ring.deriveAll ⟨1⟩ [0x7fffffffffffffff, 1, 2] = (.ok ⟨3⟩, _) := rfl
  have around : (-2 : Int64).toInt ≡ slotsOf [0x7fffffffffffffff, 1, 2] [ZMOD 4] := by decide
  have fromRoot :=
    derive_of_deriveAll built declared (by decide) chained (.inr ⟨_, spans, around⟩)
  obtain ⟨found, derivedSpans⟩ := spans_ringDerived
  have single : ringDerived.deriveAll ⟨2⟩ [3] = (.ok ⟨1⟩, ringDerived) := rfl
  have far : (0x7fffffffffffffff : Int64).toInt ≡ slotsOf [3] [ZMOD 4] := by decide
  have fromCell :=
    derive_of_deriveAll built_ringDerived found (by decide) single (.inr ⟨_, derivedSpans, far⟩)
  refine ⟨⟨_, chained, by decide, fromRoot.2 rfl⟩, single, ?_⟩
  rcases fromCell.1 with answered | ⟨refused, _⟩
  · cases answered
  · exact refused

end CellMemory.Graph
