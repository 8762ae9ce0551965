import CellMemory.Proofs.Session.Coherence

/-! What failing operations leave behind. The graph makes the object of a new cell before the object
asks for an address, so where ids have outgrown the addresses a request fails and the object stays.
Every other failure leaves the session as it was. -/

namespace CellMemory.Session

/-- The request is the first for a cell, and the next id of the graph is too large to have an
address. -/
structure Overfull (session : Session) (operation : Operation) (root : Variable)
    (distance : Int64) : Prop where
  requested : ∃ pointer offset base address, session.query operation = some (pointer, offset) ∧
    session.pointee pointer = .ok (base, address) ∧
      session.graph.locate base offset = .ok (root, distance)
  apart : distance ≠ 0
  unknown : session.graph.derived[Cell.mk root.id distance]? = none
  large : Address.idLimit ≤ session.graph.nextId
  room : session.graph.nextId < 0x100000000

variable {session : Session}

/-- Resolving fails with a changed state only when a fresh object finds no address. -/
theorem Resolution.unchanged_or_fresh {base : VarId} {offset : Int64} {reply : Reply Session Expr}
    (resolution : session.Resolution base offset reply) {fault : Fault}
    (failed : reply.answer = .error fault) :
    reply.state = session ∨
      ∃ root distance, session.graph.locate base offset = .ok (root, distance) ∧ distance ≠ 0 ∧
        session.graph.derived[Cell.mk root.id distance]? = none ∧
          Address.idLimit ≤ session.graph.nextId ∧ session.graph.nextId < 0x100000000 := by
  cases resolution with
  | reused | itself | settled => cases failed
  | refused => exact .inl rfl
  | full unknown reached other large =>
    have outcome := Graph.derivation session.graph base offset
    rw [reached] at outcome
    cases outcome with
    | root | known => exact .inl rfl
    | @fresh root distance located apart noCell room =>
      rw [Graph.toNat_freshId room] at large
      exact .inr ⟨root, distance, located, apart, noCell, large, room⟩

theorem Coherent.unchanged_or_overfull (coherent : session.Coherent) {operation : Operation}
    {fault : Fault} (failed : (session.perform operation).answer = .error fault) :
    (session.perform operation).state = session ∨
      ∃ root distance, session.Overfull operation root distance := by
  have effect := coherent.effect operation
  generalize session.perform operation = reply at effect failed ⊢
  cases effect with
  | refused => exact .inl rfl
  | told | bound | written | loaded | assumed => cases failed
  | @resolved _ pointer offset base address inner counting asked pointed resolution =>
    cases answered : inner.answer with
    | ok expr =>
      rw [answered] at failed
      cases failed
    | error cause =>
      rcases resolution.unchanged_or_fresh answered with
        same | ⟨root, distance, located, apart, unknown, large, room⟩
      · exact .inl same
      · exact .inr ⟨root, distance, ⟨pointer, offset, base, address, asked, pointed, located⟩,
          apart, unknown, large, room⟩

theorem Coherent.perform_of_overfull (coherent : session.Coherent) {operation : Operation}
    {root : Variable} {distance : Int64} (overfull : session.Overfull operation root distance) :
    (session.perform operation).answer = .error (.addressSpaceExhausted session.graph.freshId) ∧
      (session.perform operation).state =
        { session with graph := session.graph.withCell root distance } := by
  rcases overfull.requested with ⟨pointer, offset, base, address, asked, pointed, located⟩
  have derived := Graph.derive_of_unknown located overfull.apart overfull.unknown overfull.room
  have grown := session.graph.withCell_ne root distance
  obtain ⟨steps, performed⟩ := perform_of_query asked
  rw [performed]
  have resolution := coherent.resolution pointed offset
  generalize session.resolve pointer offset = reply at resolution
  cases resolution with
  | @reused known' _ known bound =>
    have again := (coherent.memo base offset known' known).2.2.2
    exact absurd (congrArg Prod.snd (derived.symm.trans again)) grown
  | refused unknown reached => cases derived.symm.trans reached
  | itself unknown reached bound =>
    exact absurd (congrArg Prod.snd (derived.symm.trans reached)) grown
  | full unknown reached other large =>
    cases derived.symm.trans reached
    exact ⟨rfl, rfl⟩
  | settled unknown reached other placed =>
    cases derived.symm.trans reached
    have fits := (AddressSpace.place_eq_ok_iff.mp placed).1
    rw [Graph.toNat_freshId overfull.room] at fits
    exact absurd overfull.large (Nat.not_le_of_lt fits)

/-- An operation that fails leaves the session as it was, unless it is a request that found the
graph overfull. Such a request fails for want of an address, and all that it changes is that the
graph has the object of the cell. -/
theorem unchanged_of_error {graph : Graph} {settings : Settings} {events : List Event}
    {later : Session} (built : graph.Built)
    (started : Session.start graph settings = .ok (session, events))
    (reached : session.Reaches later) (operation : Operation) :
    (∀ fault, (later.perform operation).answer = .error fault →
      (later.perform operation).state = later ∨
        ∃ root distance, later.Overfull operation root distance) ∧
    ∀ root distance, later.Overfull operation root distance →
      (later.perform operation).answer = .error (.addressSpaceExhausted later.graph.freshId) ∧
        (later.perform operation).state =
          { later with graph := later.graph.withCell root distance } := by
  have coherent := reached.coherent (coherent_of_start built started)
  constructor
  · intro fault failed
    exact coherent.unchanged_or_overfull failed
  · intro root distance overfull
    exact coherent.perform_of_overfull overfull

/-- The last location that has an address, and the request for the slot after it. -/
theorem unchanged_of_error_last :
    ∃ events, Session.start (.single ⟨0xffffff⟩) .standard = .ok (single ⟨0xffffff⟩, events) ∧
      ((single ⟨0xffffff⟩).perform (.resolve (.num 0x7fffffff) 1)).state ≠ single ⟨0xffffff⟩ ∧
      ((single ⟨0xffffff⟩).perform (.resolve (.num 0x7fffffff) 1)).state.memory =
        (single ⟨0xffffff⟩).memory := by
  have started : Session.start (.single ⟨0xffffff⟩) .standard = .ok (single ⟨0xffffff⟩, _) := rfl
  have settled := unchanged_of_error (Graph.built_single ⟨0xffffff⟩) started (.refl _)
    (.resolve (.num 0x7fffffff) 1)
  have overfull : (single ⟨0xffffff⟩).Overfull (.resolve (.num 0x7fffffff) 1)
      ⟨⟨0xffffff⟩, .location .heap none, none⟩ 1 :=
    ⟨⟨_, _, ⟨0xffffff⟩, 0x7fffffff, rfl, rfl, rfl⟩, by decide, rfl, by decide, by decide⟩
  obtain ⟨answer, state⟩ := settled.2 _ _ overfull
  refine ⟨_, started, ?_, ?_⟩
  · rw [state]
    intro same
    exact Graph.withCell_ne _ _ _ (congrArg Session.graph same)
  · rw [state]

theorem not_unchanged_of_error :
    ¬ ∀ (graph : Graph) (settings : Settings) (session later : Session) (events : List Event)
      (operation : Operation) (fault : Fault), graph.Built →
      Session.start graph settings = .ok (session, events) → session.Reaches later →
      (later.perform operation).answer = .error fault →
        (later.perform operation).state = later := by
  intro unchanged
  have same := unchanged (.single ⟨0xffffff⟩) .standard (single ⟨0xffffff⟩) _ _
    (.resolve (.num 0x7fffffff) 1) (.addressSpaceExhausted ⟨0x1000000⟩) (Graph.built_single _) rfl
    (.refl _) rfl
  have sameCount : 0x1000001 = 0x1000000 := congrArg (fun session => session.graph.nextId) same
  omega

end CellMemory.Session
