import CellMemory.Proofs.Session.Run

/-! What a successful request does to the bindings. Only the object it selects can be bound anew, and a
memo entry or the base itself is only read. On any other way to an object the request binds it to
its address once more, so what was bound to it by hand is lost. -/

namespace CellMemory.Session

open Address (numeral)

/-- The request comes to an offset from a base, and they lead to the object. -/
structure Selects (session : Session) (operation : Operation) (base : VarId) (offset : Int64)
    (derived : VarId) : Prop where
  requested : ∃ pointer address, session.query operation = some (pointer, offset) ∧
    session.pointee pointer = .ok (base, address)
  reached : (session.graph.derive base offset).1 = .ok derived

/-- Every binding outlives the operation, and one that the object had is the answer. -/
def Keeps (session : Session) (operation : Operation) (derived : VarId) : Prop :=
  (∀ id expr, session.lookup id = .ok expr →
    (session.perform operation).state.lookup id = .ok expr) ∧
  ∀ expr, session.lookup derived = .ok expr →
    (session.perform operation).answer = .ok (.expr expr)

/-- The object was bound to something else than its address, and neither is it the base nor does the
memo know it by this base and offset. -/
structure Rebinds (session : Session) (base : VarId) (offset : Int64) (derived : VarId) :
    Prop where
  unknown : session.memo[Cell.mk base offset]? = none
  other : derived ≠ base
  bound : ∃ expr, session.lookup derived = .ok expr ∧
    expr ≠ .num (numeral (session.addresses.mask ||| derived.number))

variable {session : Session}

theorem Coherent.selects (coherent : session.Coherent) {operation : Operation} {answer : Answer}
    (request : operation.isRequest = true)
    (answered : (session.perform operation).answer = .ok answer) :
    ∃ base offset derived, session.Selects operation base offset derived := by
  obtain ⟨pointer, offset, base, address, asked, pointed⟩ := coherent.requested request answered
  obtain ⟨expr, told, resolved⟩ := answer_of_query asked answered
  have allocated := coherent.allocated_of_pointee pointed
  obtain ⟨derived, reached, _⟩ :=
    (coherent.resolution pointed offset).answered coherent allocated resolved
  exact ⟨base, offset, derived, ⟨pointer, address, asked, pointed⟩, congrArg Prod.fst reached⟩

theorem Resolution.read_or_bound {base derived : VarId} {offset : Int64}
    {reply : Reply Session Expr} (resolution : session.Resolution base offset reply)
    (coherent : session.Coherent)
    (reached : (session.graph.derive base offset).1 = .ok derived) {expr : Expr}
    (answered : reply.answer = .ok expr) :
    (reply.state = session ∧ session.lookup derived = .ok expr ∧
      ¬session.Rebinds base offset derived) ∨
    (session.memo[Cell.mk base offset]? = none ∧ derived ≠ base ∧
      expr = .num (numeral (session.addresses.mask ||| derived.number)) ∧
        reply.state.store = session.store.bind derived expr) := by
  cases resolution with
  | refused | full => cases answered
  | @reused known' _ known bound =>
    cases answered
    have again := (coherent.memo base offset known' known).2.2.2
    cases reached.symm.trans (congrArg Prod.fst again)
    refine .inl ⟨rfl, bound, ?_⟩
    intro rebinds
    cases known.symm.trans rebinds.unknown
  | itself unknown again bound =>
    cases answered
    cases reached.symm.trans (congrArg Prod.fst again)
    exact .inl ⟨rfl, bound, fun rebinds => rebinds.other rfl⟩
  | settled unknown again other placed =>
    cases answered
    cases reached.symm.trans (congrArg Prod.fst again)
    obtain ⟨fits, place⟩ := AddressSpace.place_eq_ok_iff.mp placed
    subst place
    exact .inr ⟨unknown, other, rfl, rfl⟩

theorem Resolution.lookup {base derived : VarId} {offset : Int64} {reply : Reply Session Expr}
    (resolution : session.Resolution base offset reply) (coherent : session.Coherent)
    (reached : (session.graph.derive base offset).1 = .ok derived) {expr : Expr}
    (answered : reply.answer = .ok expr) (id : VarId) :
    reply.state.lookup id = if id = derived then .ok expr else session.lookup id := by
  rcases resolution.read_or_bound coherent reached answered with
    ⟨same, bound, _⟩ | ⟨_, _, _, store⟩
  · rw [same]
    split
    · next selected => rw [selected, bound]
    · rfl
  · have rebound := Store.lookup_bind session.store derived id expr
    rw [← store] at rebound
    exact rebound

/-- A request binds its object anew exactly if the answer is not what the object was bound to. -/
theorem Resolution.rebinds_iff {base derived : VarId} {offset : Int64} {reply : Reply Session Expr}
    (resolution : session.Resolution base offset reply) (coherent : session.Coherent)
    (reached : (session.graph.derive base offset).1 = .ok derived) {expr : Expr}
    (answered : reply.answer = .ok expr) :
    session.Rebinds base offset derived ↔
      ∃ old, session.lookup derived = .ok old ∧ old ≠ expr := by
  rcases resolution.read_or_bound coherent reached answered with
    ⟨_, bound, kept⟩ | ⟨unknown, other, address, _⟩
  · constructor
    · intro rebinds
      exact absurd rebinds kept
    · rintro ⟨old, before, differs⟩
      exact absurd (Except.ok.inj (before.symm.trans bound)) differs
  · subst address
    constructor
    · intro rebinds
      exact rebinds.bound
    · intro bound
      exact ⟨unknown, other, bound⟩

theorem keeps_iff {operation : Operation} {derived : VarId} {expr : Expr}
    (answered : (session.perform operation).answer = .ok (.expr expr))
    (after : ∀ id, (session.perform operation).state.lookup id =
      if id = derived then .ok expr else session.lookup id) :
    session.Keeps operation derived ↔ ¬∃ old, session.lookup derived = .ok old ∧ old ≠ expr := by
  constructor
  · rintro ⟨kept, answer⟩ ⟨old, before, differs⟩
    cases answered.symm.trans (answer old before)
    exact differs rfl
  · intro agreed
    have same : ∀ old, session.lookup derived = .ok old → old = expr := by
      intro old before
      by_contra differs
      exact agreed ⟨old, before, differs⟩
    constructor
    · intro id old before
      rw [after]
      split
      · next selected =>
        subst selected
        rw [same old before]
      · exact before
    · intro old before
      rw [answered, same old before]

/-- A request that succeeds keeps every binding, and answers the binding of the object it selects,
unless it comes to bind the object anew. Then the object is bound to its address, which is the
answer. -/
theorem keeps_iff_not_rebinds {graph : Graph} {settings : Settings} {events : List Event}
    {later : Session} (built : graph.Built)
    (started : Session.start graph settings = .ok (session, events))
    (reached : session.Reaches later) {operation : Operation} {answer : Answer}
    (request : operation.isRequest = true)
    (answered : (later.perform operation).answer = .ok answer) :
    (∃ base offset derived, later.Selects operation base offset derived) ∧
    ∀ base offset derived, later.Selects operation base offset derived →
      (later.Keeps operation derived ↔ ¬later.Rebinds base offset derived) ∧
      (∀ id, id ≠ derived → (later.perform operation).state.lookup id = later.lookup id) ∧
      ∃ expr, answer = .expr expr ∧
        (later.perform operation).state.lookup derived = .ok expr ∧
        (later.Rebinds base offset derived →
          expr = .num (numeral (later.addresses.mask ||| derived.number))) := by
  have coherent := reached.coherent (coherent_of_start built started)
  refine ⟨coherent.selects request answered, ?_⟩
  intro base offset derived selects
  rcases selects.requested with ⟨pointer, address, asked, pointed⟩
  have resolution := coherent.resolution pointed offset
  obtain ⟨expr, rfl, resolved⟩ := answer_of_query asked answered
  have after := resolution.lookup coherent selects.reached resolved
  have rebinds := resolution.rebinds_iff coherent selects.reached resolved
  rw [← state_of_query asked] at after
  refine ⟨?_, ?_, expr, rfl, ?_, ?_⟩
  · rw [rebinds]
    exact keeps_iff answered after
  · intro id unselected
    rw [after, if_neg unselected]
  · rw [after, if_pos rfl]
  · intro anew
    rcases resolution.read_or_bound coherent selects.reached resolved with
      ⟨_, _, kept⟩ | ⟨_, _, address, _⟩
    · exact absurd anew kept
    · exact address

def handBound : Session := (single ⟨1⟩).after [.resolve (.num 0x7f000001) 1, .bind ⟨1⟩ (.num 5)]

/-- One slot back from the object of that slot the binding of the root is lost. -/
theorem keeps_iff_not_rebinds_handBound :
    ∃ events, Session.start (.single ⟨1⟩) .standard = .ok (single ⟨1⟩, events) ∧
      handBound.lookup ⟨1⟩ = .ok (.num 5) ∧
        ¬handBound.Keeps (.resolve (.num 0x7f000002) (-1)) ⟨1⟩ := by
  have started : Session.start (.single ⟨1⟩) .standard = .ok (single ⟨1⟩, _) := rfl
  have reached : (single ⟨1⟩).Reaches handBound := .step _ (.step _ (.refl _))
  have answered : (handBound.perform (.resolve (.num 0x7f000002) (-1))).answer =
      .ok (.expr (.num 0x7f000001)) := rfl
  have selects : handBound.Selects (.resolve (.num 0x7f000002) (-1)) ⟨2⟩ (-1) ⟨1⟩ :=
    ⟨⟨_, 0x7f000002, rfl, rfl⟩, rfl⟩
  have rebinds : handBound.Rebinds ⟨2⟩ (-1) ⟨1⟩ := ⟨rfl, by decide, .num 5, rfl, by decide⟩
  have requests := keeps_iff_not_rebinds (Graph.built_single ⟨1⟩) started reached rfl answered
  have keeps := (requests.2 ⟨2⟩ (-1) ⟨1⟩ selects).1
  exact ⟨_, started, rfl, fun kept => keeps.mp kept rebinds⟩

end CellMemory.Session
