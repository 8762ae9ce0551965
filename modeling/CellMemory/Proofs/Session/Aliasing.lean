import CellMemory.Proofs.Session.Run

/-! Pointers that requests have answered. Each is the address of the one object that stands for the
place the request led to, so two answers of a run are equal exactly if their places are. -/

namespace CellMemory.Session

open Address (numeral numeral_injective)

/-- A request that succeeded: the place it led to, and its answer. -/
structure Landing where
  place : Place
  expr : Expr

def landing? (session : Session) (operation : Operation) : Option Landing :=
  match session.query operation, (session.perform operation).answer with
  | some (pointer, offset), .ok (.expr expr) =>
    match session.pointee pointer with
    | .ok (base, _) => some ⟨session.graph.target base offset, expr⟩
    | .error _ => none
  | _, _ => none

def landings (session : Session) : List Operation → List Landing
  | [] => []
  | operation :: operations =>
    (session.landing? operation).toList ++ landings (session.perform operation).state operations

/-- The answer is the address of the object that stands for the place. -/
def Settled (session : Session) (landing : Landing) : Prop :=
  ∃ address object item, session.addresses.owners[address]? = some object ∧
    session.graph.find? object = some item ∧ item.cell.place = landing.place ∧
      landing.expr = .num (numeral address)

variable {session : Session}

theorem landing?_eq_some {operation : Operation} {landing : Landing}
    (landed : session.landing? operation = some landing) :
    ∃ pointer offset base address, session.query operation = some (pointer, offset) ∧
      session.pointee pointer = .ok (base, address) ∧
        landing.place = session.graph.target base offset ∧
          (session.perform operation).answer = .ok (.expr landing.expr) := by
  unfold landing? at landed
  split at landed
  · next pointer offset expr asked answered =>
    split at landed
    · next base address pointed =>
      cases Option.some.inj landed
      exact ⟨pointer, offset, base, address, asked, pointed, rfl, answered⟩
    · cases landed
  · cases landed

theorem Coherent.landing?_of_request (coherent : session.Coherent) {operation : Operation}
    {answer : Answer} (request : operation.isRequest = true)
    (answered : (session.perform operation).answer = .ok answer) :
    ∃ landing, session.landing? operation = some landing ∧ answer = .expr landing.expr := by
  obtain ⟨pointer, offset, base, address, asked, pointed⟩ := coherent.requested request answered
  obtain ⟨expr, rfl, resolved⟩ := answer_of_query asked answered
  exact ⟨⟨session.graph.target base offset, expr⟩, by simp [landing?, asked, answered, pointed], rfl⟩

theorem Coherent.mem_landings (coherent : session.Coherent) (before rest : List Operation)
    {operation : Operation} {answer : Answer} (request : operation.isRequest = true)
    (answered : ((session.after before).perform operation).answer = .ok answer) :
    ∃ landing ∈ session.landings (before ++ operation :: rest),
      (session.after before).landing? operation = some landing ∧ answer = .expr landing.expr := by
  induction before generalizing session with
  | nil =>
    obtain ⟨landing, landed, told⟩ := coherent.landing?_of_request request answered
    exact ⟨landing, List.mem_append_left _ (Option.mem_toList.mpr landed), landed, told⟩
  | cons first before ih =>
    obtain ⟨landing, member, found⟩ := ih (coherent.perform first) answered
    exact ⟨landing, List.mem_append_right _ member, found⟩

theorem Settled.grow {later : Session} {landing : Landing} (settled : session.Settled landing)
    (grown : session.Grows later) : later.Settled landing := by
  rcases settled with ⟨address, object, item, taken, found, place, answer⟩
  exact ⟨address, object, item, grown.owners address object taken,
    grown.graph.vars object item found, place, answer⟩

theorem Resolution.settled_answer {base : VarId} {offset : Int64} {reply : Reply Session Expr}
    (resolution : session.Resolution base offset reply) (coherent : session.Coherent)
    (faithful : session.memory.Faithful) (allocated : session.Allocated base) {expr : Expr}
    (answered : reply.answer = .ok expr) :
    reply.state.Settled ⟨session.graph.target base offset, expr⟩ := by
  obtain ⟨derived, reached, ⟨address, taken⟩, bound⟩ :=
    resolution.answered coherent allocated answered
  obtain ⟨item, found, place⟩ := coherent.graph.place_of_derive reached
  have still := resolution.faithful coherent faithful
  have answer := bound.symm.trans (still address derived taken)
  exact ⟨address, derived, item, taken, found, place, Except.ok.inj answer⟩

theorem Coherent.settled_landing (coherent : session.Coherent) (faithful : session.memory.Faithful)
    {operation : Operation} {landing : Landing}
    (landed : session.landing? operation = some landing) :
    (session.perform operation).state.Settled landing := by
  obtain ⟨pointer, offset, base, address, asked, pointed, place, answered⟩ := landing?_eq_some landed
  obtain ⟨expr, told, resolved⟩ := answer_of_query asked answered
  have allocated := coherent.allocated_of_pointee pointed
  have settled := (coherent.resolution pointed offset).settled_answer coherent faithful allocated
    resolved
  cases told
  rw [← place, ← state_of_query asked] at settled
  exact settled

theorem Coherent.settled_of_mem (coherent : session.Coherent) (faithful : session.memory.Faithful)
    {operations : List Operation} (spares : session.SparesAll operations) :
    ∀ landing ∈ session.landings operations, (session.after operations).Settled landing := by
  induction operations generalizing session with
  | nil => intro landing member; cases member
  | cons operation operations ih =>
    intro landing member
    have kept := coherent.perform operation
    rcases List.mem_append.mp member with now | later
    · have landed := Option.mem_toList.mp now
      exact (coherent.settled_landing faithful landed).grow (kept.grows_after operations)
    · have still := (coherent.effect operation).faithful coherent faithful spares.1
      exact ih kept still spares.2 landing later

theorem Settled.expr_eq_iff {first second : Landing} (coherent : session.Coherent)
    (firstSettled : session.Settled first) (secondSettled : session.Settled second) :
    first.expr = second.expr ↔ first.place = second.place := by
  rcases firstSettled with ⟨address, object, item, taken, found, place, answer⟩
  obtain ⟨otherAddress, other, otherItem, otherTaken, otherFound, otherPlace, otherAnswer⟩ :=
    secondSettled
  rw [answer, otherAnswer, ← place, ← otherPlace]
  constructor
  · intro same
    cases numeral_injective (Expr.num.inj same)
    cases Option.some.inj (taken.symm.trans otherTaken)
    cases Option.some.inj (found.symm.trans otherFound)
    rfl
  · intro same
    cases coherent.graph.cell_injective found otherFound (Cell.place_injective same)
    rw [coherent.memory.exact.address_injective taken otherTaken]

theorem Settled.owner {landing : Landing} (coherent : session.Coherent)
    (settled : session.Settled landing) :
    ∃ value object, landing.expr = .num value ∧ session.addresses.owner value = .ok object ∧
      if landing.place.slots = 0 then object = landing.place.root
      else ∃ item cell, session.graph.find? object = some item ∧ item.origin = some cell ∧
        cell.place = landing.place := by
  rcases settled with ⟨address, object, item, taken, found, place, answer⟩
  refine ⟨numeral address, object, answer,
    coherent.memory.exact.owner_numeral coherent.memory.clear taken, ?_⟩
  rw [← place]
  cases from? : item.origin with
  | none =>
    have cell : item.cell = ⟨object, 0⟩ := by
      rw [Variable.cell, from?, Option.getD_none, Graph.id_of_find? found]
    have atRoot : (Cell.mk object 0).place.slots = 0 := rfl
    rw [cell, if_pos atRoot]
    rfl
  | some origin =>
    obtain ⟨root, anchored⟩ := coherent.graph.rooted object item origin found from?
    have cell : item.cell = origin := by rw [Variable.cell, from?, Option.getD_some]
    have apart : origin.place.slots ≠ 0 := by
      intro zero
      exact anchored.apart (Int64.toInt_inj.mp zero)
    rw [cell, if_neg apart]
    exact ⟨item, origin, found, from?, rfl⟩

/-- Pointer arithmetic is exact about aliases: two requests of a run have the same answer if and only
if they lead to the same place, and each answer is the address of the object at that place. -/
theorem landing_exact {graph : Graph} {settings : Settings} {events : List Event}
    (built : graph.Built) (started : Session.start graph settings = .ok (session, events))
    {operations : List Operation} (spares : session.SparesAll operations) :
    (∀ (before rest : List Operation) (operation : Operation) (answer : Answer),
      operations = before ++ operation :: rest → operation.isRequest = true →
      ((session.after before).perform operation).answer = .ok answer →
        ∃ landing ∈ session.landings operations,
          (session.after before).landing? operation = some landing ∧ answer = .expr landing.expr) ∧
    ∀ first ∈ session.landings operations,
      (∀ second ∈ session.landings operations,
        first.expr = second.expr ↔ first.place = second.place) ∧
      ∃ value object, first.expr = .num value ∧
        (session.after operations).addresses.owner value = .ok object ∧
        if first.place.slots = 0 then object = first.place.root
        else ∃ item cell, (session.after operations).graph.find? object = some item ∧
          item.origin = some cell ∧ cell.place = first.place := by
  have coherent := coherent_of_start built started
  have faithful := faithful_of_start built started
  have settled := coherent.settled_of_mem faithful spares
  have last := coherent.after operations
  constructor
  · rintro before rest operation answer rfl request answered
    exact coherent.mem_landings before rest request answered
  · intro first firstMember
    have firstSettled := settled first firstMember
    refine ⟨?_, firstSettled.owner last⟩
    intro second secondMember
    exact firstSettled.expr_eq_iff last (settled second secondMember)

def detour : List Operation :=
  [.resolve (.num 0x7f000001) 3, .write (.num 0x7f000002) (.num 9), .bind ⟨7⟩ (.num 0),
    .resolve (.num 0x7f000002) (-1), .resolve (.num 0x7f000001) 2]

theorem landing_exact_detour :
    ∃ events, Session.start (.single ⟨1⟩) .standard = .ok (single ⟨1⟩, events) ∧
      (single ⟨1⟩).SparesAll detour ∧ ((single ⟨1⟩).landings detour).length = 3 ∧
        ∀ first ∈ (single ⟨1⟩).landings detour, ∀ second ∈ (single ⟨1⟩).landings detour,
          first.expr = second.expr ↔ first.place = second.place := by
  have started : Session.start (.single ⟨1⟩) .standard = .ok (single ⟨1⟩, _) := rfl
  have spares : (single ⟨1⟩).SparesAll detour := by decide
  have exactness := landing_exact (Graph.built_single ⟨1⟩) started spares
  exact ⟨_, started, spares, by decide, fun first member => (exactness.2 first member).1⟩

end CellMemory.Session
