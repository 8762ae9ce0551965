import CellMemory.Proofs.Session.Run

/-! The memo only saves work. A session that asks the graph anew for every request gives the same
answers and knows the same, as long as nothing but its address is bound to an object: what the
memo leaves out would find the object as it is and change nothing. -/

namespace CellMemory.Session

open Address (numeral)

/-- The object `offset` slots past an object, bound whenever it is another. -/
def reachAfresh (session : Session) (base : VarId) (offset : Int64) : Reply Session Expr :=
  match session.graph.derive base offset with
  | (.error fault, graph) => ⟨.error fault, { session with graph }, []⟩
  | (.ok derived, graph) =>
    let session := { session with graph }
    if derived = base then ⟨session.lookup base, session, []⟩
    else
      match graph.find? derived with
      | none => ⟨.error (.unknownVariable derived), session, []⟩
      | some object =>
        match session.memory.bindObject object with
        | ⟨.error fault, memory, events⟩ => ⟨.error fault, { session with memory }, events⟩
        | ⟨.ok expr, memory, events⟩ =>
          ⟨.ok expr, { session with memory }, events ++ [.derivedBound base offset derived]⟩

def resolveAfresh (session : Session) (pointer : Expr) (offset : Int64) : Reply Session Expr :=
  match session.pointee pointer with
  | .error fault => ⟨.error fault, session, []⟩
  | .ok (base, _) => session.reachAfresh base offset

def selectAfresh (session : Session) (pointer : VarId) (gep : Gep) : Reply Session Expr :=
  match session.offset gep with
  | (.error fault, events) => ⟨.error fault, session, events⟩
  | (.ok offset, events) =>
    match session.lookup pointer with
    | .error fault => ⟨.error fault, session, events⟩
    | .ok base =>
      match session.resolveAfresh base offset with
      | ⟨answer, session, more⟩ => ⟨answer, session, events ++ more⟩

/-- An operation without a memo. Only requests have a use for one. -/
def performAfresh (session : Session) : Operation → Reply Session Answer
  | .resolve pointer offset => (session.resolveAfresh pointer offset).answering .expr
  | .select pointer gep => (session.selectAfresh pointer gep).answering .expr
  | operation => session.perform operation

def runAfresh (session : Session) : List Operation → List (Reply Session Answer)
  | [] => []
  | operation :: operations =>
    let reply := session.performAfresh operation
    reply :: runAfresh reply.state operations

structure Alike (first second : Session) : Prop where
  settings : second.settings = first.settings
  graph : second.graph = first.graph
  memory : second.memory = first.memory

structure Match {α : Type} (first second : Reply Session α) : Prop where
  answer : second.answer = first.answer
  state : first.state.Alike second.state

variable {session plain : Session}

theorem Alike.refl (session : Session) : session.Alike session := ⟨rfl, rfl, rfl⟩

theorem Alike.eq (alike : session.Alike plain) : plain = { session with memo := plain.memo } := by
  cases plain
  cases alike.settings
  cases alike.graph
  cases alike.memory
  rfl

theorem Match.answering {α : Type} {first second : Reply Session α} (matched : Match first second)
    (wrap : α → Answer) : Match (first.answering wrap) (second.answering wrap) where
  answer := congrArg (Except.map wrap) matched.answer
  state := matched.state

theorem reachAfresh_of_other (session : Session) {base derived : VarId} {offset : Int64}
    {graph : Graph} {object : Variable}
    (reached : session.graph.derive base offset = (.ok derived, graph))
    (other : derived ≠ base) (found : graph.find? derived = some object)
    (storage : object.node.isStorage = true) :
    (session.reachAfresh base offset).answer = (session.memory.bindAddress derived).answer ∧
      (session.reachAfresh base offset).state =
        { session with graph, memory := (session.memory.bindAddress derived).state } := by
  cases Graph.id_of_find? found
  simp only [reachAfresh, reached, if_neg other, found, Memory.bindObject_of_storage _ storage]
  rcases session.memory.bindAddress object.id with ⟨answer, memory, events⟩
  cases answer with
  | ok expr => exact ⟨rfl, rfl⟩
  | error fault => exact ⟨rfl, rfl⟩

theorem Coherent.storage_of_derive (coherent : session.Coherent) {base derived : VarId}
    {offset : Int64} {graph : Graph}
    (reached : session.graph.derive base offset = (.ok derived, graph)) (other : derived ≠ base) :
    ∃ object, graph.find? derived = some object ∧ object.node.isStorage = true := by
  obtain ⟨root, distance, object, located, found, node, cell⟩ := coherent.graph.derive_ok reached
  have location := coherent.graph.derive_location reached other found
  exact ⟨object, found, Node.isStorage_of_isLocation location⟩

/-- One case for each outcome of resolving. Only where the memo knows the object do the two go
different ways, and there the object is bound to its address already. -/
theorem Resolution.matched {base : VarId} {offset : Int64} {reply : Reply Session Expr}
    (resolution : session.Resolution base offset reply) (coherent : session.Coherent)
    (faithful : session.memory.Faithful) (memo : Std.ExtTreeMap Cell VarId) :
    Match reply ({ session with memo }.reachAfresh base offset) := by
  cases resolution with
  | @reused derived expr known bound =>
    obtain ⟨other, _, ⟨address, taken⟩, reached⟩ := coherent.memo base offset derived known
    obtain ⟨object, found, storage⟩ := coherent.memory.storage address derived taken
    obtain ⟨answer, state⟩ := reachAfresh_of_other { session with memo } reached other found
      storage
    have placed := coherent.memory.exact address derived taken
    have settled := faithful.settle_of_taken taken
    rw [Memory.bindAddress_of_place placed] at answer state
    constructor
    · have address := bound.symm.trans (faithful address derived taken)
      rw [answer, Except.ok.inj address]
    · rw [state, settled]
      exact ⟨rfl, rfl, rfl⟩
  | @refused fault unknown reached =>
    have same : Session.reachAfresh { session with memo } base offset =
        ⟨.error fault, { session with memo }, []⟩ := by
      simp only [reachAfresh, reached]
    rw [same]
    exact ⟨rfl, rfl, rfl, rfl⟩
  | itself unknown reached bound =>
    have same : Session.reachAfresh { session with memo } base offset =
        ⟨session.lookup base, { session with memo }, []⟩ := by
      simp only [reachAfresh, reached, ↓reduceIte]
      rfl
    rw [same, bound]
    exact ⟨rfl, rfl, rfl, rfl⟩
  | full unknown reached other large =>
    obtain ⟨object, found, storage⟩ := coherent.storage_of_derive reached other
    obtain ⟨answer, state⟩ := reachAfresh_of_other { session with memo } reached other found
      storage
    rw [Memory.bindAddress_of_full large] at answer state
    refine ⟨answer, ?_⟩
    rw [state]
    exact ⟨rfl, rfl, rfl⟩
  | settled unknown reached other placed =>
    obtain ⟨object, found, storage⟩ := coherent.storage_of_derive reached other
    obtain ⟨answer, state⟩ := reachAfresh_of_other { session with memo } reached other found
      storage
    rw [Memory.bindAddress_of_place placed] at answer state
    refine ⟨answer, ?_⟩
    rw [state]
    exact ⟨rfl, rfl, rfl⟩

theorem Coherent.resolve_matched (coherent : session.Coherent) (faithful : session.memory.Faithful)
    (memo : Std.ExtTreeMap Cell VarId) (pointer : Expr) (offset : Int64) :
    Match (session.resolve pointer offset) ({ session with memo }.resolveAfresh pointer offset) := by
  have same : Session.pointee { session with memo } pointer = session.pointee pointer := rfl
  rw [resolveAfresh, same]
  cases pointed : session.pointee pointer with
  | error fault =>
    rw [resolve_of_pointee_error pointed]
    exact ⟨rfl, rfl, rfl, rfl⟩
  | ok place =>
    rcases place with ⟨base, address⟩
    exact (coherent.resolution pointed offset).matched coherent faithful memo

theorem Coherent.select_matched (coherent : session.Coherent) (faithful : session.memory.Faithful)
    (memo : Std.ExtTreeMap Cell VarId) (pointer : VarId) (gep : Gep) :
    Match (session.select pointer gep) ({ session with memo }.selectAfresh pointer gep) := by
  have sameOffset : Session.offset { session with memo } gep = session.offset gep := rfl
  have sameBinding : Session.lookup { session with memo } pointer = session.lookup pointer := rfl
  simp only [select, selectAfresh, sameOffset, sameBinding]
  rcases session.offset gep with ⟨counted, events⟩
  cases counted with
  | error fault => exact ⟨rfl, rfl, rfl, rfl⟩
  | ok slots =>
    cases session.lookup pointer with
    | error fault => exact ⟨rfl, rfl, rfl, rfl⟩
    | ok base =>
      have matched := coherent.resolve_matched faithful memo base slots
      exact ⟨matched.answer, matched.state⟩

theorem perform_matched_of_noRequest {operation : Operation}
    (noRequest : operation.isRequest = false) (memo : Std.ExtTreeMap Cell VarId) :
    Match (session.perform operation) ({ session with memo }.perform operation) := by
  have samePointee (location : Expr) : Session.pointee { session with memo } location =
    session.pointee location := rfl
  have sameValue (expr : Expr) : Session.evaluate { session with memo } expr =
    session.evaluate expr := rfl
  cases operation with
  | resolve | select => cases noRequest
  | lookup | addressOf | offset | bind => exact ⟨rfl, rfl, rfl, rfl⟩
  | write location value =>
    simp only [perform, Reply.answering, write, samePointee]
    cases session.pointee location with
    | error fault => exact ⟨rfl, rfl, rfl, rfl⟩
    | ok place => exact ⟨rfl, rfl, rfl, rfl⟩
  | load location =>
    simp only [perform, Reply.answering, load, samePointee]
    cases session.pointee location with
    | error fault => exact ⟨rfl, rfl, rfl, rfl⟩
    | ok place => exact ⟨rfl, rfl, rfl, rfl⟩
  | assume expr value =>
    simp only [perform, Reply.answering, assume, sameValue]
    cases session.evaluate expr with
    | some known =>
      by_cases agree : known = value
      · simp only [if_pos agree]
        exact ⟨rfl, rfl, rfl, rfl⟩
      · simp only [if_neg agree]
        exact ⟨rfl, rfl, rfl, rfl⟩
    | none =>
      cases expr with
      | num | const | apply => exact ⟨rfl, rfl, rfl, rfl⟩

theorem Coherent.perform_matched (coherent : session.Coherent)
    (faithful : session.memory.Faithful) (alike : session.Alike plain) (operation : Operation) :
    Match (session.perform operation) (plain.performAfresh operation) := by
  rw [alike.eq]
  cases operation with
  | resolve pointer offset =>
    exact (coherent.resolve_matched faithful plain.memo pointer offset).answering .expr
  | select pointer gep =>
    exact (coherent.select_matched faithful plain.memo pointer gep).answering .expr
  | lookup | addressOf | offset | write | load | assume | bind =>
    exact perform_matched_of_noRequest rfl plain.memo

theorem Coherent.run_matched (coherent : session.Coherent) (faithful : session.memory.Faithful)
    (alike : session.Alike plain) {operations : List Operation}
    (spares : session.SparesAll operations) :
    List.Forall₂ Match (session.run operations) (plain.runAfresh operations) := by
  induction operations generalizing session plain with
  | nil => exact .nil
  | cons operation operations ih =>
    have matched := coherent.perform_matched faithful alike operation
    have still := (coherent.effect operation).faithful coherent faithful spares.1
    exact .cons matched (ih (coherent.perform operation) still matched.state spares.2)

/-- The memo is transparent: step by step, a run with it and a run without it have the same answers
and leave the same graph, bindings, contents, names, values and addresses. -/
theorem run_transparent {graph : Graph} {settings : Settings} {events : List Event}
    (built : graph.Built) (started : Session.start graph settings = .ok (session, events))
    {operations : List Operation} (spares : session.SparesAll operations) :
    List.Forall₂ Match (session.run operations) (session.runAfresh operations) :=
  (coherent_of_start built started).run_matched (faithful_of_start built started) (.refl session)
    spares

def revisit : List Operation :=
  [.resolve (.num 0x7f000001) 1, .write (.num 0x7f000002) (.num 9), .bind ⟨7⟩ (.num 0),
    .resolve (.num 0x7f000001) 1, .resolve (.num 0x7f000002) (-1)]

theorem run_transparent_revisit :
    ∃ events, Session.start (.single ⟨1⟩) .standard = .ok (single ⟨1⟩, events) ∧
      (single ⟨1⟩).SparesAll revisit ∧
        List.Forall₂ Match ((single ⟨1⟩).run revisit) ((single ⟨1⟩).runAfresh revisit) := by
  have started : Session.start (.single ⟨1⟩) .standard = .ok (single ⟨1⟩, _) := rfl
  have spares : (single ⟨1⟩).SparesAll revisit := by decide
  exact ⟨_, started, spares, run_transparent (Graph.built_single ⟨1⟩) started spares⟩

end CellMemory.Session
