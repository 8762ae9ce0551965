import CellMemory.Proofs.Session.Resolution

/-! What one operation does to a coherent session. It resolves a pointer, changes the store in one place,
or leaves the session as it is; whatever a run preserves is shown for these effects. -/

namespace CellMemory

def Operation.isRequest : Operation → Bool
  | resolve _ _ | select _ _ => true
  | lookup _ | addressOf _ | offset _ | write _ _ | load _ | assume _ _ | bind _ _ => false

namespace Session

/-- The pointer and the offset that an operation comes to resolve, if it is a request that gets so
far. -/
def query (session : Session) : Operation → Option (Expr × Int64)
  | .resolve pointer offset => some (pointer, offset)
  | .select pointer gep =>
    match (session.offset gep).1, session.lookup pointer with
    | .ok offset, .ok base => some (base, offset)
    | _, _ => none
  | .lookup _ | .addressOf _ | .offset _ | .write _ _ | .load _ | .assume _ _ | .bind _ _ => none

inductive Effect (session : Session) : Operation → Reply Session Answer → Prop
  | resolved {operation : Operation} {pointer : Expr} {offset : Int64} {base : VarId}
      {address : UInt32} {reply : Reply Session Expr} (counting : List Event)
      (asked : session.query operation = some (pointer, offset))
      (pointed : session.pointee pointer = .ok (base, address))
      (resolution : session.Resolution base offset reply) :
      Effect session operation ⟨reply.answer.map .expr, reply.state, counting ++ reply.events⟩
  | refused (operation : Operation) (fault : Fault) (events : List Event) :
      Effect session operation ⟨.error fault, session, events⟩
  | told {operation : Operation} (noRequest : operation.isRequest = false) (answer : Answer)
      (events : List Event) : Effect session operation ⟨.ok answer, session, events⟩
  | bound (id : VarId) (expr : Expr) :
      Effect session (.bind id expr) ⟨.ok .done, session.bind id expr, []⟩
  | written {location : Expr} {base : VarId} {address : UInt32} (value : Expr)
      (pointed : session.pointee location = .ok (base, address)) :
      Effect session (.write location value)
        ⟨.ok .done, session.withStore (session.store.write address value), []⟩
  | loaded {location : Expr} {base : VarId} {address : UInt32}
      (pointed : session.pointee location = .ok (base, address)) :
      Effect session (.load location)
        ⟨.ok (.expr (session.store.read address).1),
          session.withStore (session.store.read address).2, []⟩
  | assumed {symbol : Symbol} (value : Int64)
      (unknown : session.evaluate (.const symbol) = none) :
      Effect session (.assume (.const symbol) value)
        ⟨.ok .done, session.withStore (session.store.assign symbol value), []⟩

variable {session : Session}

theorem perform_of_query {operation : Operation} {pointer : Expr} {offset : Int64}
    (asked : session.query operation = some (pointer, offset)) :
    ∃ steps : List Gep.Step, session.perform operation =
      ⟨(session.resolve pointer offset).answer.map .expr, (session.resolve pointer offset).state,
        steps.map .gepStep ++ (session.resolve pointer offset).events⟩ := by
  cases operation with
  | resolve other distance =>
    cases Option.some.inj asked
    exact ⟨[], rfl⟩
  | select source gep =>
    simp only [query] at asked
    cases counted : (gep.offset session.graph.types session.store).1 with
    | error fault => simp [Session.offset, counted] at asked
    | ok slots =>
      cases bound : session.lookup source with
      | error fault => simp [Session.offset, counted, bound] at asked
      | ok base =>
        simp only [Session.offset, counted, bound, Option.some.injEq, Prod.mk.injEq] at asked
        rcases asked with ⟨rfl, rfl⟩
        refine ⟨(gep.offset session.graph.types session.store).2, ?_⟩
        simp only [perform, Reply.answering, select, Session.offset, counted, bound]
  | lookup | addressOf | offset | write | load | assume | bind => cases asked

theorem state_of_query {operation : Operation} {pointer : Expr} {offset : Int64}
    (asked : session.query operation = some (pointer, offset)) :
    (session.perform operation).state = (session.resolve pointer offset).state := by
  obtain ⟨steps, performed⟩ := perform_of_query asked
  rw [performed]

theorem answer_of_query {operation : Operation} {pointer : Expr} {offset : Int64}
    {answer : Answer} (asked : session.query operation = some (pointer, offset))
    (answered : (session.perform operation).answer = .ok answer) :
    ∃ expr, answer = .expr expr ∧ (session.resolve pointer offset).answer = .ok expr := by
  obtain ⟨steps, performed⟩ := perform_of_query asked
  rw [performed] at answered
  cases resolved : (session.resolve pointer offset).answer with
  | error fault =>
    rw [resolved] at answered
    cases answered
  | ok expr =>
    rw [resolved] at answered
    cases answered
    exact ⟨expr, rfl, rfl⟩

theorem effect_select_of_no_query {source : VarId} {gep : Gep}
    (silent : session.query (.select source gep) = none) :
    Effect session (.select source gep) (session.perform (.select source gep)) := by
  simp only [query] at silent
  simp only [perform, Reply.answering, select]
  cases counted : session.offset gep with
  | mk answer events =>
    cases answer with
    | error fault => exact .refused _ fault _
    | ok slots =>
      cases bound : session.lookup source with
      | error fault => exact .refused _ fault _
      | ok base => simp [counted, bound] at silent

theorem Coherent.effect_of_query (coherent : session.Coherent) {operation : Operation}
    {pointer : Expr} {offset : Int64}
    (asked : session.query operation = some (pointer, offset)) :
    Effect session operation (session.perform operation) := by
  obtain ⟨steps, performed⟩ := perform_of_query asked
  rw [performed]
  cases pointed : session.pointee pointer with
  | error fault =>
    rw [resolve_of_pointee_error pointed]
    exact .refused operation fault _
  | ok place =>
    rcases place with ⟨base, address⟩
    exact .resolved _ asked pointed (coherent.resolution pointed offset)

theorem effect_of_read {operation : Operation} (noRequest : operation.isRequest = false)
    (answer : Except Fault Answer) (events : List Event) :
    Effect session operation ⟨answer, session, events⟩ := by
  cases answer with
  | error fault => exact .refused operation fault events
  | ok answer => exact .told noRequest answer events

theorem effect_write (session : Session) (location value : Expr) :
    Effect session (.write location value) (session.perform (.write location value)) := by
  simp only [perform, Reply.answering, write]
  cases pointed : session.pointee location with
  | error fault => exact .refused _ fault _
  | ok place => exact .written value pointed

theorem effect_load (session : Session) (location : Expr) :
    Effect session (.load location) (session.perform (.load location)) := by
  simp only [perform, Reply.answering, load]
  cases pointed : session.pointee location with
  | error fault => exact .refused _ fault _
  | ok place => exact .loaded pointed

theorem effect_assume (session : Session) (expr : Expr) (value : Int64) :
    Effect session (.assume expr value) (session.perform (.assume expr value)) := by
  simp only [perform, Reply.answering, assume]
  cases known : session.evaluate expr with
  | some held =>
    simp only
    split
    · exact .told rfl _ _
    · exact .refused _ _ _
  | none =>
    cases expr with
    | const symbol => exact .assumed value known
    | num | apply => exact .refused _ _ _

theorem Coherent.effect (coherent : session.Coherent) (operation : Operation) :
    Effect session operation (session.perform operation) := by
  cases operation with
  | lookup | addressOf | offset => exact effect_of_read rfl _ _
  | resolve pointer offset => exact coherent.effect_of_query rfl
  | select source gep =>
    cases asked : session.query (.select source gep) with
    | some place => exact coherent.effect_of_query asked
    | none => exact effect_select_of_no_query asked
  | write location value => exact effect_write session location value
  | load location => exact effect_load session location
  | assume expr value => exact effect_assume session expr value
  | bind id expr => exact .bound id expr

theorem Coherent.requested (coherent : session.Coherent) {operation : Operation} {answer : Answer}
    (request : operation.isRequest = true)
    (answered : (session.perform operation).answer = .ok answer) :
    ∃ pointer offset base address, session.query operation = some (pointer, offset) ∧
      session.pointee pointer = .ok (base, address) := by
  have effect := coherent.effect operation
  generalize session.perform operation = reply at effect answered
  cases effect with
  | resolved counting asked pointed resolution => exact ⟨_, _, _, _, asked, pointed⟩
  | refused => cases answered
  | told noRequest => simp [noRequest] at request
  | bound | written | loaded | assumed => cases request

end Session

end CellMemory
