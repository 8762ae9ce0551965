import CellMemory.Proofs.Session.Coherence

/-! Runs in which nothing but its address is bound to an object. Bindings by hand go to what is no
object of the graph at that moment, so every owner of an address stays bound to it. -/

namespace CellMemory.Session

open Address (numeral)

def after (session : Session) : List Operation → Session
  | [] => session
  | operation :: operations => after (session.perform operation).state operations

theorem after_append (session : Session) (before more : List Operation) :
    session.after (before ++ more) = (session.after before).after more := by
  induction before generalizing session with
  | nil => rfl
  | cons operation before ih => exact ih (session.perform operation).state

def Spares (session : Session) : Operation → Prop
  | .bind id _ => session.graph.kind id ≠ .ok .object
  | .lookup _ | .addressOf _ | .offset _ | .resolve _ _ | .select _ _ | .write _ _ | .load _
  | .assume _ _ => True

def SparesAll (session : Session) : List Operation → Prop
  | [] => True
  | operation :: operations =>
    session.Spares operation ∧ SparesAll (session.perform operation).state operations

instance (session : Session) (operation : Operation) : Decidable (session.Spares operation) :=
  match operation with
  | .bind id _ => inferInstanceAs (Decidable (session.graph.kind id ≠ .ok .object))
  | .lookup _ | .addressOf _ | .offset _ | .resolve _ _ | .select _ _ | .write _ _ | .load _
  | .assume _ _ => isTrue trivial

instance decidableSparesAll : (session : Session) → (operations : List Operation) →
    Decidable (session.SparesAll operations)
  | _, [] => isTrue trivial
  | session, operation :: operations =>
    @instDecidableAnd _ _ _ (decidableSparesAll (session.perform operation).state operations)

variable {session : Session}

theorem Coherent.free_of_not_object (coherent : session.Coherent) {id : VarId}
    (noObject : session.graph.kind id ≠ .ok .object) (address : UInt32) :
    session.addresses.owners[address]? ≠ some id := by
  intro taken
  obtain ⟨item, found, storage⟩ := coherent.memory.storage address id taken
  apply noObject
  simp only [Graph.kind, Graph.node, found, Node.kind_of_isStorage storage]

theorem Resolution.faithful {base : VarId} {offset : Int64} {reply : Reply Session Expr}
    (resolution : session.Resolution base offset reply) (coherent : session.Coherent)
    (faithful : session.memory.Faithful) : reply.state.memory.Faithful := by
  cases resolution with
  | reused | refused | itself | full => exact faithful
  | settled unknown reached other placed => exact faithful.settle coherent.memory placed

theorem Effect.faithful {operation : Operation} {reply : Reply Session Answer}
    (effect : session.Effect operation reply) (coherent : session.Coherent)
    (faithful : session.memory.Faithful) (spares : session.Spares operation) :
    reply.state.memory.Faithful := by
  cases effect with
  | resolved counting asked pointed resolution => exact resolution.faithful coherent faithful
  | refused | told => exact faithful
  | bound id expr => exact faithful.bind (coherent.free_of_not_object spares) expr
  | written | assumed => exact faithful
  | @loaded location base address pointed =>
    intro other owner taken
    exact (Store.lookup_read session.store address owner).trans (faithful other owner taken)

theorem faithful_of_start {graph : Graph} {settings : Settings} {events : List Event}
    (built : graph.Built) (started : Session.start graph settings = .ok (session, events)) :
    session.memory.Faithful := by
  obtain ⟨clear, rfl⟩ := start_ok started
  exact (Memory.faithful_new _).bindAll (Memory.coherent_new graph clear) built.coherent

theorem Coherent.perform (coherent : session.Coherent) (operation : Operation) :
    (session.perform operation).state.Coherent :=
  (coherent.effect operation).coherent coherent

theorem Coherent.after (coherent : session.Coherent) (operations : List Operation) :
    (session.after operations).Coherent := by
  induction operations generalizing session with
  | nil => exact coherent
  | cons operation operations ih => exact ih (coherent.perform operation)

theorem Coherent.grows_after (coherent : session.Coherent) (operations : List Operation) :
    session.Grows (session.after operations) := by
  induction operations generalizing session with
  | nil => exact .refl session
  | cons operation operations ih =>
    have first := (coherent.effect operation).grows coherent
    exact first.trans (ih (coherent.perform operation))

end CellMemory.Session
