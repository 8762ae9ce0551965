import CellMemory.Proofs.Expr.Evaluation
import CellMemory.Proofs.Session.Run

/-! What a session knows of the values of constants. Only an assumption adds to it, and only for a
constant that had no value; so a run never takes a value back, and the order of assumptions
on different constants does not matter. -/

namespace CellMemory.Session

variable {session : Session}

def assign (session : Session) (symbol : Symbol) (value : Int64) : Session :=
  session.withStore (session.store.assign symbol value)

theorem evaluate_assign_self (session : Session) (symbol : Symbol) (value : Int64) :
    (session.assign symbol value).evaluate (.const symbol) = some value := by
  change (session.store.model.insert symbol value)[symbol]? = some value
  rw [Model.getElem?_insert, if_pos rfl]

theorem evaluate_assign_of_absent {expr : Expr} {symbol : Symbol}
    (absent : ¬expr.Mentions symbol) (session : Session) (value : Int64) :
    (session.assign symbol value).evaluate expr = session.evaluate expr :=
  Expr.evaluate_insert absent session.store.model value

theorem assign_of_known {symbol : Symbol} {value : Int64}
    (known : session.evaluate (.const symbol) = some value) :
    session.assign symbol value = session := by
  have same : session.store.model.insert symbol value = session.store.model :=
    Model.insert_of_known known
  change session.withStore { session.store with model := session.store.model.insert symbol value } = _
  rw [same]
  rfl

theorem assign_comm (session : Session) {first second : Symbol} (different : first ≠ second)
    (x y : Int64) :
    (session.assign first x).assign second y = (session.assign second y).assign first x := by
  have same := Model.insert_comm session.store.model different x y
  change session.withStore { session.store with
    model := (session.store.model.insert first x).insert second y } = _
  rw [same]
  rfl

theorem perform_assume_of_known {expr : Expr} {known : Int64}
    (evaluated : session.evaluate expr = some known) (value : Int64) :
    session.perform (.assume expr value) =
      if known = value then ⟨.ok .done, session, []⟩
      else ⟨.error (.inconsistent (session.display expr) value), session, []⟩ := by
  simp only [perform, Reply.answering, assume, evaluated]
  split <;> rfl

theorem perform_assume_of_symbolic {symbol : Symbol}
    (unknown : session.evaluate (.const symbol) = none) (value : Int64) :
    session.perform (.assume (.const symbol) value) =
      ⟨.ok .done, session.assign symbol value, []⟩ := by
  simp only [perform, Reply.answering, assume, unknown]
  rfl

theorem assume_ok_iff {expr : Expr} {value : Int64} :
    (session.perform (.assume expr value)).answer = .ok .done ↔
      session.evaluate expr = some value ∨
        (∃ symbol, expr = .const symbol) ∧ session.evaluate expr = none := by
  cases evaluated : session.evaluate expr with
  | some known =>
    rw [perform_assume_of_known evaluated]
    by_cases agree : known = value <;> simp [agree]
  | none =>
    cases expr with
    | const symbol => simp [perform_assume_of_symbolic evaluated]
    | num | apply => simp [perform, Reply.answering, assume, evaluated, Except.map]

theorem state_of_assume_ok {symbol : Symbol} {value : Int64}
    (answered : (session.perform (.assume (.const symbol) value)).answer = .ok .done) :
    (session.perform (.assume (.const symbol) value)).state = session.assign symbol value := by
  rcases assume_ok_iff.mp answered with known | ⟨_, unknown⟩
  · rw [perform_assume_of_known known, if_pos rfl, assign_of_known known]
  · rw [perform_assume_of_symbolic unknown]

theorem evaluate_of_assume_ok {expr : Expr} {value : Int64}
    (answered : (session.perform (.assume expr value)).answer = .ok .done) :
    (session.perform (.assume expr value)).state.evaluate expr = some value := by
  rcases assume_ok_iff.mp answered with known | ⟨⟨symbol, rfl⟩, unknown⟩
  · rw [perform_assume_of_known known, if_pos rfl]
    exact known
  · rw [state_of_assume_ok answered]
    exact evaluate_assign_self session symbol value

theorem evaluate_other_of_assume_ok {expr other : Expr} {value : Int64}
    (answered : (session.perform (.assume expr value)).answer = .ok .done)
    (absent : ∀ symbol, expr = .const symbol → ¬other.Mentions symbol) :
    (session.perform (.assume expr value)).state.evaluate other = session.evaluate other := by
  rcases assume_ok_iff.mp answered with known | ⟨⟨symbol, rfl⟩, unknown⟩
  · rw [perform_assume_of_known known, if_pos rfl]
  · rw [state_of_assume_ok answered]
    exact evaluate_assign_of_absent (absent symbol rfl) session value

theorem assume_ok_of_assign {symbol other : Symbol} (different : symbol ≠ other) {x y : Int64} :
    ((session.assign symbol x).perform (.assume (.const other) y)).answer = .ok .done ↔
      (session.perform (.assume (.const other) y)).answer = .ok .done := by
  have absent : ¬(Expr.const other).Mentions symbol := fun same => different same.symm
  rw [assume_ok_iff, assume_ok_iff, evaluate_assign_of_absent absent]

theorem assume_swap {first second : Symbol} (different : first ≠ second) {x y : Int64}
    (firstAnswered : (session.perform (.assume (.const first) x)).answer = .ok .done)
    (secondAnswered : ((session.perform (.assume (.const first) x)).state.perform
      (.assume (.const second) y)).answer = .ok .done) :
    (session.perform (.assume (.const second) y)).answer = .ok .done ∧
    ((session.perform (.assume (.const second) y)).state.perform
      (.assume (.const first) x)).answer = .ok .done ∧
    ((session.perform (.assume (.const second) y)).state.perform (.assume (.const first) x)).state =
      ((session.perform (.assume (.const first) x)).state.perform (.assume (.const second) y)).state := by
  rw [state_of_assume_ok firstAnswered] at secondAnswered ⊢
  have secondAlone := (assume_ok_of_assign different).mp secondAnswered
  rw [state_of_assume_ok secondAlone]
  have firstAfter := (assume_ok_of_assign different.symm (x := y)).mpr firstAnswered
  refine ⟨secondAlone, firstAfter, ?_⟩
  rw [state_of_assume_ok firstAfter, state_of_assume_ok secondAnswered]
  exact (assign_comm session different x y).symm

theorem Effect.model_extends {operation : Operation} {reply : Reply Session Answer}
    (effect : session.Effect operation reply) :
    session.store.model.Extends reply.state.store.model := by
  cases effect with
  | resolved counting asked pointed resolution =>
    rw [resolution.model_eq]
    exact .refl _
  | refused | told | bound | written => exact .refl _
  | @loaded location base address pointed =>
    have same : (session.store.read address).2.model = session.store.model := Store.model_read _ _
    change session.store.model.Extends (session.store.read address).2.model
    rw [same]
    exact .refl _
  | assumed value unknown => exact Model.extends_insert unknown value

theorem Reaches.model_extends {first last : Session} (reached : first.Reaches last)
    (coherent : first.Coherent) : first.store.model.Extends last.store.model := by
  induction reached with
  | refl => exact .refl _
  | step operation reached ih =>
    have middle := reached.coherent coherent
    exact ih.trans (middle.effect operation).model_extends

theorem Coherent.evaluate_of_reaches {first last : Session} (coherent : first.Coherent)
    (reached : first.Reaches last) {expr : Expr} {value : Int64}
    (known : first.evaluate expr = some value) : last.evaluate expr = some value :=
  Expr.evaluate_of_extends (reached.model_extends coherent) known

theorem Effect.evaluate_const {operation : Operation} {reply : Reply Session Answer}
    (effect : session.Effect operation reply) {symbol : Symbol}
    (other : ∀ value, operation ≠ .assume (.const symbol) value) :
    reply.state.evaluate (.const symbol) = session.evaluate (.const symbol) := by
  cases effect with
  | resolved counting asked pointed resolution =>
    exact congrArg (·[symbol]?) resolution.model_eq
  | refused | told | bound | written => rfl
  | loaded => exact congrArg (·[symbol]?) (Store.model_read _ _)
  | @assumed assumed value unknown =>
    have different : ¬(Expr.const symbol).Mentions assumed := by
      rintro rfl
      exact other value rfl
    exact evaluate_assign_of_absent different session value

theorem evaluate_const_perform_assume (session : Session) (symbol : Symbol) (value : Int64) :
    (session.perform (.assume (.const symbol) value)).state.evaluate (.const symbol) ≠ none := by
  cases evaluated : session.evaluate (.const symbol) with
  | some known =>
    rw [perform_assume_of_known evaluated]
    split <;> simp [evaluated]
  | none =>
    rw [perform_assume_of_symbolic evaluated, evaluate_assign_self]
    exact Option.some_ne_none value

theorem Coherent.symbolic_perform (coherent : session.Coherent) (operation : Operation)
    (symbol : Symbol) :
    (session.perform operation).state.evaluate (.const symbol) = none ↔
      session.evaluate (.const symbol) = none ∧
        ∀ value, operation ≠ .assume (.const symbol) value := by
  by_cases about : ∃ value, operation = .assume (.const symbol) value
  · obtain ⟨value, rfl⟩ := about
    exact iff_of_false (evaluate_const_perform_assume session symbol value)
      fun spared => spared.2 value rfl
  · rw [not_exists] at about
    rw [(coherent.effect operation).evaluate_const about, and_iff_left about]

/-- A constant has no value after a run exactly if it had none before and no assumption was about it. -/
theorem Coherent.symbolic_after (coherent : session.Coherent) (operations : List Operation)
    (symbol : Symbol) :
    (session.after operations).evaluate (.const symbol) = none ↔
      session.evaluate (.const symbol) = none ∧
        ∀ value, .assume (.const symbol) value ∉ operations := by
  induction operations generalizing session with
  | nil => simp [Session.after]
  | cons operation operations ih =>
    rw [Session.after, ih (coherent.perform operation), coherent.symbolic_perform]
    simp only [List.mem_cons, not_or, forall_and, and_assoc, ne_comm]

/-- What is known is never taken back: a value of an expression stays through every later state. An
assumption succeeds exactly if it says what is known or is about a constant without a value. It
then holds from there on, no expression without the constant is touched by it, and two
assumptions on different constants may be made in either order. -/
theorem knowledge_of_reaches {graph : Graph} {settings : Settings} {events : List Event}
    {later : Session} (built : graph.Built)
    (started : Session.start graph settings = .ok (session, events))
    (reached : session.Reaches later) :
    (∀ (last : Session) (expr : Expr) (value : Int64), later.Reaches last →
      later.evaluate expr = some value → last.evaluate expr = some value) ∧
    (∀ (expr : Expr) (value : Int64),
      (later.perform (.assume expr value)).answer = .ok .done ↔
        later.evaluate expr = some value ∨
          (∃ symbol, expr = .const symbol) ∧ later.evaluate expr = none) ∧
    (∀ (expr : Expr) (value : Int64),
      (later.perform (.assume expr value)).answer = .ok .done →
        (∀ last, (later.perform (.assume expr value)).state.Reaches last →
          last.evaluate expr = some value) ∧
        ∀ other, (∀ symbol, expr = .const symbol → ¬other.Mentions symbol) →
          (later.perform (.assume expr value)).state.evaluate other = later.evaluate other) ∧
    ∀ (first second : Symbol) (x y : Int64), first ≠ second →
      (later.perform (.assume (.const first) x)).answer = .ok .done →
      ((later.perform (.assume (.const first) x)).state.perform
        (.assume (.const second) y)).answer = .ok .done →
        (later.perform (.assume (.const second) y)).answer = .ok .done ∧
        ((later.perform (.assume (.const second) y)).state.perform
          (.assume (.const first) x)).answer = .ok .done ∧
        ((later.perform (.assume (.const second) y)).state.perform
          (.assume (.const first) x)).state =
            ((later.perform (.assume (.const first) x)).state.perform
              (.assume (.const second) y)).state := by
  have coherent := reached.coherent (coherent_of_start built started)
  refine ⟨?_, fun _ _ => assume_ok_iff, ?_, ?_⟩
  · intro last expr value further known
    exact coherent.evaluate_of_reaches further known
  · intro expr value answered
    have still : (later.perform (.assume expr value)).state.Coherent :=
      (coherent.effect _).coherent coherent
    refine ⟨?_, fun other absent => evaluate_other_of_assume_ok answered absent⟩
    intro last further
    exact still.evaluate_of_reaches further (evaluate_of_assume_ok answered)
  · intro first second x y different firstAnswered secondAnswered
    exact assume_swap different firstAnswered secondAnswered

def twoValues : Session := opening .twoValues

/-- One constant is assumed to be six and, after a binding by hand, the other to be seven. -/
theorem knowledge_of_reaches_twoValues :
    ∃ events later, Session.start .twoValues .standard = .ok (twoValues, events) ∧
      later = (twoValues.perform (.assume (.const ⟨0⟩) 6)).state ∧
      (later.perform (.bind ⟨1⟩ (.num 0))).state.evaluate
        (.apply .sub (.const ⟨0⟩) (.num 2)) = some 4 ∧
      (later.perform (.assume (.const ⟨1⟩) 7)).state =
        ((twoValues.perform (.assume (.const ⟨1⟩) 7)).state.perform (.assume (.const ⟨0⟩) 6)).state := by
  have started : Session.start .twoValues .standard = .ok (twoValues, _) := rfl
  have known := knowledge_of_reaches Graph.built_twoValues started
    (.step (.assume (.const ⟨0⟩) 6) (.refl _))
  have fromStart := knowledge_of_reaches Graph.built_twoValues started (.refl _)
  refine ⟨_, _, started, rfl, ?_, ?_⟩
  · exact known.1 _ _ 4 (.step (.bind ⟨1⟩ (.num 0)) (.refl _)) rfl
  · exact (fromStart.2.2.2 ⟨0⟩ ⟨1⟩ 6 7 (by decide) rfl rfl).2.2.symm

end CellMemory.Session
