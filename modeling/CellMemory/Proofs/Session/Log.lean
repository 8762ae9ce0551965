import CellMemory.Proofs.Gep.Exactness
import CellMemory.Proofs.Session.Identity
import CellMemory.Proofs.Session.Rebinding

/-! What the events of a session tell of derived objects. An object is told to be bound for a base
and an offset once in a session, and from then on to be reused for them. The invariant of a run is
that the memo holds just what events told to be bound. -/

namespace CellMemory

namespace Gep

variable {types : Layout.Table} {store : Store} {pointee : Option TypeId}

theorem Index.index_of_step {index : Index} {step : Step}
    (stepped : index.step types store pointee = .ok step) : step.index = index := by
  unfold Index.step at stepped
  split at stepped
  · cases stepped
  · split at stepped
    · cases stepped
    · cases stepped
      rfl

theorem walk_steps {indices : List Index} {counted total : Int64} {steps : List Step}
    (walked : walk types store pointee counted indices = (.ok total, steps)) :
    steps.map Step.index = indices ∧
      counted.toInt + (steps.map fun step => step.slots.toInt).sum = total.toInt := by
  induction indices generalizing counted steps with
  | nil =>
    cases walked
    simp
  | cons index indices ih =>
    rw [walk] at walked
    cases stepped : index.step types store pointee with
    | error fault => simp [stepped] at walked
    | ok step =>
      simp only [stepped] at walked
      cases summed : Numeral.exact .gepOffset (counted.toInt + step.slots.toInt) with
      | error fault => simp [summed] at walked
      | ok sum =>
        simp only [summed, Prod.mk.injEq] at walked
        obtain ⟨answered, rfl⟩ := walked
        obtain ⟨told, added⟩ := ih (Prod.ext answered rfl)
        rw [Numeral.exact_eq_ok_iff.mp summed] at added
        simp [Index.index_of_step stepped, told, ← added, Int.add_assoc]

theorem offset_steps {gep : Gep} (indexed : gep.indices ≠ []) {total : Int64}
    (counted : (gep.offset types store).1 = .ok total) :
    (gep.offset types store).2.map Step.index = gep.indices.reverse ∧
      ((gep.offset types store).2.map fun step => step.slots.toInt).sum = total.toInt := by
  rw [offset_of_indices indexed] at counted ⊢
  obtain ⟨told, added⟩ := walk_steps (Prod.ext counted rfl)
  exact ⟨told, (Int.zero_add _).symm.trans added⟩

end Gep

namespace Event

/-- Whether an object is told to be found for a base and an offset, for the first time or again. -/
def tellsDerived : Event → Bool
  | derivedReused _ _ _ | derivedBound _ _ _ => true
  | boundValue _ | boundObject _ _ | gepStep _ | initialized _ _ => false

def boundFor? : Event → Option Cell
  | derivedBound base offset _ => some ⟨base, offset⟩
  | boundValue _ | boundObject _ _ | gepStep _ | derivedReused _ _ _ | initialized _ _ => none

end Event

def Silent (events : List Event) : Prop := ∀ event ∈ events, event.tellsDerived = false

theorem silent_nil : Silent [] := fun _ member => nomatch member

theorem Silent.append {first second : List Event} (silent : Silent first) (further : Silent second) :
    Silent (first ++ second) := by
  intro event member
  rcases List.mem_append.mp member with before | after
  · exact silent event before
  · exact further event after

theorem silent_steps (steps : List Gep.Step) : Silent (steps.map .gepStep) := by
  intro event member
  obtain ⟨step, _, rfl⟩ := List.mem_map.mp member
  rfl

theorem Silent.filter {events : List Event} (silent : Silent events) :
    events.filter Event.tellsDerived = [] := by
  simpa [Silent] using silent

theorem Silent.filterMap {events : List Event} (silent : Silent events) :
    events.filterMap Event.boundFor? = [] := by
  rw [List.filterMap_eq_nil_iff]
  intro event member
  have quiet := silent event member
  cases event with
  | derivedBound => cases quiet
  | derivedReused | boundValue | boundObject | gepStep | initialized => rfl

namespace Session

def log (session : Session) (operations : List Operation) : List Event :=
  (session.run operations).flatMap Reply.events

variable {session : Session}

theorem log_cons (session : Session) (operation : Operation) (operations : List Operation) :
    session.log (operation :: operations) =
      (session.perform operation).events ++ (session.perform operation).state.log operations := rfl

def Ordered (told : List Event) : Prop :=
  ∀ (earlier later : List Event) (base : VarId) (offset : Int64) (derived : VarId),
    told = earlier ++ .derivedReused base offset derived :: later →
      .derivedBound base offset derived ∈ earlier

/-- The memo holds what events told to be bound, for each base and offset once, and nothing was told to
be reused before it was told to be bound. -/
structure Recalls (session : Session) (told : List Event) : Prop where
  memo : ∀ (base : VarId) (offset : Int64) (derived : VarId),
    session.memo[Cell.mk base offset]? = some derived ↔ .derivedBound base offset derived ∈ told
  once : (told.filterMap Event.boundFor?).Nodup
  ordered : Ordered told

variable {told : List Event}

theorem mem_boundFor {cell : Cell} :
    cell ∈ told.filterMap Event.boundFor? ↔
      ∃ derived, .derivedBound cell.base cell.offset derived ∈ told := by
  rw [List.mem_filterMap]
  constructor
  · rintro ⟨event, member, told⟩
    cases event with
    | derivedBound base offset derived =>
      cases told
      exact ⟨derived, member⟩
    | derivedReused | boundValue | boundObject | gepStep | initialized => cases told
  · rintro ⟨derived, member⟩
    exact ⟨_, member, rfl⟩

theorem Ordered.append (ordered : Ordered told) {events : List Event}
    (known : ∀ (base : VarId) (offset : Int64) (derived : VarId),
      .derivedReused base offset derived ∈ events → .derivedBound base offset derived ∈ told) :
    Ordered (told ++ events) := by
  intro earlier later base offset derived split
  rcases List.append_eq_append_iff.mp split with ⟨more, rfl, rest⟩ | ⟨more, old, rest⟩
  · exact List.mem_append_left more (known base offset derived (by simp [rest]))
  · cases more with
    | nil =>
      rw [List.append_nil] at old
      rw [List.nil_append] at rest
      subst old rest
      exact known base offset derived List.mem_cons_self
    | cons event more =>
      cases rest
      exact ordered earlier more base offset derived old

/-- The memo recalls more events if it gained what they tell to be bound, each base and offset for the
first time, and held what they tell to be reused. -/
theorem Recalls.append (recalls : session.Recalls told) {later : Session} {events : List Event}
    (memo : ∀ (base : VarId) (offset : Int64) (derived : VarId),
      later.memo[Cell.mk base offset]? = some derived ↔
        session.memo[Cell.mk base offset]? = some derived ∨
          .derivedBound base offset derived ∈ events)
    (once : (events.filterMap Event.boundFor?).Nodup)
    (fresh : ∀ (base : VarId) (offset : Int64) (derived : VarId),
      .derivedBound base offset derived ∈ events → session.memo[Cell.mk base offset]? = none)
    (held : ∀ (base : VarId) (offset : Int64) (derived : VarId),
      .derivedReused base offset derived ∈ events →
        session.memo[Cell.mk base offset]? = some derived) :
    later.Recalls (told ++ events) := by
  refine ⟨?_, ?_, ?_⟩
  · intro base offset derived
    rw [memo, recalls.memo, List.mem_append]
  · rw [List.filterMap_append]
    refine List.nodup_append.mpr ⟨recalls.once, once, ?_⟩
    -- the memo holds every cell that was told before, so a cell it lacks was not
    rintro cell known _ again rfl
    obtain ⟨derived, bound⟩ := mem_boundFor.mp known
    obtain ⟨other, rebound⟩ := mem_boundFor.mp again
    have absent := fresh cell.base cell.offset other rebound
    rw [(recalls.memo cell.base cell.offset derived).mpr bound] at absent
    cases absent
  · apply recalls.ordered.append
    intro base offset derived member
    exact (recalls.memo base offset derived).mp (held base offset derived member)

theorem Recalls.silent (recalls : session.Recalls told) {later : Session} {events : List Event}
    (silent : Silent events) (same : later.memo = session.memo) : later.Recalls (told ++ events) := by
  have nothing : ∀ event ∈ events, event.tellsDerived = true → False := by
    intro event member tells
    rw [silent event member] at tells
    cases tells
  apply recalls.append
  · intro base offset derived
    rw [same, or_iff_left]
    exact fun member => nothing _ member rfl
  · simp [silent.filterMap]
  · exact fun _ _ _ member => (nothing _ member rfl).elim
  · exact fun _ _ _ member => (nothing _ member rfl).elim

theorem recalls_of_silent (empty : session.memo = ∅) (silent : Silent told) :
    session.Recalls told := by
  have nothing : session.Recalls [] :=
    ⟨by simp [empty], List.nodup_nil, fun _ _ _ _ _ split => by simp at split⟩
  exact nothing.silent silent rfl

theorem settle_memo_iff {base derived : VarId} {offset : Int64} {graph : Graph} {address : UInt32}
    (unknown : session.memo[Cell.mk base offset]? = none) (other object : VarId) (distance : Int64) :
    (session.settle base offset derived graph address).memo[Cell.mk other distance]? = some object ↔
      session.memo[Cell.mk other distance]? = some object ∨
        other = base ∧ distance = offset ∧ object = derived := by
  rw [settle, Std.ExtTreeMap.getElem?_insert]
  split
  · next same =>
    cases Std.LawfulEqOrd.eq_of_compare same
    simp [unknown, eq_comm]
  · next different =>
    rw [or_iff_left]
    rintro ⟨rfl, rfl, _⟩
    exact different Std.ReflCmp.compare_self

theorem Resolution.recalls {base : VarId} {offset : Int64} {reply : Reply Session Expr}
    (resolution : session.Resolution base offset reply) (recalls : session.Recalls told) :
    reply.state.Recalls (told ++ reply.events) := by
  cases resolution with
  | refused | itself | full => exact recalls.silent silent_nil rfl
  | reused known bound =>
    apply recalls.append
    · simp
    · exact List.nodup_nil
    · simp
    · intro other distance object member
      cases List.mem_singleton.mp member
      exact known
  | settled unknown reached other placed =>
    apply recalls.append
    · intro someBase someOffset object
      rw [settle_memo_iff unknown]
      simp
    · exact List.nodup_singleton _
    · intro someBase someOffset object member
      simp only [List.mem_cons, reduceCtorEq, Event.derivedBound.injEq, List.not_mem_nil, or_false,
        false_or] at member
      obtain ⟨rfl, rfl, _⟩ := member
      exact unknown
    · simp

theorem perform_of_no_query {operation : Operation} (silent : session.query operation = none) :
    (∃ steps : List Gep.Step, (session.perform operation).events = steps.map .gepStep) ∧
      (session.perform operation).state.memo = session.memo := by
  cases operation with
  | resolve pointer offset => cases silent
  | lookup | addressOf | bind => exact ⟨⟨[], rfl⟩, rfl⟩
  | offset gep => exact ⟨⟨_, rfl⟩, rfl⟩
  | select source gep =>
    simp only [query, Session.offset] at silent
    simp only [perform, Reply.answering, select, Session.offset]
    cases counted : (gep.offset session.graph.types session.store).1 with
    | error fault => exact ⟨⟨_, rfl⟩, rfl⟩
    | ok slots =>
      cases bound : session.lookup source with
      | error fault => exact ⟨⟨_, rfl⟩, rfl⟩
      | ok base => simp [counted, bound] at silent
  | write | load =>
    simp only [perform, Reply.answering, write, load]
    split <;> exact ⟨⟨[], rfl⟩, rfl⟩
  | assume expr value =>
    simp only [perform, Reply.answering, assume]
    split
    · split <;> exact ⟨⟨[], rfl⟩, rfl⟩
    · exact ⟨⟨[], rfl⟩, rfl⟩
    · exact ⟨⟨[], rfl⟩, rfl⟩

theorem Coherent.recalls_perform (coherent : session.Coherent) (recalls : session.Recalls told)
    (operation : Operation) :
    (session.perform operation).state.Recalls (told ++ (session.perform operation).events) := by
  cases asked : session.query operation with
  | none =>
    obtain ⟨⟨steps, events⟩, memo⟩ := perform_of_no_query asked
    rw [events]
    exact recalls.silent (silent_steps steps) memo
  | some place =>
    rcases place with ⟨pointer, offset⟩
    obtain ⟨steps, performed⟩ := perform_of_query asked
    rw [performed, ← List.append_assoc]
    have counted : session.Recalls (told ++ steps.map .gepStep) :=
      recalls.silent (silent_steps steps) rfl
    cases pointed : session.pointee pointer with
    | error fault =>
      rw [resolve_of_pointee_error pointed]
      exact counted.silent silent_nil rfl
    | ok found =>
      rcases found with ⟨base, address⟩
      exact (coherent.resolution pointed offset).recalls counted

/-- A resolving that succeeds tells of the object it finds, unless this is the base itself. -/
theorem Resolution.filter_events {base : VarId} {offset : Int64} {reply : Reply Session Expr}
    (resolution : session.Resolution base offset reply) (coherent : session.Coherent)
    (recalls : session.Recalls told) {expr : Expr} (answered : reply.answer = .ok expr) :
    ∃ derived, (session.graph.derive base offset).1 = .ok derived ∧
      reply.events.filter Event.tellsDerived =
        if derived = base then []
        else if .derivedBound base offset derived ∈ told then [.derivedReused base offset derived]
        else [.derivedBound base offset derived] := by
  cases resolution with
  | refused | full => cases answered
  | @reused derived _ known bound =>
    obtain ⟨other, _, _, again⟩ := coherent.memo base offset derived known
    refine ⟨derived, congrArg Prod.fst again, ?_⟩
    rw [if_neg other, if_pos ((recalls.memo base offset derived).mp known)]
    rfl
  | itself unknown again bound => exact ⟨base, congrArg Prod.fst again, (if_pos rfl).symm⟩
  | @settled derived graph address unknown reached other placed =>
    have new : .derivedBound base offset derived ∉ told := by
      intro member
      rw [(recalls.memo base offset derived).mpr member] at unknown
      cases unknown
    refine ⟨derived, congrArg Prod.fst reached, ?_⟩
    rw [if_neg other, if_neg new]
    rfl

theorem Coherent.filter_events (coherent : session.Coherent) (recalls : session.Recalls told)
    {operation : Operation} {answer : Answer} (request : operation.isRequest = true)
    (answered : (session.perform operation).answer = .ok answer) :
    ∃ base offset derived, session.Selects operation base offset derived ∧
      (session.perform operation).events.filter Event.tellsDerived =
        if derived = base then []
        else if .derivedBound base offset derived ∈ told then [.derivedReused base offset derived]
        else [.derivedBound base offset derived] := by
  obtain ⟨pointer, offset, base, address, asked, pointed⟩ := coherent.requested request answered
  obtain ⟨expr, _, resolved⟩ := answer_of_query asked answered
  obtain ⟨steps, performed⟩ := perform_of_query asked
  obtain ⟨derived, reached, told⟩ :=
    (coherent.resolution pointed offset).filter_events coherent recalls resolved
  refine ⟨base, offset, derived, ⟨⟨pointer, address, asked, pointed⟩, reached⟩, ?_⟩
  rw [performed, List.filter_append, (silent_steps steps).filter, told, List.nil_append]

theorem silent_bindVariable (memory : Memory) (item : Variable) :
    Silent (memory.bindVariable item).events := by
  have outcome := Memory.binding memory item
  generalize memory.bindVariable item = reply at outcome ⊢
  cases outcome with
  | value | storage | constant => simp [Silent, Memory.bindTo, Event.tellsDerived]
  | full | aggregate | unrecognized => exact silent_nil

theorem silent_bindAll (memory : Memory) (items : List Variable) :
    Silent (memory.bindAll items).events := by
  induction items generalizing memory with
  | nil => exact silent_nil
  | cons item items ih =>
    have first := silent_bindVariable memory item
    rw [Memory.bindAll]
    cases bound : memory.bindVariable item with
    | mk answer state events =>
      rw [bound] at first
      cases answer with
      | error fault => exact first
      | ok expr => exact first.append (ih state)

theorem silent_of_start {graph : Graph} {settings : Settings} {events : List Event}
    (started : Session.start graph settings = .ok (session, events)) : Silent events := by
  unfold start at started
  cases accepted : settings.check with
  | error fault => simp [accepted] at started
  | ok done =>
    simp only [accepted] at started
    have bound := silent_bindAll (Memory.new settings.addressMask) graph.vars.toList
    generalize (Memory.new settings.addressMask).bindAll graph.vars.toList = reply at started bound
    rcases reply with ⟨answer, memory, told⟩
    cases answer with
    | error fault => cases started
    | ok done =>
      cases started
      apply bound.append
      simp [Silent, Event.tellsDerived]

theorem Coherent.recalls_after (coherent : session.Coherent) (recalls : session.Recalls told)
    (operations : List Operation) :
    (session.after operations).Recalls (told ++ session.log operations) := by
  induction operations generalizing session told with
  | nil => exact (List.append_nil told).symm ▸ recalls
  | cons operation operations ih =>
    rw [log_cons, ← List.append_assoc]
    exact ih (coherent.perform operation) (coherent.recalls_perform recalls operation)

/-- An object is told to be bound for a base and an offset once in a session, and every reuse that is
told of comes after it. A request that succeeds tells of the object that it selects, a binding the
first time and a reuse from then on; of the base itself it tells nothing. An offset that is counted
through indices is the sum of the steps that are told, one for each index from the last to the
first. -/
theorem log_of_run {graph : Graph} {settings : Settings} {events : List Event}
    (built : graph.Built) (started : Session.start graph settings = .ok (session, events))
    (operations : List Operation) :
    ((events ++ session.log operations).filterMap Event.boundFor?).Nodup ∧
    (∀ (earlier later : List Event) (base : VarId) (offset : Int64) (derived : VarId),
      events ++ session.log operations = earlier ++ .derivedReused base offset derived :: later →
        .derivedBound base offset derived ∈ earlier) ∧
    (∀ (operation : Operation) (answer : Answer), operation.isRequest = true →
      ((session.after operations).perform operation).answer = .ok answer →
        ∃ base offset derived, (session.after operations).Selects operation base offset derived ∧
          ((session.after operations).perform operation).events.filter Event.tellsDerived =
            if derived = base then []
            else if .derivedBound base offset derived ∈ events ++ session.log operations then
              [.derivedReused base offset derived]
            else [.derivedBound base offset derived]) ∧
    ∀ (gep : Gep) (total : Int64), gep.indices ≠ [] →
      ((session.after operations).perform (.offset gep)).answer = .ok (.offset total) →
        ∃ steps : List Gep.Step,
          ((session.after operations).perform (.offset gep)).events = steps.map .gepStep ∧
          steps.map Gep.Step.index = gep.indices.reverse ∧
          (steps.map fun step => step.slots.toInt).sum = total.toInt := by
  have initial := coherent_of_start built started
  have blank : session.memo = ∅ := by rw [(start_ok started).2]
  have recalls : (session.after operations).Recalls (events ++ session.log operations) :=
    initial.recalls_after (recalls_of_silent blank (silent_of_start started)) operations
  refine ⟨recalls.once, recalls.ordered, ?_, ?_⟩
  · intro operation answer request answered
    exact (initial.after operations).filter_events recalls request answered
  · intro gep total indexed answered
    generalize session.after operations = last at answered ⊢
    refine ⟨(gep.offset last.graph.types last.store).2, rfl, Gep.offset_steps indexed ?_⟩
    cases counted : (gep.offset last.graph.types last.store).1 with
    | error fault => simp [perform, Session.offset, counted, Except.map] at answered
    | ok slots =>
      simp only [perform, Session.offset, counted] at answered
      cases answered
      rfl

/-- A cell that was bound by hand after it was found is told to be reused, and the log tells the two
steps of an offset in the array from the last. -/
theorem log_of_run_handBoundCell :
    (handBoundCell.perform (.resolve (.num 0x7f000001) 1)).events.filter Event.tellsDerived =
      [.derivedReused ⟨1⟩ 1 ⟨2⟩] ∧
    ∃ steps : List Gep.Step,
      (handBoundCell.perform
          (.offset ⟨[⟨.constant 2, some ⟨1⟩⟩, ⟨.constant (-1), none⟩], 0, none⟩)).events =
        steps.map .gepStep ∧
      steps.map Gep.Step.index = [⟨.constant (-1), none⟩, ⟨.constant 2, some ⟨1⟩⟩] ∧
      (steps.map fun step => step.slots.toInt).sum = 1 := by
  have built : Graph.ring.Built := .declare (.new _) _ _
  have started : Session.start .ring .standard = .ok (opening .ring, _) := rfl
  obtain ⟨_, _, told, counted⟩ :=
    log_of_run built started [.resolve (.num 0x7f000001) 1, .bind ⟨2⟩ (.num 5)]
  obtain ⟨base, offset, derived, selects, events⟩ :=
    told (.resolve (.num 0x7f000001) 1) (.expr (.num 5)) rfl (by decide)
  obtain ⟨pointer, address, asked, pointed⟩ := selects.requested
  cases asked
  have first : handBoundCell.pointee (.num 0x7f000001) = .ok (⟨1⟩, 0x7f000001) := by decide
  cases pointed.symm.trans first
  have second : (handBoundCell.graph.derive ⟨1⟩ 1).1 = .ok ⟨2⟩ := by decide
  cases selects.reached.symm.trans second
  exact ⟨events.trans (by decide), counted _ 1 (by decide) (by decide)⟩

end Session

end CellMemory
