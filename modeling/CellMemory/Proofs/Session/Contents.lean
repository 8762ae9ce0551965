import CellMemory.Proofs.Session.Knowledge
import CellMemory.Proofs.Session.Naming

/-! What a load finds. Along every run the contents of an address are what was written there last,
through whatever pointer; where nothing was written they are a constant named after the address,
the same at each load and new to the session at the first. That a constant is new to the session
does not mean that nothing was assumed about it: an assumption may be about any constant. -/

namespace CellMemory.Session

open Address (numeral numeral_injective)
open Store (contentName contentName_injective)

def write? (session : Session) (address : UInt32) : Operation → Option Expr
  | .write location value =>
    if session.evaluate location = some (numeral address) ∧
      (session.write location value).answer = .ok () then some value
    else none
  | .lookup _ | .addressOf _ | .offset _ | .resolve _ _ | .select _ _ | .load _ | .assume _ _
  | .bind _ _ => none

def lastWrite (session : Session) (address : UInt32) : List Operation → Option Expr
  | [] => none
  | operation :: operations =>
    (lastWrite (session.perform operation).state address operations).or
      (session.write? address operation)

variable {session : Session}

theorem write_of_pointee {location : Expr} {id : VarId} {address : UInt32}
    (pointed : session.pointee location = .ok (id, address)) (value : Expr) :
    session.write location value =
      ⟨.ok (), session.withStore (session.store.write address value), []⟩ := by
  simp only [write, pointed]

theorem write_of_pointee_error {location : Expr} {fault : Fault}
    (refused : session.pointee location = .error fault) (value : Expr) :
    session.write location value = ⟨.error fault, session, []⟩ := by
  simp only [write, refused]

theorem Coherent.written_write (coherent : session.Coherent) (location value : Expr)
    (address : UInt32) :
    (session.write location value).state.store.written address =
      (session.write? address (.write location value)).or (session.store.written address) := by
  cases pointed : session.pointee location with
  | error fault =>
    rw [write?, write_of_pointee_error pointed]
    simp
  | ok place =>
    rcases place with ⟨id, other⟩
    have known := (coherent.pointee_iff.mp ⟨id, pointed⟩).value
    have written := session.store.written_write other address value
    rw [write?, write_of_pointee pointed, known]
    by_cases same : address = other
    · subst same
      rw [if_pos rfl] at written
      rw [if_pos ⟨rfl, rfl⟩]
      exact written
    · have apart : ¬(some (numeral other) = some (numeral address)) := by
        intro equal
        exact same (numeral_injective (Option.some.inj equal)).symm
      rw [if_neg same] at written
      rw [if_neg fun both => apart both.1]
      exact written

theorem Effect.written_eq {operation : Operation} {reply : Reply Session Answer}
    (effect : session.Effect operation reply)
    (noWrite : ∀ location value, operation ≠ .write location value) (address : UInt32) :
    reply.state.store.written address = session.store.written address := by
  cases effect with
  | resolved counting asked pointed resolution =>
    cases resolution with
    | reused | refused | itself | full | settled => rfl
  | refused | told | bound | assumed => rfl
  | written value pointed => exact absurd rfl (noWrite _ value)
  | loaded pointed => exact Store.written_read session.store _ address

theorem Coherent.written_perform (coherent : session.Coherent) (operation : Operation)
    (address : UInt32) :
    (session.perform operation).state.store.written address =
      (session.write? address operation).or (session.store.written address) := by
  cases operation with
  | write location value => exact coherent.written_write location value address
  | lookup | addressOf | offset | resolve | select | load | assume | bind =>
    apply (coherent.effect _).written_eq
    intro location value same
    cases same

theorem Coherent.written_after (coherent : session.Coherent) (operations : List Operation)
    (address : UInt32) :
    (session.after operations).store.written address =
      (session.lastWrite address operations).or (session.store.written address) := by
  induction operations generalizing session with
  | nil => rfl
  | cons operation operations ih =>
    rw [Session.after, ih (coherent.perform operation), coherent.written_perform, lastWrite,
      Option.or_assoc]

theorem Coherent.written_after_blank (coherent : session.Coherent) (blank : Blank session.memory)
    (operations : List Operation) (address : UInt32) :
    (session.after operations).store.written address = session.lastWrite address operations := by
  have nothing : session.store.written address = none := by
    change session.memory.store.contents[address]? = none
    simp [blank.contents]
  rw [coherent.written_after, nothing, Option.or_none]

theorem written_after_start {graph : Graph} {settings : Settings} {events : List Event}
    (built : graph.Built) (started : Session.start graph settings = .ok (session, events))
    (operations : List Operation) (address : UInt32) :
    (session.after operations).store.written address = session.lastWrite address operations :=
  (coherent_of_start built started).written_after_blank (blank_of_start started) operations address

theorem Coherent.unwritten_of_free (coherent : session.Coherent) {address : UInt32}
    (free : session.addresses.owners[address]? = none) : session.store.written address = none := by
  cases held : session.store.written address with
  | none => rfl
  | some expr =>
    obtain ⟨id, taken⟩ := coherent.memory.contents address expr held
    rw [Session.addresses, taken] at free
    cases free

theorem Coherent.perform_load (coherent : session.Coherent) {location : Expr} {address : UInt32}
    (addressed : session.Addresses location address) :
    session.perform (.load location) = ⟨.ok (.expr (session.store.read address).1),
      session.withStore (session.store.read address).2, []⟩ := by
  obtain ⟨id, pointed⟩ := coherent.pointee_iff.mpr addressed
  simp only [Session.perform, Reply.answering, load, pointed]
  rfl

theorem Coherent.load_of_unwritten (coherent : session.Coherent) {location : Expr}
    {address : UInt32} (addressed : session.Addresses location address)
    (unwritten : session.store.written address = none) :
    (session.perform (.load location)).answer =
        .ok (.expr (.const (session.store.symbols.intern (contentName address)).1)) ∧
      (session.perform (.load location)).state.store.symbols =
        (session.store.symbols.intern (contentName address)).2 := by
  rw [coherent.perform_load addressed, Store.read_of_unwritten unwritten]
  exact ⟨rfl, rfl⟩

theorem Coherent.load_after_write (coherent : session.Coherent) {location other : Expr}
    {address otherAddress : UInt32} (addressed : session.Addresses location address)
    (otherAddressed : session.Addresses other otherAddress) (different : address ≠ otherAddress)
    (value : Expr) :
    ((session.perform (.write location value)).state.perform (.load other)).answer =
      (session.perform (.load other)).answer := by
  obtain ⟨id, pointed⟩ := coherent.pointee_iff.mpr addressed
  have later := coherent.perform (.write location value)
  have state : (session.perform (.write location value)).state =
      session.withStore (session.store.write address value) :=
    congrArg Reply.state (write_of_pointee pointed value)
  rw [state] at later ⊢
  have still : (session.withStore (session.store.write address value)).Addresses other
      otherAddress := ⟨otherAddressed.value, otherAddressed.taken⟩
  rw [later.perform_load still, coherent.perform_load otherAddressed]
  have same := Store.read_write_of_ne session.store different value
  exact congrArg (fun expr => Except.ok (Answer.expr expr)) same

def Touches (session : Session) (address : UInt32) : Operation → Prop
  | .load location | .write location _ => session.Addresses location address
  | .lookup _ | .addressOf _ | .offset _ | .resolve _ _ | .select _ _ | .assume _ _
  | .bind _ _ => False

def Untouched (session : Session) (address : UInt32) : List Operation → Prop
  | [] => True
  | operation :: operations =>
    ¬session.Touches address operation ∧
      Untouched (session.perform operation).state address operations

theorem Coherent.write?_of_untouched (coherent : session.Coherent) {operation : Operation}
    {address : UInt32} (untouched : ¬session.Touches address operation) :
    session.write? address operation = none := by
  cases operation with
  | lookup | addressOf | offset | resolve | select | load | assume | bind => rfl
  | write location value =>
    rw [write?, if_neg]
    rintro ⟨known, answered⟩
    apply untouched
    cases pointed : session.pointee location with
    | error fault =>
      rw [write_of_pointee_error pointed] at answered
      cases answered
    | ok place =>
      rcases place with ⟨id, other⟩
      have addressed := coherent.pointee_iff.mp ⟨id, pointed⟩
      have same := numeral_injective (Option.some.inj (known.symm.trans addressed.value))
      rw [same]
      exact addressed

theorem Coherent.blank_after (coherent : session.Coherent) {operations : List Operation}
    {address : UInt32} (untouched : session.Untouched address operations)
    (unwritten : session.store.written address = none)
    (absent : contentName address ∉ session.store.symbols.names) :
    (session.after operations).store.written address = none ∧
      contentName address ∉ (session.after operations).store.symbols.names := by
  induction operations generalizing session with
  | nil => exact ⟨unwritten, absent⟩
  | cons operation operations ih =>
    apply ih (coherent.perform operation) untouched.2
    · rw [coherent.written_perform, coherent.write?_of_untouched untouched.1, unwritten]
      rfl
    · intro member
      rcases (coherent.effect operation).mem_names coherent member with
        known | ⟨location, other, rfl, addressed, _, same⟩
      · exact absent known
      · apply untouched.1
        rw [contentName_injective same]
        exact addressed

theorem Coherent.model_load (coherent : session.Coherent) {location : Expr} {address : UInt32}
    (addressed : session.Addresses location address) :
    (session.perform (.load location)).state.store.model = session.store.model := by
  rw [coherent.perform_load addressed]
  exact Store.model_read session.store address

/-- A load that finds nothing written names a constant that is new to the session, and gives it no
value. -/
theorem Coherent.first_load (coherent : session.Coherent) {location : Expr} {address : UInt32}
    (addressed : session.Addresses location address)
    (unwritten : session.store.written address = none)
    (absent : contentName address ∉ session.store.symbols.names) :
    ∃ symbol, (session.perform (.load location)).answer = .ok (.expr (.const symbol)) ∧
      symbol.index = session.store.symbols.names.size ∧
        (session.perform (.load location)).state.evaluate (.const symbol) =
          session.evaluate (.const symbol) := by
  obtain ⟨answer, _⟩ := coherent.load_of_unwritten addressed unwritten
  rw [Symbols.intern_of_absent absent] at answer
  exact ⟨⟨session.store.symbols.names.size⟩, answer, rfl,
    congrArg (·[Symbol.mk _]?) (coherent.model_load addressed)⟩

theorem Coherent.load_again (coherent : session.Coherent) {location other : Expr}
    {address : UInt32} (addressed : session.Addresses location address)
    (unwritten : session.store.written address = none) (rest : List Operation)
    (again : (session.after (.load location :: rest)).Addresses other address)
    (still : (session.after (.load location :: rest)).store.written address = none) :
    ((session.after (.load location :: rest)).perform (.load other)).answer =
      (session.perform (.load location)).answer := by
  obtain ⟨answer, symbols⟩ := coherent.load_of_unwritten addressed unwritten
  have named := Symbols.find?_intern session.store.symbols (contentName address)
  rw [← symbols] at named
  have loaded := coherent.perform (.load location)
  have kept := (loaded.symbols_extends_after rest).find? named
  obtain ⟨last, _⟩ := (loaded.after rest).load_of_unwritten again still
  rw [Symbols.intern_of_find? kept] at last
  rw [answer]
  exact last

/-- Contents are a map in which the last write wins. A load of an address that an object has taken
answers what was last written there, by whatever pointer, and otherwise a constant that goes by the
name of the address, the same one at every such load. A write shows at no other address. From an
address that was taken during the run and not used since, the first load answers a constant that
the session did not have. It has no value exactly if no assumption was about it, as where all
assumptions were about the session's own expressions. -/
theorem load_answers_lastWrite {graph : Graph} {settings : Settings} {events : List Event}
    (built : graph.Built) (started : Session.start graph settings = .ok (session, events))
    (before : List Operation) {location : Expr} {address : UInt32}
    (addressed : (session.after before).Addresses location address) :
    (∀ value, session.lastWrite address before = some value →
      ((session.after before).perform (.load location)).answer = .ok (.expr value)) ∧
    (session.lastWrite address before = none →
      ∃ symbol, ((session.after before).perform (.load location)).answer =
          .ok (.expr (.const symbol)) ∧
        ((session.after before).perform (.load location)).state.store.symbols.names[symbol.index]? =
          some (contentName address) ∧
        ∀ (rest : List Operation) (other : Expr),
          (session.after (before ++ .load location :: rest)).Addresses other address →
          session.lastWrite address (before ++ .load location :: rest) = none →
            ((session.after (before ++ .load location :: rest)).perform (.load other)).answer =
              .ok (.expr (.const symbol))) ∧
    (∀ (other value : Expr) (otherAddress : UInt32),
      (session.after before).Addresses other otherAddress → address ≠ otherAddress →
        (((session.after before).perform (.write location value)).state.perform
          (.load other)).answer = ((session.after before).perform (.load other)).answer) ∧
    ∀ earlier rest : List Operation, before = earlier ++ rest →
      (session.after earlier).addresses.owners[address]? = none →
      (session.after earlier).Untouched address rest →
        ∃ symbol, ((session.after before).perform (.load location)).answer =
            .ok (.expr (.const symbol)) ∧
          symbol.index = (session.after before).store.symbols.names.size ∧
          (((session.after before).perform (.load location)).state.evaluate (.const symbol) = none ↔
            ∀ value, .assume (.const symbol) value ∉ before) ∧
          (session.AssumesOwnAll before →
            ((session.after before).perform (.load location)).state.evaluate (.const symbol) =
              none) := by
  have initial := coherent_of_start built started
  have coherent := initial.after before
  have blank := blank_of_start started
  have named : session.Named := fun name member => .inl (blank.names name member)
  have written := fun operations => initial.written_after_blank blank operations address
  refine ⟨?_, ?_, ?_, ?_⟩
  · intro value last
    rw [coherent.perform_load addressed, Store.read_of_written ((written before).trans last)]
  · intro last
    have unwritten := (written before).trans last
    obtain ⟨answer, symbols⟩ := coherent.load_of_unwritten addressed unwritten
    refine ⟨_, answer, ?_, ?_⟩
    · rw [symbols]
      exact Symbols.getElem?_of_find? (Symbols.find?_intern _ _)
    · intro rest other again still
      have same := (written _).trans still
      rw [after_append] at again same ⊢
      rw [coherent.load_again addressed unwritten rest again same, answer]
  · intro other value otherAddress otherAddressed different
    exact coherent.load_after_write addressed otherAddressed different value
  · rintro earlier rest rfl free untouched
    have middle := initial.after earlier
    have noContents := middle.unwritten_of_free free
    have absent := (initial.named_after named earlier).absent free
    obtain ⟨unwritten, noName⟩ := middle.blank_after untouched noContents absent
    rw [← after_append] at unwritten noName
    obtain ⟨symbol, answer, fresh, same⟩ := coherent.first_load addressed unwritten noName
    refine ⟨symbol, answer, fresh, ?_, ?_⟩
    · have unknown : session.evaluate (.const symbol) = none := by
        change session.memory.store.model[symbol]? = none
        simp [blank.model]
      rw [same, initial.symbolic_after, and_iff_right unknown]
    · intro own
      have valued : session.Valued := by
        intro other value known
        change session.memory.store.model[other]? = some value at known
        simp [blank.model] at known
      rw [same]
      exact (initial.valued_after valued own).evaluate_next fresh

def overwritten : List Operation :=
  [.resolve (.num 0x7f000001) 2, .write (.num 0x7f000001) (.num 9),
    .write (.apply .add (.num 0x7f000000) (.num 1)) (.num 11)]

theorem load_answers_lastWrite_overwritten :
    ∃ events symbol, Session.start (.single ⟨1⟩) .standard = .ok (single ⟨1⟩, events) ∧
      (((single ⟨1⟩).after overwritten).perform (.load (.num 0x7f000001))).answer =
        .ok (.expr (.num 11)) ∧
      (((single ⟨1⟩).after overwritten).perform (.load (.num 0x7f000002))).answer =
        .ok (.expr (.const symbol)) ∧
      (((single ⟨1⟩).after overwritten).perform (.load (.num 0x7f000002))).state.evaluate
        (.const symbol) = none := by
  have started : Session.start (.single ⟨1⟩) .standard = .ok (single ⟨1⟩, _) := rfl
  have location : ((single ⟨1⟩).after overwritten).Addresses (.num 0x7f000001) 0x7f000001 :=
    ⟨by decide, ⟨1⟩, by decide⟩
  have slot : ((single ⟨1⟩).after overwritten).Addresses (.num 0x7f000002) 0x7f000002 :=
    ⟨by decide, ⟨2⟩, by decide⟩
  have untouched : (single ⟨1⟩).Untouched 0x7f000002 overwritten :=
    ⟨nofun, fun touched => absurd touched.value (by decide),
      fun touched => absurd touched.value (by decide), trivial⟩
  have written := load_answers_lastWrite (Graph.built_single ⟨1⟩) started overwritten location
  have reached := load_answers_lastWrite (Graph.built_single ⟨1⟩) started overwritten slot
  have own : (single ⟨1⟩).AssumesOwnAll overwritten := ⟨trivial, trivial, trivial, trivial⟩
  obtain ⟨symbol, answer, _, _, symbolic⟩ := reached.2.2.2 [] overwritten rfl (by decide) untouched
  exact ⟨_, symbol, started, written.1 (.num 11) (by decide), answer, symbolic own⟩

/-- A constant that the session does not have yet is assumed to be five. The first name that the session
needs is for the contents of the second slot, so it is this constant that stands for them. -/
def foretold : List Operation := [.assume (.const ⟨0⟩) 5, .resolve (.num 0x7f000001) 1]

theorem not_load_answers_lastWrite :
    ¬∀ (graph : Graph) (settings : Settings) (session : Session) (events : List Event)
      (earlier rest : List Operation) (location : Expr) (address : UInt32), graph.Built →
      Session.start graph settings = .ok (session, events) →
      (session.after (earlier ++ rest)).Addresses location address →
      (session.after earlier).addresses.owners[address]? = none →
      (session.after earlier).Untouched address rest →
        ∃ symbol, ((session.after (earlier ++ rest)).perform (.load location)).answer =
            .ok (.expr (.const symbol)) ∧
          ((session.after (earlier ++ rest)).perform (.load location)).state.evaluate
            (.const symbol) = none := by
  intro unvalued
  have started : Session.start (.single ⟨1⟩) .standard = .ok (single ⟨1⟩, _) := rfl
  have untouched : (single ⟨1⟩).Untouched 0x7f000002 foretold := ⟨nofun, nofun, trivial⟩
  have answered : (((single ⟨1⟩).after foretold).perform (.load (.num 0x7f000002))).answer =
      .ok (.expr (.const ⟨0⟩)) := by decide +kernel
  obtain ⟨symbol, answer, symbolic⟩ := unvalued _ _ _ _ [] foretold (.num 0x7f000002) 0x7f000002
    (Graph.built_single ⟨1⟩) started ⟨by decide, ⟨2⟩, by decide⟩ (by decide) untouched
  cases answered.symm.trans answer
  cases symbolic

end CellMemory.Session
