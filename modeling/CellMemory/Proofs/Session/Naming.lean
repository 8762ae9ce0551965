import CellMemory.Proofs.Expr.Evaluation
import CellMemory.Proofs.Session.Run
import CellMemory.Proofs.Store.Naming

/-! The constants of a session. Its table of names has the values it started with and the addresses that
were loaded before anything was written there; only constants in the table come to have values, as
long as assumptions are about expressions of the session. -/

namespace CellMemory.Session

open Address (numeral)
open Store (contentName contentName_injective contentName_ne_valueName)

/-- The location evaluates to the address, and an object has taken the address. -/
structure Addresses (session : Session) (location : Expr) (address : UInt32) : Prop where
  value : session.evaluate location = some (numeral address)
  taken : ∃ id, session.addresses.owners[address]? = some id

variable {session : Session}

theorem Coherent.pointee_iff (coherent : session.Coherent) {location : Expr} {address : UInt32} :
    (∃ id, session.pointee location = .ok (id, address)) ↔ session.Addresses location address := by
  constructor
  · rintro ⟨id, pointed⟩
    obtain ⟨value, known, inside, rfl, taken⟩ := pointee_eq_ok pointed
    refine ⟨?_, id, taken⟩
    rw [known, AddressSpace.numeral_of_isAddress inside]
  · rintro ⟨known, id, taken⟩
    exact ⟨id, coherent.pointee_of_taken known taken⟩

/-- Only the load of an address where nothing is written names a constant. -/
theorem Effect.mem_names {operation : Operation} {reply : Reply Session Answer}
    (effect : session.Effect operation reply) (coherent : session.Coherent) {name : String}
    (member : name ∈ reply.state.store.symbols.names) :
    name ∈ session.store.symbols.names ∨
      ∃ location address, operation = .load location ∧ session.Addresses location address ∧
        session.store.written address = none ∧ name = contentName address := by
  cases effect with
  | resolved counting asked pointed resolution =>
    cases resolution with
    | reused | refused | itself | full | settled => exact .inl member
  | refused | told | bound | written | assumed => exact .inl member
  | @loaded location base address pointed =>
    have member : name ∈ (session.store.read address).2.symbols.names := member
    cases unwritten : session.store.written address with
    | some expr =>
      rw [Store.read_of_written unwritten] at member
      exact .inl member
    | none =>
      rw [Store.read_of_unwritten unwritten] at member
      rcases Symbols.mem_intern.mp member with known | fresh
      · exact .inl known
      · exact .inr ⟨location, address, rfl, coherent.pointee_iff.mp ⟨base, pointed⟩, unwritten,
          fresh⟩

theorem Effect.symbols_extends {operation : Operation} {reply : Reply Session Answer}
    (effect : session.Effect operation reply) :
    session.store.symbols.Extends reply.state.store.symbols := by
  cases effect with
  | resolved counting asked pointed resolution =>
    cases resolution with
    | reused | refused | itself | full | settled => exact .refl _
  | refused | told | bound | written | assumed => exact .refl _
  | @loaded location base address pointed =>
    change session.store.symbols.Extends (session.store.read address).2.symbols
    rcases session.store.read_cases address with same | named
    · rw [same]
      exact .refl _
    · rw [named]
      exact session.store.symbols.extends_intern (contentName address)

theorem Effect.distinct {operation : Operation} {reply : Reply Session Answer}
    (effect : session.Effect operation reply) (distinct : session.store.symbols.Distinct) :
    reply.state.store.symbols.Distinct := by
  cases effect with
  | resolved counting asked pointed resolution =>
    cases resolution with
    | reused | refused | itself | full | settled => exact distinct
  | refused | told | bound | written | assumed => exact distinct
  | @loaded location base address pointed =>
    change (session.store.read address).2.symbols.Distinct
    rcases session.store.read_cases address with same | named
    · rw [same]
      exact distinct
    · rw [named]
      exact distinct.intern (contentName address)

theorem Coherent.symbols_extends_after (coherent : session.Coherent)
    (operations : List Operation) :
    session.store.symbols.Extends (session.after operations).store.symbols := by
  induction operations generalizing session with
  | nil => exact .refl _
  | cons operation operations ih =>
    exact (coherent.effect operation).symbols_extends.trans (ih (coherent.perform operation))

def Named (session : Session) : Prop :=
  ∀ name ∈ session.store.symbols.names, (∃ id, name = VarId.valueName id) ∨
    ∃ address : UInt32, name = contentName address ∧
      ∃ id, session.addresses.owners[address]? = some id

theorem Named.absent (named : session.Named) {address : UInt32}
    (free : session.addresses.owners[address]? = none) :
    contentName address ∉ session.store.symbols.names := by
  intro member
  rcases named (contentName address) member with ⟨id, same⟩ | ⟨other, same, id, taken⟩
  · exact contentName_ne_valueName address id same
  · rw [contentName_injective same, taken] at free
    cases free

theorem Coherent.named_perform (coherent : session.Coherent) (named : session.Named)
    (operation : Operation) : (session.perform operation).state.Named := by
  have effect := coherent.effect operation
  have grown := effect.grows coherent
  intro name member
  rcases effect.mem_names coherent member with known | ⟨location, address, _, addressed, _, same⟩
  · rcases named name known with value | ⟨address, same, id, taken⟩
    · exact .inl value
    · exact .inr ⟨address, same, id, grown.owners address id taken⟩
  · obtain ⟨id, taken⟩ := addressed.taken
    exact .inr ⟨address, same, id, grown.owners address id taken⟩

theorem Coherent.named_after (coherent : session.Coherent) (named : session.Named)
    (operations : List Operation) : (session.after operations).Named := by
  induction operations generalizing session with
  | nil => exact named
  | cons operation operations ih =>
    exact ih (coherent.perform operation) (coherent.named_perform named operation)

/-- Nothing is written, no constant has a value, and only values have named constants. -/
structure Blank (memory : Memory) : Prop where
  names : ∀ name ∈ memory.store.symbols.names, ∃ id, name = VarId.valueName id
  model : memory.store.model = ∅
  contents : memory.store.contents = ∅

theorem blank_new (mask : UInt32) : Blank (Memory.new mask) where
  names := by simp [Memory.new, Store.empty, Symbols.empty]
  model := rfl
  contents := rfl

theorem Blank.bindVariable {memory : Memory} (blank : Blank memory) (item : Variable) :
    Blank (memory.bindVariable item).state := by
  have outcome := Memory.binding memory item
  generalize memory.bindVariable item = reply at outcome ⊢
  cases outcome with
  | value kind =>
    refine ⟨?_, blank.model, blank.contents⟩
    intro name member
    rcases Symbols.mem_intern.mp member with known | same
    · exact blank.names name known
    · exact ⟨item.id, same⟩
  | storage | constant | full | aggregate | unrecognized =>
    exact ⟨blank.names, blank.model, blank.contents⟩

theorem blank_of_start {graph : Graph} {settings : Settings} {events : List Event}
    (started : Session.start graph settings = .ok (session, events)) : Blank session.memory := by
  obtain ⟨clear, rfl⟩ := start_ok started
  apply Memory.bindAll_induction Blank _ (blank_new settings.addressMask)
  intro memory item _ blank
  exact blank.bindVariable item

def Owns (session : Session) (expr : Expr) : Prop :=
  ∀ symbol, expr.Mentions symbol → symbol.index < session.store.symbols.names.size

def AssumesOwn (session : Session) : Operation → Prop
  | .assume expr _ => session.Owns expr
  | .lookup _ | .addressOf _ | .offset _ | .resolve _ _ | .select _ _ | .write _ _ | .load _
  | .bind _ _ => True

def AssumesOwnAll (session : Session) : List Operation → Prop
  | [] => True
  | operation :: operations =>
    session.AssumesOwn operation ∧ AssumesOwnAll (session.perform operation).state operations

def Valued (session : Session) : Prop :=
  ∀ (symbol : Symbol) (value : Int64), session.store.model[symbol]? = some value →
    symbol.index < session.store.symbols.names.size

theorem Valued.evaluate_next (valued : session.Valued) {symbol : Symbol}
    (next : symbol.index = session.store.symbols.names.size) :
    session.evaluate (.const symbol) = none := by
  cases known : session.evaluate (.const symbol) with
  | none => rfl
  | some value => exact absurd (valued symbol value known) (Nat.not_lt.mpr (Nat.le_of_eq next.symm))

theorem Effect.valued {operation : Operation} {reply : Reply Session Answer}
    (effect : session.Effect operation reply) (valued : session.Valued)
    (own : session.AssumesOwn operation) : reply.state.Valued := by
  cases effect with
  | resolved counting asked pointed resolution =>
    cases resolution with
    | reused | refused | itself | full | settled => exact valued
  | refused | told | bound | written => exact valued
  | @loaded location base address pointed =>
    intro symbol value known
    have grown : session.store.symbols.Extends (session.store.read address).2.symbols :=
      (Effect.loaded pointed).symbols_extends
    have known : (session.store.read address).2.model[symbol]? = some value := known
    rw [Store.model_read] at known
    exact Nat.lt_of_lt_of_le (valued symbol value known) grown.size_le
  | @assumed symbol number unknown =>
    intro other value known
    have known : (session.store.model.insert symbol number)[other]? = some value := known
    rw [Model.getElem?_insert] at known
    split at known
    · next same =>
      subst same
      exact own other rfl
    · exact valued other value known

theorem Coherent.valued_after (coherent : session.Coherent) (valued : session.Valued)
    {operations : List Operation} (own : session.AssumesOwnAll operations) :
    (session.after operations).Valued := by
  induction operations generalizing session with
  | nil => exact valued
  | cons operation operations ih =>
    have still := (coherent.effect operation).valued valued own.1
    exact ih (coherent.perform operation) still own.2

end CellMemory.Session
