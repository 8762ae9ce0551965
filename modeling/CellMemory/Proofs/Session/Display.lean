import CellMemory.Proofs.Expr.Rendering
import CellMemory.Proofs.Session.Unknowns

/-! What a session shows of its expressions. Whatever a caller comes to through one session is made
of constants that the session has named; the names are legible, so two such expressions have the
same text only if they are the same expression. -/

namespace CellMemory

open Store (contentName)

theorem VarId.isWord_valueName (id : VarId) : IsWord id.valueName.toList := by
  have word : IsWord "ValVar".toList := ⟨by decide, by simp [IsPlain]⟩
  rw [valueName, String.toList_append]
  refine word.append fun letter digit => ?_
  rw [Nat.repr, String.toList_ofList] at digit
  exact Numeral.plain_of_digit (by decide) (by decide) digit

theorem Store.isWord_contentName (address : UInt32) : IsWord (contentName address).toList := by
  have word : IsWord "Mem".toList := ⟨by decide, by simp [IsPlain]⟩
  rw [contentName, String.toList_append]
  exact word.append (Numeral.isWord_hex address.toNat).plain

namespace Unknown

theorem isWord_name (unknown : Unknown) : IsWord unknown.name.toList := by
  cases unknown with
  | value id => exact id.isWord_valueName
  | contents address => exact Store.isWord_contentName address

theorem name_ne_decimal (unknown : Unknown) (value : Int64) :
    unknown.name ≠ Numeral.decimal value := by
  cases unknown with
  | value id =>
    have letter : 'V' ∈ (name (.value id)).toList := by
      simp [name, VarId.valueName, String.toList_append]
    exact Numeral.ne_decimal letter (by decide) (by decide) value
  | contents address =>
    have letter : 'M' ∈ (name (.contents address)).toList := by
      simp [name, contentName, String.toList_append]
    exact Numeral.ne_decimal letter (by decide) (by decide) value

end Unknown

namespace Session

variable {session : Session}

theorem Named.unknown (named : session.Named) {symbol : Symbol}
    (bound : symbol.index < session.store.symbols.names.size) :
    ∃ unknown, session.StandsFor symbol unknown ∧
      session.store.symbols.name symbol = unknown.name := by
  have listed := Symbols.getElem?_name bound
  rcases named _ (Array.mem_of_getElem? listed) with ⟨id, same⟩ | ⟨address, same, _⟩
  · exact ⟨.value id, listed.trans (congrArg some same), same⟩
  · exact ⟨.contents address, listed.trans (congrArg some same), same⟩

theorem Named.legible (named : session.Named) (distinct : session.store.symbols.Distinct) :
    Expr.Legible session.store.symbols.name
      fun symbol => symbol.index < session.store.symbols.names.size where
  word := by
    intro symbol bound
    obtain ⟨unknown, _, same⟩ := named.unknown bound
    rw [same]
    exact unknown.isWord_name
  noNumeral := by
    intro symbol bound value
    obtain ⟨unknown, _, same⟩ := named.unknown bound
    rw [same]
    exact unknown.name_ne_decimal value
  injective := by
    intro first second firstBound secondBound same
    obtain ⟨unknown, firstStands, firstName⟩ := named.unknown firstBound
    obtain ⟨other, secondStands, secondName⟩ := named.unknown secondBound
    rw [firstName, secondName, Unknown.name_inj] at same
    exact (distinct.eq_iff firstStands secondStands).mpr (congrArg Unknown.name same)

theorem Named.display_inj (named : session.Named) (distinct : session.store.symbols.Distinct)
    {first second : Expr} (firstOwned : session.Owns first) (secondOwned : session.Owns second) :
    session.display first = session.display second ↔ first = second :=
  (named.legible distinct).render_inj firstOwned secondOwned

end Session

def Operation.kept : Operation → List Expr
  | bind _ expr | write _ expr => [expr]
  | lookup _ | addressOf _ | offset _ | resolve _ _ | select _ _ | load _ | assume _ _ => []

def Answer.given : Except Fault Answer → List Expr
  | .ok (.expr handed) => [handed]
  | .ok .done | .ok (.offset _) | .error _ => []

theorem Answer.eq_of_mem_given {answer : Except Fault Answer} {expr : Expr}
    (member : expr ∈ given answer) : answer = .ok (.expr expr) := by
  unfold given at member
  split at member
  · rw [List.mem_singleton.mp member]
  · cases member
  · cases member
  · cases member

namespace Session

/-- A session in the hands of a caller: the state it has come to, and the expressions the caller
has. These are numerals, answers of the session and what arithmetic makes of them; nothing else is
bound or written. -/
inductive Deals (first : Session) : Session → List Expr → Prop
  | start : Deals first first []
  | numeral {last : Session} {exprs : List Expr} (dealt : Deals first last exprs) (value : Int64) :
      Deals first last (.num value :: exprs)
  | combine {last : Session} {exprs : List Expr} {left right : Expr}
      (dealt : Deals first last exprs) (op : BinOp) (leftHeld : left ∈ exprs)
      (rightHeld : right ∈ exprs) :
      Deals first last (.combine op left right :: exprs)
  | perform {last : Session} {exprs : List Expr} (dealt : Deals first last exprs)
      {operation : Operation} (held : ∀ expr ∈ operation.kept, expr ∈ exprs) :
      Deals first (last.perform operation).state
        (Answer.given (last.perform operation).answer ++ exprs)

/-- What is bound and what is written has no constants but those of the session. -/
structure Enclosed (session : Session) : Prop where
  bound : ∀ id expr, session.lookup id = .ok expr → session.Owns expr
  written : ∀ address expr, session.store.written address = some expr → session.Owns expr

variable {session : Session}

theorem owns_num (session : Session) (value : Int64) : session.Owns (.num value) := nofun

theorem Owns.combine {left right : Expr} (leftOwned : session.Owns left)
    (rightOwned : session.Owns right) (op : BinOp) : session.Owns (.combine op left right) := by
  intro symbol mentioned
  rcases Expr.mentions_combine.mp mentioned with inLeft | inRight
  · exact leftOwned symbol inLeft
  · exact rightOwned symbol inRight

theorem Owns.mono {later : Session} {expr : Expr} (owned : session.Owns expr)
    (grown : session.store.symbols.Extends later.store.symbols) : later.Owns expr :=
  fun symbol mentioned => Nat.lt_of_lt_of_le (owned symbol mentioned) grown.size_le

theorem Enclosed.of_extends {later : Session}
    (grown : session.store.symbols.Extends later.store.symbols)
    (bound : ∀ id expr, later.lookup id = .ok expr → session.Owns expr)
    (written : ∀ address expr, later.store.written address = some expr → session.Owns expr) :
    later.Enclosed where
  bound := fun id expr held => (bound id expr held).mono grown
  written := fun address expr held => (written address expr held).mono grown

theorem Enclosed.lookup_bind (enclosed : session.Enclosed) {expr : Expr}
    (owned : session.Owns expr) {id other : VarId} {held : Expr}
    (bound : (session.store.bind id expr).lookup other = .ok held) : session.Owns held := by
  rw [Store.lookup_bind] at bound
  split at bound
  · cases bound
    exact owned
  · exact enclosed.bound other held bound

theorem Enclosed.written_write (enclosed : session.Enclosed) {expr : Expr}
    (owned : session.Owns expr) {address other : UInt32} {held : Expr}
    (written : (session.store.write address expr).written other = some held) :
    session.Owns held := by
  rw [Store.written_write] at written
  split at written
  · cases written
    exact owned
  · exact enclosed.written other held written

theorem Resolution.enclosed {base : VarId} {offset : Int64} {reply : Reply Session Expr}
    (resolution : session.Resolution base offset reply) (enclosed : session.Enclosed) :
    reply.state.Enclosed := by
  cases resolution with
  | reused | refused | itself => exact enclosed
  | full => exact .of_extends (.refl _) enclosed.bound enclosed.written
  | settled =>
    refine .of_extends (.refl _) ?_ enclosed.written
    intro id expr bound
    exact enclosed.lookup_bind (session.owns_num _) bound

theorem Effect.enclosed {operation : Operation} {reply : Reply Session Answer}
    (effect : session.Effect operation reply) (enclosed : session.Enclosed)
    (own : ∀ expr ∈ operation.kept, session.Owns expr) : reply.state.Enclosed := by
  have grown := effect.symbols_extends
  cases effect with
  | resolved counting asked pointed resolution => exact resolution.enclosed enclosed
  | refused | told => exact enclosed
  | bound id expr =>
    refine .of_extends grown (fun other held bound => ?_) enclosed.written
    exact enclosed.lookup_bind (own expr List.mem_cons_self) bound
  | written value pointed =>
    refine .of_extends grown enclosed.bound fun other held written => ?_
    exact enclosed.written_write (own value List.mem_cons_self) written
  | @loaded location base address pointed =>
    refine .of_extends grown (fun id expr bound => ?_) fun other expr written => ?_
    · exact enclosed.bound id expr ((Store.lookup_read session.store address id).symm.trans bound)
    · exact enclosed.written other expr
        ((Store.written_read session.store address other).symm.trans written)
  | assumed => exact .of_extends grown enclosed.bound enclosed.written

theorem Enclosed.read (enclosed : session.Enclosed) (address : UInt32) :
    (session.withStore (session.store.read address).2).Owns (session.store.read address).1 := by
  cases written : session.store.written address with
  | some expr =>
    rw [Store.read_of_written written]
    exact enclosed.written address expr written
  | none =>
    rw [Store.read_of_unwritten written]
    rintro symbol rfl
    have named := Symbols.find?_intern session.store.symbols (contentName address)
    obtain ⟨bound, _⟩ := Array.getElem?_eq_some_iff.mp (Symbols.getElem?_of_find? named)
    exact bound

theorem answer_of_map {α : Type} {answer : Except Fault α} {wrap : α → Answer} {expr : Expr}
    (mapped : answer.map wrap = .ok (.expr expr)) :
    ∃ value, answer = .ok value ∧ wrap value = .expr expr := by
  cases answer with
  | error fault => cases mapped
  | ok value => exact ⟨value, rfl, Except.ok.inj mapped⟩

theorem lookup_of_addressOf {id : VarId} {expr : Expr}
    (addressed : session.addressOf id = .ok expr) : session.lookup id = .ok expr := by
  rw [addressOf] at addressed
  cases kind : session.graph.kind id with
  | error fault => simp [kind] at addressed
  | ok found => cases found <;> simp_all

theorem Coherent.lookup_of_request (coherent : session.Coherent) {operation : Operation}
    {expr : Expr} (request : operation.isRequest = true)
    (answered : (session.perform operation).answer = .ok (.expr expr)) :
    ∃ id, (session.perform operation).state.lookup id = .ok expr := by
  obtain ⟨pointer, offset, base, address, asked, pointed⟩ := coherent.requested request answered
  obtain ⟨_, ⟨rfl⟩, resolved⟩ := answer_of_query asked answered
  obtain ⟨derived, _, _, bound⟩ := (coherent.resolution pointed offset).answered coherent
    (coherent.allocated_of_pointee pointed) resolved
  rw [state_of_query asked]
  exact ⟨derived, bound⟩

theorem Coherent.owns_answer (coherent : session.Coherent) (enclosed : session.Enclosed)
    {operation : Operation} (later : (session.perform operation).state.Enclosed) {expr : Expr}
    (answered : (session.perform operation).answer = .ok (.expr expr)) :
    (session.perform operation).state.Owns expr := by
  cases operation with
  | lookup id =>
    obtain ⟨_, bound, ⟨rfl⟩⟩ := answer_of_map answered
    exact enclosed.bound id _ bound
  | addressOf id =>
    obtain ⟨_, addressed, ⟨rfl⟩⟩ := answer_of_map answered
    exact enclosed.bound id _ (lookup_of_addressOf addressed)
  | resolve | select =>
    obtain ⟨id, bound⟩ := coherent.lookup_of_request rfl answered
    exact later.bound id expr bound
  | load location =>
    cases pointed : session.pointee location with
    | error fault =>
      obtain ⟨_, loaded, _⟩ := answer_of_map answered
      simp [Session.load, pointed] at loaded
    | ok place =>
      rcases place with ⟨id, address⟩
      rw [coherent.perform_load (coherent.pointee_iff.mp ⟨id, pointed⟩)] at answered ⊢
      cases answered
      exact enclosed.read address
  | offset | write | assume =>
    obtain ⟨_, _, ⟨⟩⟩ := answer_of_map answered
  | bind => cases answered

theorem Deals.reaches {first last : Session} {exprs : List Expr} (dealt : first.Deals last exprs) :
    first.Reaches last := by
  induction dealt with
  | start => exact .refl first
  | numeral _ value reached => exact reached
  | combine _ op _ _ reached => exact reached
  | perform _ _ reached => exact .step _ reached

theorem Deals.owns {first last : Session} {exprs : List Expr} (dealt : first.Deals last exprs)
    (coherent : first.Coherent) (enclosed : first.Enclosed) :
    last.Enclosed ∧ ∀ expr ∈ exprs, last.Owns expr := by
  induction dealt with
  | start => exact ⟨enclosed, nofun⟩
  | numeral _ value ih =>
    refine ⟨ih.1, fun expr member => ?_⟩
    rcases List.mem_cons.mp member with rfl | held
    · exact owns_num _ value
    · exact ih.2 expr held
  | combine _ op leftHeld rightHeld ih =>
    refine ⟨ih.1, fun expr member => ?_⟩
    rcases List.mem_cons.mp member with rfl | held
    · exact (ih.2 _ leftHeld).combine (ih.2 _ rightHeld) op
    · exact ih.2 expr held
  | @perform last exprs dealt operation held ih =>
    have middle := dealt.reaches.coherent coherent
    have effect := middle.effect operation
    have later := effect.enclosed ih.1 fun expr kept => ih.2 expr (held expr kept)
    refine ⟨later, fun expr member => ?_⟩
    rcases List.mem_append.mp member with given | before
    · exact middle.owns_answer ih.1 later (Answer.eq_of_mem_given given)
    · exact (ih.2 expr before).mono effect.symbols_extends

section Started

variable {graph : Graph} {settings : Settings} {events : List Event}
variable (built : graph.Built) (started : Session.start graph settings = .ok (session, events))

include built started

theorem enclosed_of_start : session.Enclosed where
  bound := by
    intro id expr bound
    have listed := (mem_ids_of_start built started id).mp (Store.mem_ids.mpr ⟨expr, bound⟩)
    obtain ⟨item, known⟩ := Graph.mem_ids.mp listed
    obtain ⟨other, same, represents⟩ :=
      represents_of_start built started (Array.mem_of_find?_eq_some known)
    rw [Graph.id_of_find? known, bound] at same
    cases same
    cases represents with
    | name kind named =>
      rintro symbol rfl
      exact (Array.getElem?_eq_some_iff.mp named).1
    | place | payload => exact session.owns_num _
  written := by
    intro address expr written
    change session.memory.store.contents[address]? = some expr at written
    simp [(blank_of_start started).contents] at written

theorem legible_of_reaches {later : Session} (reached : session.Reaches later) :
    later.Named ∧ later.store.symbols.Distinct := by
  have initial := coherent_of_start built started
  induction reached with
  | refl =>
    have blank := blank_of_start started
    exact ⟨fun name member => .inl (blank.names name member), (symbols_of_start started).1⟩
  | step operation reached ih =>
    have middle := reached.coherent initial
    exact ⟨middle.named_perform ih.1 operation, (middle.effect operation).distinct ih.2⟩

/-- Texts tell expressions apart. In each state of a session two expressions over its own constants
have the same text exactly if they are the same expression. All that a caller comes to by dealing
with the session is such: its text has the name of every constant in it from the session's table.
-/
theorem display_inj_of_deals :
    (∀ later, session.Reaches later → ∀ first second, later.Owns first → later.Owns second →
      (later.display first = later.display second ↔ first = second)) ∧
    ∀ later exprs, session.Deals later exprs →
      (∀ expr ∈ exprs, ∀ symbol, expr.Mentions symbol →
        later.store.symbols.names[symbol.index]? = some (later.store.symbols.name symbol)) ∧
      ∀ first ∈ exprs, ∀ second ∈ exprs,
        (later.display first = later.display second ↔ first = second) := by
  have tells : ∀ later, session.Reaches later → ∀ first second, later.Owns first →
      later.Owns second → (later.display first = later.display second ↔ first = second) := by
    intro later reached first second firstOwned secondOwned
    obtain ⟨named, distinct⟩ := legible_of_reaches built started reached
    exact named.display_inj distinct firstOwned secondOwned
  refine ⟨tells, ?_⟩
  intro later exprs dealt
  have owned := (dealt.owns (coherent_of_start built started) (enclosed_of_start built started)).2
  constructor
  · intro expr held symbol mentioned
    exact Symbols.getElem?_name (owned expr held symbol mentioned)
  · intro first firstHeld second secondHeld
    exact tells later dealt.reaches first second (owned first firstHeld) (owned second secondHeld)

end Started

def signed : List Expr :=
  [.combine .add (.const ⟨0⟩) (.num (-5)), .combine .sub (.const ⟨0⟩) (.num (-5)), .num (-5),
    .combine .sub (.const ⟨0⟩) (.num 5), .num 5, .const ⟨0⟩]

theorem deals_signed :
    valueAndLocation.Deals (valueAndLocation.perform (.lookup ⟨1⟩)).state signed := by
  have nothing : ∀ expr ∈ (Operation.lookup ⟨1⟩).kept, expr ∈ ([] : List Expr) := nofun
  have constant : (valueAndLocation.perform (.lookup ⟨1⟩)).answer = .ok (.expr (.const ⟨0⟩)) := by
    decide +kernel
  have begun : valueAndLocation.Deals valueAndLocation [] := .start
  have looked := begun.perform nothing
  rw [constant] at looked
  have less := (looked.numeral 5).combine .sub (.tail _ (.head _)) (.head _)
  have lessNegative := (less.numeral (-5)).combine .sub
    (.tail _ (.tail _ (.tail _ (.head _)))) (.head _)
  exact lessNegative.combine .add (.tail _ (.tail _ (.tail _ (.tail _ (.head _)))))
    (.tail _ (.head _))

/-- None of their texts is that of another, for all the signs in them. -/
theorem display_inj_of_deals_signed :
    ∃ events, Session.start .valueAndLocation .standard = .ok (valueAndLocation, events) ∧
      signed.map (valueAndLocation.perform (.lookup ⟨1⟩)).state.display =
        ["(ValVar1 + -5)", "(ValVar1 - -5)", "-5", "(ValVar1 - 5)", "5", "ValVar1"] ∧
      ∀ first ∈ signed, ∀ second ∈ signed,
        ((valueAndLocation.perform (.lookup ⟨1⟩)).state.display first =
          (valueAndLocation.perform (.lookup ⟨1⟩)).state.display second ↔ first = second) := by
  have started : Session.start .valueAndLocation .standard = .ok (valueAndLocation, _) := rfl
  obtain ⟨_, dealings⟩ := display_inj_of_deals Graph.built_valueAndLocation started
  exact ⟨_, started, by decide +kernel, (dealings _ _ deals_signed).2⟩

end Session

end CellMemory
