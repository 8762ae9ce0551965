import CellMemory.Proofs.Session.Construction
import CellMemory.Proofs.Session.Contents

/-! What the constants of a session stand for. Each is an unknown of its own: a value of the graph,
or what is at an address that was loaded before anything was written there. No two unknowns share a
constant, and none changes its name. -/

namespace CellMemory

open Store (contentName contentName_injective contentName_ne_valueName)

inductive Unknown where
  | value (id : VarId)
  | contents (address : UInt32)
  deriving DecidableEq

namespace Unknown

def name : Unknown → String
  | value id => id.valueName
  | contents address => contentName address

theorem name_inj {first second : Unknown} : first.name = second.name ↔ first = second := by
  refine ⟨fun same => ?_, congrArg name⟩
  cases first with
  | value id =>
    cases second with
    | value other => exact congrArg value (VarId.valueName_injective same)
    | contents address => exact absurd same.symm (contentName_ne_valueName address id)
  | contents address =>
    cases second with
    | value id => exact absurd same (contentName_ne_valueName address id)
    | contents other => exact congrArg contents (contentName_injective same)

end Unknown

namespace Session

/-- The unknowns that a run from this session meets: the values of its graph, and the contents of
every address that is loaded while nothing was ever written there. -/
inductive Meets (session : Session) (operations : List Operation) : Unknown → Prop
  | value {item : Variable} (member : item ∈ session.graph.vars)
      (kind : item.node.kind = .value) : Meets session operations (.value item.id)
  | contents {earlier rest : List Operation} {location : Expr} {address : UInt32}
      (split : operations = earlier ++ .load location :: rest)
      (addressed : (session.after earlier).Addresses location address)
      (unwritten : session.lastWrite address earlier = none) :
      Meets session operations (.contents address)

def StandsFor (session : Session) (symbol : Symbol) (unknown : Unknown) : Prop :=
  session.store.symbols.names[symbol.index]? = some unknown.name

variable {session : Session}

theorem Coherent.distinct_after (coherent : session.Coherent)
    (distinct : session.store.symbols.Distinct) (operations : List Operation) :
    (session.after operations).store.symbols.Distinct := by
  induction operations generalizing session with
  | nil => exact distinct
  | cons operation operations ih =>
    exact ih (coherent.perform operation) ((coherent.effect operation).distinct distinct)

/-- A name that is new after a run came with the load of an address where nothing was written. -/
theorem Coherent.mem_names_after (coherent : session.Coherent) {operations : List Operation}
    {name : String} (member : name ∈ (session.after operations).store.symbols.names) :
    name ∈ session.store.symbols.names ∨
      ∃ earlier location rest address, operations = earlier ++ .load location :: rest ∧
        (session.after earlier).Addresses location address ∧
        (session.after earlier).store.written address = none ∧ name = contentName address := by
  induction operations generalizing session with
  | nil => exact .inl member
  | cons operation operations ih =>
    rcases ih (coherent.perform operation) member with
      first | ⟨earlier, location, rest, address, rfl, addressed, unwritten, same⟩
    · rcases (coherent.effect operation).mem_names coherent first with
        known | ⟨location, address, rfl, addressed, unwritten, same⟩
      · exact .inl known
      · exact .inr ⟨[], location, operations, address, rfl, addressed, unwritten, same⟩
    · exact .inr ⟨operation :: earlier, location, rest, address, rfl, addressed, unwritten, same⟩

theorem Coherent.standsFor_after (coherent : session.Coherent) {symbol : Symbol}
    {unknown : Unknown} (stands : session.StandsFor symbol unknown) (operations : List Operation) :
    (session.after operations).StandsFor symbol unknown :=
  (coherent.symbols_extends_after operations).getElem? stands

theorem Coherent.load_standsFor (coherent : session.Coherent) {location : Expr}
    {address : UInt32} (addressed : session.Addresses location address)
    (unwritten : session.store.written address = none) :
    ∃ symbol, (session.perform (.load location)).answer = .ok (.expr (.const symbol)) ∧
      (session.perform (.load location)).state.StandsFor symbol (.contents address) := by
  obtain ⟨answer, symbols⟩ := coherent.load_of_unwritten addressed unwritten
  refine ⟨_, answer, ?_⟩
  rw [StandsFor, symbols]
  exact Symbols.getElem?_of_find? (Symbols.find?_intern _ _)

theorem after_cons (session : Session) (operation : Operation) (operations : List Operation) :
    session.after (operation :: operations) =
      (session.perform operation).state.after operations := rfl

section Started

variable {graph : Graph} {settings : Settings} {events : List Event}
variable (built : graph.Built) (started : Session.start graph settings = .ok (session, events))

include started in
theorem symbols_of_start : session.store.symbols.Distinct ∧
    ∀ name ∈ session.store.symbols.names, ∃ item ∈ graph.vars, item.node.kind = .value ∧
      name = item.id.valueName := by
  obtain ⟨_, rfl⟩ := start_ok started
  refine ⟨Memory.distinct_bindAll _ Symbols.distinct_empty, ?_⟩
  intro name member
  rcases Memory.mem_names_bindAll member with listed | ⟨item, listed, kind, same⟩
  · simp [Memory.new, Store.empty, Symbols.empty] at listed
  · exact ⟨item, Array.mem_toList_iff.mp listed, kind, same⟩

include built started

theorem value_standsFor {item : Variable} (member : item ∈ graph.vars)
    (kind : item.node.kind = .value) (operations : List Operation) :
    ∃ symbol, session.lookup item.id = .ok (.const symbol) ∧
      (session.after operations).StandsFor symbol (.value item.id) := by
  obtain ⟨symbol, bound, named⟩ := constant_of_start built started member kind
  have stands : session.StandsFor symbol (.value item.id) := named
  exact ⟨symbol, bound, (coherent_of_start built started).standsFor_after stands operations⟩

theorem loaded_standsFor {earlier rest : List Operation} {location : Expr} {address : UInt32}
    (addressed : (session.after earlier).Addresses location address)
    (unwritten : session.lastWrite address earlier = none) :
    ∃ symbol,
      ((session.after earlier).perform (.load location)).answer = .ok (.expr (.const symbol)) ∧
      (session.after (earlier ++ .load location :: rest)).StandsFor symbol (.contents address) := by
  have coherent := (coherent_of_start built started).after earlier
  have nothing := (written_after_start built started earlier address).trans unwritten
  obtain ⟨symbol, answer, stands⟩ := coherent.load_standsFor addressed nothing
  refine ⟨symbol, answer, ?_⟩
  rw [after_append, after_cons]
  exact (coherent.perform _).standsFor_after stands rest

theorem Meets.standsFor {operations : List Operation} {unknown : Unknown}
    (met : session.Meets operations unknown) :
    ∃ symbol, (session.after operations).StandsFor symbol unknown := by
  cases met with
  | value member kind =>
    rw [(graph_of_start started).1] at member
    obtain ⟨symbol, _, stands⟩ := value_standsFor built started member kind operations
    exact ⟨symbol, stands⟩
  | contents split addressed unwritten =>
    subst split
    obtain ⟨symbol, _, stands⟩ := loaded_standsFor built started addressed unwritten
    exact ⟨symbol, stands⟩

theorem mem_names_iff {operations : List Operation} {name : String} :
    name ∈ (session.after operations).store.symbols.names ↔
      ∃ unknown, session.Meets operations unknown ∧ name = unknown.name := by
  have initial := coherent_of_start built started
  constructor
  · intro member
    rcases initial.mem_names_after member with
      first | ⟨earlier, location, rest, address, split, addressed, unwritten, same⟩
    · obtain ⟨item, listed, kind, same⟩ := (symbols_of_start started).2 name first
      rw [← (graph_of_start started).1] at listed
      exact ⟨_, .value listed kind, same⟩
    · rw [written_after_start built started] at unwritten
      exact ⟨_, .contents split addressed unwritten, same⟩
  · rintro ⟨unknown, met, rfl⟩
    obtain ⟨symbol, stands⟩ := met.standsFor built started
    exact Array.mem_of_getElem? stands

/-- The constants of a session are kept apart. Its table has the name of each value of the graph
and of each address that was loaded while nothing was written there, and no other name. Two
constants are the same exactly if they stand for the same unknown; so no two values share one, no
two addresses do, and no value does with an address. A value is bound to its constant at the start,
a load answers that of its address, and each of them has its name in every later state. -/
theorem constants_of_run (operations : List Operation) :
    (∀ name, name ∈ (session.after operations).store.symbols.names ↔
      ∃ unknown, session.Meets operations unknown ∧ name = unknown.name) ∧
    (∀ (first second : Symbol) (unknown other : Unknown),
      (session.after operations).StandsFor first unknown →
      (session.after operations).StandsFor second other → (first = second ↔ unknown = other)) ∧
    (∀ item ∈ graph.vars, item.node.kind = .value →
      ∃ symbol, session.lookup item.id = .ok (.const symbol) ∧
        (session.after operations).StandsFor symbol (.value item.id)) ∧
    (∀ (earlier rest : List Operation) (location : Expr) (address : UInt32),
      operations = earlier ++ .load location :: rest →
      (session.after earlier).Addresses location address →
      session.lastWrite address earlier = none →
        ∃ symbol, ((session.after earlier).perform (.load location)).answer =
            .ok (.expr (.const symbol)) ∧
          (session.after operations).StandsFor symbol (.contents address)) ∧
    ∀ (more : List Operation) (symbol : Symbol) (name : String),
      (session.after operations).store.symbols.names[symbol.index]? = some name →
        (session.after (operations ++ more)).store.symbols.names[symbol.index]? = some name := by
  have initial := coherent_of_start built started
  have distinct := initial.distinct_after (symbols_of_start started).1 operations
  refine ⟨fun _ => mem_names_iff built started, ?_, ?_, ?_, ?_⟩
  · intro first second unknown other firstStands secondStands
    exact (distinct.eq_iff firstStands secondStands).trans Unknown.name_inj
  · intro item member kind
    exact value_standsFor built started member kind operations
  · rintro earlier rest location address rfl addressed unwritten
    exact loaded_standsFor built started addressed unwritten
  · intro more symbol name named
    rw [after_append]
    exact ((initial.after operations).symbols_extends_after more).getElem? named

end Started

def valueAndLocation : Session := opening .valueAndLocation

def visits : List Operation :=
  [.load (.num 0x7f000002), .resolve (.num 0x7f000002) 1, .write (.num 0x7f000003) (.num 9),
    .load (.num 0x7f000003), .load (.num 0x7f000002)]

theorem constants_of_run_visits :
    ∃ events value contents,
      Session.start .valueAndLocation .standard = .ok (valueAndLocation, events) ∧
      valueAndLocation.lookup ⟨1⟩ = .ok (.const value) ∧
      (valueAndLocation.perform (.load (.num 0x7f000002))).answer =
        .ok (.expr (.const contents)) ∧
      (valueAndLocation.after visits).StandsFor value (.value ⟨1⟩) ∧
      (valueAndLocation.after visits).StandsFor contents (.contents 0x7f000002) ∧
      value ≠ contents ∧
      "Mem0x7f000003" ∉ (valueAndLocation.after visits).store.symbols.names := by
  have started : Session.start .valueAndLocation .standard = .ok (valueAndLocation, _) := rfl
  obtain ⟨_, apart, values, loads, _⟩ :=
    constants_of_run Graph.built_valueAndLocation started visits
  obtain ⟨value, bound, valueStands⟩ :=
    values ⟨⟨1⟩, .placeholderValue, none⟩ (by decide +kernel) rfl
  obtain ⟨contents, answer, contentsStand⟩ := loads [] _ (.num 0x7f000002) 0x7f000002 rfl
    ⟨by decide, ⟨2⟩, by decide⟩ rfl
  refine ⟨_, value, contents, started, bound, answer, valueStands, contentsStand, ?_,
    by decide +kernel⟩
  rw [Ne, apart _ _ _ _ valueStands contentsStand]
  exact nofun

end Session

end CellMemory
