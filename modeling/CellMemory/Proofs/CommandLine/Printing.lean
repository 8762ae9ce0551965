import CellMemory.Proofs.CommandLine.Course
import CellMemory.Proofs.Session.Reporting

/-! When a report can be printed. Settings are accepted whatever the width of their label column,
but no line can be padded to a column wider than the widest; so such settings let a session start
and do its work, and are found out when the first line of its report is due. -/

namespace CellMemory

open CommandLine (File)

namespace Session

variable {graph : Graph} {settings : Settings} {session later : Session} {events : List Event}

section Started

variable (built : graph.Built) (started : Session.start graph settings = .ok (session, events))

include built started

theorem prints_iff_of_reaches (reached : session.Reaches later) :
    later.report.Prints ↔
      settings.labelWidth ≤ Report.maxWidth ∨ ∀ id, ¬later.HasLine id := by
  obtain ⟨_, made⟩ := start_ok started
  have same : later.settings = settings := by
    calc later.settings
      _ = session.settings := (reached.grows (coherent_of_start built started)).settings
      _ = settings := by rw [made]
  rw [Report.prints_iff, lines_eq_nil_iff, report, same]

/-- What has a value after requests alone are the objects: a value of the graph is still the constant
of its name, of which nothing is known. -/
theorem hasLine_iff_object (onward : session.Onward later) :
    (∃ id, later.HasLine id) ↔ ∃ item ∈ later.graph.vars, item.node.kind = .object := by
  have whole := (graph_of_start started).1
  constructor
  · rintro ⟨id, item, expr, value, found, bound, evaluated⟩
    cases kind : item.node.kind with
    | object => exact ⟨item, Array.mem_of_find?_eq_some found, kind⟩
    | value =>
      -- a cell is a location, so a value was declared
      have declared : item.origin = none := by
        cases from? : item.origin with
        | none => rfl
        | some cell =>
          obtain ⟨root, anchored⟩ := onward.graph.coherent.rooted id item cell found from?
          rw [anchored.node, Node.kind_of_isStorage (Node.isStorage_of_isLocation anchored.location)]
            at kind
          cases kind
      have first := onward.graph.declared id item found declared
      have before := (onward.bindings id item first).symm.trans bound
      rw [whole] at first
      have member := Array.mem_of_find?_eq_some first
      rw [← Graph.id_of_find? first] at before
      have unknown := symbolic_of_start built started member kind before
      have known : session.evaluate expr = some value := by
        rw [← evaluated, evaluate, evaluate, Store.evaluate, Store.evaluate, onward.model]
      rw [unknown] at known
      cases known
  · rintro ⟨item, listed, kind⟩
    -- the root of an object was declared, and is bound as it was
    have found := onward.graph.coherent.find?_of_mem listed
    obtain ⟨root, rooted, declared, node⟩ := onward.graph.coherent.root_of_cell found
    have first := onward.graph.declared _ root rooted declared
    have member : root ∈ graph.vars := by
      rw [whole] at first
      exact Array.mem_of_find?_eq_some first
    obtain ⟨expr, bound, represents⟩ := represents_of_start built started member
    rw [node] at kind
    obtain ⟨value, rfl⟩ := represents.num_of_object kind
    rw [Graph.id_of_find? first, ← onward.bindings _ root first] at bound
    exact ⟨_, root, _, value, rooted, bound, rfl⟩

end Started

end Session

namespace CommandLine

variable {decoder : Decoder} {graph : File} {settings : Option File}

theorem Course.hasLine_iff {lines : List String} {last : Session}
    (course : Course decoder graph settings (.finished lines last)) :
    (∃ id, last.HasLine id) ↔ ∃ item ∈ last.graph.vars, item.node.kind = .object := by
  cases course with
  | finished opens answers =>
    cases opens with
    | intro configured sourced loads starts =>
      have built := (Graph.load_ok loads).1
      have onward := answers.onward (Session.housed_of_start built starts)
      exact Session.hasLine_iff_object built starts onward

theorem Course.prints_iff {lines : List String} {last : Session}
    (course : Course decoder graph settings (.finished lines last)) :
    last.report.Prints ↔ last.settings.labelWidth ≤ Report.maxWidth ∨
      ∀ item ∈ last.graph.vars, item.node.kind ≠ .object := by
  have objects : (∀ id, ¬last.HasLine id) ↔ ∀ item ∈ last.graph.vars, item.node.kind ≠ .object := by
    rw [← not_exists, course.hasLine_iff]
    push Not
    rfl
  rw [Report.prints_iff, Session.lines_eq_nil_iff, objects]
  rfl

theorem Course.exitCode_finished {lines : List String} {last : Session}
    (course : Course decoder graph settings (.finished lines last)) :
    last.report.Prints ∧ (CommandLine.run decoder graph settings).exit.code = 0 ∨
      ¬last.report.Prints ∧ (CommandLine.run decoder graph settings).exit.code = 101 := by
  rw [course.run, Ending.outcome, finish, Report.Prints, ← Option.isSome_iff_exists]
  cases last.report.text? with
  | some text => exact .inl ⟨rfl, rfl⟩
  | none => exact .inr ⟨Bool.false_ne_true, rfl⟩

theorem Course.exits_iff {lines : List String} {last : Session}
    (course : Course decoder graph settings (.finished lines last)) :
    (CommandLine.run decoder graph settings).exit.code = 0 ∨ (CommandLine.run decoder graph settings).exit.code = 1 ↔
      last.report.Prints := by
  rcases course.exitCode_finished with ⟨prints, code⟩ | ⟨refused, code⟩
  · exact iff_of_true (.inl code) prints
  · rw [code]
    exact iff_of_false (by decide) refused

/-- In each state that a session reaches the report can be printed exactly if the label column is no
wider than the widest or there is no line to pad. So a run of the command line ends with success or
at a fault unless it gets to a report with a line and too wide a column; then it ends in the middle
of the report. -/
theorem report_prints_iff {graph : Graph} {settings : Settings} {session later : Session}
    {events : List Event} (built : graph.Built)
    (started : Session.start graph settings = .ok (session, events))
    (reached : session.Reaches later) :
    (later.report.Prints ↔
      settings.labelWidth ≤ Report.maxWidth ∨ ∀ id, ¬later.HasLine id) ∧
    ∀ (decoder : Decoder) (graph : File) (settings : Option File),
      ((run decoder graph settings).exit.code = 0 ∨ (run decoder graph settings).exit.code = 1 ↔
        ∀ lines last, Course decoder graph settings (.finished lines last) →
          last.settings.labelWidth ≤ Report.maxWidth ∨
            ∀ item ∈ last.graph.vars, item.node.kind ≠ .object) ∧
      ((run decoder graph settings).exit.code = 0 ∨ (run decoder graph settings).exit.code = 1 ∨
        (run decoder graph settings).exit.code = 101) := by
  refine ⟨Session.prints_iff_of_reaches built started reached, ?_⟩
  intro decoder graph settings
  obtain ⟨ending, course⟩ := exists_course decoder graph settings
  cases ending with
  | stopped lines failure =>
    have code := course.shows_stopped.1
    refine ⟨iff_of_true (.inr code) ?_, .inr (.inl code)⟩
    intro others last finished
    exact finished.prints_iff.mp (finished.exits_iff.mp (.inr code))
  | finished lines last =>
    constructor
    · constructor
      · intro exits others further finished
        exact finished.prints_iff.mp (finished.exits_iff.mp exits)
      · intro narrow
        exact course.exits_iff.mpr (course.prints_iff.mpr (narrow lines last course))
    · rcases course.exitCode_finished with ⟨_, code⟩ | ⟨_, code⟩
      · exact .inl code
      · exact .inr (.inr code)

def boundless : File := ⟨"boundless.json", .ok "[2130706432,65536]"⟩

theorem report_prints_iff_boundless :
    (∃ session events, Session.start (.single ⟨1⟩) ⟨0x7f000000, 65536⟩ = .ok (session, events) ∧
      ¬session.report.Prints) ∧
    ∃ lines last, Course strict (chained "") (some boundless) (.finished lines last) ∧
      ¬last.report.Prints := by
  have started : Session.start (.single ⟨1⟩) ⟨0x7f000000, 65536⟩ = .ok (_, _) := rfl
  obtain ⟨prints, exits⟩ := report_prints_iff (Graph.built_single ⟨1⟩) started (.refl _)
  constructor
  · refine ⟨_, _, started, ?_⟩
    rw [prints, not_or, not_forall]
    exact ⟨by decide, ⟨1⟩, not_not.mpr ⟨_, _, _, rfl, rfl, rfl⟩⟩
  · have code : (run strict (chained "") (some boundless)).exit.code = 101 := by decide +kernel
    have wide := (exits strict (chained "") (some boundless)).1.not.mp (by rw [code]; decide)
    push Not at wide
    obtain ⟨lines, last, course, width, object⟩ := wide
    refine ⟨lines, last, course, ?_⟩
    rw [course.prints_iff, not_or]
    push Not
    exact ⟨width, object⟩

end CommandLine

end CellMemory
