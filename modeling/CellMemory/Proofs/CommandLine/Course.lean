import CellMemory.CommandLine
import CellMemory.Document.Decoder
import CellMemory.Proofs.Graph.Loading
import CellMemory.Proofs.Session.Housing

/-! The course of a run of the command line, stage by stage: settings, graph document, graph, session,
and then the queries on one session that each of them changes for the next. The first stage that
fails ends the run; what was answered before it has been printed, and a report only follows the
last answer. -/

namespace CellMemory

def Report.Prints (report : Report) : Prop := ∃ text, report.text? = some text

theorem Report.prints_iff {report : Report} :
    report.Prints ↔ report.labelWidth ≤ maxWidth ∨ report.lines = [] := by
  rw [Prints, ← Option.isSome_iff_exists, text?]
  split
  · next printable => exact iff_of_true rfl printable
  · next refused => exact iff_of_false Bool.false_ne_true refused

namespace CommandLine

/-- The settings of a run: what its file says, if that is in order, or the standard ones without a
file. -/
inductive Configured (decoder : Decoder) : Option File → Settings → Prop
  | standard : Configured decoder none .standard
  | read {file : File} {text : String} {found : Settings} (content : file.content = .ok text)
      (parsed : decoder.settings text = .ok found) (valid : found.check = .ok ()) :
      Configured decoder (some file) found

inductive Misconfigured (decoder : Decoder) : Option File → Failure → Prop
  | unread {file : File} {reason : ReadFailure} (content : file.content = .error reason) :
      Misconfigured decoder (some file) (.unreadable file.path reason)
  | malformed {file : File} {text reason : String} (content : file.content = .ok text)
      (unparsed : decoder.settings text = .error reason) :
      Misconfigured decoder (some file) (.fault (.invalidSettings (.unreadable reason)))
  | invalid {file : File} {text : String} {found : Settings} {fault : Fault}
      (content : file.content = .ok text)
      (parsed : decoder.settings text = .ok found) (flawed : found.check = .error fault) :
      Misconfigured decoder (some file) (.fault fault)

inductive Sourced (decoder : Decoder) : File → Graph.Source → Prop
  | read {file : File} {text : String} {source : Graph.Source} (content : file.content = .ok text)
      (parsed : decoder.source text = .ok source) : Sourced decoder file source

inductive Unsourced (decoder : Decoder) : File → Failure → Prop
  | unread {file : File} {reason : ReadFailure} (content : file.content = .error reason) :
      Unsourced decoder file (.unreadable file.path reason)
  | malformed {file : File} {text reason : String} (content : file.content = .ok text)
      (unparsed : decoder.source text = .error reason) :
      Unsourced decoder file (.malformed file.path reason)

inductive Opens (decoder : Decoder) (graph : File) (settings : Option File) :
    Session → List Gep.Query → Prop
  | intro {found : Settings} {source : Graph.Source} {loaded : Graph} {queries : List Gep.Query}
      {session : Session} {events : List Event} (configured : Configured decoder settings found)
      (sourced : Sourced decoder graph source) (loads : source.load = .ok (loaded, queries))
      (starts : Session.start loaded found = .ok (session, events)) :
      Opens decoder graph settings session queries

/-- The line of a query and the session after it. The offset that is printed is the one that is
resolved, from what the pointer is bound to. -/
inductive Answered (session : Session) (query : Gep.Query) : String → Session → Prop
  | intro {offset : Int64} {base expr : Expr}
      (counted : (session.offset query.gep).1 = .ok offset)
      (bound : session.lookup query.pointer = .ok base)
      (resolved : (session.resolve base offset).answer = .ok expr) :
      Answered session query
        ("gep " ++ query.pointer.text ++ " + " ++ Numeral.decimal offset ++ " = "
          ++ (session.resolve base offset).state.display expr ++ "\n")
        (session.resolve base offset).state

inductive Fails (session : Session) (query : Gep.Query) : Failure → Prop
  | uncounted {fault : Fault} (refused : (session.offset query.gep).1 = .error fault) :
      Fails session query (.fault fault)
  | unbound {offset : Int64} {fault : Fault} (counted : (session.offset query.gep).1 = .ok offset)
      (refused : session.lookup query.pointer = .error fault) :
      Fails session query (.through query.pointer fault)
  | unresolved {offset : Int64} {base : Expr} {fault : Fault}
      (counted : (session.offset query.gep).1 = .ok offset)
      (bound : session.lookup query.pointer = .ok base)
      (refused : (session.resolve base offset).answer = .error fault) :
      Fails session query (.through query.pointer fault)

inductive Answers : Session → List Gep.Query → List String → Session → Prop
  | nil (session : Session) : Answers session [] [] session
  | cons {session later last : Session} {query : Gep.Query} {queries : List Gep.Query}
      {line : String} {lines : List String} (answered : Answered session query line later)
      (further : Answers later queries lines last) :
      Answers session (query :: queries) (line :: lines) last

/-- How a run ends, with the lines of the queries it has answered. -/
inductive Ending where
  | stopped (lines : List String) (failure : Failure)
  | finished (lines : List String) (last : Session)

inductive Course (decoder : Decoder) (graph : File) (settings : Option File) : Ending → Prop
  | misconfigured {failure : Failure} (failed : Misconfigured decoder settings failure) :
      Course decoder graph settings (.stopped [] failure)
  | unsourced {found : Settings} {failure : Failure}
      (configured : Configured decoder settings found)
      (failed : Unsourced decoder graph failure) :
      Course decoder graph settings (.stopped [] failure)
  | unloaded {found : Settings} {source : Graph.Source} {fault : Fault}
      (configured : Configured decoder settings found) (sourced : Sourced decoder graph source)
      (refused : source.load = .error fault) :
      Course decoder graph settings (.stopped [] (.fault fault))
  | unstarted {found : Settings} {source : Graph.Source} {loaded : Graph}
      {queries : List Gep.Query} {fault : Fault} (configured : Configured decoder settings found)
      (sourced : Sourced decoder graph source) (loads : source.load = .ok (loaded, queries))
      (refused : Session.start loaded found = .error fault) :
      Course decoder graph settings (.stopped [] (.fault fault))
  | interrupted {session middle : Session} {before rest : List Gep.Query} {query : Gep.Query}
      {lines : List String} {failure : Failure}
      (opens : Opens decoder graph settings session (before ++ query :: rest))
      (answers : Answers session before lines middle) (failed : Fails middle query failure) :
      Course decoder graph settings (.stopped lines failure)
  | finished {session last : Session} {queries : List Gep.Query} {lines : List String}
      (opens : Opens decoder graph settings session queries)
      (answers : Answers session queries lines last) :
      Course decoder graph settings (.finished lines last)

def Ending.outcome : Ending → Outcome
  | stopped lines failure => ⟨String.join lines, .failure failure⟩
  | finished lines last => finish lines last

/-- What went wrong, from the outermost account of it to its cause. -/
def Failure.chain : Failure → List String
  | unreadable path reason => ["reading " ++ path, reason.text]
  | malformed path reason => ["parsing " ++ path, reason]
  | fault cause => [cause.message]
  | through pointer cause => ["resolving gep through " ++ pointer.text, cause.message]

/-- What is seen of a run that ends so: without a failure the lines and the report of the last state,
and otherwise the lines and why there are no more. -/
def Ending.Shows : Ending → Outcome → Prop
  | finished lines last, outcome =>
    outcome.exit.code = 0 ∧ outcome.exit.errors = "" ∧
      ∃ text, last.report.text? = some text ∧ outcome.output = String.join lines ++ text
  | stopped lines failure, outcome =>
    outcome.exit.code = 1 ∧
      outcome.exit.errors = "fatal: " ++ ": ".intercalate failure.chain ++ "\n" ∧
      outcome.output = String.join lines

variable {decoder : Decoder} {graph : File} {settings : Option File}

theorem Configured.readSettings {found : Settings} (configured : Configured decoder settings found) :
    readSettings decoder settings = .ok found := by
  cases configured with
  | standard => rfl
  | read content parsed valid =>
    simp only [CommandLine.readSettings, content, Settings.ofText, parsed, valid]

theorem Misconfigured.readSettings {failure : Failure} (failed : Misconfigured decoder settings failure) :
    readSettings decoder settings = .error failure := by
  cases failed with
  | unread content => simp only [CommandLine.readSettings, content]
  | malformed content unparsed =>
    simp only [CommandLine.readSettings, content, Settings.ofText, unparsed]
  | invalid content parsed flawed =>
    simp only [CommandLine.readSettings, content, Settings.ofText, parsed, flawed]

theorem configured_or (decoder : Decoder) (settings : Option File) :
    (∃ found, Configured decoder settings found) ∨
      ∃ failure, Misconfigured decoder settings failure := by
  cases settings with
  | none => exact .inl ⟨_, .standard⟩
  | some file =>
    cases content : file.content with
    | error reason => exact .inr ⟨_, .unread content⟩
    | ok text =>
      cases parsed : decoder.settings text with
      | error reason => exact .inr ⟨_, .malformed content parsed⟩
      | ok found =>
        cases checked : found.check with
        | error fault => exact .inr ⟨_, .invalid content parsed checked⟩
        | ok done => exact .inl ⟨found, .read content parsed checked⟩

theorem Sourced.readSource {source : Graph.Source} (sourced : Sourced decoder graph source) :
    readSource decoder graph = .ok source := by
  cases sourced with
  | read content parsed => simp only [CommandLine.readSource, content, parsed]

theorem Unsourced.readSource {failure : Failure} (failed : Unsourced decoder graph failure) :
    readSource decoder graph = .error failure := by
  cases failed with
  | unread content => simp only [CommandLine.readSource, content]
  | malformed content unparsed => simp only [CommandLine.readSource, content, unparsed]

theorem sourced_or (decoder : Decoder) (graph : File) :
    (∃ source, Sourced decoder graph source) ∨ ∃ failure, Unsourced decoder graph failure := by
  cases content : graph.content with
  | error reason => exact .inr ⟨_, .unread content⟩
  | ok text =>
    cases parsed : decoder.source text with
    | error reason => exact .inr ⟨_, .malformed content parsed⟩
    | ok source => exact .inl ⟨source, .read content parsed⟩

section Queries

variable {session later last : Session} {query : Gep.Query} {queries : List Gep.Query}

theorem offset_eq {answer : Except Fault Int64} (counted : (session.offset query.gep).1 = answer) :
    session.offset query.gep = (answer, (session.offset query.gep).2) :=
  Prod.ext counted rfl

/-- A query counts its offset twice in one session, so both come to the same. -/
theorem select_of_offset {offset : Int64} (counted : (session.offset query.gep).1 = .ok offset)
    {base : Expr} (bound : session.lookup query.pointer = .ok base) :
    ∃ events, session.select query.pointer query.gep =
      ⟨(session.resolve base offset).answer, (session.resolve base offset).state, events⟩ := by
  rw [Session.select, offset_eq counted]
  simp only [bound]
  exact ⟨_, rfl⟩

theorem Answered.resolveQuery {line : String} (answered : Answered session query line later) :
    resolveQuery session query = .ok (line, later) := by
  cases answered with
  | @intro offset base expr counted bound resolved =>
    obtain ⟨events, selected⟩ := select_of_offset counted bound
    rw [CommandLine.resolveQuery, offset_eq counted, selected, resolved]
    rfl

theorem Fails.resolveQuery {failure : Failure} (failed : Fails session query failure) :
    resolveQuery session query = .error failure := by
  cases failed with
  | uncounted refused =>
    rw [CommandLine.resolveQuery, offset_eq refused]
  | unbound counted refused =>
    rw [CommandLine.resolveQuery, Session.select, offset_eq counted]
    simp only [refused]
  | unresolved counted bound refused =>
    obtain ⟨events, selected⟩ := select_of_offset counted bound
    rw [CommandLine.resolveQuery, offset_eq counted, selected, refused]

theorem answered_or (session : Session) (query : Gep.Query) :
    (∃ line later, Answered session query line later) ∨
      ∃ failure, Fails session query failure := by
  cases counted : (session.offset query.gep).1 with
  | error fault => exact .inr ⟨_, .uncounted counted⟩
  | ok offset =>
    cases bound : session.lookup query.pointer with
    | error fault => exact .inr ⟨_, .unbound counted bound⟩
    | ok base =>
      cases resolved : (session.resolve base offset).answer with
      | error fault => exact .inr ⟨_, .unresolved counted bound resolved⟩
      | ok expr => exact .inl ⟨_, _, .intro counted bound resolved⟩

theorem Answers.resolveQueries_append {lines : List String}
    (answers : Answers session queries lines last) (rest : List Gep.Query) :
    resolveQueries session (queries ++ rest) =
      (lines ++ (resolveQueries last rest).1, (resolveQueries last rest).2) := by
  induction answers with
  | nil session => rfl
  | cons answered further ih =>
    rw [List.cons_append, resolveQueries, answered.resolveQuery]
    simp only [ih, List.cons_append]

theorem Answers.resolveQueries {lines : List String}
    (answers : Answers session queries lines last) :
    resolveQueries session queries = (lines, .ok last) := by
  have whole := answers.resolveQueries_append []
  rwa [List.append_nil, CommandLine.resolveQueries, List.append_nil] at whole

theorem Fails.resolveQueries {failure : Failure} (failed : Fails session query failure)
    (rest : List Gep.Query) : resolveQueries session (query :: rest) = ([], .error failure) := by
  rw [CommandLine.resolveQueries, failed.resolveQuery]

theorem answers_or (session : Session) (queries : List Gep.Query) :
    (∃ lines last, Answers session queries lines last) ∨
      ∃ before query rest lines middle failure, queries = before ++ query :: rest ∧
        Answers session before lines middle ∧ Fails middle query failure := by
  induction queries generalizing session with
  | nil => exact .inl ⟨_, _, .nil session⟩
  | cons query queries ih =>
    rcases answered_or session query with ⟨line, later, answered⟩ | ⟨failure, failed⟩
    · rcases ih later with
        ⟨lines, last, further⟩ | ⟨before, next, rest, lines, middle, failure, rfl, further, failed⟩
      · exact .inl ⟨_, _, .cons answered further⟩
      · exact .inr ⟨_, _, _, _, _, _, rfl, .cons answered further, failed⟩
    · exact .inr ⟨[], _, _, _, _, _, rfl, .nil session, failed⟩

theorem Answered.onward {line : String} (answered : Answered session query line later)
    (housed : session.Housed) : session.Onward later := by
  cases answered with
  | @intro offset base expr counted bound resolved =>
    cases pointed : session.pointee base with
    | error fault =>
      rw [Session.resolve_of_pointee_error pointed] at resolved
      cases resolved
    | ok place =>
      have resolution := housed.coherent.resolution pointed offset
      exact resolution.onward housed (housed.coherent.allocated_of_pointee pointed) resolved

theorem Answers.onward {lines : List String} (answers : Answers session queries lines last)
    (housed : session.Housed) : session.Onward last := by
  induction answers with
  | nil session => exact .refl housed
  | cons answered further ih =>
    have next := answered.onward housed
    exact next.trans (ih next.housed)

end Queries

theorem Opens.run {session : Session} {queries : List Gep.Query}
    (opens : Opens decoder graph settings session queries) :
    run decoder graph settings = answer session queries := by
  cases opens with
  | intro configured sourced loads starts =>
    simp only [CommandLine.run, configured.readSettings, sourced.readSource, loads, starts]

theorem Course.run {ending : Ending} (course : Course decoder graph settings ending) :
    run decoder graph settings = ending.outcome := by
  cases course with
  | misconfigured failed =>
    simp only [CommandLine.run, failed.readSettings]
    rfl
  | unsourced configured failed =>
    simp only [CommandLine.run, configured.readSettings, failed.readSource]
    rfl
  | unloaded configured sourced refused =>
    simp only [CommandLine.run, configured.readSettings, sourced.readSource, refused]
    rfl
  | unstarted configured sourced loads refused =>
    simp only [CommandLine.run, configured.readSettings, sourced.readSource, loads, refused]
    rfl
  | interrupted opens answers failed =>
    rw [opens.run, answer, answers.resolveQueries_append, failed.resolveQueries, List.append_nil]
    rfl
  | finished opens answers =>
    rw [opens.run, answer, answers.resolveQueries]
    rfl

theorem exists_course (decoder : Decoder) (graph : File) (settings : Option File) :
    ∃ ending, Course decoder graph settings ending := by
  rcases configured_or decoder settings with ⟨found, configured⟩ | ⟨failure, failed⟩
  · rcases sourced_or decoder graph with ⟨source, sourced⟩ | ⟨failure, failed⟩
    · cases loads : source.load with
      | error fault => exact ⟨_, .unloaded configured sourced loads⟩
      | ok result =>
        cases starts : Session.start result.1 found with
        | error fault => exact ⟨_, .unstarted configured sourced loads starts⟩
        | ok made =>
          have opens : Opens decoder graph settings made.1 result.2 :=
            .intro configured sourced loads starts
          rcases answers_or made.1 result.2 with
            ⟨lines, last, answers⟩ | ⟨_, _, _, _, _, _, same, answers, failed⟩
          · exact ⟨_, .finished opens answers⟩
          · rw [same] at opens
            exact ⟨_, .interrupted opens answers failed⟩
    · exact ⟨_, .unsourced configured failed⟩
  · exact ⟨_, .misconfigured failed⟩

theorem Failure.message_eq (failure : Failure) :
    failure.message = ": ".intercalate failure.chain := by
  have alone (cause : String) : cause = ": ".intercalate [cause] :=
    (String.intercalate_singleton).symm
  have within (outer cause : String) : outer ++ ": " ++ cause = ": ".intercalate [outer, cause] := by
    rw [String.intercalate_cons_cons, String.intercalate_singleton]
  cases failure with
  | unreadable path reason => exact within ("reading " ++ path) reason.text
  | malformed path reason => exact within ("parsing " ++ path) reason
  | fault cause => exact alone cause.message
  | through pointer cause => exact within ("resolving gep through " ++ pointer.text) cause.message

theorem Course.configured {lines : List String} {last : Session}
    (course : Course decoder graph settings (.finished lines last)) :
    Configured decoder settings last.settings := by
  cases course with
  | @finished session last queries lines opens answers =>
    cases opens with
    | @intro found source loaded _ _ events configured sourced loads starts =>
      have housed := Session.housed_of_start (Graph.load_ok loads).1 starts
      have onward := answers.onward housed
      obtain ⟨clear, made⟩ := Session.start_ok starts
      have same : last.settings = found := by
        calc last.settings
          _ = session.settings := onward.grown.settings
          _ = found := by rw [made]
      rwa [same]

theorem Course.shows_stopped {lines : List String} {failure : Failure}
    (course : Course decoder graph settings (.stopped lines failure)) :
    (Ending.stopped lines failure).Shows (CommandLine.run decoder graph settings) := by
  rw [course.run]
  refine ⟨rfl, ?_, rfl⟩
  rw [← failure.message_eq]
  rfl

theorem Course.shows_finished {lines : List String} {last : Session}
    (course : Course decoder graph settings (.finished lines last))
    (narrow : last.settings.labelWidth ≤ Report.maxWidth) :
    (Ending.finished lines last).Shows (CommandLine.run decoder graph settings) := by
  obtain ⟨text, printed⟩ : last.report.Prints := Report.prints_iff.mpr (.inl narrow)
  rw [course.run, Ending.outcome, finish, printed]
  exact ⟨rfl, rfl, text, printed, rfl⟩

/-- A run goes through its stages in order, and what is seen of it tells how it ended: with the lines
of all queries and the report of the last state, or with the lines before the first failure and the
account of that. -/
theorem run_shows_course (decoder : Decoder) (graph : File) (settings : Option File)
    (narrow : ∀ found, Configured decoder settings found → found.labelWidth ≤ Report.maxWidth) :
    (∃ ending, Course decoder graph settings ending) ∧
      ∀ ending, Course decoder graph settings ending →
        ending.Shows (run decoder graph settings) := by
  refine ⟨exists_course decoder graph settings, ?_⟩
  intro ending course
  cases ending with
  | stopped lines failure => exact course.shows_stopped
  | finished lines last => exact course.shows_finished (narrow last.settings course.configured)

/-- Documents, with the reason that is given for refusing a text in which no value begins. -/
def strict : Decoder :=
  Document.decoder (fun _ => "expected value at line 1 column 1")
    fun _ => "expected value at line 1 column 1"

def columns : File := ⟨"columns.json", .ok "[2130706432,40]"⟩

theorem settings_columns : strict.settings "[2130706432,40]" = .ok ⟨0x7f000000, 40⟩ := by
  decide +kernel

theorem narrow_columns (found : Settings) (configured : Configured strict (some columns) found) :
    found.labelWidth ≤ Report.maxWidth := by
  cases configured with
  | read content parsed valid =>
    cases content
    cases settings_columns.symm.trans parsed
    decide

def chained (more : String) : File where
  path := "chained.json"
  content := .ok ("[[],[[1,\"object\",null,false,[\"location\",\"heap\"]],[2,\"value\",null,true]],"
    ++ "[[1,[[],2]],[3,[[],-1]]" ++ more ++ "]]")

/-- All queries are answered; a third one through a value, which is no address, ends the run before the
fourth; and a text that is no document ends it before any. -/
theorem run_shows_course_chained :
    (∃ lines last, Course strict (chained "") (some columns) (.finished lines last) ∧
      (Ending.finished lines last).Shows (run strict (chained "") (some columns))) ∧
    (∃ lines, Course strict (chained ",[2,[[],1]],[1,[[],7]]") (some columns)
        (.stopped lines (.through ⟨2⟩ (.invalidPointer "ValVar2"))) ∧
      (Ending.stopped lines (.through ⟨2⟩ (.invalidPointer "ValVar2"))).Shows
        (run strict (chained ",[2,[[],1]],[1,[[],7]]") (some columns)) ∧
      String.join lines = "gep #1 + 2 = 2130706435\ngep #3 + -1 = 2130706436\n") ∧
    (run strict ⟨"g.json", .ok "graph"⟩ (some columns)).exit.errors =
      "fatal: parsing g.json: expected value at line 1 column 1\n" := by
  refine ⟨?_, ?_, ?_⟩
  · obtain ⟨⟨ending, course⟩, shows⟩ :=
      run_shows_course strict (chained "") (some columns) narrow_columns
    have code : (run strict (chained "") (some columns)).exit.code = 0 := by decide +kernel
    have seen := shows ending course
    cases ending with
    | finished lines last => exact ⟨lines, last, course, seen⟩
    | stopped lines failure =>
      rw [seen.1] at code
      cases code
  · obtain ⟨⟨ending, course⟩, shows⟩ :=
      run_shows_course strict (chained ",[2,[[],1]],[1,[[],7]]") (some columns) narrow_columns
    have ended : run strict (chained ",[2,[[],1]],[1,[[],7]]") (some columns) =
        ⟨"gep #1 + 2 = 2130706435\ngep #3 + -1 = 2130706436\n",
          .failure (.through ⟨2⟩ (.invalidPointer "ValVar2"))⟩ := by decide +kernel
    have seen := shows ending course
    cases ending with
    | finished lines last =>
      rw [ended] at seen
      cases seen.1
    | stopped lines failure =>
      have outcome := course.run.symm.trans ended
      obtain ⟨joined, same⟩ := Outcome.mk.inj outcome
      cases same
      exact ⟨lines, course, seen, joined⟩
  · obtain ⟨_, shows⟩ :=
      run_shows_course strict ⟨"g.json", .ok "graph"⟩ (some columns) narrow_columns
    have refused : strict.source "graph" = .error "expected value at line 1 column 1" := rfl
    have seen := shows _ (.unsourced (.read rfl settings_columns rfl) (.malformed rfl refused))
    rw [seen.2.1]
    decide

end CommandLine

end CellMemory
