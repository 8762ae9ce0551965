import CellMemory.Proofs.Session.Reporting

/-! What a report shows of the contents of objects against what loads answer. Where something was
written the two agree. Where nothing was, a load answers the constant of the address and the report
shows that there is nothing, even if an assumption has given this constant a value. -/

namespace CellMemory

open Address (numeral)

def Shown.numeral? : Shown → Option Int64
  | hex value | dec value => some value
  | null => none

theorem Shown.numeral?_eq_none_iff {shown : Shown} : shown.numeral? = none ↔ shown = .null := by
  cases shown <;> simp [numeral?]

@[simp]
theorem AddressSpace.numeral?_shown (space : AddressSpace) (value : Int64) :
    (space.shown value).numeral? = some value := by
  unfold shown
  split <;> rfl

namespace Session

variable {session : Session}

theorem value_of_object_line {line : Report.Line} (member : line ∈ session.report.lines)
    (object : line.kind = .object) {expr : Expr} {value : Int64}
    (bound : session.lookup line.id = .ok expr) (evaluated : session.evaluate expr = some value) :
    line.value = session.contentShown value := by
  obtain ⟨id, _, told⟩ := mem_lines.mp member
  obtain ⟨_, ⟨_, alsoBound, alsoEvaluated⟩, rfl | rfl⟩ := reportLine_cases told
  · cases object
  · cases alsoBound.symm.trans bound
    cases alsoEvaluated.symm.trans evaluated
    rfl

theorem Coherent.isAddress_of_addresses (coherent : session.Coherent) {location : Expr}
    {address : UInt32} (addressed : session.Addresses location address) :
    session.addresses.isAddress (numeral address) = true := by
  obtain ⟨id, taken⟩ := addressed.taken
  have owned := coherent.memory.exact.owner_numeral coherent.memory.clear taken
  exact (AddressSpace.owner_eq_ok_iff.mp owned).1

theorem Coherent.numeral?_contentShown (coherent : session.Coherent) {location : Expr}
    {address : UInt32} (addressed : session.Addresses location address) :
    (session.contentShown (numeral address)).numeral? =
      (session.store.written address).bind session.evaluate := by
  have inside := coherent.isAddress_of_addresses addressed
  cases written : session.store.written address with
  | none => simp [contentShown, inside, Address.lowWord_numeral, written, Shown.numeral?]
  | some expr =>
    cases evaluated : session.evaluate expr with
    | none => simp [contentShown, inside, Address.lowWord_numeral, written, evaluated, Shown.numeral?]
    | some content => simp [contentShown_of_written inside written evaluated, evaluated]

theorem Coherent.evaluate_load (coherent : session.Coherent) {location : Expr} {address : UInt32}
    (addressed : session.Addresses location address) (expr : Expr) :
    (session.perform (.load location)).state.evaluate expr = session.evaluate expr :=
  congrArg expr.evaluate (coherent.model_load addressed)

theorem Coherent.load_of_written (coherent : session.Coherent) {location : Expr} {address : UInt32}
    (addressed : session.Addresses location address) {expr : Expr}
    (written : session.store.written address = some expr) :
    (session.perform (.load location)).answer = .ok (.expr expr) := by
  rw [coherent.perform_load addressed, Store.read_of_written written]

/-- The line of an object that is bound to a taken address shows a numeral exactly if something was
written at the address and a load there answers what has this numeral as its value. It shows that
there is nothing exactly if nothing was written, or the answer of the load has no value. -/
theorem content_of_line {graph : Graph} {settings : Settings} {events : List Event}
    (built : graph.Built) (started : Session.start graph settings = .ok (session, events))
    (operations : List Operation) {line : Report.Line}
    (member : line ∈ (session.after operations).report.lines) (object : line.kind = .object)
    {expr location : Expr} {address : UInt32}
    (bound : (session.after operations).lookup line.id = .ok expr)
    (known : (session.after operations).evaluate expr = some (numeral address))
    (addressed : (session.after operations).Addresses location address) :
    ∃ content, ((session.after operations).perform (.load location)).answer = .ok (.expr content) ∧
      (∀ value, line.value.numeral? = some value ↔ session.lastWrite address operations ≠ none ∧
        ((session.after operations).perform (.load location)).state.evaluate content =
          some value) ∧
      (line.value = .null ↔ session.lastWrite address operations = none ∨
        ((session.after operations).perform (.load location)).state.evaluate content = none) := by
  have coherent := (coherent_of_start built started).after operations
  have written := written_after_start built started operations address
  have shown := coherent.numeral?_contentShown addressed
  rw [← value_of_object_line member object bound known, written] at shown
  simp only [← Shown.numeral?_eq_none_iff, coherent.evaluate_load addressed]
  cases last : session.lastWrite address operations with
  | none =>
    rw [last] at written shown
    refine ⟨_, (coherent.load_of_unwritten addressed written).1, ?_, ?_⟩ <;> simp [shown]
  | some content =>
    rw [last] at written shown
    refine ⟨content, coherent.load_of_written addressed written, ?_, ?_⟩ <;> simp [shown]

def assumedContent : List Operation :=
  [.load (.num 0x7f000001), .assume (.const ⟨0⟩) 5, .write (.num 0x7f000001) (.const ⟨0⟩)]

theorem content_of_line_assumedContent :
    ∃ events, Session.start (.single ⟨1⟩) .standard = .ok (single ⟨1⟩, events) ∧
      (((single ⟨1⟩).after assumedContent).perform (.load (.num 0x7f000001))).state.evaluate
          (.const ⟨0⟩) = some 5 ∧
      ⟨⟨1⟩, .object, "ObjVar1 (0x7f000001) ", .dec 5⟩ ∈
        ((single ⟨1⟩).after assumedContent).report.lines := by
  have started : Session.start (.single ⟨1⟩) .standard = .ok (single ⟨1⟩, _) := rfl
  have member : ⟨⟨1⟩, .object, "ObjVar1 (0x7f000001) ", .dec 5⟩ ∈
      ((single ⟨1⟩).after assumedContent).report.lines := by decide +kernel
  have addressed : ((single ⟨1⟩).after assumedContent).Addresses (.num 0x7f000001) 0x7f000001 :=
    ⟨rfl, ⟨1⟩, by decide⟩
  have bound : ((single ⟨1⟩).after assumedContent).lookup ⟨1⟩ = .ok (.num 0x7f000001) := rfl
  obtain ⟨content, answer, shown, _⟩ := content_of_line (Graph.built_single ⟨1⟩) started
    assumedContent member rfl bound rfl addressed
  cases answer
  exact ⟨_, started, ((shown 5).mp rfl).2, member⟩

/-- The constant is assumed to be five, and nothing is written. -/
theorem not_content_of_line :
    ¬∀ (graph : Graph) (settings : Settings) (session : Session) (events : List Event)
      (operations : List Operation) (line : Report.Line) (expr location : Expr)
      (address : UInt32), graph.Built →
      Session.start graph settings = .ok (session, events) →
      line ∈ (session.after operations).report.lines → line.kind = .object →
      (session.after operations).lookup line.id = .ok expr →
      (session.after operations).evaluate expr = some (numeral address) →
      (session.after operations).Addresses location address →
        ∃ content,
          ((session.after operations).perform (.load location)).answer = .ok (.expr content) ∧
          (∀ value, line.value.numeral? = some value ↔
            ((session.after operations).perform (.load location)).state.evaluate content =
              some value) ∧
          (line.value = .null ↔
            ((session.after operations).perform (.load location)).state.evaluate content = none) := by
  intro agrees
  let last := (single ⟨1⟩).after [.load (.num 0x7f000001), .assume (.const ⟨0⟩) 5]
  have started : Session.start (.single ⟨1⟩) .standard = .ok (single ⟨1⟩, _) := rfl
  have constant : (last.perform (.load (.num 0x7f000001))).answer = .ok (.expr (.const ⟨0⟩)) := by
    decide +kernel
  obtain ⟨content, answer, shown, _⟩ := agrees _ _ _ _ _
    ⟨⟨1⟩, .object, "ObjVar1 (0x7f000001) ", .null⟩ (.num 0x7f000001) (.num 0x7f000001) 0x7f000001
    (Graph.built_single ⟨1⟩) started (by decide +kernel : _ ∈ last.report.lines) rfl rfl rfl
    ⟨rfl, ⟨1⟩, by decide⟩
  cases constant.symm.trans answer
  cases (shown 5).mpr rfl

end Session

end CellMemory
