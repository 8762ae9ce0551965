import CellMemory.Proofs.Session.Unknowns
import CellMemory.Report

/-! What a report tells. It has one line for each variable of the graph that is bound to what has a
value: the objects before the values, and both in the order of their ids. The line of a value shows
what it is; that of an object shows what was last written at the address that it is bound to. -/

namespace CellMemory

open Address (numeral)

def Report.Line.Before (first second : Report.Line) : Prop :=
  first.kind = .object ∧ second.kind = .value ∨
    first.kind = second.kind ∧ first.id.number < second.id.number

theorem AddressSpace.label_of_lt {space : AddressSpace} {id : VarId}
    (fits : id.number.toNat < Address.idLimit) :
    space.label id =
      id.objectName ++ " (" ++ Numeral.hex (space.mask ||| id.number).toNat ++ ") " := by
  simp only [label, place_eq_ok_iff.mpr ⟨fits, rfl⟩]

theorem AddressSpace.label_of_le {space : AddressSpace} {id : VarId}
    (large : Address.idLimit ≤ id.number.toNat) : space.label id = id.objectName ++ " " := by
  simp only [label, place_eq_error_iff.mpr ⟨large, rfl⟩]

namespace Session

def HasLine (session : Session) (id : VarId) : Prop :=
  ∃ item expr value, session.graph.find? id = some item ∧ session.lookup id = .ok expr ∧
    session.evaluate expr = some value

structure Known (session : Session) (item : Variable) (value : Int64) : Prop where
  found : session.graph.find? item.id = some item
  bound : ∃ expr, session.lookup item.id = .ok expr ∧ session.evaluate expr = some value

/-- What operations wrote last at the address that is this value has the other value in the end. -/
structure Holds (session : Session) (operations : List Operation) (value content : Int64) :
    Prop where
  inside : (session.after operations).addresses.isAddress value = true
  written : ∃ address expr, numeral address = value ∧
    session.lastWrite address operations = some expr ∧
    (session.after operations).evaluate expr = some content

variable {session : Session}

theorem hasLine_iff {id : VarId} :
    session.HasLine id ↔ ∃ line, session.reportLine id = some line := by
  unfold HasLine reportLine
  cases found : session.graph.find? id with
  | none => simp [Graph.kind, Graph.node, found]
  | some item =>
    cases bound : session.lookup id with
    | error fault => simp
    | ok expr =>
      cases evaluated : session.evaluate expr with
      | none => simp [Graph.kind, Graph.node, found, evaluated]
      | some value =>
        cases kind : item.node.kind with
        | value | object => simp [Graph.kind, Graph.node, found, evaluated, kind]

theorem Known.graph_kind {item : Variable} {value : Int64} (known : session.Known item value) :
    session.graph.kind item.id = .ok item.node.kind := by
  simp only [Graph.kind, Graph.node, known.found]

theorem Known.reportLine_of_value {item : Variable} {value : Int64}
    (known : session.Known item value) (kind : item.node.kind = .value) :
    session.reportLine item.id =
      some ⟨item.id, .value, item.id.valueName, session.addresses.shown value⟩ := by
  obtain ⟨expr, bound, evaluated⟩ := known.bound
  simp only [reportLine, known.graph_kind, kind, bound, evaluated]

theorem Known.reportLine_of_object {item : Variable} {value : Int64}
    (known : session.Known item value) (kind : item.node.kind = .object) :
    session.reportLine item.id =
      some ⟨item.id, .object, session.addresses.label item.id, session.contentShown value⟩ := by
  obtain ⟨expr, bound, evaluated⟩ := known.bound
  simp only [reportLine, known.graph_kind, kind, bound, evaluated]

theorem reportLine_cases {id : VarId} {line : Report.Line}
    (told : session.reportLine id = some line) :
    ∃ value, (∃ expr, session.lookup id = .ok expr ∧ session.evaluate expr = some value) ∧
      (line = ⟨id, .value, id.valueName, session.addresses.shown value⟩ ∨
        line = ⟨id, .object, session.addresses.label id, session.contentShown value⟩) := by
  obtain ⟨item, expr, value, found, bound, evaluated⟩ := hasLine_iff.mpr ⟨line, told⟩
  have same := Graph.id_of_find? found
  subst same
  have known : session.Known item value := ⟨found, expr, bound, evaluated⟩
  refine ⟨value, ⟨expr, bound, evaluated⟩, ?_⟩
  cases kind : item.node.kind with
  | value => exact .inl (Option.some.inj (told.symm.trans (known.reportLine_of_value kind)))
  | object => exact .inr (Option.some.inj (told.symm.trans (known.reportLine_of_object kind)))

theorem id_of_reportLine {id : VarId} {line : Report.Line}
    (told : session.reportLine id = some line) : line.id = id := by
  obtain ⟨_, _, rfl | rfl⟩ := reportLine_cases told
  · rfl
  · rfl

theorem mem_lines {line : Report.Line} :
    line ∈ session.report.lines ↔
      ∃ id ∈ session.store.ids, session.reportLine id = some line := by
  simp only [report, List.mem_append, List.mem_filter, List.mem_filterMap, decide_eq_true_eq]
  cases line.kind with
  | object | value => simp

theorem mem_lines_iff {line : Report.Line} :
    line ∈ session.report.lines ↔ session.reportLine line.id = some line := by
  rw [mem_lines]
  constructor
  · rintro ⟨id, _, told⟩
    rwa [id_of_reportLine told]
  · intro told
    obtain ⟨item, expr, value, found, bound, evaluated⟩ := hasLine_iff.mpr ⟨line, told⟩
    exact ⟨line.id, Store.mem_ids.mpr ⟨expr, bound⟩, told⟩

theorem hasLine_iff_mem {id : VarId} :
    session.HasLine id ↔ ∃ line ∈ session.report.lines, line.id = id := by
  rw [hasLine_iff]
  constructor
  · rintro ⟨line, told⟩
    have same := id_of_reportLine told
    subst same
    exact ⟨line, mem_lines_iff.mpr told, rfl⟩
  · rintro ⟨line, member, rfl⟩
    exact ⟨line, mem_lines_iff.mp member⟩

theorem lines_eq_nil_iff : session.report.lines = [] ↔ ∀ id, ¬session.HasLine id := by
  simp only [List.eq_nil_iff_forall_not_mem, hasLine_iff_mem, not_exists, not_and]
  constructor
  · intro empty id line member
    exact absurd member (empty line)
  · intro none line member
    exact none line.id line member rfl

theorem pairwise_lines (session : Session) :
    session.report.lines.Pairwise Report.Line.Before := by
  have ascending : (session.store.ids.filterMap session.reportLine).Pairwise
      fun first second => first.id.number < second.id.number := by
    apply session.store.ascending_ids.filterMap
    intro id other earlier first told second toldNext
    rwa [id_of_reportLine told, id_of_reportLine toldNext]
  have within : ∀ kind, ((session.store.ids.filterMap session.reportLine).filter
      (·.kind = kind)).Pairwise Report.Line.Before := by
    intro kind
    refine (ascending.filter _).imp_of_mem ?_
    intro first second firstMember secondMember earlier
    have firstKind := of_decide_eq_true (List.mem_filter.mp firstMember).2
    have secondKind := of_decide_eq_true (List.mem_filter.mp secondMember).2
    exact .inr ⟨firstKind.trans secondKind.symm, earlier⟩
  refine List.pairwise_append.mpr ⟨within .object, within .value, ?_⟩
  intro first firstMember second secondMember
  exact .inl ⟨of_decide_eq_true (List.mem_filter.mp firstMember).2,
    of_decide_eq_true (List.mem_filter.mp secondMember).2⟩

theorem nodup_lines (session : Session) :
    (session.report.lines.map Report.Line.id).Nodup := by
  refine List.pairwise_map.mpr (session.pairwise_lines.imp_of_mem ?_)
  intro first second firstMember secondMember before same
  have told := mem_lines_iff.mp firstMember
  rw [same, mem_lines_iff.mp secondMember, Option.some.injEq] at told
  subst told
  rcases before with ⟨object, value⟩ | ⟨_, earlier⟩
  · cases object.symm.trans value
  · exact UInt32.lt_irrefl _ earlier

theorem contentShown_of_written {address : UInt32} {expr : Expr} {content : Int64}
    (inside : session.addresses.isAddress (numeral address) = true)
    (written : session.store.written address = some expr)
    (evaluated : session.evaluate expr = some content) :
    session.contentShown (numeral address) = session.addresses.shown content := by
  simp only [contentShown, inside, Address.lowWord_numeral, written, evaluated, if_true]

theorem contentShown_cases (session : Session) (value : Int64) :
    session.contentShown value = .null ∨
      ∃ expr content, session.addresses.isAddress value = true ∧
        session.store.written (Numeral.lowWord value) = some expr ∧
        session.evaluate expr = some content := by
  unfold contentShown
  cases inside : session.addresses.isAddress value with
  | false => exact .inl rfl
  | true =>
    cases written : session.store.written (Numeral.lowWord value) with
    | none => exact .inl rfl
    | some expr =>
      cases evaluated : session.evaluate expr with
      | none => exact .inl (by simp [evaluated])
      | some content => exact .inr ⟨expr, content, rfl, rfl, evaluated⟩

section Started

variable {graph : Graph} {settings : Settings} {events : List Event}
variable (built : graph.Built) (started : Session.start graph settings = .ok (session, events))

include built started

theorem Holds.contentShown {operations : List Operation} {value content : Int64}
    (holds : session.Holds operations value content) :
    (session.after operations).contentShown value =
      (session.after operations).addresses.shown content := by
  obtain ⟨address, expr, rfl, last, evaluated⟩ := holds.written
  have written := written_after_start built started operations address
  exact contentShown_of_written holds.inside (written.trans last) evaluated

theorem contentShown_of_not_holds {operations : List Operation} {value : Int64}
    (nothing : ∀ content, ¬session.Holds operations value content) :
    (session.after operations).contentShown value = .null := by
  rcases (session.after operations).contentShown_cases value with
    null | ⟨expr, content, inside, written, evaluated⟩
  · exact null
  · rw [written_after_start built started] at written
    exact absurd ⟨inside, _, expr, AddressSpace.numeral_of_isAddress inside, written, evaluated⟩
      (nothing content)

theorem label_after (operations : List Operation) (id : VarId) :
    (session.after operations).addresses.label id =
      if id.number.toNat < 0x1000000 then
        id.objectName ++ " (" ++ Numeral.hex (settings.addressMask ||| id.number).toNat ++ ") "
      else id.objectName ++ " " := by
  have mask : (session.after operations).addresses.mask = settings.addressMask := by
    calc (session.after operations).addresses.mask
      _ = session.addresses.mask :=
        ((coherent_of_start built started).grows_after operations).mask
      _ = settings.addressMask := (graph_of_start started).2.2
  split
  · next fits => rw [AddressSpace.label_of_lt fits, mask]
  · next large => rw [AddressSpace.label_of_le (Nat.le_of_not_lt large)]

/-- A report has exactly one line for each variable of the graph that is bound to what has a value,
and no other line. Objects come before values, and the ids of each ascend. The line of a value
shows it, in hexadecimal exactly if it is in the range of addresses. The line of an object is
labelled with its address if its id fits in one. It shows in the same way what was written last at
the address that the object is bound to, if it is bound to one and what was written there has a
value; otherwise it shows that there is nothing. -/
theorem report_of_run (operations : List Operation) :
    (∀ id, (∃ line ∈ (session.after operations).report.lines, line.id = id) ↔
      (session.after operations).HasLine id) ∧
    ((session.after operations).report.lines.map Report.Line.id).Nodup ∧
    (session.after operations).report.lines.Pairwise Report.Line.Before ∧
    (∀ item value, (session.after operations).Known item value → item.node.kind = .value →
      ⟨item.id, .value, item.id.valueName,
        if (session.after operations).addresses.isAddress value then .hex value
        else .dec value⟩ ∈ (session.after operations).report.lines) ∧
    ∀ item value, (session.after operations).Known item value → item.node.kind = .object →
      ∃ shown,
        ⟨item.id, .object,
          if item.id.number.toNat < 0x1000000 then
            item.id.objectName ++ " (" ++
              Numeral.hex (settings.addressMask ||| item.id.number).toNat ++ ") "
          else item.id.objectName ++ " ", shown⟩ ∈ (session.after operations).report.lines ∧
        (∀ content, session.Holds operations value content →
          shown = if (session.after operations).addresses.isAddress content then .hex content
            else .dec content) ∧
        ((∀ content, ¬session.Holds operations value content) → shown = .null) := by
  refine ⟨fun _ => hasLine_iff_mem.symm, nodup_lines _, pairwise_lines _, ?_, ?_⟩
  · intro item value known kind
    exact mem_lines_iff.mpr (known.reportLine_of_value kind)
  · intro item value known kind
    have line := known.reportLine_of_object kind
    rw [label_after built started] at line
    refine ⟨_, mem_lines_iff.mpr line, ?_, ?_⟩
    · intro content holds
      exact holds.contentShown built started
    · intro nothing
      exact contentShown_of_not_holds built started nothing

end Started

def noted : List Operation :=
  [.bind ⟨1⟩ (.num 0x7f000002), .bind ⟨9⟩ (.num 3), .resolve (.num 5) 1,
    .resolve (.num 0x7f000002) 1, .write (.num 0x7f000002) (.num 7)]

theorem report_of_run_noted :
    ∃ events, Session.start .valueAndLocation .standard = .ok (valueAndLocation, events) ∧
      ⟨⟨1⟩, .value, "ValVar1", .hex 0x7f000002⟩ ∈ (valueAndLocation.after noted).report.lines ∧
      ⟨⟨2⟩, .object, "ObjVar2 (0x7f000002) ", .dec 7⟩ ∈
        (valueAndLocation.after noted).report.lines ∧
      ⟨⟨3⟩, .object, "ObjVar3 (0x7f000003) ", .null⟩ ∈
        (valueAndLocation.after noted).report.lines ∧
      ∀ line ∈ (valueAndLocation.after noted).report.lines, line.id ≠ ⟨9⟩ := by
  have started : Session.start .valueAndLocation .standard = .ok (valueAndLocation, _) := rfl
  obtain ⟨exact, _, _, values, objects⟩ :=
    report_of_run Graph.built_valueAndLocation started noted
  have pointer := values ⟨⟨1⟩, .placeholderValue, none⟩ 0x7f000002
    ⟨by decide +kernel, .num 0x7f000002, by decide +kernel, rfl⟩ rfl
  obtain ⟨shown, location, full, _⟩ := objects ⟨⟨2⟩, .location .heap none, none⟩ 0x7f000002
    ⟨by decide +kernel, .num 0x7f000002, by decide +kernel, rfl⟩ rfl
  obtain ⟨other, cell, _, empty⟩ :=
    objects ⟨⟨3⟩, .location .heap none, some ⟨⟨2⟩, 1⟩⟩ 0x7f000003
      ⟨by decide +kernel, .num 0x7f000003, by decide +kernel, rfl⟩ rfl
  have written : valueAndLocation.Holds noted 0x7f000002 7 :=
    ⟨by decide +kernel, 0x7f000002, .num 7, by decide, by decide +kernel, rfl⟩
  have unwritten : ∀ content, ¬valueAndLocation.Holds noted 0x7f000003 content := by
    rintro content ⟨_, address, expr, same, last, _⟩
    cases Address.numeral_injective (same.trans (by decide : _ = numeral 0x7f000003))
    rw [show valueAndLocation.lastWrite 0x7f000003 noted = none by decide +kernel] at last
    cases last
  have outside : ¬(valueAndLocation.after noted).HasLine ⟨9⟩ := by
    rintro ⟨item, _, _, found, _⟩
    rw [show (valueAndLocation.after noted).graph.find? ⟨9⟩ = none by decide +kernel] at found
    cases found
  cases full 7 written
  cases empty unwritten
  refine ⟨_, started, pointer, location, cell, ?_⟩
  intro line member same
  exact outside ((exact ⟨9⟩).mp ⟨line, member, same⟩)

end Session

end CellMemory
