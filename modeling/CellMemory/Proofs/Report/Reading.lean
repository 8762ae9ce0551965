import CellMemory.Proofs.Session.Display
import CellMemory.Proofs.Session.Reporting

/-! The text of a report can be read back. Every line has a row of its own between the header and the
footer. In a row the label ends at the tab, and the blanks that pad it do not hide where it ends: the
name of the variable is a word, and what follows the name is told by its first letter. So the width of
the label column makes the text longer, but never tells two reports apart or makes them alike. -/

namespace CellMemory

def IsInline (letter : Char) : Prop := letter ≠ '\t' ∧ letter ≠ '\n'

instance (letter : Char) : Decidable (IsInline letter) := inferInstanceAs (Decidable (_ ∧ _))

namespace Numeral

theorem inline_of_digit {base number : Nat} {letter : Char} (many : 1 < base) (few : base ≤ 16)
    (listed : letter ∈ Nat.toDigits base number) : IsInline letter := by
  have inside : ∀ digit < 16, IsInline (Nat.digitChar digit) := by decide
  obtain ⟨digit, small, rfl⟩ := mem_toDigits many listed
  exact inside digit (Nat.lt_of_lt_of_le small few)

theorem inline_repr (number : Nat) : ∀ letter ∈ number.repr.toList, IsInline letter := by
  intro letter listed
  rw [Nat.repr, String.toList_ofList] at listed
  exact inline_of_digit (by decide) (by decide) listed

theorem inline_hex (value : Nat) : ∀ letter ∈ (hex value).toList, IsInline letter := by
  have mark : ∀ letter ∈ "0x".toList, IsInline letter := by simp [IsInline]
  intro letter listed
  rw [hex, String.toList_append] at listed
  rcases List.mem_append.mp listed with front | digit
  · exact mark letter front
  · rw [String.toList_ofList] at digit
    exact inline_of_digit (by decide) (by decide) digit

theorem inline_decimal (value : Int64) : ∀ letter ∈ (decimal value).toList, IsInline letter := by
  intro letter listed
  rcases mem_decimal listed with digit | rfl
  · constructor
    · rintro rfl
      cases digit
    · rintro rfl
      cases digit
  · decide

theorem hexWord_injective {first second : Int64} (same : hexWord first = hexWord second) :
    first = second := by
  have words := UInt64.toNat_inj.mp (hex_injective same)
  exact congrArg UInt64.toInt64 words

theorem hexWord_ne_decimal (value other : Int64) : hexWord value ≠ decimal other := by
  have mark : 'x' ∈ (hexWord value).toList := by
    simp [hexWord, hex]
  exact ne_decimal mark (by decide) (by decide) other

end Numeral

namespace Shown

theorem inline_text (shown : Shown) : ∀ letter ∈ shown.text.toList, IsInline letter := by
  cases shown with
  | hex value => exact Numeral.inline_hex _
  | dec value => exact Numeral.inline_decimal value
  | null => simp [text, IsInline]

theorem text_injective {first second : Shown} (same : first.text = second.text) :
    first = second := by
  have letter : 'N' ∈ "NULL".toList := by simp
  have noNumber := Numeral.ne_decimal letter (by decide) (by decide)
  have noAddress : ∀ value, "NULL" ≠ Numeral.hexWord value := by
    intro value same
    have letters := congrArg String.toList same
    simp [Numeral.hexWord, Numeral.hex] at letters
  cases first with
  | hex value =>
    cases second with
    | hex other => exact congrArg hex (Numeral.hexWord_injective same)
    | dec other => exact absurd same (Numeral.hexWord_ne_decimal value other)
    | null => exact absurd same.symm (noAddress value)
  | dec value =>
    cases second with
    | hex other => exact absurd same.symm (Numeral.hexWord_ne_decimal other value)
    | dec other => exact congrArg dec (Numeral.decimal_injective same)
    | null => exact absurd same.symm (noNumber value)
  | null =>
    cases second with
    | hex other => exact absurd same (noAddress other)
    | dec other => exact absurd same (noNumber other)
    | null => rfl

end Shown

namespace VarId

def nameAs (id : VarId) : Kind → String
  | .value => id.valueName
  | .object => id.objectName

theorem isWord_objectName (id : VarId) : IsWord id.objectName.toList := by
  have word : IsWord "ObjVar".toList := ⟨by decide, by simp [IsPlain]⟩
  rw [objectName, String.toList_append]
  refine word.append fun letter digit => ?_
  rw [Nat.repr, String.toList_ofList] at digit
  exact Numeral.plain_of_digit (by decide) (by decide) digit

theorem isWord_nameAs (id : VarId) (kind : Kind) : IsWord (id.nameAs kind).toList := by
  cases kind with
  | value => exact id.isWord_valueName
  | object => exact id.isWord_objectName

theorem inline_nameAs (id : VarId) (kind : Kind) :
    ∀ letter ∈ (id.nameAs kind).toList, IsInline letter := by
  have value : ∀ letter ∈ "ValVar".toList, IsInline letter := by simp [IsInline]
  have object : ∀ letter ∈ "ObjVar".toList, IsInline letter := by simp [IsInline]
  have digits := Numeral.inline_repr id.number.toNat
  cases kind with
  | value =>
    rw [nameAs, valueName, String.toList_append]
    exact List.forall_mem_append.mpr ⟨value, digits⟩
  | object =>
    rw [nameAs, objectName, String.toList_append]
    exact List.forall_mem_append.mpr ⟨object, digits⟩

theorem nameAs_injective {first second : VarId} {kind other : Kind}
    (same : first.nameAs kind = second.nameAs other) : first = second ∧ kind = other := by
  have apart : ∀ id another : VarId, id.valueName ≠ another.objectName := by
    intro id another equal
    have letters := congrArg String.toList equal
    simp [valueName, objectName] at letters
  cases kind with
  | value =>
    cases other with
    | value => exact ⟨valueName_injective same, rfl⟩
    | object => exact absurd same (apart first second)
  | object =>
    cases other with
    | value => exact absurd same.symm (apart second first)
    | object => exact ⟨objectName_injective same, rfl⟩

end VarId

namespace Report

/-- What follows the name in a label: nothing after a value, a blank after an object, and its address in
parentheses between two blanks if it can have one. -/
inductive LabelEnd : Kind → List Char → Prop
  | value : LabelEnd .value []
  | object : LabelEnd .object [' ']
  | address (number : Nat) :
      LabelEnd .object (' ' :: '(' :: ((Numeral.hex number).toList ++ [')', ' ']))

theorem LabelEnd.closes {kind : Kind} {text : List Char} (labelEnd : LabelEnd kind text)
    (blanks : Nat) : Closes (text ++ List.replicate blanks ' ') := by
  cases labelEnd with
  | value =>
    cases blanks with
    | zero => exact closes_nil
    | succ blanks => exact closes_blank _
  | object => exact closes_blank _
  | address => exact closes_blank _

theorem LabelEnd.inline {kind : Kind} {text : List Char} (labelEnd : LabelEnd kind text) :
    ∀ letter ∈ text, IsInline letter := by
  cases labelEnd with
  | value => exact nofun
  | object => simp [IsInline]
  | address number =>
    have hex := Numeral.inline_hex number
    rw [List.forall_mem_cons, List.forall_mem_cons, List.forall_mem_append]
    exact ⟨by decide, by decide, hex, by simp [IsInline]⟩

/-- A parenthesis after the blank tells an address from blanks that pad. -/
theorem LabelEnd.append_blanks_inj {kind : Kind} {first second : List Char} {blanks more : Nat}
    (firstEnd : LabelEnd kind first) (secondEnd : LabelEnd kind second)
    (same : first ++ List.replicate blanks ' ' = second ++ List.replicate more ' ') :
    first = second := by
  have noParenthesis : ∀ (blanks : Nat) (rest : List Char),
      List.replicate blanks ' ' ≠ '(' :: rest := by
    intro blanks rest equal
    have letter : '(' ∈ List.replicate blanks ' ' := equal ▸ List.mem_cons_self
    cases (List.mem_replicate.mp letter).2
  cases firstEnd with
  | value =>
    cases secondEnd
    rfl
  | object =>
    cases secondEnd with
    | object => rfl
    | address number => exact absurd (List.cons.inj same).2 (noParenthesis _ _)
  | address number =>
    cases secondEnd with
    | object => exact absurd (List.cons.inj same).2.symm (noParenthesis _ _)
    | address other =>
      simp only [List.cons_append, List.append_assoc, List.cons.injEq, true_and] at same
      obtain ⟨words, _⟩ := append_inj_of_plain (Numeral.isWord_hex number).plain
        (Numeral.isWord_hex other).plain (closes_parenthesis _) (closes_parenthesis _) same
      rw [words]

namespace Line

def Labelled (line : Line) : Prop :=
  ∃ text, LabelEnd line.kind text ∧
    line.label.toList = (line.id.nameAs line.kind).toList ++ text

def padding (width : Nat) (line : Line) : List Char :=
  List.replicate (width - line.label.length) ' '

def row (width : Nat) (line : Line) : String :=
  line.label ++ String.ofList (line.padding width) ++ "\t Value: " ++ line.value.text

variable {first second line : Line} {width other : Nat}

theorem toList_row (width : Nat) (line : Line) :
    (line.row width).toList = (line.label.toList ++ line.padding width) ++
      '\t' :: (" Value: ".toList ++ line.value.text.toList) := by
  simp [row, String.toList_append]

theorem Labelled.inline_padded (labelled : line.Labelled) (width : Nat) :
    ∀ letter ∈ line.label.toList ++ line.padding width, IsInline letter := by
  obtain ⟨text, labelEnd, label⟩ := labelled
  rw [label]
  intro letter listed
  rcases List.mem_append.mp listed with front | blank
  · rcases List.mem_append.mp front with name | rest
    · exact line.id.inline_nameAs line.kind letter name
    · exact labelEnd.inline letter rest
  · rw [(List.mem_replicate.mp blank).2]
    decide

theorem Labelled.newline_notMem_row (labelled : line.Labelled) (width : Nat) :
    '\n' ∉ (line.row width).toList := by
  intro listed
  rw [toList_row] at listed
  rcases List.mem_append.mp listed with label | rest
  · exact (labelled.inline_padded width _ label).2 rfl
  · have value : '\n' ∉ " Value: ".toList := by simp
    rcases List.mem_cons.mp rest with tab | rest
    · cases tab
    · rcases List.mem_append.mp rest with front | shown
      · exact value front
      · exact (line.value.inline_text _ shown).2 rfl

/-- A padded label tells the name of the variable, so its number and its kind, and from these and from
what is left the whole label. -/
theorem Labelled.padded_inj (firstLabelled : first.Labelled) (secondLabelled : second.Labelled)
    (same : first.label.toList ++ first.padding width =
      second.label.toList ++ second.padding other) :
    first.id = second.id ∧ first.kind = second.kind ∧ first.label = second.label := by
  obtain ⟨text, firstEnd, firstLabel⟩ := firstLabelled
  obtain ⟨rest, secondEnd, secondLabel⟩ := secondLabelled
  rw [firstLabel, secondLabel, List.append_assoc, List.append_assoc] at same
  obtain ⟨names, ends⟩ := append_inj_of_plain (first.id.isWord_nameAs first.kind).plain
    (second.id.isWord_nameAs second.kind).plain (firstEnd.closes _) (secondEnd.closes _) same
  obtain ⟨ids, kinds⟩ := VarId.nameAs_injective (String.toList_inj.mp names)
  rw [kinds] at firstEnd
  refine ⟨ids, kinds, String.toList_inj.mp ?_⟩
  rw [firstLabel, secondLabel, names, firstEnd.append_blanks_inj secondEnd ends]

theorem Labelled.row_inj (firstLabelled : first.Labelled) (secondLabelled : second.Labelled)
    (same : first.row width = second.row other) : first = second := by
  have letters := congrArg String.toList same
  rw [toList_row, toList_row] at letters
  have noTab {line : Line} (labelled : line.Labelled) (width : Nat) :
      ∀ letter ∈ line.label.toList ++ line.padding width, letter ≠ '\t' :=
    fun letter listed => (labelled.inline_padded width letter listed).1
  obtain ⟨labels, values⟩ := append_inj_of_kind (noTab firstLabelled width)
    (noTab secondLabelled other) (by simp) (by simp) letters
  obtain ⟨ids, kinds, names⟩ := firstLabelled.padded_inj secondLabelled labels
  have shown := Shown.text_injective
    (String.toList_inj.mp (List.append_cancel_left (List.cons.inj values).2))
  cases first
  cases second
  simp_all

end Line

theorem lines_eq_of_rows {first second : List Line} {width other : Nat}
    (firstLabelled : ∀ line ∈ first, line.Labelled)
    (secondLabelled : ∀ line ∈ second, line.Labelled)
    (same : first.map (Line.row width) = second.map (Line.row other)) : first = second := by
  induction first generalizing second with
  | nil => exact (List.map_eq_nil_iff.mp same.symm).symm
  | cons line first ih =>
    cases second with
    | nil => cases same
    | cons head second =>
      rw [List.forall_mem_cons] at firstLabelled secondLabelled
      obtain ⟨rows, rest⟩ := List.cons.inj same
      rw [firstLabelled.1.row_inj secondLabelled.1 rows,
        ih firstLabelled.2 secondLabelled.2 rest]

/-- The text is made of these rows. Each has a newline at its end and no other. -/
structure IsRows (text : String) (rows : List String) : Prop where
  joined : text = String.join (rows.map (· ++ "\n"))
  single : ∀ row ∈ rows, '\n' ∉ row.toList

theorem IsRows.unique {text : String} {rows others : List String} (isRows : IsRows text rows)
    (alsoRows : IsRows text others) : rows = others := by
  have same := congrArg String.toList (isRows.joined.symm.trans alsoRows.joined)
  have firstSingle := isRows.single
  have secondSingle := alsoRows.single
  clear isRows alsoRows
  induction rows generalizing others with
  | nil =>
    cases others with
    | nil => rfl
    | cons head others => simp at same
  | cons row rows ih =>
    cases others with
    | nil => simp at same
    | cons head others =>
      rw [List.forall_mem_cons] at firstSingle secondSingle
      simp only [List.map_cons, String.join_cons, String.toList_append, List.append_assoc] at same
      -- a row ends at the first newline
      obtain ⟨letters, rest⟩ := append_inj_of_kind
        (fun letter listed (newline : letter = '\n') => firstSingle.1 (newline ▸ listed))
        (fun letter listed (newline : letter = '\n') => secondSingle.1 (newline ▸ listed))
        (by simp) (by simp) same
      rw [String.toList_inj.mp letters,
        ih (List.append_cancel_left rest) firstSingle.2 secondSingle.2]

def rows (report : Report) : List String :=
  "-----------SVFVar and Value-----------" ::
    (report.lines.map (Line.row report.labelWidth) ++
      ["-----------------------------------------"])

theorem row_of_line {report : Report} {position : Nat} {line : Line}
    (listed : report.lines[position]? = some line) :
    report.rows[position + 1]? = some (line.row report.labelWidth) := by
  have inside : position < (report.lines.map (Line.row report.labelWidth)).length := by
    rw [List.length_map]
    exact (List.getElem?_eq_some_iff.mp listed).1
  rw [rows, List.getElem?_cons_succ, List.getElem?_append_left inside, List.getElem?_map, listed,
    Option.map_some]

theorem isRows_rows {report : Report} (narrow : report.labelWidth ≤ maxWidth)
    (labelled : ∀ line ∈ report.lines, line.Labelled) :
    ∃ text, report.text? = some text ∧ IsRows text report.rows := by
  refine ⟨_, if_pos (.inl narrow), ?_, ?_⟩
  · have texts : report.lines.map (Line.text report.labelWidth) =
        (report.lines.map (Line.row report.labelWidth)).map (· ++ "\n") := by
      rw [List.map_map]
      rfl
    rw [texts, rows, List.map_cons, List.map_append, String.join_cons, String.join_append]
    simp [header, footer, String.append_assoc]
  · rw [rows, List.forall_mem_cons, List.forall_mem_append, List.forall_mem_singleton,
      List.forall_mem_map]
    refine ⟨by simp, ?_, by simp⟩
    intro line listed
    exact (labelled line listed).newline_notMem_row report.labelWidth

end Report

namespace Session

variable {session : Session}

theorem labelled_of_mem {line : Report.Line} (member : line ∈ session.report.lines) :
    line.Labelled := by
  obtain ⟨id, _, told⟩ := mem_lines.mp member
  obtain ⟨value, _, rfl | rfl⟩ := reportLine_cases told
  · exact ⟨[], .value, (List.append_nil _).symm⟩
  · by_cases fits : id.number.toNat < Address.idLimit
    · refine ⟨_, .address (session.addresses.mask ||| id.number).toNat, ?_⟩
      simp [AddressSpace.label_of_lt fits, VarId.nameAs, String.toList_append]
    · refine ⟨_, .object, ?_⟩
      simp [AddressSpace.label_of_le (Nat.le_of_not_lt fits), VarId.nameAs, String.toList_append]

/-- Unless its label column is too wide, the report of a session in any state has a text. It is made of
one row for each line, in order, between the header and the footer; the first tab of such a row comes
after the label, padded with blanks to the width of the column. Any report with the same text has the
same lines, even if its column has another width. -/
theorem text_exact (narrow : session.settings.labelWidth ≤ 65535) :
    (∃ text rows, session.report.text? = some text ∧ Report.IsRows text rows ∧
      rows.length = session.report.lines.length + 2 ∧
      ∀ (position : Nat) (line : Report.Line), session.report.lines[position]? = some line →
        ∃ front, rows[position + 1]? = some (front ++ "\t Value: " ++ line.value.text) ∧
          '\t' ∉ front.toList ∧
          front.length = max session.settings.labelWidth line.label.length ∧
          ∃ blanks, front = line.label ++ String.ofList (List.replicate blanks ' ')) ∧
    ∀ other : Session, other.settings.labelWidth ≤ 65535 →
      other.report.text? = session.report.text? → other.report.lines = session.report.lines := by
  have labelled : ∀ {session : Session}, ∀ line ∈ session.report.lines, line.Labelled :=
    fun line member => labelled_of_mem member
  obtain ⟨text, prints, isRows⟩ := Report.isRows_rows narrow labelled
  refine ⟨⟨text, _, prints, isRows, ?_, ?_⟩, ?_⟩
  · simp [Report.rows]
  · intro position line listed
    have member : line ∈ session.report.lines := List.mem_of_getElem? listed
    refine ⟨line.label ++ String.ofList (line.padding session.settings.labelWidth),
      Report.row_of_line listed, ?_, ?_, _, rfl⟩
    · intro tab
      rw [String.toList_append, String.toList_ofList] at tab
      exact ((labelled line member).inline_padded _ _ tab).1 rfl
    · rw [String.length_append, String.length_ofList, Report.Line.padding, List.length_replicate]
      omega
  · intro other otherNarrow same
    obtain ⟨otherText, otherPrints, otherRows⟩ := Report.isRows_rows otherNarrow labelled
    rw [otherPrints, prints] at same
    cases same
    obtain ⟨_, rows⟩ := List.cons.inj (otherRows.unique isRows)
    exact Report.lines_eq_of_rows labelled labelled (List.append_cancel_right rows)

def ofWidth (width : Nat) : Session :=
  { single ⟨1⟩ with settings := { Settings.standard with labelWidth := width } }

/-- Two columns of different widths, neither wider than the label, give one text. -/
theorem text_exact_unpadded :
    ∃ events others, Session.start (.single ⟨1⟩) ⟨0x7f000000, 0⟩ = .ok (ofWidth 0, events) ∧
      Session.start (.single ⟨1⟩) ⟨0x7f000000, 21⟩ = .ok (ofWidth 21, others) ∧
      (∃ text rows front, (ofWidth 0).report.text? = some text ∧ Report.IsRows text rows ∧
        rows.length = 3 ∧ rows[1]? = some (front ++ "\t Value: " ++ "NULL") ∧
        '\t' ∉ front.toList ∧ front.length = 21) ∧
      (ofWidth 21).report.text? = (ofWidth 0).report.text? ∧
      (ofWidth 21).report.lines = (ofWidth 0).report.lines := by
  have lines : (ofWidth 0).report.lines = [⟨⟨1⟩, .object, "ObjVar1 (0x7f000001) ", .null⟩] := by
    decide +kernel
  have same : (ofWidth 21).report.text? = (ofWidth 0).report.text? := by decide +kernel
  obtain ⟨⟨text, rows, prints, isRows, count, shows⟩, apart⟩ :=
    text_exact (by decide : (ofWidth 0).settings.labelWidth ≤ 65535)
  rw [lines] at count shows
  obtain ⟨front, row, noTab, wide, _⟩ := shows 0 _ rfl
  exact ⟨_, _, rfl, rfl, ⟨text, rows, front, prints, isRows, count, row, noTab, wide⟩, same,
    apart _ (by decide) same⟩

end Session

end CellMemory
