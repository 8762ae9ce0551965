import CellMemory.Proofs.Graph.Loading
import CellMemory.Proofs.Layout.Tabulation
import Mathlib.Data.List.Forall2

/-! What a source loads as. The types make a table, and each record makes a variable with the node
that it describes, in the order of the source. Of a source that does not load the first type to be
refused tells why, or else the first record. -/

namespace CellMemory

namespace Record

/-- What a record says its variable is. A value goes by its type and an object by its payload; only
where these are missing does it matter whether the record is for a placeholder. -/
inductive Describes : Record → Node → Prop
  | typedValue {id : VarId} {ty : TypeId} {placeholder : Bool} {payload : Option Payload} :
      Describes ⟨id, .value, some ty, placeholder, payload⟩ (.typedValue ty)
  | placeholderValue {id : VarId} {payload : Option Payload} :
      Describes ⟨id, .value, none, true, payload⟩ .placeholderValue
  | constant {id : VarId} {ty : Option TypeId} {placeholder : Bool} {value : Constant} :
      Describes ⟨id, .object, ty, placeholder, some (.constant value)⟩ (.constantScalar value)
  | array {id : VarId} {ty : Option TypeId} {placeholder : Bool} :
      Describes ⟨id, .object, ty, placeholder, some .constantArray⟩ .constantAggregate
  | struct {id : VarId} {ty : Option TypeId} {placeholder : Bool} :
      Describes ⟨id, .object, ty, placeholder, some .constantStruct⟩ .constantAggregate
  | location {id : VarId} {ty : Option TypeId} {placeholder : Bool} {region : Region} :
      Describes ⟨id, .object, ty, placeholder, some (.location region)⟩ (.location region ty)
  | placeholderObject {id : VarId} {ty : Option TypeId} :
      Describes ⟨id, .object, ty, true, none⟩ .placeholderObject

inductive Lacks : Record → Fault → Prop
  | type {id : VarId} {payload : Option Payload} :
      Lacks ⟨id, .value, none, false, payload⟩ (.untypedValue id)
  | payload {id : VarId} {ty : Option TypeId} :
      Lacks ⟨id, .object, ty, false, none⟩ (.missingPayload id)

variable {record : Record} {node : Node} {fault : Fault}

theorem Describes.classify (described : record.Describes node) : record.classify = .ok node := by
  cases described <;> rfl

theorem Lacks.classify (lacks : record.Lacks fault) : record.classify = .error fault := by
  cases lacks <;> rfl

theorem describes_or_lacks (record : Record) :
    (∃ node, record.Describes node) ∨ ∃ fault, record.Lacks fault := by
  obtain ⟨id, kind, ty, placeholder, payload⟩ := record
  cases kind with
  | value =>
    cases ty with
    | some ty => exact .inl ⟨_, .typedValue⟩
    | none =>
      cases placeholder with
      | true => exact .inl ⟨_, .placeholderValue⟩
      | false => exact .inr ⟨_, .type⟩
  | object =>
    cases payload with
    | none =>
      cases placeholder with
      | true => exact .inl ⟨_, .placeholderObject⟩
      | false => exact .inr ⟨_, .payload⟩
    | some payload =>
      cases payload with
      | constant => exact .inl ⟨_, .constant⟩
      | constantArray => exact .inl ⟨_, .array⟩
      | constantStruct => exact .inl ⟨_, .struct⟩
      | location => exact .inl ⟨_, .location⟩

theorem classify_eq_ok_iff : record.classify = .ok node ↔ record.Describes node := by
  refine ⟨fun classified => ?_, Describes.classify⟩
  rcases record.describes_or_lacks with ⟨other, described⟩ | ⟨fault, lacks⟩
  · cases described.classify.symm.trans classified
    exact described
  · cases lacks.classify.symm.trans classified

theorem classify_eq_error_iff : record.classify = .error fault ↔ record.Lacks fault := by
  refine ⟨fun classified => ?_, Lacks.classify⟩
  rcases record.describes_or_lacks with ⟨node, described⟩ | ⟨other, lacks⟩
  · cases described.classify.symm.trans classified
  · cases lacks.classify.symm.trans classified
    exact lacks

structure Declares (record : Record) (item : Variable) : Prop where
  id : item.id = record.id
  node : record.Describes item.node
  origin : item.origin = none

theorem Declares.unique {item other : Variable} (declares : record.Declares item)
    (again : record.Declares other) : item = other := by
  obtain ⟨id, node, origin⟩ := item
  obtain ⟨otherId, otherNode, otherOrigin⟩ := other
  obtain ⟨rfl, described, rfl⟩ := declares
  obtain ⟨rfl, too, rfl⟩ := again
  cases described.classify.symm.trans too.classify
  rfl

end Record

namespace Graph

/-- The graph holds the variables that the records declare, in their order and nothing else. Its next
id is the least above all of theirs. -/
structure Enrolls (graph : Graph) (records : List Record) : Prop where
  vars : List.Forall₂ Record.Declares records graph.vars.toList
  distinct : graph.ids.Nodup
  derived : graph.derived = ∅
  below : ∀ id ∈ graph.ids, id.number.toNat < graph.nextId
  next : graph.nextId = 0 ∨ ∃ id ∈ graph.ids, graph.nextId = id.number.toNat + 1

variable {graph other : Graph} {record : Record} {records front : List Record} {node : Node}

theorem Enrolls.ids (enrolls : graph.Enrolls records) : graph.ids = records.map Record.id := by
  have each : List.Forall₂ (fun record item => Record.id record = Variable.id item) records
      graph.vars.toList := enrolls.vars.imp fun _ _ declares => declares.id.symm
  rw [Graph.ids, eq_comm]
  exact List.forall₂_eq_eq_eq ▸ List.forall₂_map_left_iff.mpr (List.forall₂_map_right_iff.mpr each)

theorem Enrolls.described (enrolls : graph.Enrolls records) :
    ∀ record ∈ records, ∃ node, record.Describes node := by
  have each : List.Forall₂ (fun record item =>
      (∃ node, Record.Describes record node) ∧ Record.Declares record item) records
        graph.vars.toList :=
    enrolls.vars.imp fun _ item declares => ⟨⟨item.node, declares.node⟩, declares⟩
  exact ((List.forall₂_and_left records _).mp each).1

theorem Enrolls.nextId_le (enrolls : graph.Enrolls records) (others : other.Enrolls records) :
    graph.nextId ≤ other.nextId := by
  rcases enrolls.next with none | ⟨id, member, next⟩
  · omega
  · rw [enrolls.ids, ← others.ids] at member
    have below := others.below id member
    omega

theorem Enrolls.unique (enrolls : graph.Enrolls records) (others : other.Enrolls records)
    (types : graph.types = other.types) : graph = other := by
  have next : graph.nextId = other.nextId :=
    Nat.le_antisymm (enrolls.nextId_le others) (others.nextId_le enrolls)
  have vars : graph.vars = other.vars := by
    apply Array.toList_inj.mp
    exact List.right_unique_forall₂' (fun _ _ _ one two => one.unique two) enrolls.vars others.vars
  have derived : graph.derived = other.derived := enrolls.derived.trans others.derived.symm
  obtain ⟨_, _, _, _⟩ := graph
  obtain ⟨_, _, _, _⟩ := other
  simp_all

theorem enrolls_new (types : Layout.Table) : (Graph.new types).Enrolls [] where
  vars := .nil
  distinct := List.nodup_nil
  derived := rfl
  below := by simp [Graph.ids, Graph.new]
  next := .inl rfl

theorem ids_withVariable (graph : Graph) (id : VarId) (node : Node) :
    (graph.withVariable id node).ids = graph.ids ++ [id] := by
  simp [Graph.ids, withVariable]

theorem Enrolls.withVariable (enrolls : graph.Enrolls front) (described : record.Describes node)
    (fresh : record.id ∉ graph.ids) :
    (graph.withVariable record.id node).Enrolls (front ++ [record]) := by
  have ids := graph.ids_withVariable record.id node
  refine ⟨?_, ?_, enrolls.derived, ?_, ?_⟩
  · rw [Graph.withVariable, Array.toList_push]
    exact List.rel_append enrolls.vars (.cons ⟨rfl, described, rfl⟩ .nil)
  · exact distinct_of_push rfl (find?_eq_none.mpr fresh) enrolls.distinct
  · rw [ids, List.forall_mem_append, List.forall_mem_singleton]
    refine ⟨?_, Nat.lt_of_lt_of_le (Nat.lt_succ_self _) (Nat.le_max_right _ _)⟩
    exact fun id member => Nat.lt_of_lt_of_le (enrolls.below id member) (Nat.le_max_left _ _)
  · right
    rw [ids]
    change ∃ id ∈ _, max graph.nextId (record.id.number.toNat + 1) = _
    rcases Nat.le_total graph.nextId (record.id.number.toNat + 1) with larger | smaller
    · exact ⟨record.id, by simp, Nat.max_eq_right larger⟩
    · rw [Nat.max_eq_left smaller]
      rcases enrolls.next with none | ⟨id, member, next⟩
      · omega
      · exact ⟨id, List.mem_append_left _ member, next⟩

structure Enterable (records : List Record) : Prop where
  described : ∀ record ∈ records, ∃ node, record.Describes node
  distinct : (records.map Record.id).Nodup

theorem Enrolls.enterable (enrolls : graph.Enrolls records) : Enterable records :=
  ⟨enrolls.described, enrolls.ids ▸ enrolls.distinct⟩

def withRecord (graph : Graph) (record : Record) : Except Fault Graph :=
  match graph.enter record with
  | (.error fault, _) => .error fault
  | (.ok _, graph) => .ok graph

theorem enterAll_eq_foldlM (graph : Graph) (records : List Record) :
    graph.enterAll records = records.foldlM withRecord graph := by
  induction records generalizing graph with
  | nil => rfl
  | cons record records ih =>
    rw [enterAll, List.foldlM_cons, withRecord]
    rcases graph.enter record with ⟨answer, later⟩
    cases answer with
    | error fault => rfl
    | ok done => exact ih later

theorem withRecord_eq_ok_iff {later : Graph} :
    graph.withRecord record = .ok later ↔
      ∃ node, record.Describes node ∧ record.id ∉ graph.ids ∧
        later = graph.withVariable record.id node := by
  rw [withRecord, enter]
  constructor
  · intro taken
    cases classified : record.classify with
    | error fault => simp [classified] at taken
    | ok node =>
      simp only [classified] at taken
      cases known : graph.find? record.id with
      | some item => simp [declare_of_some known] at taken
      | none =>
        rw [declare_of_none known] at taken
        cases taken
        exact ⟨node, Record.classify_eq_ok_iff.mp classified, find?_eq_none.mp known, rfl⟩
  · rintro ⟨node, described, fresh, rfl⟩
    simp only [described.classify, declare_of_none (find?_eq_none.mpr fresh)]

theorem withRecord_eq_error_iff {fault : Fault} :
    graph.withRecord record = .error fault ↔
      record.Lacks fault ∨ (∃ node, record.Describes node) ∧ record.id ∈ graph.ids ∧
        fault = .duplicateVariable record.id := by
  rw [withRecord, enter, ← Record.classify_eq_error_iff]
  cases classified : record.classify with
  | error other =>
    have undescribed : ¬∃ node, record.Describes node := by
      rintro ⟨node, described⟩
      cases classified.symm.trans described.classify
    simp [undescribed]
  | ok node =>
    have described := Record.classify_eq_ok_iff.mp classified
    simp only [reduceCtorEq, false_or]
    cases known : graph.find? record.id with
    | some item =>
      have member : record.id ∈ graph.ids := by
        by_contra absent
        cases (find?_eq_none.mpr absent).symm.trans known
      rw [declare_of_some known]
      constructor
      · rintro ⟨⟩
        exact ⟨⟨node, described⟩, member, rfl⟩
      · rintro ⟨_, _, rfl⟩
        rfl
    | none =>
      rw [declare_of_none known]
      constructor
      · rintro ⟨⟩
      · rintro ⟨_, member, _⟩
        exact absurd member (find?_eq_none.mp known)

theorem enrolls_of_enterAll {types : Layout.Table}
    (entered : (Graph.new types).enterAll records = .ok graph) :
    graph.types = types ∧ graph.Enrolls records := by
  rw [enterAll_eq_foldlM] at entered
  induction records using List.reverseRecOn generalizing graph with
  | nil =>
    cases entered
    exact ⟨rfl, enrolls_new types⟩
  | append_singleton front record ih =>
    obtain ⟨middle, led, taken⟩ := foldlM_concat_eq_ok_iff.mp entered
    obtain ⟨node, described, fresh, rfl⟩ := withRecord_eq_ok_iff.mp taken
    obtain ⟨same, enrolls⟩ := ih led
    exact ⟨same, enrolls.withVariable described fresh⟩

theorem exists_enterAll_iff (types : Layout.Table) (records : List Record) :
    (∃ graph, (Graph.new types).enterAll records = .ok graph) ↔ Enterable records := by
  constructor
  · intro ⟨graph, entered⟩
    exact (enrolls_of_enterAll entered).2.enterable
  · intro ⟨described, distinct⟩
    -- a record is checked against those before it, so the induction takes the last one off
    induction records using List.reverseRecOn with
    | nil => exact ⟨_, rfl⟩
    | append_singleton front record ih =>
      rw [List.map_append, List.nodup_append] at distinct
      rw [List.forall_mem_append, List.forall_mem_singleton] at described
      obtain ⟨middle, led⟩ := ih described.1 distinct.1
      obtain ⟨node, last⟩ := described.2
      obtain ⟨_, enrolls⟩ := enrolls_of_enterAll led
      have fresh : record.id ∉ middle.ids := by
        rw [enrolls.ids]
        exact fun member => distinct.2.2 record.id member record.id (by simp) rfl
      rw [enterAll_eq_foldlM] at led
      refine ⟨middle.withVariable record.id node, ?_⟩
      rw [enterAll_eq_foldlM, foldlM_concat_eq_ok_iff]
      exact ⟨middle, led, withRecord_eq_ok_iff.mpr ⟨node, last, fresh, rfl⟩⟩

theorem enterAll_eq_ok_iff {types : Layout.Table} :
    (Graph.new types).enterAll records = .ok graph ↔
      graph.types = types ∧ graph.Enrolls records := by
  constructor
  · exact enrolls_of_enterAll
  · intro ⟨same, enrolls⟩
    obtain ⟨other, entered⟩ := (exists_enterAll_iff types records).mpr enrolls.enterable
    obtain ⟨also, others⟩ := enrolls_of_enterAll entered
    rw [entered, enrolls.unique others (same.trans also.symm)]

theorem enterAll_eq_error_iff {types : Layout.Table} {fault : Fault} :
    (Graph.new types).enterAll records = .error fault ↔
      ∃ (front : List Record) (record : Record) (back : List Record),
        records = front ++ record :: back ∧ Enterable front ∧
        (record.Lacks fault ∨ (∃ node, record.Describes node) ∧ record.id ∈ front.map Record.id ∧
          fault = .duplicateVariable record.id) := by
  rw [enterAll_eq_foldlM, foldlM_eq_error_iff]
  simp only [← enterAll_eq_foldlM, withRecord_eq_error_iff]
  refine exists_congr fun front => exists_congr fun record => exists_congr fun back => ?_
  constructor
  · rintro ⟨middle, split, led, refused⟩
    rw [(enrolls_of_enterAll led).2.ids] at refused
    exact ⟨split, (exists_enterAll_iff types front).mp ⟨middle, led⟩, refused⟩
  · rintro ⟨split, enterable, refused⟩
    obtain ⟨middle, led⟩ := (exists_enterAll_iff types front).mpr enterable
    rw [← (enrolls_of_enterAll led).2.ids] at refused
    exact ⟨middle, split, led, refused⟩

variable {source : Source}

theorem load_eq_ok_iff {queries : List Gep.Query} :
    source.load = .ok (graph, queries) ↔
      graph.types.Tabulates source.types ∧ graph.Enrolls source.records ∧
        queries = source.queries := by
  rw [← Layout.Table.addAll_eq_ok_iff, Source.load]
  cases listed : Layout.Table.empty.addAll source.types with
  | error fault => simp
  | ok table =>
    simp only [Except.ok.injEq, @eq_comm _ table, ← and_assoc, ← enterAll_eq_ok_iff]
    cases (Graph.new table).enterAll source.records <;> simp [eq_comm]

theorem load_eq_error_iff {fault : Fault} :
    source.load = .error fault ↔
      Layout.Table.empty.addAll source.types = .error fault ∨
        ∃ table, Layout.Table.empty.addAll source.types = .ok table ∧
          (Graph.new table).enterAll source.records = .error fault := by
  rw [Source.load]
  cases Layout.Table.empty.addAll source.types with
  | error other => simp
  | ok table => cases entered : (Graph.new table).enterAll source.records <;> simp [entered]

/-- A source loads if its types can be listed in order, each of its records describes a node and no
id is given twice. Otherwise the error is that of the first type that is refused by those before it,
or else of the first record that lacks something or, where it lacks nothing, has an id given before.
What it loads as is the graph of these types and records, with the queries as they are. -/
theorem load_exact (source : Source) :
    ((∃ graph queries, source.load = .ok (graph, queries)) ↔
      (∃ table : Layout.Table, table.Tabulates source.types) ∧ Enterable source.records) ∧
    (∀ fault, source.load = .error fault ↔
      (∃ (front : List Ty) (ty : Ty) (back : List Ty) (table : Layout.Table),
        source.types = front ++ ty :: back ∧ table.Tabulates front ∧ table.Refuses ty fault) ∨
      (∃ table : Layout.Table, table.Tabulates source.types) ∧
        ∃ (front : List Record) (record : Record) (back : List Record),
          source.records = front ++ record :: back ∧ Enterable front ∧
          (record.Lacks fault ∨ (∃ node, record.Describes node) ∧ record.id ∈ front.map Record.id ∧
            fault = .duplicateVariable record.id)) ∧
    ∀ graph queries, source.load = .ok (graph, queries) ↔
      graph.types.Tabulates source.types ∧ graph.Enrolls source.records ∧
        queries = source.queries := by
  refine ⟨?_, ?_, fun graph queries => load_eq_ok_iff⟩
  · simp only [load_eq_ok_iff]
    constructor
    · rintro ⟨graph, queries, tabulates, enrolls, _⟩
      exact ⟨⟨graph.types, tabulates⟩, enrolls.enterable⟩
    · rintro ⟨⟨table, tabulates⟩, enterable⟩
      obtain ⟨graph, entered⟩ := (exists_enterAll_iff table source.records).mpr enterable
      obtain ⟨rfl, enrolls⟩ := enrolls_of_enterAll entered
      exact ⟨graph, source.queries, tabulates, enrolls, rfl⟩
  · intro fault
    rw [load_eq_error_iff, Layout.Table.addAll_eq_error_iff]
    simp only [Layout.Table.addAll_eq_ok_iff, enterAll_eq_error_iff, exists_and_right]

/-- What a record lacks comes before its id, though this one is given twice. -/
example :
    Source.load ⟨[.int 32, .struct [⟨0⟩, ⟨0⟩]],
      [⟨⟨1⟩, .value, some ⟨1⟩, false, none⟩, ⟨⟨1⟩, .value, none, false, none⟩], []⟩ =
        .error (.untypedValue ⟨1⟩) := rfl

end Graph

end CellMemory
