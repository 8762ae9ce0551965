import CellMemory.CommandLine
import CellMemory.Proofs.Graph.Loading
import CellMemory.Proofs.Session.Aliasing
import CellMemory.Proofs.Session.Housing

/-! Queries answered in different orders. Where a query leads depends on the loaded graph and its
first bindings alone, so an order decides only which ids, and with them which addresses, the
cells get that are reached. -/

namespace CellMemory

namespace Gep

section Locality

variable {store later : Store} (types : Layout.Table)

theorem Operand.value_eq {operand : Operand} (model : later.model = store.model)
    (bindings : ∀ id, operand = .var id → later.lookup id = store.lookup id) :
    operand.value later = operand.value store := by
  cases operand with
  | constant value => rfl
  | var id => simp only [Operand.value, bindings id rfl, Store.evaluate, model]

theorem walk_eq (pointee : Option TypeId) {indices : List Index} (model : later.model = store.model)
    (bindings : ∀ index ∈ indices, ∀ id, index.operand = .var id →
      later.lookup id = store.lookup id) (counted : Int64) :
    walk types later pointee counted indices = walk types store pointee counted indices := by
  induction indices generalizing counted with
  | nil => rfl
  | cons index indices ih =>
    have value := Operand.value_eq model (bindings index List.mem_cons_self)
    have rest := ih fun other member => bindings other (List.mem_cons_of_mem index member)
    simp only [walk, Index.step, value, rest]

theorem offset_eq {gep : Gep} (model : later.model = store.model)
    (bindings : ∀ index ∈ gep.indices, ∀ id, index.operand = .var id →
      later.lookup id = store.lookup id) :
    gep.offset types later = gep.offset types store := by
  have reversed : ∀ index ∈ gep.indices.reverse, ∀ id, index.operand = .var id →
      later.lookup id = store.lookup id :=
    fun index member => bindings index (List.mem_reverse.mp member)
  simp only [Gep.offset, walk_eq types gep.pointee model reversed]

end Locality

end Gep

/-- The pointer of a query is a location, a placeholder or a global of the graph, and its operands
are variables of the graph. -/
structure Graph.Declares (graph : Graph) (query : Gep.Query) : Prop where
  pointer : ∃ item, graph.find? query.pointer = some item ∧ item.node.isStorage = true
  operands : ∀ index ∈ query.gep.indices, ∀ id, index.operand = .var id →
    ∃ item, graph.find? id = some item

namespace Session

open Address (numeral)

structure Hit where
  query : Gep.Query
  offset : Int64
  expr : Expr

/-- The answers to queries, each asked of the session that the one before it left. -/
def resolveAll (session : Session) : List Gep.Query → Except Fault (List Hit × Session)
  | [] => .ok ([], session)
  | query :: queries =>
    match (session.offset query.gep).1 with
    | .error fault => .error fault
    | .ok offset =>
      match session.select query.pointer query.gep with
      | ⟨.error fault, _, _⟩ => .error fault
      | ⟨.ok expr, later, _⟩ =>
        match resolveAll later queries with
        | .error fault => .error fault
        | .ok (hits, last) => .ok (⟨query, offset, expr⟩ :: hits, last)

def Hit.place (hit : Hit) (graph : Graph) : Place := graph.target hit.query.pointer hit.offset

/-- A query that was answered as the first session counts, and as the last one stands. -/
structure Landed (first last : Session) (hit : Hit) : Prop where
  offset : (first.offset hit.query.gep).1 = .ok hit.offset
  settled : last.Settled ⟨hit.place first.graph, hit.expr⟩

structure Resolved (first session last : Session) (hits : List Hit) : Prop where
  onward : first.Onward last
  grown : session.Grows last
  landed : ∀ hit ∈ hits, first.Landed last hit
  occupied : ∀ cell, last.graph.Occupied cell ↔ session.graph.Occupied cell ∨
    ∃ hit ∈ hits, cell.offset ≠ 0 ∧ cell.place = hit.place first.graph

variable {first session last : Session}

theorem resolveAll_cons_ok {query : Gep.Query} {queries : List Gep.Query} {hits : List Hit}
    (resolved : session.resolveAll (query :: queries) = .ok (hits, last)) :
    ∃ offset expr rest, (session.offset query.gep).1 = .ok offset ∧
      (session.select query.pointer query.gep).answer = .ok expr ∧
        (session.select query.pointer query.gep).state.resolveAll queries = .ok (rest, last) ∧
          hits = ⟨query, offset, expr⟩ :: rest := by
  rw [resolveAll] at resolved
  cases counted : (session.offset query.gep).1 with
  | error fault => simp [counted] at resolved
  | ok offset =>
    simp only [counted] at resolved
    generalize session.select query.pointer query.gep = reply at resolved ⊢
    rcases reply with ⟨answer, later, events⟩
    cases answer with
    | error fault => simp at resolved
    | ok expr =>
      simp only at resolved
      cases remaining : later.resolveAll queries with
      | error fault => simp [remaining] at resolved
      | ok result =>
        simp only [remaining, Except.ok.injEq, Prod.mk.injEq] at resolved
        rcases resolved with ⟨rfl, rfl⟩
        exact ⟨offset, expr, result.1, rfl, rfl, rfl, rfl⟩

theorem queries_of_resolveAll {queries : List Gep.Query} {hits : List Hit}
    (resolved : session.resolveAll queries = .ok (hits, last)) :
    hits.map Hit.query = queries := by
  induction queries generalizing session hits with
  | nil =>
    cases resolved
    rfl
  | cons query queries ih =>
    obtain ⟨offset, expr, rest, counted, answered, remaining, rfl⟩ := resolveAll_cons_ok resolved
    rw [List.map_cons, ih remaining]

theorem Onward.offset_eq (onward : first.Onward last) {query : Gep.Query}
    (declared : first.graph.Declares query) :
    last.offset query.gep = first.offset query.gep := by
  have same : query.gep.offset last.graph.types last.store =
      query.gep.offset first.graph.types first.store := by
    rw [onward.grown.graph.types]
    apply Gep.offset_eq first.graph.types onward.model
    intro index member id operand
    obtain ⟨item, found⟩ := declared.operands index member id operand
    exact onward.bindings id item found
  simp only [Session.offset, same]

theorem Housed.pointee (housed : session.Housed) {id : VarId} {item : Variable}
    (found : session.graph.find? id = some item) (storage : item.node.isStorage = true) :
    ∃ pointer address, session.lookup id = .ok pointer ∧
      session.pointee pointer = .ok (id, address) := by
  rcases housed.allocated id item found storage with ⟨address, taken⟩
  have bound : session.lookup id = .ok (.num (numeral address)) := housed.faithful address id taken
  exact ⟨_, address, bound, housed.coherent.pointee_of_taken rfl taken⟩

theorem Housed.resolution (housed : session.Housed) {query : Gep.Query} {item : Variable}
    {offset : Int64} {expr : Expr} (found : session.graph.find? query.pointer = some item)
    (storage : item.node.isStorage = true) (counted : (session.offset query.gep).1 = .ok offset)
    (answered : (session.select query.pointer query.gep).answer = .ok expr) :
    ∃ reply : Reply Session Expr, session.Resolution query.pointer offset reply ∧
      reply.answer = .ok expr ∧
        reply.state = (session.select query.pointer query.gep).state := by
  obtain ⟨pointer, address, bound, pointed⟩ := housed.pointee found storage
  have resolution := housed.coherent.resolution pointed offset
  have selected : (session.select query.pointer query.gep).answer =
      (session.resolve pointer offset).answer ∧
        (session.select query.pointer query.gep).state =
          (session.resolve pointer offset).state := by
    rw [Session.select]
    rcases counting : session.offset query.gep with ⟨answer, events⟩
    rw [counting] at counted
    cases counted
    simp only [bound, and_self]
  exact ⟨_, resolution, selected.1.symm.trans answered, selected.2.symm⟩

theorem Onward.select (onward : first.Onward session) (coherent : first.graph.Coherent)
    {query : Gep.Query} (declared : first.graph.Declares query) {offset : Int64} {expr : Expr}
    (counted : (session.offset query.gep).1 = .ok offset)
    (answered : (session.select query.pointer query.gep).answer = .ok expr) :
    first.Resolved session (session.select query.pointer query.gep).state
      [⟨query, offset, expr⟩] := by
  obtain ⟨item, declaredItem, storage⟩ := declared.pointer
  have grown := onward.grown.graph
  have found := grown.vars query.pointer item declaredItem
  have housed := onward.housed
  have allocated := housed.allocated query.pointer item found storage
  obtain ⟨reply, resolution, answer, state⟩ := housed.resolution found storage counted answered
  obtain ⟨derived, reached, _⟩ := resolution.answered housed.coherent allocated answer
  have still := resolution.onward housed allocated answer
  have place := coherent.target_of_extends grown declaredItem offset
  rw [← state]
  refine ⟨onward.trans still, still.grown, ?_, ?_⟩
  · intro hit member
    cases List.mem_singleton.mp member
    have settled := resolution.settled_answer housed.coherent housed.faithful allocated answer
    rw [place] at settled
    rw [onward.offset_eq declared] at counted
    exact ⟨counted, settled⟩
  · intro cell
    rw [housed.coherent.graph.occupied_derive reached cell, place]
    simp only [List.mem_singleton, exists_eq_left, Hit.place]

theorem Resolved.nil (onward : first.Onward session) : first.Resolved session session [] := by
  refine ⟨onward, .refl session, (fun _ member => nomatch member), ?_⟩
  simp

theorem Resolved.append {middle : Session} {hits more : List Hit}
    (before : first.Resolved session middle hits) (after : first.Resolved middle last more) :
    first.Resolved session last (hits ++ more) := by
  refine ⟨after.onward, before.grown.trans after.grown, ?_, ?_⟩
  · intro hit member
    rcases List.mem_append.mp member with earlier | further
    · have landed := before.landed hit earlier
      exact ⟨landed.offset, landed.settled.grow after.grown⟩
    · exact after.landed hit further
  · intro cell
    rw [after.occupied, before.occupied, or_assoc]
    simp only [List.mem_append, or_and_right, exists_or]

theorem Onward.resolveAll (onward : first.Onward session) (coherent : first.graph.Coherent)
    {queries : List Gep.Query} (declared : ∀ query ∈ queries, first.graph.Declares query)
    {hits : List Hit} (resolved : session.resolveAll queries = .ok (hits, last)) :
    first.Resolved session last hits := by
  induction queries generalizing session hits with
  | nil =>
    cases resolved
    exact .nil onward
  | cons query queries ih =>
    obtain ⟨offset, expr, rest, counted, answered, remaining, rfl⟩ := resolveAll_cons_ok resolved
    have now := onward.select coherent (declared query List.mem_cons_self) counted answered
    have further := fun other member => declared other (List.mem_cons_of_mem query member)
    exact now.append (ih now.onward further remaining)

/-- The command line gets through the queries of a file exactly if `resolveAll` answers them, and it
ends in the same session: what is shown of `resolveAll` holds of the queries of a file. -/
theorem resolveQueries_ok_iff {queries : List Gep.Query} :
    (CommandLine.resolveQueries session queries).2 = .ok last ↔
      ∃ hits, session.resolveAll queries = .ok (hits, last) := by
  induction queries generalizing session with
  | nil => simp [CommandLine.resolveQueries, resolveAll]
  | cons query queries ih =>
    rw [CommandLine.resolveQueries, CommandLine.resolveQuery, resolveAll]
    rcases session.offset query.gep with ⟨counted, events⟩
    cases counted with
    | error fault => simp
    | ok offset =>
      rcases session.select query.pointer query.gep with ⟨answer, later, told⟩
      cases answer with
      | error fault => simp
      | ok expr =>
        simp only [ih]
        cases later.resolveAll queries with
        | error fault => simp
        | ok result => simp [Prod.ext_iff]

def PointsTo (session : Session) (expr : Expr) (object : VarId) : Prop :=
  ∃ value, expr = .num value ∧ session.addresses.owner value = .ok object

variable {other : Session}

theorem Landed.offset_eq {hit otherHit : Hit} (landed : first.Landed last hit)
    (otherLanded : first.Landed other otherHit) (same : hit.query = otherHit.query) :
    hit.offset = otherHit.offset := by
  have offset := landed.offset
  rw [same, otherLanded.offset] at offset
  exact (Except.ok.inj offset).symm

theorem Landed.place_eq {hit otherHit : Hit} (landed : first.Landed last hit)
    (otherLanded : first.Landed other otherHit) (same : hit.query = otherHit.query) :
    hit.place first.graph = otherHit.place first.graph := by
  rw [Hit.place, Hit.place, same, landed.offset_eq otherLanded same]

theorem Resolved.occupied_of_subset {hits otherHits : List Hit}
    (resolved : first.Resolved first last hits) (otherResolved : first.Resolved first other otherHits)
    (among : hits.map Hit.query ⊆ otherHits.map Hit.query) {cell : Cell}
    (occupied : last.graph.Occupied cell) : other.graph.Occupied cell := by
  rw [otherResolved.occupied]
  rcases (resolved.occupied cell).mp occupied with before | ⟨hit, member, apart, place⟩
  · exact .inl before
  · obtain ⟨otherHit, otherMember, same⟩ :=
      List.mem_map.mp (among (List.mem_map_of_mem member))
    have landed := resolved.landed hit member
    have otherLanded := otherResolved.landed otherHit otherMember
    exact .inr ⟨otherHit, otherMember, apart, place.trans (landed.place_eq otherLanded same.symm)⟩

theorem Settled.pointsTo {declared : Graph} {rename : VarId → VarId}
    (renamed : Graph.Renaming declared last.graph other.graph rename)
    (derives : declared.DerivesTo last.graph) (coherent : last.Coherent)
    (otherCoherent : other.Coherent) {landing otherLanding : Landing}
    (settled : last.Settled landing) (otherSettled : other.Settled otherLanding)
    (same : landing.place = otherLanding.place) :
    ∃ object, last.PointsTo landing.expr object ∧
      other.PointsTo otherLanding.expr (rename object) := by
  rcases settled with ⟨address, object, item, taken, found, place, answer⟩
  rcases otherSettled with
    ⟨otherAddress, otherObject, otherItem, otherTaken, otherFound, otherPlace, otherAnswer⟩
  have places : item.cell.place = otherItem.cell.place :=
    place.trans (same.trans otherPlace.symm)
  have image := renamed.eq_of_place derives otherCoherent.graph found otherFound places
  have owned := coherent.memory.exact.owner_numeral coherent.memory.clear taken
  have otherOwned := otherCoherent.memory.exact.owner_numeral otherCoherent.memory.clear otherTaken
  rw [← image] at otherOwned
  exact ⟨object, ⟨_, answer, owned⟩, ⟨_, otherAnswer, otherOwned⟩⟩

/-- The order of queries only decides how derived objects are called. Each query selects the same offset
in both orders, and up to a renaming of the derived objects, which keeps nodes and origins, both
orders leave the same variables and answer with the addresses of the same objects. -/
theorem resolveAll_of_perm {source : Graph.Source} {graph : Graph} {listed : List Gep.Query}
    {settings : Settings} {events : List Event} (loaded : source.load = .ok (graph, listed))
    (started : Session.start graph settings = .ok (session, events))
    {queries reordered : List Gep.Query} (declared : ∀ query ∈ queries, graph.Declares query)
    (permuted : queries.Perm reordered) {hits otherHits : List Hit}
    (resolved : session.resolveAll queries = .ok (hits, last))
    (otherResolved : session.resolveAll reordered = .ok (otherHits, other)) :
    hits.map Hit.query = queries ∧ otherHits.map Hit.query = reordered ∧
      ∃ rename, Graph.Renaming graph last.graph other.graph rename ∧
        (∀ hit ∈ hits, ∀ otherHit ∈ otherHits, hit.query = otherHit.query →
          hit.offset = otherHit.offset ∧
            ∃ object, last.PointsTo hit.expr object ∧
              other.PointsTo otherHit.expr (rename object)) ∧
        last.graph.size = other.graph.size ∧ last.store.size = other.store.size ∧
          last.addresses.allocated = other.addresses.allocated := by
  obtain ⟨built, plain⟩ := Graph.load_ok loaded
  have housed := housed_of_start built started
  have same : session.graph = graph := by
    obtain ⟨-, rfl⟩ := start_ok started
    rfl
  subst same
  have coherent := housed.coherent.graph
  have otherDeclared : ∀ query ∈ reordered, session.graph.Declares query :=
    fun query member => declared query (permuted.mem_iff.mpr member)
  have run := (Onward.refl housed).resolveAll coherent declared resolved
  have otherRun := (Onward.refl housed).resolveAll coherent otherDeclared otherResolved
  have asked := queries_of_resolveAll resolved
  have otherAsked := queries_of_resolveAll otherResolved
  -- a cell is reached because some query leads there, whenever it is asked
  have cells : ∀ cell, last.graph.Occupied cell ↔ other.graph.Occupied cell := by
    intro cell
    constructor
    · apply run.occupied_of_subset otherRun
      rw [asked, otherAsked]
      exact permuted.subset
    · apply otherRun.occupied_of_subset run
      rw [asked, otherAsked]
      exact permuted.symm.subset
  have onward := run.onward
  have otherOnward := otherRun.onward
  have renamed := onward.graph.renaming otherOnward.graph cells plain
  have size := renamed.size_eq onward.graph.coherent.distinct otherOnward.graph.coherent.distinct
  refine ⟨asked, otherAsked, _, renamed, ?_, size.symm, ?_, ?_⟩
  · intro hit member otherHit otherMember same
    have landed := run.landed hit member
    have otherLanded := otherRun.landed otherHit otherMember
    exact ⟨landed.offset_eq otherLanded same,
      landed.settled.pointsTo renamed onward.graph onward.housed.coherent
        otherOnward.housed.coherent otherLanded.settled (landed.place_eq otherLanded same)⟩
  · have bound := onward.bound
    have otherBound := otherOnward.bound
    omega
  · have taken := onward.taken
    have otherTaken := otherOnward.taken
    omega

def fourSlots : Graph.Source where
  types := [.int 32, .struct [⟨0⟩, ⟨0⟩, ⟨0⟩, ⟨0⟩]]
  records := [⟨⟨1⟩, .object, some ⟨1⟩, false, some (.location .heap)⟩,
    ⟨⟨5⟩, .object, none, false, some (.constant (.int 2))⟩]
  queries := [⟨⟨1⟩, ⟨[], 1, none⟩⟩, ⟨⟨1⟩, ⟨[⟨.constant 6, none⟩], 0, none⟩⟩,
    ⟨⟨1⟩, ⟨[⟨.var ⟨5⟩, none⟩], 0, none⟩⟩]

theorem fourSlots_answered : ∃ graph session events hits last otherHits other,
    fourSlots.load = .ok (graph, fourSlots.queries) ∧
    Session.start graph .standard = .ok (session, events) ∧
    (∀ query ∈ fourSlots.queries, graph.Declares query) ∧
    session.resolveAll fourSlots.queries = .ok (hits, last) ∧
    session.resolveAll fourSlots.queries.reverse = .ok (otherHits, other) ∧
    last.graph.derived.toList = [(⟨⟨1⟩, 1⟩, ⟨6⟩), (⟨⟨1⟩, 2⟩, ⟨7⟩)] ∧
    other.graph.derived.toList = [(⟨⟨1⟩, 1⟩, ⟨7⟩), (⟨⟨1⟩, 2⟩, ⟨6⟩)] := by
  refine ⟨_, _, _, _, _, _, _, rfl, rfl, ?_, rfl, rfl, rfl, rfl⟩
  intro query member
  simp only [fourSlots, List.mem_cons, List.not_mem_nil, or_false] at member
  rcases member with rfl | rfl | rfl
  · exact ⟨⟨_, rfl, rfl⟩, by simp⟩
  · exact ⟨⟨_, rfl, rfl⟩, by simp⟩
  · refine ⟨⟨_, rfl, rfl⟩, ?_⟩
    intro index member id operand
    cases List.mem_singleton.mp member
    cases operand
    exact ⟨_, rfl⟩

theorem resolveAll_of_perm_fourSlots : ∃ graph session events hits last otherHits other,
    fourSlots.load = .ok (graph, fourSlots.queries) ∧
    Session.start graph .standard = .ok (session, events) ∧
    session.resolveAll fourSlots.queries = .ok (hits, last) ∧
    session.resolveAll fourSlots.queries.reverse = .ok (otherHits, other) ∧
    ∃ rename, Graph.Renaming graph last.graph other.graph rename ∧
      last.graph.size = other.graph.size := by
  obtain ⟨graph, session, events, hits, last, otherHits, other, loaded, started, declared,
    resolved, otherResolved, -, -⟩ := fourSlots_answered
  have permuted := fourSlots.queries.reverse_perm.symm
  obtain ⟨-, -, rename, renamed, -, size, -⟩ :=
    resolveAll_of_perm loaded started declared permuted resolved otherResolved
  exact ⟨graph, session, events, hits, last, otherHits, other, loaded, started, resolved,
    otherResolved, rename, renamed, size⟩

end Session

end CellMemory
