import CellMemory.Proofs.Graph.Loading
import CellMemory.Proofs.Graph.Request
import CellMemory.Proofs.Session.Coherence

/-! Requests that stay where the pointer is. What addresses an object and is asked for no offset from
it gives back what the object is bound to, whether that is its address or was bound by hand. Only a
location whose type is not listed has no answer. -/

namespace CellMemory.Session

open Address (numeral)

variable {session : Session} {pointer : Expr} {base : VarId} {address : UInt32}

theorem Coherent.resolve_of_derive_self (coherent : session.Coherent) {offset : Int64} {expr : Expr}
    (pointed : session.pointee pointer = .ok (base, address))
    (derived : session.graph.derive base offset = (.ok base, session.graph))
    (bound : session.lookup base = .ok expr) :
    session.resolve pointer offset = ⟨.ok expr, session, []⟩ := by
  have resolution := coherent.resolution pointed offset
  generalize session.resolve pointer offset = reply at resolution ⊢
  cases resolution with
  | reused known _ =>
    obtain ⟨other, _, _, again⟩ := coherent.memo _ _ _ known
    rw [derived] at again
    cases again
    exact absurd rfl other
  | refused _ failed =>
    rw [derived] at failed
    cases failed
  | itself _ _ found =>
    cases bound.symm.trans found
    rfl
  | full _ reached other _ | settled _ reached other _ =>
    rw [derived] at reached
    cases reached
    exact absurd rfl other

theorem Coherent.resolve_of_derive_error (coherent : session.Coherent) {offset : Int64}
    {fault : Fault} (pointed : session.pointee pointer = .ok (base, address))
    (failed : session.graph.derive base offset = (.error fault, session.graph)) :
    session.resolve pointer offset = ⟨.error fault, session, []⟩ := by
  have resolution := coherent.resolution pointed offset
  generalize session.resolve pointer offset = reply at resolution ⊢
  cases resolution with
  | reused known _ =>
    obtain ⟨_, _, _, again⟩ := coherent.memo _ _ _ known
    rw [failed] at again
    cases again
  | refused _ refused =>
    rw [failed] at refused
    cases refused
    rfl
  | itself _ reached _ | full _ reached _ _ | settled _ reached _ _ =>
    rw [failed] at reached
    cases reached

/-- At no offset a pointer to an object answers what the object is bound to, and nothing changes. A
location whose type is not listed is refused, and then nothing changes either; what was derived
from a location is never such. -/
theorem resolve_zero {source : Graph.Source} {graph : Graph} {queries : List Gep.Query}
    {settings : Settings} {events : List Event} {later : Session}
    (loaded : source.load = .ok (graph, queries))
    (started : Session.start graph settings = .ok (session, events))
    (reached : session.Reaches later) (known : later.evaluate pointer = some (numeral address))
    (taken : later.addresses.owners[address]? = some base) :
    ∃ item expr, later.graph.find? base = some item ∧ later.lookup base = .ok expr ∧
      ((∀ region ty, item.node = .location region (some ty) → graph.types.Lists ty) →
        later.resolve pointer 0 = ⟨.ok expr, later, []⟩) ∧
      (∀ region ty, item.node = .location region (some ty) → ¬graph.types.Lists ty →
        later.resolve pointer 0 = ⟨.error (.unknownType ty), later, []⟩) ∧
      (item.origin ≠ none → later.resolve pointer 0 = ⟨.ok expr, later, []⟩) := by
  have initial := coherent_of_start (Graph.load_ok loaded).1 started
  have coherent := reached.coherent initial
  have types : later.graph.types = graph.types := by
    rw [(reached.grows initial).graph.types]
    obtain ⟨_, rfl⟩ := start_ok started
    rfl
  have pointed := coherent.pointee_of_taken known taken
  obtain ⟨_, ⟨item, found, storage⟩, expr, bound⟩ := coherent.pointee pointed
  have kind := Node.kind_of_isStorage storage
  have identity : (∀ region ty, item.node = .location region (some ty) →
      later.graph.types.Lists ty) → later.resolve pointer 0 = ⟨.ok expr, later, []⟩ := by
    intro listed
    have derived := coherent.graph.derive_zero found kind listed
    exact coherent.resolve_of_derive_self pointed derived bound
  rw [← types]
  refine ⟨item, expr, found, bound, identity, ?_, ?_⟩
  · intro region ty node unlisted
    have failed := coherent.graph.derive_zero_of_unlisted found node unlisted
    exact coherent.resolve_of_derive_error pointed failed
  · intro derived
    exact identity (coherent.graph.listed_of_derived found derived)

def oneLocation (types : List Ty) : Graph.Source where
  types
  records := [⟨⟨1⟩, .object, some ⟨1⟩, false, some (.location .stack)⟩]
  queries := []

def unlistedGraph : Graph := ((Graph.new .empty).declare ⟨1⟩ (.location .stack (some ⟨1⟩))).2

def handBoundCell : Session :=
  (((opening .ring).perform (.resolve (.num 0x7f000001) 1)).state.perform (.bind ⟨2⟩ (.num 5))).state

/-- The cell answers what it was bound to by hand, and the location of no listed type is refused. -/
theorem resolve_zero_oneLocation :
    (handBoundCell.lookup ⟨2⟩ = .ok (.num 5) ∧
      handBoundCell.resolve (.num 0x7f000002) 0 = ⟨.ok (.num 5), handBoundCell, []⟩) ∧
    (opening unlistedGraph).resolve (.num 0x7f000001) 0 =
      ⟨.error (.unknownType ⟨1⟩), opening unlistedGraph, []⟩ := by
  have loaded : (oneLocation [.int 32, .array ⟨0⟩ 4]).load = .ok (.ring, []) := rfl
  have started : Session.start .ring .standard = .ok (opening .ring, _) := rfl
  have reached : (opening .ring).Reaches handBoundCell := .step _ (.step _ (.refl _))
  have taken : handBoundCell.addresses.owners[(0x7f000002 : UInt32)]? = some ⟨2⟩ := by decide
  have known : handBoundCell.evaluate (.num 0x7f000002) = some (numeral 0x7f000002) := rfl
  obtain ⟨item, expr, found, bound, _, _, derived⟩ :=
    resolve_zero loaded started reached known taken
  have byHand : handBoundCell.lookup ⟨2⟩ = .ok (.num 5) := rfl
  cases bound.symm.trans byHand
  have from? : handBoundCell.graph.find? ⟨2⟩ = some ⟨⟨2⟩, .location .stack (some ⟨1⟩), some ⟨⟨1⟩, 1⟩⟩ :=
    rfl
  cases found.symm.trans from?
  have unlistedLoaded : (oneLocation []).load = .ok (unlistedGraph, []) := rfl
  have unlistedStarted : Session.start unlistedGraph .standard = .ok (opening unlistedGraph, _) := rfl
  have unlistedTaken : (opening unlistedGraph).addresses.owners[(0x7f000001 : UInt32)]? = some ⟨1⟩ := by
    decide
  have unlistedKnown : (opening unlistedGraph).evaluate (.num 0x7f000001) = some (numeral 0x7f000001) :=
    rfl
  obtain ⟨other, _, otherFound, _, _, refused, _⟩ :=
    resolve_zero unlistedLoaded unlistedStarted (.refl _) unlistedKnown unlistedTaken
  have declared : (opening unlistedGraph).graph.find? ⟨1⟩ =
      some ⟨⟨1⟩, .location .stack (some ⟨1⟩), none⟩ := rfl
  cases otherFound.symm.trans declared
  have absent : ¬unlistedGraph.types.Lists ⟨1⟩ := by
    rw [Layout.Table.lists_iff]
    decide
  exact ⟨⟨byHand, derived (by decide)⟩, refused .stack ⟨1⟩ rfl absent⟩

/-- The address of a location whose type is not listed. -/
theorem not_resolve_zero :
    ¬∀ (source : Graph.Source) (graph : Graph) (queries : List Gep.Query) (settings : Settings)
      (session later : Session) (events : List Event) (pointer : Expr) (address : UInt32)
      (base : VarId), source.load = .ok (graph, queries) →
      Session.start graph settings = .ok (session, events) → session.Reaches later →
      later.evaluate pointer = some (numeral address) →
      later.addresses.owners[address]? = some base →
        ∃ expr, later.lookup base = .ok expr ∧
          later.resolve pointer 0 = ⟨.ok expr, later, []⟩ := by
  intro identity
  have loaded : (oneLocation []).load = .ok (unlistedGraph, []) := rfl
  have started : Session.start unlistedGraph .standard = .ok (opening unlistedGraph, _) := rfl
  have taken : (opening unlistedGraph).addresses.owners[(0x7f000001 : UInt32)]? = some ⟨1⟩ := by decide
  obtain ⟨expr, _, answered⟩ :=
    identity _ _ _ _ _ _ _ (.num 0x7f000001) _ _ loaded started (.refl _) rfl taken
  cases congrArg Reply.answer answered

end CellMemory.Session
