import CellMemory.Proofs.Session.Effect

/-! Coherence from the start of a session on. A new session over a built graph is coherent, every effect
keeps it so and only adds to the graph and the addresses; so each state of a run is coherent, and
resolving can fail there in five ways only. -/

namespace CellMemory.Session

open Address (Clear)

structure Grows (first last : Session) : Prop where
  settings : last.settings = first.settings
  graph : first.graph.Extends last.graph
  mask : last.addresses.mask = first.addresses.mask
  owners : ∀ (address : UInt32) (id : VarId),
    first.addresses.owners[address]? = some id → last.addresses.owners[address]? = some id

theorem Grows.refl (session : Session) : session.Grows session :=
  ⟨rfl, .refl session.graph, rfl, fun _ _ taken => taken⟩

theorem Grows.trans {first middle last : Session} (before : first.Grows middle)
    (after : middle.Grows last) : first.Grows last where
  settings := after.settings.trans before.settings
  graph := before.graph.trans after.graph
  mask := after.mask.trans before.mask
  owners := fun address id taken => after.owners address id (before.owners address id taken)

theorem Grows.allocated {first last : Session} (grown : first.Grows last) {id : VarId}
    (allocated : first.Allocated id) : last.Allocated id := by
  rcases allocated with ⟨address, taken⟩
  exact ⟨address, grown.owners address id taken⟩

variable {session : Session}

theorem Coherent.grows_withGraph (coherent : session.Coherent) (base : VarId) (offset : Int64) :
    session.Grows { session with graph := (session.graph.derive base offset).2 } :=
  ⟨rfl, coherent.graph.extends_derive base offset, rfl, fun _ _ taken => taken⟩

theorem Coherent.grows_settle (coherent : session.Coherent) {base derived : VarId} {offset : Int64}
    {graph : Graph} (reached : session.graph.derive base offset = (.ok derived, graph))
    (address : UInt32) : session.Grows (session.settle base offset derived graph address) where
  settings := rfl
  graph := by
    have grown := coherent.graph.extends_derive base offset
    rwa [reached] at grown
  mask := rfl
  owners := fun _ _ taken => AddressSpace.owners_take_of_some taken

theorem Resolution.grows {base : VarId} {offset : Int64} {reply : Reply Session Expr}
    (resolution : session.Resolution base offset reply) (coherent : session.Coherent) :
    session.Grows reply.state := by
  cases resolution with
  | reused | refused | itself => exact .refl session
  | full unknown reached other large =>
    have grown := coherent.grows_withGraph base offset
    rwa [reached] at grown
  | settled unknown reached other placed => exact coherent.grows_settle reached _

theorem Effect.grows {operation : Operation} {reply : Reply Session Answer}
    (effect : session.Effect operation reply) (coherent : session.Coherent) :
    session.Grows reply.state := by
  cases effect with
  | resolved counting asked pointed resolution => exact resolution.grows coherent
  | refused | told | bound | written | loaded | assumed => exact ⟨rfl, .refl _, rfl, fun _ _ taken => taken⟩

theorem Coherent.memo_of_grows (coherent : session.Coherent) {later : Session}
    (grown : session.Grows later) {base derived : VarId} {offset : Int64}
    (known : session.memo[Cell.mk base offset]? = some derived) :
    derived ≠ base ∧ later.Allocated base ∧ later.Allocated derived ∧
      later.graph.derive base offset = (.ok derived, later.graph) := by
  obtain ⟨other, baseTaken, derivedTaken, again⟩ := coherent.memo base offset derived known
  exact ⟨other, grown.allocated baseTaken, grown.allocated derivedTaken,
    coherent.graph.derive_again again grown.graph⟩

theorem Coherent.withGraph (coherent : session.Coherent) (base : VarId) (offset : Int64) :
    Session.Coherent { session with graph := (session.graph.derive base offset).2 } where
  graph := coherent.graph.derive base offset
  memory := coherent.memory.extend (coherent.graph.extends_derive base offset)
  memo := fun _ _ _ known => coherent.memo_of_grows (coherent.grows_withGraph base offset) known

theorem Coherent.settle (coherent : session.Coherent) {base derived : VarId} {offset : Int64}
    {graph : Graph} {address : UInt32} (allocated : session.Allocated base)
    (reached : session.graph.derive base offset = (.ok derived, graph)) (other : derived ≠ base)
    (placed : session.addresses.place derived = .ok address) :
    (session.settle base offset derived graph address).Coherent := by
  have grown := coherent.grows_settle reached address
  obtain ⟨root, distance, item, located, found, node, cell⟩ := coherent.graph.derive_ok reached
  have storage := Node.isStorage_of_isLocation (coherent.graph.derive_location reached other found)
  refine ⟨?_, (coherent.memory.extend grown.graph).settle found storage placed, ?_⟩
  · have kept := coherent.graph.derive base offset
    rwa [reached] at kept
  · intro someBase someOffset object known
    rw [Session.settle, Std.ExtTreeMap.getElem?_insert] at known
    split at known
    · next same =>
      cases Std.LawfulEqOrd.eq_of_compare same
      cases Option.some.inj known
      exact ⟨other, grown.allocated allocated,
        ⟨address, coherent.memory.exact.owners_take_self coherent.memory.clear placed⟩,
        coherent.graph.derive_again reached (.refl graph)⟩
    · exact coherent.memo_of_grows grown known

theorem Coherent.withStore (coherent : session.Coherent) {store : Store}
    (kept : Memory.Coherent session.graph { session.memory with store }) :
    (session.withStore store).Coherent :=
  ⟨coherent.graph, kept, coherent.memo⟩

theorem Resolution.coherent {base : VarId} {offset : Int64} {reply : Reply Session Expr}
    (resolution : session.Resolution base offset reply) (coherent : session.Coherent)
    (allocated : session.Allocated base) : reply.state.Coherent := by
  cases resolution with
  | reused | refused | itself => exact coherent
  | full unknown reached other large =>
    have kept := coherent.withGraph base offset
    rwa [reached] at kept
  | settled unknown reached other placed => exact coherent.settle allocated reached other placed

theorem Effect.coherent {operation : Operation} {reply : Reply Session Answer}
    (effect : session.Effect operation reply) (coherent : session.Coherent) :
    reply.state.Coherent := by
  cases effect with
  | resolved counting asked pointed resolution =>
    exact resolution.coherent coherent ⟨_, (coherent.pointee pointed).1⟩
  | refused | told => exact coherent
  | bound id expr => exact coherent.withStore (coherent.memory.bind id expr)
  | written value pointed =>
    exact coherent.withStore (coherent.memory.write (coherent.pointee pointed).1 value)
  | loaded pointed => exact coherent.withStore (coherent.memory.read _)
  | assumed value unknown => exact coherent.withStore (coherent.memory.assign _ value)

theorem start_eq_ok {graph : Graph} {settings : Settings} {events : List Event}
    (started : Session.start graph settings = .ok (session, events)) :
    Clear settings.addressMask ∧
      ∃ memory told, (Memory.new settings.addressMask).bindAll graph.vars.toList =
          ⟨.ok (), memory, told⟩ ∧
        session = ⟨settings, graph, memory, ∅⟩ := by
  unfold start at started
  cases accepted : settings.check with
  | error fault => simp [accepted] at started
  | ok result =>
    refine ⟨(Settings.check_eq_ok_iff.mp accepted).2, ?_⟩
    simp only [accepted] at started
    generalize (Memory.new settings.addressMask).bindAll graph.vars.toList = reply at started ⊢
    rcases reply with ⟨answer, memory, told⟩
    cases answer with
    | error fault => simp at started
    | ok done =>
      simp only [Except.ok.injEq, Prod.mk.injEq] at started
      exact ⟨memory, told, rfl, started.1.symm⟩

theorem start_ok {graph : Graph} {settings : Settings} {events : List Event}
    (started : Session.start graph settings = .ok (session, events)) :
    Clear settings.addressMask ∧
      session = ⟨settings, graph,
        ((Memory.new settings.addressMask).bindAll graph.vars.toList).state, ∅⟩ := by
  obtain ⟨clear, memory, told, bound, rfl⟩ := start_eq_ok started
  exact ⟨clear, by rw [bound]⟩

theorem coherent_of_start {graph : Graph} {settings : Settings} {events : List Event}
    (built : graph.Built) (started : Session.start graph settings = .ok (session, events)) :
    session.Coherent := by
  obtain ⟨clear, rfl⟩ := start_ok started
  refine ⟨built.coherent, (Memory.coherent_new graph clear).bindAll built.coherent, ?_⟩
  intro base offset derived known
  simp at known

theorem Reaches.coherent {first last : Session} (reached : first.Reaches last)
    (coherent : first.Coherent) : last.Coherent := by
  induction reached with
  | refl => exact coherent
  | step operation reached ih => exact (ih.effect operation).coherent ih

theorem Reaches.grows {first last : Session} (reached : first.Reaches last)
    (coherent : first.Coherent) : first.Grows last := by
  induction reached with
  | refl => exact .refl _
  | step operation reached ih =>
    have middle := reached.coherent coherent
    exact ih.trans ((middle.effect operation).grows middle)

def CanRefuse (fault : Fault) : Prop :=
  (∃ text, fault = .invalidPointer text) ∨ (∃ value, fault = .unmappedAddress value) ∨
    (∃ ty, fault = .unknownType ty) ∨ (∃ quantity, fault = .overflow quantity) ∨
      ∃ id, fault = .addressSpaceExhausted id

theorem Coherent.resolve_error (coherent : session.Coherent) {pointer : Expr} {offset : Int64}
    {fault : Fault} (failed : (session.resolve pointer offset).answer = .error fault) :
    CanRefuse fault := by
  cases pointed : session.pointee pointer with
  | error cause =>
    rw [resolve_of_pointee_error pointed] at failed
    cases failed
    rcases pointee_eq_error pointed with invalid | unmapped
    · exact .inl invalid
    · exact .inr (.inl unmapped)
  | ok place =>
    rcases place with ⟨base, address⟩
    obtain ⟨taken, ⟨item, found, storage⟩, bound⟩ := coherent.pointee pointed
    have resolution := coherent.resolution pointed offset
    generalize session.resolve pointer offset = reply at resolution failed
    cases resolution with
    | reused | itself | settled => cases failed
    | refused unknown derived =>
      cases failed
      rcases coherent.graph.derive_error found (Node.kind_of_isStorage storage) derived with
        overflow | type
      · exact .inr (.inr (.inr (.inl overflow)))
      · exact .inr (.inr (.inl type))
    | full =>
      cases failed
      exact .inr (.inr (.inr (.inr ⟨_, rfl⟩)))

/-- Every state of a run is coherent: addresses, bindings, contents, graph and memo agree. So
resolving never meets an unbound or unknown variable, or one that is no object. -/
theorem coherence_of_reaches {graph : Graph} {settings : Settings} {events : List Event}
    {later : Session} (built : graph.Built)
    (started : Session.start graph settings = .ok (session, events))
    (reached : session.Reaches later) :
    (∀ (address : UInt32) (id : VarId), later.addresses.owners[address]? = some id →
      id.number.toNat < 0x1000000 ∧ address = settings.addressMask ||| id.number ∧
        (∃ item, later.graph.find? id = some item ∧ item.node.isStorage = true) ∧
          ∃ expr, later.lookup id = .ok expr) ∧
    (∀ (address : UInt32) (expr : Expr), later.store.written address = some expr →
      ∃ id, later.addresses.owners[address]? = some id) ∧
    (∀ (base : VarId) (offset : Int64) (derived : VarId),
      later.memo[Cell.mk base offset]? = some derived →
        derived ≠ base ∧ later.Allocated base ∧ later.Allocated derived ∧
          later.graph.derive base offset = (.ok derived, later.graph)) ∧
    ∀ (pointer : Expr) (offset : Int64) (fault : Fault),
      (later.resolve pointer offset).answer = .error fault → CanRefuse fault := by
  have initial := coherent_of_start built started
  have coherent := reached.coherent initial
  have mask : later.addresses.mask = settings.addressMask := by
    rw [(reached.grows initial).mask]
    obtain ⟨clear, rfl⟩ := start_ok started
    exact Memory.mask_bindAll _ _
  refine ⟨?_, coherent.memory.contents, coherent.memo, fun _ _ _ failed => coherent.resolve_error failed⟩
  intro address id taken
  obtain ⟨fits, place⟩ := AddressSpace.place_eq_ok_iff.mp (coherent.memory.exact address id taken)
  rw [← mask]
  exact ⟨fits, place, coherent.memory.storage address id taken,
    coherent.memory.bound address id taken⟩

def opening (graph : Graph) : Session :=
  { settings := .standard
    graph
    memory := ((Memory.new Settings.standard.addressMask).bindAll graph.vars.toList).state
    memo := ∅ }

def single (id : VarId) : Session := opening (.single id)

theorem coherence_of_reaches_single :
    ∃ events, Session.start (.single ⟨1⟩) .standard = .ok (single ⟨1⟩, events) ∧
      ((single ⟨1⟩).perform (.resolve (.num 0x7f000001) 3)).state.graph.derive ⟨1⟩ 3 =
        (.ok ⟨2⟩, ((single ⟨1⟩).perform (.resolve (.num 0x7f000001) 3)).state.graph) := by
  have started : Session.start (.single ⟨1⟩) .standard = .ok (single ⟨1⟩, _) := rfl
  have agreed := coherence_of_reaches (Graph.built_single ⟨1⟩) started
    (.step (.resolve (.num 0x7f000001) 3) (.refl _))
  exact ⟨_, started, (agreed.2.2.1 ⟨1⟩ 3 ⟨2⟩ (by decide)).2.2.2⟩

end CellMemory.Session
