import CellMemory.Proofs.Graph.Growth
import CellMemory.Proofs.Graph.Target
import CellMemory.Proofs.Layout.Measure

/-! Requests answered by the list of variables alone. The slots of a request are counted from the root
of its object, held within those of the root, and answered by the variable of this origin. What a
graph makes of its map of cells and of machine words comes to the same answer, for every request. -/

namespace CellMemory

def Variable.total (item : Variable) (offset : Int64) : Int :=
  item.cell.offset.toInt + offset.toInt

def Variable.StandsAt (item : Variable) (place : Place) : Prop :=
  ∃ cell, item.origin = some cell ∧ cell.place = place

theorem Variable.rebase_of_fits {object : Variable} {offset : Int64}
    (fits : Numeral.Fits (object.total offset)) :
    object.rebase offset = .ok ⟨object.cell.base, Int64.ofInt (object.total offset)⟩ := by
  unfold rebase
  cases origin : object.origin with
  | none => simp [total, Variable.cell, origin]
  | some cell =>
    rw [total, Variable.cell, origin, Option.getD_some] at fits ⊢
    simp only [Numeral.exact_of_fits .derivedOffset fits]

/-- A declared object is at no distance from its root, so only a derived one can be too far off. -/
theorem Variable.rebase_of_not_fits {object : Variable} {offset : Int64}
    (beyond : ¬Numeral.Fits (object.total offset)) :
    object.origin ≠ none ∧ object.rebase offset = .error (.overflow .derivedOffset) := by
  unfold rebase
  cases origin : object.origin with
  | none =>
    rw [total, Variable.cell, origin, Option.getD_none, Int64.toInt_zero, Int.zero_add] at beyond
    exact absurd (Numeral.fits_toInt offset) beyond
  | some cell =>
    rw [total, Variable.cell, origin, Option.getD_some] at beyond
    simp [Numeral.exact_of_not_fits .derivedOffset beyond]

theorem Variable.fits_of_declared {object : Variable} (declared : object.origin = none)
    (offset : Int64) : Numeral.Fits (object.total offset) := by
  by_contra beyond
  exact (Variable.rebase_of_not_fits beyond).1 declared

namespace Graph

variable {graph : Graph} {base : VarId} {offset : Int64} {root item : Variable} {slots : Int}

structure Aims (graph : Graph) (base : VarId) (offset : Int64) (root : Variable) (slots : Int) :
    Prop where
  object : ∃ item, graph.find? base = some item ∧ item.node.kind = .object ∧
    item.cell.base = root.id ∧ slots = item.total offset
  rooted : graph.find? root.id = some root
  fits : Numeral.Fits slots

/-- The slots of the root can be told apart: it is a location, of a listed type if it has a type. -/
structure Sized (graph : Graph) (root : Variable) : Prop where
  location : root.node.IsLocation
  listed : ∀ region ty, root.node = .location region (some ty) → graph.types.Lists ty

/-- The answers to a request and the graphs they leave. -/
inductive Response (graph : Graph) (base : VarId) (offset : Int64) :
    Except Fault VarId → Graph → Prop
  | unknown (absent : graph.find? base = none) :
      Response graph base offset (.error (.unknownVariable base)) graph
  | value {item : Variable} (found : graph.find? base = some item)
      (kind : item.node.kind = .value) : Response graph base offset (.error (.notAnObject base)) graph
  | beyond {item : Variable} (found : graph.find? base = some item)
      (kind : item.node.kind = .object) (derived : item.origin ≠ none)
      (beyond : ¬Numeral.Fits (item.total offset)) :
      Response graph base offset (.error (.overflow .derivedOffset)) graph
  | whole {root : Variable} {slots : Int} (aims : graph.Aims base offset root slots)
      (whole : ¬root.node.IsLocation) : Response graph base offset (.ok root.id) graph
  | unlisted {root : Variable} {slots : Int} {region : Region} {ty : TypeId}
      (aims : graph.Aims base offset root slots) (node : root.node = .location region (some ty))
      (unlisted : ¬graph.types.Lists ty) :
      Response graph base offset (.error (.unknownType ty)) graph
  | root {root : Variable} {slots : Int} (aims : graph.Aims base offset root slots)
      (sized : graph.Sized root) (atRoot : graph.reduce root.id slots = 0) :
      Response graph base offset (.ok root.id) graph
  | existing {root item : Variable} {slots : Int} (aims : graph.Aims base offset root slots)
      (sized : graph.Sized root) (apart : graph.reduce root.id slots ≠ 0)
      (listed : item ∈ graph.vars) (stands : item.StandsAt ⟨root.id, graph.reduce root.id slots⟩) :
      Response graph base offset (.ok item.id) graph
  | added {root : Variable} {slots : Int} {distance : Int64}
      (aims : graph.Aims base offset root slots) (sized : graph.Sized root)
      (apart : graph.reduce root.id slots ≠ 0)
      (missing : ∀ item ∈ graph.vars, ¬item.StandsAt ⟨root.id, graph.reduce root.id slots⟩)
      (reduced : distance.toInt = graph.reduce root.id slots)
      (room : graph.nextId < 0x100000000) :
      Response graph base offset (.ok graph.freshId) (graph.withCell root distance)
  | full {root : Variable} {slots : Int} (aims : graph.Aims base offset root slots)
      (sized : graph.Sized root) (apart : graph.reduce root.id slots ≠ 0)
      (missing : ∀ item ∈ graph.vars, ¬item.StandsAt ⟨root.id, graph.reduce root.id slots⟩)
      (full : ¬graph.nextId < 0x100000000) :
      Response graph base offset (.error (.overflow .variableId)) graph

theorem distance_of_whole (whole : ¬root.node.IsLocation) (offset : Int64) :
    graph.distance root offset = .ok 0 := by
  unfold Graph.distance
  split
  · next region ty shape => exact absurd ⟨region, some ty, shape⟩ whole
  · next region shape => exact absurd ⟨region, none, shape⟩ whole
  · rfl

theorem distance_of_unlisted {region : Region} {ty : TypeId}
    (node : root.node = .location region (some ty)) (unlisted : ¬graph.types.Lists ty)
    (offset : Int64) : graph.distance root offset = .error (.unknownType ty) := by
  simp only [Graph.distance, node, Layout.Table.slots, Layout.Table.entry_of_unlisted unlisted]

theorem distance_of_listed
    (listed : ∀ region ty, root.node = .location region (some ty) → graph.types.Lists ty)
    (offset : Int64) : ∃ distance, graph.distance root offset = .ok distance := by
  unfold Graph.distance
  split
  · next region ty node =>
    obtain ⟨slots, counted⟩ := listed region ty node
    exact ⟨slots.wrap offset, by rw [counted]⟩
  · exact ⟨offset, rfl⟩
  · exact ⟨0, rfl⟩

theorem listed_of_distance {distance : Int64} (reached : graph.distance root offset = .ok distance)
    (region : Region) (ty : TypeId) (node : root.node = .location region (some ty)) :
    graph.types.Lists ty := by
  simp only [Graph.distance, node] at reached
  cases counted : graph.types.slots ty with
  | error fault => simp [counted] at reached
  | ok slots => exact ⟨slots, counted⟩

theorem Sized.distance (sized : graph.Sized root) (rooted : graph.find? root.id = some root)
    (fits : Numeral.Fits slots) : ∃ distance, graph.distance root (Int64.ofInt slots) = .ok distance ∧
      distance.toInt = graph.reduce root.id slots := by
  obtain ⟨distance, reached⟩ := distance_of_listed sized.listed (Int64.ofInt slots)
  have exact := toInt_distance rooted reached
  rw [Numeral.toInt_ofInt_of_fits fits] at exact
  exact ⟨distance, reached, exact⟩

theorem Aims.locate_eq (aims : graph.Aims base offset root slots) :
    graph.locate base offset =
      (graph.distance root (Int64.ofInt slots)).map fun distance => (root, distance) := by
  obtain ⟨item, found, kind, sameRoot, rfl⟩ := aims.object
  have noValue : ¬item.node.kind = .value := by rw [kind]; exact nofun
  have rooted := aims.rooted
  rw [← sameRoot] at rooted
  simp only [Graph.locate, found, if_neg noValue, Variable.rebase_of_fits aims.fits, rooted]
  cases graph.distance root (Int64.ofInt (item.total offset)) with
  | error fault => rfl
  | ok distance => rfl

theorem Aims.locate_sized (aims : graph.Aims base offset root slots) (sized : graph.Sized root) :
    ∃ distance, graph.locate base offset = .ok (root, distance) ∧
      distance.toInt = graph.reduce root.id slots := by
  obtain ⟨distance, reached, exact⟩ := sized.distance aims.rooted aims.fits
  refine ⟨distance, ?_, exact⟩
  rw [aims.locate_eq, reached]
  rfl

theorem locate_of_absent (absent : graph.find? base = none) (offset : Int64) :
    graph.locate base offset = .error (.unknownVariable base) := by
  simp only [Graph.locate, absent]

theorem locate_of_value (found : graph.find? base = some item) (kind : item.node.kind = .value)
    (offset : Int64) : graph.locate base offset = .error (.notAnObject base) := by
  simp only [Graph.locate, found, if_pos kind]

theorem locate_of_not_fits (found : graph.find? base = some item)
    (kind : item.node.kind = .object) (beyond : ¬Numeral.Fits (item.total offset)) :
    graph.locate base offset = .error (.overflow .derivedOffset) := by
  have noValue : ¬item.node.kind = .value := by rw [kind]; exact nofun
  simp only [Graph.locate, found, if_neg noValue, (Variable.rebase_of_not_fits beyond).2]

theorem Coherent.aims (coherent : graph.Coherent) (found : graph.find? base = some item)
    (kind : item.node.kind = .object)
    (fits : Numeral.Fits (item.total offset)) :
    ∃ root, graph.Aims base offset root (item.total offset) ∧
      graph.find? item.cell.base = some root ∧ item.node = root.node := by
  obtain ⟨root, rooted, _, node⟩ := coherent.root_of_cell found
  have id := id_of_find? rooted
  refine ⟨root, ⟨⟨item, found, kind, id.symm, rfl⟩, ?_, fits⟩, rooted, node⟩
  rw [id, rooted]

theorem derive_of_locate_error {fault : Fault} (refused : graph.locate base offset = .error fault) :
    graph.derive base offset = (.error fault, graph) := by
  simp only [Graph.derive, refused]

theorem Coherent.derived_eq_some_iff (coherent : graph.Coherent) {cell : Cell} {id : VarId} :
    graph.derived[cell]? = some id ↔
      ∃ item ∈ graph.vars, item.id = id ∧ item.StandsAt cell.place := by
  rw [coherent.derived_iff]
  constructor
  · rintro ⟨item, found, origin⟩
    exact ⟨item, Array.mem_of_find?_eq_some found, id_of_find? found, cell, origin, rfl⟩
  · rintro ⟨item, listed, rfl, other, origin, same⟩
    rw [Cell.place_injective same] at origin
    exact ⟨item, coherent.find?_of_mem listed, origin⟩

theorem Coherent.derived_eq_none (coherent : graph.Coherent) {cell : Cell}
    (missing : ∀ item ∈ graph.vars, ¬item.StandsAt cell.place) : graph.derived[cell]? = none := by
  rw [Option.eq_none_iff_forall_ne_some]
  intro id known
  obtain ⟨item, listed, _, stands⟩ := coherent.derived_eq_some_iff.mp known
  exact missing item listed stands

theorem place_mk {id : VarId} {distance : Int64} (reduced : distance.toInt = slots) :
    (Cell.mk id distance).place = ⟨id, slots⟩ := by
  rw [Cell.place, reduced]

theorem ne_zero_of_toInt {distance : Int64} (reduced : distance.toInt = slots) (apart : slots ≠ 0) :
    distance ≠ 0 := by
  rintro rfl
  exact apart reduced.symm

theorem Response.derive (coherent : graph.Coherent) {answer : Except Fault VarId} {later : Graph}
    (response : graph.Response base offset answer later) :
    graph.derive base offset = (answer, later) := by
  cases response with
  | unknown absent => exact derive_of_locate_error (locate_of_absent absent offset)
  | value found kind => exact derive_of_locate_error (locate_of_value found kind offset)
  | beyond found kind _ beyond =>
    exact derive_of_locate_error (locate_of_not_fits found kind beyond)
  | unlisted aims node unlisted =>
    apply derive_of_locate_error
    rw [aims.locate_eq, distance_of_unlisted node unlisted]
    rfl
  | whole aims whole =>
    rw [Graph.derive, aims.locate_eq, distance_of_whole whole]
    rfl
  | root aims sized atRoot =>
    obtain ⟨distance, located, reduced⟩ := aims.locate_sized sized
    rw [atRoot] at reduced
    have atStart : distance = 0 := Int64.toInt_inj.mp reduced
    simp only [Graph.derive, located, if_pos atStart]
  | @existing root item slots aims sized apart listed stands =>
    obtain ⟨distance, located, reduced⟩ := aims.locate_sized sized
    have known : graph.derived[Cell.mk root.id distance]? = some item.id := by
      rw [coherent.derived_eq_some_iff, place_mk reduced]
      exact ⟨item, listed, rfl, stands⟩
    simp only [Graph.derive, located, if_neg (ne_zero_of_toInt reduced apart), known]
  | @added root slots distance aims sized apart missing reduced room =>
    obtain ⟨same, located, exact⟩ := aims.locate_sized sized
    cases Int64.toInt_inj.mp (exact.trans reduced.symm)
    rw [← place_mk reduced] at missing
    exact derive_of_unknown located (ne_zero_of_toInt reduced apart)
      (coherent.derived_eq_none missing) room
  | full aims sized apart missing full =>
    obtain ⟨distance, located, reduced⟩ := aims.locate_sized sized
    rw [← place_mk reduced] at missing
    simp only [Graph.derive, located, if_neg (ne_zero_of_toInt reduced apart),
      coherent.derived_eq_none missing, if_neg full]

theorem Coherent.response_of_sized (coherent : graph.Coherent)
    (aims : graph.Aims base offset root slots) (sized : graph.Sized root) :
    ∃ answer later, graph.Response base offset answer later := by
  obtain ⟨distance, _, reduced⟩ := aims.locate_sized sized
  by_cases atRoot : graph.reduce root.id slots = 0
  · exact ⟨_, _, .root aims sized atRoot⟩
  · cases known : graph.derived[Cell.mk root.id distance]? with
    | some id =>
      obtain ⟨item, listed, _, stands⟩ := coherent.derived_eq_some_iff.mp known
      rw [place_mk reduced] at stands
      exact ⟨_, _, .existing aims sized atRoot listed stands⟩
    | none =>
      have missing : ∀ item ∈ graph.vars,
          ¬item.StandsAt ⟨root.id, graph.reduce root.id slots⟩ := by
        intro item listed stands
        rw [← place_mk reduced] at stands
        have held := coherent.derived_eq_some_iff.mpr ⟨item, listed, rfl, stands⟩
        rw [known] at held
        cases held
      by_cases room : graph.nextId < 0x100000000
      · exact ⟨_, _, .added aims sized atRoot missing reduced room⟩
      · exact ⟨_, _, .full aims sized atRoot missing room⟩

theorem Coherent.response_of_aims (coherent : graph.Coherent)
    (aims : graph.Aims base offset root slots) :
    ∃ answer later, graph.Response base offset answer later := by
  by_cases location : root.node.IsLocation
  · by_cases listed : ∀ region ty, root.node = .location region (some ty) → graph.types.Lists ty
    · exact coherent.response_of_sized aims ⟨location, listed⟩
    · push Not at listed
      obtain ⟨region, ty, node, unlisted⟩ := listed
      exact ⟨_, _, .unlisted aims node unlisted⟩
  · exact ⟨_, _, .whole aims location⟩

theorem Coherent.exists_response (coherent : graph.Coherent) (base : VarId) (offset : Int64) :
    ∃ answer later, graph.Response base offset answer later := by
  cases found : graph.find? base with
  | none => exact ⟨_, _, .unknown found⟩
  | some item =>
    cases kind : item.node.kind with
    | value => exact ⟨_, _, .value found kind⟩
    | object =>
      by_cases fits : Numeral.Fits (item.total offset)
      · obtain ⟨root, aims, _⟩ := coherent.aims found kind fits
        exact coherent.response_of_aims aims
      · have derived := (Variable.rebase_of_not_fits fits).1
        exact ⟨_, _, .beyond found kind derived fits⟩

theorem Coherent.derive_iff (coherent : graph.Coherent) {answer : Except Fault VarId}
    {later : Graph} :
    graph.derive base offset = (answer, later) ↔ graph.Response base offset answer later := by
  constructor
  · intro derived
    obtain ⟨other, last, response⟩ := coherent.exists_response base offset
    cases derived.symm.trans (response.derive coherent)
    exact response
  · intro response
    exact response.derive coherent

theorem Coherent.target_zero (coherent : graph.Coherent) (found : graph.find? base = some item) :
    graph.target base 0 = item.cell.place := by
  rw [target, cellOf_of_find? found, Int64.toInt_zero, Int.add_zero, coherent.reduce_cell found]
  rfl

theorem Coherent.locate_zero (coherent : graph.Coherent) (found : graph.find? base = some item)
    (kind : item.node.kind = .object) :
    ∃ root, item.node = root.node ∧ graph.locate base 0 =
      (graph.distance root item.cell.offset).map fun distance => (root, distance) := by
  have slots : item.total 0 = item.cell.offset.toInt := Int.add_zero _
  have fits : Numeral.Fits (item.total 0) := by
    rw [slots]
    exact Numeral.fits_toInt item.cell.offset
  obtain ⟨root, aims, _, node⟩ := coherent.aims found kind fits
  have located := aims.locate_eq
  rw [slots, Int64.ofInt_toInt] at located
  exact ⟨root, node, located⟩

theorem Coherent.derive_zero (coherent : graph.Coherent) (found : graph.find? base = some item)
    (kind : item.node.kind = .object)
    (listed : ∀ region ty, item.node = .location region (some ty) → graph.types.Lists ty) :
    graph.derive base 0 = (.ok base, graph) := by
  obtain ⟨root, node, located⟩ := coherent.locate_zero found kind
  rw [node] at listed
  obtain ⟨distance, reached⟩ := distance_of_listed listed item.cell.offset
  rw [reached] at located
  exact coherent.derive_of_place located found (coherent.target_zero found).symm

/-- The slots of a location have to be known even where none of them are stepped over. -/
theorem Coherent.derive_zero_of_unlisted (coherent : graph.Coherent)
    (found : graph.find? base = some item) {region : Region} {ty : TypeId}
    (node : item.node = .location region (some ty)) (unlisted : ¬graph.types.Lists ty) :
    graph.derive base 0 = (.error (.unknownType ty), graph) := by
  have kind : item.node.kind = .object := by rw [node]; rfl
  obtain ⟨root, same, located⟩ := coherent.locate_zero found kind
  rw [same] at node
  rw [distance_of_unlisted node unlisted] at located
  exact derive_of_locate_error located

/-- What was derived from a location has its type, which was known when it was derived. -/
theorem Coherent.listed_of_derived (coherent : graph.Coherent)
    (found : graph.find? base = some item) (derived : item.origin ≠ none) (region : Region)
    (ty : TypeId) (node : item.node = .location region (some ty)) : graph.types.Lists ty := by
  obtain ⟨cell, origin⟩ := Option.ne_none_iff_exists'.mp derived
  obtain ⟨root, anchored⟩ := coherent.rooted base item cell found origin
  rw [anchored.node] at node
  exact listed_of_distance anchored.reduced region ty node

theorem Coherent.derive_known (coherent : graph.Coherent) {id : VarId} {later : Graph}
    (derived : graph.derive base offset = (.ok id, later)) :
    (graph.find? id ≠ none → later = graph) ∧
      (graph.find? id = none → id.number.toNat = graph.nextId) := by
  have outcome := derivation graph base offset
  rw [derived] at outcome
  cases outcome with
  | root located =>
    obtain ⟨object, total, place⟩ := coherent.located located
    exact ⟨fun _ => rfl, fun absent => by rw [place.rooted] at absent; cases absent⟩
  | known located apart known =>
    obtain ⟨item, found, _⟩ := (coherent.derived_iff _ _).mp known
    exact ⟨fun _ => rfl, fun absent => by rw [found] at absent; cases absent⟩
  | fresh located apart unknown room =>
    exact ⟨fun present => absurd (coherent.find?_freshId room) present,
      fun _ => toNat_freshId room⟩

/-- A graph that was built answers each request as its variables alone say. A request that fails, or
whose object exists, leaves the graph as it is; no two variables were derived for one cell; and
whatever is added later, a request that succeeded is answered the same and adds nothing. -/
theorem derive_iff_response (built : graph.Built) (base : VarId) (offset : Int64) :
    (∀ answer later, graph.derive base offset = (answer, later) ↔
      graph.Response base offset answer later) ∧
    (∀ fault later, graph.derive base offset = (.error fault, later) → later = graph) ∧
    ∀ id later, graph.derive base offset = (.ok id, later) →
      (graph.find? id ≠ none → later = graph) ∧
      (graph.find? id = none → id.number.toNat = graph.nextId) ∧
      (∀ item ∈ later.vars, ∀ other ∈ later.vars, ∀ cell,
        item.origin = some cell → other.origin = some cell → item = other) ∧
      ∀ last, later.Leads last → last.derive base offset = (.ok id, last) := by
  have coherent := built.coherent
  refine ⟨fun answer later => coherent.derive_iff, fun _ _ => derive_error_graph, ?_⟩
  intro id later derived
  have further : later.Built := by
    have next := built.derive base offset
    rwa [derived] at next
  obtain ⟨same, fresh⟩ := coherent.derive_known derived
  refine ⟨same, fresh, ?_, ?_⟩
  · intro item listed other beside cell origin beyond
    exact further.coherent.eq_of_origin listed beside origin beyond
  · intro last led
    exact coherent.derive_again derived (led.extends further)

theorem built_ringDerived : ringDerived.Built :=
  .derive (.derive (.derive (.declare (.new _) _ _) _ _) _ _) _ _

/-- From the third of four slots, five back come round to the second, which has its object; three back
come round to the fourth, which has none. -/
theorem derive_iff_response_ring :
    ringDerived.Response ⟨3⟩ (-5) (.ok ⟨2⟩) ringDerived ∧
      (ringDerived.derive ⟨3⟩ (-3)).2.derive ⟨3⟩ (-3) =
        (.ok ⟨4⟩, (ringDerived.derive ⟨3⟩ (-3)).2) := by
  obtain ⟨back, _, _⟩ := derive_iff_response built_ringDerived ⟨3⟩ (-5)
  obtain ⟨_, _, around⟩ := derive_iff_response built_ringDerived ⟨3⟩ (-3)
  obtain ⟨_, _, _, again⟩ := around ⟨4⟩ _ rfl
  exact ⟨(back _ _).mp rfl, again _ .refl⟩

end Graph

end CellMemory
