import CellMemory.Gep.Offset
import CellMemory.Graph.Basic
import CellMemory.Memory
import CellMemory.Settings

/-! A session is one analysis run: a graph that grows as pointer arithmetic reaches new cells, what
is known of memory, and a memo of the cells already resolved. -/

namespace CellMemory

structure Session where
  settings : Settings
  graph : Graph
  memory : Memory
  /-- The object resolved for each base and offset asked for. -/
  memo : Std.ExtTreeMap Cell VarId

namespace Session

def store (session : Session) : Store := session.memory.store

def addresses (session : Session) : AddressSpace := session.memory.addresses

def withStore (session : Session) (store : Store) : Session :=
  { session with memory := { session.memory with store } }

def evaluate (session : Session) (expr : Expr) : Option Int64 := session.store.evaluate expr

def display (session : Session) (expr : Expr) : String := session.store.display expr

def lookup (session : Session) (id : VarId) : Except Fault Expr := session.store.lookup id

def bind (session : Session) (id : VarId) (expr : Expr) : Session :=
  session.withStore (session.store.bind id expr)

def addressOf (session : Session) (id : VarId) : Except Fault Expr :=
  match session.graph.kind id with
  | .error fault => .error fault
  | .ok .object => session.lookup id
  | .ok .value => .error (.notAnObject id)

def pointee (session : Session) (pointer : Expr) : Except Fault (VarId × UInt32) :=
  match session.evaluate pointer with
  | none => .error (.invalidPointer (session.display pointer))
  | some value =>
    if session.addresses.isAddress value then
      match session.addresses.owner value with
      | .error fault => .error fault
      | .ok id => .ok (id, Numeral.lowWord value)
    else .error (.invalidPointer (session.display pointer))

def offset (session : Session) (gep : Gep) : Except Fault Int64 × List Event :=
  match gep.offset session.graph.types session.store with
  | (answer, steps) => (answer, steps.map .gepStep)

def bindDerived (session : Session) (base : VarId) (offset : Int64) (derived : Variable) :
    Reply Session Expr :=
  match session.memory.bindObject derived with
  | ⟨.error fault, memory, events⟩ => ⟨.error fault, { session with memory }, events⟩
  | ⟨.ok expr, memory, events⟩ =>
    ⟨.ok expr,
      { session with memory, memo := session.memo.insert ⟨base, offset⟩ derived.id },
      events ++ [.derivedBound base offset derived.id]⟩

/-- The object `offset` slots past an object. At no distance it is the object itself, whose binding
stays as it is. -/
def reach (session : Session) (base : VarId) (offset : Int64) : Reply Session Expr :=
  match session.graph.derive base offset with
  | (.error fault, graph) => ⟨.error fault, { session with graph }, []⟩
  | (.ok derived, graph) =>
    let session := { session with graph }
    if derived = base then ⟨session.lookup base, session, []⟩
    else
      match graph.find? derived with
      | none => ⟨.error (.unknownVariable derived), session, []⟩
      | some object => session.bindDerived base offset object

def resolve (session : Session) (pointer : Expr) (offset : Int64) : Reply Session Expr :=
  match session.pointee pointer with
  | .error fault => ⟨.error fault, session, []⟩
  | .ok (base, _) =>
    match session.memo[Cell.mk base offset]? with
    | some derived => ⟨session.lookup derived, session, [.derivedReused base offset derived]⟩
    | none => session.reach base offset

def select (session : Session) (pointer : VarId) (gep : Gep) : Reply Session Expr :=
  match session.offset gep with
  | (.error fault, events) => ⟨.error fault, session, events⟩
  | (.ok offset, events) =>
    match session.lookup pointer with
    | .error fault => ⟨.error fault, session, events⟩
    | .ok base =>
      match session.resolve base offset with
      | ⟨answer, session, more⟩ => ⟨answer, session, events ++ more⟩

def write (session : Session) (location value : Expr) : Reply Session Unit :=
  match session.pointee location with
  | .error fault => ⟨.error fault, session, []⟩
  | .ok (_, address) => ⟨.ok (), session.withStore (session.store.write address value), []⟩

def load (session : Session) (location : Expr) : Reply Session Expr :=
  match session.pointee location with
  | .error fault => ⟨.error fault, session, []⟩
  | .ok (_, address) =>
    match session.store.read address with
    | (expr, store) => ⟨.ok expr, session.withStore store, []⟩

/-- Takes a constant without a value to have this one. What has a value already must agree. -/
def assume (session : Session) (expr : Expr) (value : Int64) : Reply Session Unit :=
  match session.evaluate expr, expr with
  | some known, _ =>
    if known = value then ⟨.ok (), session, []⟩
    else ⟨.error (.inconsistent (session.display expr) value), session, []⟩
  | none, .const symbol =>
    ⟨.ok (), session.withStore (session.store.assign symbol value), []⟩
  | none, _ => ⟨.error (.inconsistent (session.display expr) value), session, []⟩

end Session

end CellMemory
