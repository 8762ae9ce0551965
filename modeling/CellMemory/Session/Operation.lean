import CellMemory.Session.Start

/-! The operations of a session as data, so that a run is a list of them. -/

namespace CellMemory

inductive Operation where
  | lookup (id : VarId)
  | addressOf (id : VarId)
  | offset (gep : Gep)
  | resolve (pointer : Expr) (offset : Int64)
  | select (pointer : VarId) (gep : Gep)
  | write (location value : Expr)
  | load (location : Expr)
  | assume (expr : Expr) (value : Int64)
  | bind (id : VarId) (expr : Expr)
  deriving DecidableEq

inductive Answer where
  | done
  | expr (expr : Expr)
  | offset (slots : Int64)
  deriving DecidableEq

namespace Reply

def answering {α : Type} (reply : Reply Session α) (wrap : α → Answer) :
    Reply Session Answer :=
  ⟨reply.answer.map wrap, reply.state, reply.events⟩

end Reply

namespace Session

def perform (session : Session) : Operation → Reply Session Answer
  | .lookup id => ⟨(session.lookup id).map .expr, session, []⟩
  | .addressOf id => ⟨(session.addressOf id).map .expr, session, []⟩
  | .offset gep =>
    match session.offset gep with
    | (answer, events) => ⟨answer.map .offset, session, events⟩
  | .resolve pointer offset => (session.resolve pointer offset).answering .expr
  | .select pointer gep => (session.select pointer gep).answering .expr
  | .write location value => (session.write location value).answering fun _ => .done
  | .load location => (session.load location).answering .expr
  | .assume expr value => (session.assume expr value).answering fun _ => .done
  | .bind id expr => ⟨.ok .done, session.bind id expr, []⟩

def run (session : Session) : List Operation → List (Reply Session Answer)
  | [] => []
  | operation :: operations =>
    let reply := session.perform operation
    reply :: run reply.state operations

inductive Reaches : Session → Session → Prop
  | refl (session : Session) : Reaches session session
  | step {first last : Session} (operation : Operation) (reached : Reaches first last) :
      Reaches first (last.perform operation).state

end Session

end CellMemory
