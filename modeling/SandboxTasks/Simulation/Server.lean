import SandboxTasks.Http.Client

namespace SandboxTasks.Simulation

inductive ServerReply where
  | respond (response : Http.Response)
  | close
deriving DecidableEq, Repr

structure Server where
  authority : Http.Authority
  listens : Bool
  replies : List ServerReply
  received : List Http.Request
  clock : Instant

namespace Server

def new (authority : Http.Authority) (listens : Bool) (replies : List ServerReply) (clock : Instant) : Server :=
  ⟨authority, listens, replies, [], clock⟩

def deliver (r : Http.Response) : Http.Response :=
  if r.status = 204 ∨ r.status = 304 then { r with body := "" } else r

def reply (s : Server) : Except Http.Silence Http.Response :=
  match s.replies with
  | [] => .ok ⟨200, none, ""⟩
  | .respond r :: _ => .ok (deliver r)
  | .close :: _ => .error .closed

/-- Answers a client; time stands still while it waits. -/
def answer (op : Http.Operation) (s : Server) : op.Answer × Server :=
  match op with
  | .now => (s.clock, s)
  | .sleep _ => ((), s)
  | .send request =>
    if s.listens ∧ request.url.authority = some s.authority then
      (s.reply, { s with received := s.received ++ [request], replies := s.replies.tail })
    else (.error .refused, s)

end Server

end SandboxTasks.Simulation
