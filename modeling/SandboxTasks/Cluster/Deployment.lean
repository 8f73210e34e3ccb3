import SandboxTasks.Cluster.Claims
import SandboxTasks.Cluster.TaskStore

namespace SandboxTasks.Cluster

structure Deployment where
  space : String
  settings : Sandbox.Settings

namespace Deployment

def serve (d : Deployment) : (op : SandboxTasks.Operation) → Routine op.Answer
  | .find id => TaskStore.find d.space id
  | .list => TaskStore.list d.space
  | .create id spec => TaskStore.create d.space id spec
  | .swap id version status => TaskStore.swap d.space id version status
  | .erase id => TaskStore.erase d.space id
  | .provision record => Claims.provision d.space d.settings record
  | .poll sandbox => Claims.poll d.space sandbox
  | .deleteClaim sandbox => Claims.delete d.space sandbox
  | .claims => Claims.list d.space
  | op => ask op

/-- Carries a routine out in the cluster. -/
def carryOut {α : Type} (d : Deployment) (p : SandboxTasks.Routine α) : Routine α := p.interpret d.serve

end Deployment

end SandboxTasks.Cluster
