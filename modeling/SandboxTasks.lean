import SandboxTasks.Api.Handler
import SandboxTasks.Assignment.Worker
import SandboxTasks.Callback.Channel
import SandboxTasks.Cluster.Controller
import SandboxTasks.Config.File
import SandboxTasks.Credential.Installation
import SandboxTasks.Proofs.Callback.Once
import SandboxTasks.Proofs.Cluster.Swap
import SandboxTasks.Proofs.Credential.Release
import SandboxTasks.Proofs.Reconcile.Verdict
import SandboxTasks.Proofs.Reconcile.Window
import SandboxTasks.Proofs.Sandbox.Leak
import SandboxTasks.Proofs.Store.Atomicity
import SandboxTasks.Proofs.Store.Versions
import SandboxTasks.Proofs.Sweep.System
import SandboxTasks.Proofs.Task.Race
import SandboxTasks.Simulation.Cluster
import SandboxTasks.Simulation.Server
import SandboxTasks.Proofs.Reconcile.Settled
import SandboxTasks.Proofs.Task.WellFormed
import SandboxTasks.Proofs.Task.Times
import SandboxTasks.Proofs.Task.Cause
import SandboxTasks.Proofs.Sandbox.Address
import SandboxTasks.Proofs.Sandbox.Provision
import SandboxTasks.Proofs.Sandbox.Isolation
import SandboxTasks.Proofs.Reconcile.Deadline
import SandboxTasks.Proofs.Callback.Delivered
import SandboxTasks.Proofs.Reconcile.Budget
import SandboxTasks.Proofs.Callback.Channels
import SandboxTasks.Proofs.Callback.PullRequest
import SandboxTasks.Proofs.Credential.Traceless
import SandboxTasks.Proofs.Sweep.Exact
import SandboxTasks.Proofs.Callback.Signature
import SandboxTasks.Proofs.Credential.Attempts
import SandboxTasks.Proofs.Callback.Body
import SandboxTasks.Proofs.Task.Repository
import SandboxTasks.Proofs.Time.Backoff
import SandboxTasks.Proofs.Task.Edits
import SandboxTasks.Proofs.Api.Service
