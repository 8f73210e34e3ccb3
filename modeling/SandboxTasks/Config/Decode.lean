import SandboxTasks.Config.Basic
import SandboxTasks.Field
import SandboxTasks.Json.Decode

namespace SandboxTasks.Config

structure Reader (ν : Type) where
  slots : List (Field.Form ν) → ν → Except Fault (Slots ν)
  string : ν → Except Fault String
  option : ν → Except Fault (Option String)
  natural : Nat → ν → Except Fault Nat

namespace Reader

variable {ν : Type} (r : Reader ν)

def field {α : Type} (name : String) (absent : α) (decode : ν → Except Fault α) : Field ν α :=
  ⟨name, none, decode, some absent⟩

def long (name : String) (absent : Nat) : Field ν Nat := field name absent (r.natural 18446744073709551616)

def word (name : String) (absent : Nat) : Field ν Nat := field name absent (r.natural 4294967296)

def sandbox (v : ν) : Except Fault Sandbox.Settings := do
  let template := field "template" default.sandbox.template r.string
  let image := field "image" default.sandbox.image r.option
  let cpu := field "cpu" default.sandbox.cpu r.option
  let memory := field "memory" default.sandbox.memory r.option
  let s ← r.slots [template.form, image.form, cpu.form, memory.form] v
  return ⟨← template.read s, ← image.read s, ← cpu.read s, ← memory.read s⟩

def provisioning (v : ν) : Except Fault Provisioning := do
  let window := r.long "windowSeconds" default.provisioning.windowSeconds
  let poll := r.long "pollIntervalSeconds" default.provisioning.pollSeconds
  let s ← r.slots [window.form, poll.form] v
  return ⟨← window.read s, ← poll.read s⟩

def running (v : ν) : Except Fault Running := do
  let poll := r.long "pollIntervalSeconds" default.running.pollSeconds
  let timeout := r.long "taskTimeoutSeconds" default.running.timeoutSeconds
  let s ← r.slots [poll.form, timeout.form] v
  return ⟨← poll.read s, ← timeout.read s⟩

def assignment (v : ν) : Except Fault Assignment := do
  let attempts := r.word "maxAttempts" default.assignment.maxAttempts
  let initial := r.long "initialBackoffSeconds" default.assignment.initialBackoffSeconds
  let max := r.long "maxBackoffSeconds" default.assignment.maxBackoffSeconds
  let timeout := r.long "requestTimeoutSeconds" default.assignment.requestTimeoutSeconds
  let port := field "workerPort" default.assignment.workerPort (r.natural 65536)
  let s ← r.slots [attempts.form, initial.form, max.form, timeout.form, port.form] v
  return ⟨← attempts.read s, ← initial.read s, ← max.read s, ← timeout.read s, ← port.read s⟩

def credentials (v : ν) : Except Fault Credentials := do
  let attempts := r.word "maxAttempts" default.credentials.maxAttempts
  let initial := r.long "initialBackoffMillis" default.credentials.initialBackoffMillis
  let base := field "apiBase" default.credentials.apiBase r.string
  let timeout := r.long "requestTimeoutSeconds" default.credentials.requestTimeoutSeconds
  let s ← r.slots [attempts.form, initial.form, base.form, timeout.form] v
  return ⟨← attempts.read s, ← initial.read s, ← base.read s, ← timeout.read s⟩

def notify (v : ν) : Except Fault Notify := do
  let attempts := r.word "maxAttempts" default.notify.maxAttempts
  let initial := r.long "initialBackoffSeconds" default.notify.initialBackoffSeconds
  let timeout := r.long "timeoutSeconds" default.notify.timeoutSeconds
  let s ← r.slots [attempts.form, initial.form, timeout.form] v
  return ⟨← attempts.read s, ← initial.read s, ← timeout.read s⟩

def sweeping (v : ν) : Except Fault Sweeping := do
  let interval := r.long "intervalSeconds" default.sweeping.intervalSeconds
  let grace := r.long "orphanGraceSeconds" default.sweeping.orphanGraceSeconds
  let s ← r.slots [interval.form, grace.form] v
  return ⟨← interval.read s, ← grace.read s⟩

def retention (v : ν) : Except Fault Retention := do
  let minutes := r.long "terminalTaskTtlMinutes" default.retention.minutes
  let s ← r.slots [minutes.form] v
  return ⟨← minutes.read s⟩

def config (v : ν) : Except Fault Config := do
  let sandbox := field "sandbox" default.sandbox r.sandbox
  let provisioning := field "provisioning" default.provisioning r.provisioning
  let running := field "running" default.running r.running
  let assignment := field "assignment" default.assignment r.assignment
  let credentials := field "credentials" default.credentials r.credentials
  let notify := field "notify" default.notify r.notify
  let sweeping := field "sweep" default.sweeping r.sweeping
  let retention := field "retention" default.retention r.retention
  let s ← r.slots [sandbox.form, provisioning.form, running.form, assignment.form, credentials.form, notify.form,
    sweeping.form, retention.form] v
  return ⟨← sandbox.read s, ← provisioning.read s, ← running.read s, ← assignment.read s, ← credentials.read s,
    ← notify.read s, ← sweeping.read s, ← retention.read s⟩

end Reader

def jsonReader : Reader Json where
  slots := Json.slots
  string := Json.decodeString
  option := Json.decodeOption Json.decodeString
  natural := Json.decodeNat

def decode : Json → Except Fault Config := jsonReader.config

def encode (c : Config) : Json := .object [
  ("sandbox", .ofFields [
    ("template", some (.string c.sandbox.template)),
    ("image", c.sandbox.image.map .string),
    ("cpu", c.sandbox.cpu.map .string),
    ("memory", c.sandbox.memory.map .string)]),
  ("provisioning", .object [
    ("windowSeconds", .nat c.provisioning.windowSeconds),
    ("pollIntervalSeconds", .nat c.provisioning.pollSeconds)]),
  ("running", .object [
    ("pollIntervalSeconds", .nat c.running.pollSeconds),
    ("taskTimeoutSeconds", .nat c.running.timeoutSeconds)]),
  ("assignment", .object [
    ("maxAttempts", .nat c.assignment.maxAttempts),
    ("initialBackoffSeconds", .nat c.assignment.initialBackoffSeconds),
    ("maxBackoffSeconds", .nat c.assignment.maxBackoffSeconds),
    ("requestTimeoutSeconds", .nat c.assignment.requestTimeoutSeconds),
    ("workerPort", .nat c.assignment.workerPort)]),
  ("credentials", .object [
    ("maxAttempts", .nat c.credentials.maxAttempts),
    ("initialBackoffMillis", .nat c.credentials.initialBackoffMillis),
    ("apiBase", .string c.credentials.apiBase),
    ("requestTimeoutSeconds", .nat c.credentials.requestTimeoutSeconds)]),
  ("notify", .object [
    ("maxAttempts", .nat c.notify.maxAttempts),
    ("initialBackoffSeconds", .nat c.notify.initialBackoffSeconds),
    ("timeoutSeconds", .nat c.notify.timeoutSeconds)]),
  ("sweep", .object [
    ("intervalSeconds", .nat c.sweeping.intervalSeconds),
    ("orphanGraceSeconds", .nat c.sweeping.orphanGraceSeconds)]),
  ("retention", .object [("terminalTaskTtlMinutes", .nat c.retention.minutes)])]

end SandboxTasks.Config
