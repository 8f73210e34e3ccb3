import SandboxTasks.Json.Basic

namespace SandboxTasks

inductive Report.Kind where
  | started
  | progress
  | completed
  | failed
deriving DecidableEq, Repr

namespace Report.Kind

def isTerminal : Report.Kind → Bool
  | .completed | .failed => true
  | _ => false

def name : Report.Kind → String
  | .started => "started"
  | .progress => "progress"
  | .completed => "completed"
  | .failed => "failed"

def all : List Report.Kind := [.started, .progress, .completed, .failed]

def ofName? (s : String) : Option Report.Kind := all.find? (·.name == s)

end Report.Kind

structure Report where
  kind : Report.Kind
  message : Option String
  details : Option Json

namespace Report

def pullRequestKeys : List String := ["prURL", "prUrl", "pr_url"]

/-- The pull request in the details: the first string under one of its names, unless it is empty. -/
def pullRequestIn? (details : Json) : Option String :=
  (pullRequestKeys.findSome? fun key => (details.get? key).bind Json.text?).filter (· != "")

def pullRequest? (r : Report) : Option String := r.details.bind pullRequestIn?

end Report

end SandboxTasks
