import SandboxTasks.Proofs.Concurrent.Written
import SandboxTasks.Proofs.Task.Phase

namespace SandboxTasks

open Store Callback

variable {id : String} {C : Contract id} {others : C.State → C.State → Prop} {c d : Pool C} {now : Instant} {r : Record}

theorem Orderly.complete (h : Orderly C others c d)
    (hothers : ∀ s s', others s s' → Spares (C.current s) (C.current s')) (hc : c.SerialInvariant)
    (hcomplete : ∀ q, C.current c.state = some q → q.record.status.Complete) :
    ∀ q, C.current d.state = some q → q.record.status.Complete := by
  intro q hq
  obtain hsame | ⟨t, change, now, r, hwritten⟩ := h.written hothers hc hq
  · exact hcomplete q hsame
  · have htakes := hwritten.grounds.takes hwritten.changes
    exact htakes.complete (hwritten.grounds.makes.follows hwritten.changes) (hcomplete r hwritten.before)

theorem run_complete (h : OrderlyRun C others c d)
    (hothers : ∀ s s', others s s' → Spares (C.current s) (C.current s')) (hc : c.SerialInvariant)
    (hcomplete : ∀ q, C.current c.state = some q → q.record.status.Complete) :
    ∀ q, C.current d.state = some q → q.record.status.Complete := by
  induction h with
  | refl => exact hcomplete
  | tail hrun hs ih => exact hs.complete hothers (run_serialInvariant hrun hothers hc) ih

/-- The event tells what the record says of the end. -/
structure Callback.Event.Reports (event : Event) (r : Record) : Prop where
  url : r.spec.callbackUrl = some event.url
  task : event.payload.task = r.id
  outcome : event.payload.outcome = Outcome.ofPhase r.status.phase
  reason : r.status.reason.map EndReason.name = some event.payload.reason
  pullRequest : event.payload.pullRequest = r.status.pullRequest
  message : event.payload.message = r.status.message
  completedAt : r.status.completedAt = some event.payload.completedAt

theorem Reconcile.outcomeEvent_reports {url : String} (hcomplete : r.status.Complete)
    (hended : r.status.phase.isTerminal) (hurl : r.spec.callbackUrl = some url) :
    (outcomeEvent now url r).Reports r := by
  obtain ⟨hreason, hcompletedAt⟩ := hcomplete hended
  obtain ⟨reason, hreason⟩ := Option.isSome_iff_exists.mp hreason
  obtain ⟨since, hsince⟩ := Option.isSome_iff_exists.mp hcompletedAt
  exact {
    url := hurl
    task := rfl
    outcome := rfl
    reason := by simp [outcomeEvent, hreason]
    pullRequest := rfl
    message := rfl
    completedAt := by simp [outcomeEvent, hsince] }

end SandboxTasks
