import SandboxTasks.Proofs.Concurrent.Among

namespace SandboxTasks

open Store

def Turn.isFailedAssignment : Turn → Bool
  | ⟨.assign _ _ _, .error _⟩ => true
  | _ => false

namespace Status

/-- Whether the task is at work is told from the time it was taken at, until it ends. -/
structure Open (s : Status) : Prop where
  reason : s.reason = none
  assigned : s.assignedAt.isSome = (s.phase == .running)

/-- All that a change can do to phase, reason and the times of assignment and end, after what was done outside. -/
inductive Takes (log : History) (s next : Status) : Prop
  | stays (hphase : next.phase = s.phase) (hreason : next.reason = s.reason)
      (hassigned : next.assignedAt = s.assignedAt)
  | moves (hs : s.phase.isTerminal = false) (hnext : next.phase.isTerminal = false) (hopen : s.Open → next.Open)
  | ends (hs : s.phase.isTerminal = false) (reason : EndReason) (hphase : next.phase = reason.phase)
      (hreason : next.reason = some reason) (hassigned : next.assignedAt = s.assignedAt)
      (hcompleted : next.completedAt.isSome)
      (hcause : reason = .assignmentFailure → log.head?.any (·.isFailedAssignment))

variable {log : History} {s next : Status} {now : Instant}

theorem takes_of_terminate {reason : EndReason} {message : Option String}
    (h : s.terminate? now reason message = some next)
    (hcause : reason = .assignmentFailure → log.head?.any (·.isFailedAssignment)) : s.Takes log next := by
  have hs : s.phase.isTerminal = false := by simpa using (Option.ite_none_left_eq_some.mp h).1
  have hnext := Change.terminate_eq h
  exact .ends hs reason (by rw [hnext]) (by rw [hnext]) (by rw [hnext]) (by rw [hnext]; rfl) hcause

theorem takes_noteWorker (hphase : next.phase = (Change.noteWorker now s).phase)
    (hreason : next.reason = (Change.noteWorker now s).reason)
    (hassigned : next.assignedAt = (Change.noteWorker now s).assignedAt) : s.Takes log next := by
  unfold Change.noteWorker at hphase hreason hassigned
  split at hphase
  · next hwaiting =>
      rw [if_pos hwaiting] at hreason hassigned
      have hs : s.phase.isTerminal = false := by rcases hwaiting with h | h <;> rw [h] <;> rfl
      refine .moves hs (by rw [hphase]; rfl) fun hopen => ⟨hreason.trans hopen.reason, ?_⟩
      rw [hphase, hassigned]
      rfl
  · next hwaiting =>
      rw [if_neg hwaiting] at hreason hassigned
      exact .stays hphase hreason hassigned

theorem takes_reported {report : Report} (hs : s.phase.isTerminal = false) :
    s.Takes log (Change.reported report now s) := by
  have hend (reason : EndReason) (hreason : reason ≠ .assignmentFailure) (pullRequest : Option String) :
      s.Takes log { (s.terminate? now reason report.message).getD s with pullRequest } := by
    cases h : s.terminate? now reason report.message with
    | none => exact .stays rfl rfl rfl
    | some next =>
        have hnext := Change.terminate_eq h
        refine .ends hs reason ?_ ?_ ?_ ?_ fun he => absurd he hreason
        all_goals simp [hnext]
  unfold Change.reported
  cases hkind : report.kind with
  | started | progress => exact takes_noteWorker rfl rfl rfl
  | completed | failed => exact hend _ (by decide) _

end Status

variable {alone : Prop} {j : Job} {past : History} {r : Record} {change : Change} {now : Instant} {next : Status}

namespace Job

theorem Makes.takes {writes : Nat} (h : j.Makes writes change) (hpass : ¬ j.isPass)
    (hchange : change now r = some next) : r.status.Takes past.outside next := by
  cases h with
  | report report =>
      obtain ⟨hs, rfl⟩ := Change.report_eq hchange
      exact Status.takes_reported hs
  | cancel => exact Status.takes_of_terminate hchange fun he => nomatch he
  | reserve =>
      obtain ⟨-, hnext⟩ := Option.ite_none_left_eq_some.mp hchange
      cases hnext
      exact .stays rfl rfl rfl
  | giveBack | release =>
      obtain ⟨-, hnext⟩ := Option.ite_none_right_eq_some.mp hchange
      cases hnext
      exact .stays rfl rfl rfl
  | pass => exact absurd rfl hpass

end Job

theorem Reconcile.Warranted.takes {p : Policy} {n : Callback.Notifier} {q : Record}
    (h : Warranted alone p n past q change) (hchange : change now r = some next) :
    r.status.Takes past.outside next := by
  cases h with
  | finish hfinds =>
      refine Status.takes_of_terminate hchange fun he => ?_
      subst he
      cases hfinds with
      | assignmentFailure hfailed =>
          obtain ⟨address, api, e, rest, hfailed⟩ := hfailed
          rw [hfailed]
          rfl
  | sandboxDeleted | notified =>
      obtain ⟨-, hnext⟩ := Option.ite_none_left_eq_some.mp hchange
      cases hnext
      exact .stays rfl rfl rfl
  | recordSandbox | forgetSandbox | assignmentFailed =>
      obtain ⟨-, hnext⟩ := Option.ite_none_right_eq_some.mp hchange
      cases hnext
      exact .stays rfl rfl rfl
  | startProvisioning | markReady | startAssigning =>
      obtain ⟨hphase, hnext⟩ := Option.ite_none_right_eq_some.mp hchange
      cases hnext
      refine .moves (by rw [hphase]; rfl) rfl fun hopen => ⟨hopen.reason, ?_⟩
      have hnone := hopen.assigned
      rw [hphase] at hnone
      exact hnone
  | assigned =>
      obtain ⟨-, hnext⟩ := Option.ite_none_right_eq_some.mp hchange
      cases hnext
      exact Status.takes_noteWorker rfl rfl rfl

theorem Job.Grounds.takes (h : j.Grounds alone past r change) (hchange : change now r = some next) :
    r.status.Takes past.outside next := by
  cases h with
  | plain hpass h => exact h.takes hpass hchange
  | pass hpass h =>
      obtain ⟨-, hlog, -, -, h⟩ := h
      exact hlog ▸ h.takes hchange

theorem Status.Takes.opened {log : History} {s next : Status} (h : s.Takes log next)
    (hopen : s.phase.isTerminal = false → s.Open) (hnext : next.phase.isTerminal = false) : next.Open := by
  cases h with
  | stays hphase hreason hassigned =>
      have hs := hopen (hphase ▸ hnext)
      exact ⟨hreason.trans hs.reason, by rw [hassigned, hphase, hs.assigned]⟩
  | moves hs _ hmoved => exact hmoved (hopen hs)
  | ends hs reason hphase => exact absurd (hnext.symm.trans (hphase ▸ EndReason.isTerminal_phase reason)) (by decide)

def Status.Complete (s : Status) : Prop := s.phase.isTerminal → s.reason.isSome ∧ s.completedAt.isSome

theorem Status.complete_of_open {s : Status} (h : s.phase.isTerminal = false) : s.Complete :=
  fun hended => absurd (h.symm.trans hended) (by decide)

theorem Status.Takes.complete {log : History} {s next : Status} (h : s.Takes log next) (hfollows : next.Follows s)
    (hs : s.Complete) : next.Complete := by
  cases h with
  | stays hphase hreason =>
      intro hended
      rw [hphase] at hended
      rw [hreason, (hfollows.ended hended).completedAt]
      exact hs hended
  | moves _ hnext => exact complete_of_open hnext
  | ends _ reason _ hreason _ hcompleted =>
      intro _
      rw [hreason]
      exact ⟨rfl, hcompleted⟩

end SandboxTasks
