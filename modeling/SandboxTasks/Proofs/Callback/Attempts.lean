import SandboxTasks.Proofs.Callback.Delivered
import SandboxTasks.Proofs.Http.Retry

namespace SandboxTasks.Callback

open Http

def Succeeds (status : Nat) : Prop := 200 ≤ status ∧ status ≤ 299

def Refuses (status : Nat) : Prop := 400 ≤ status ∧ status ≤ 499 ∧ status ≠ 408 ∧ status ≠ 429

def trouble : Except Failure Response → String
  | .error e => e.message
  | .ok response => "HTTP " ++ Http.Status.text response.status

def Event.retry (event : Event) (secret : List UInt8) (policy : RetryPolicy) : Retry (Except Error Unit) where
  attempt := Http.post event.url (Poster.headers event.payload.task (event.signature secret)) event.text
  settled? result :=
    match Poster.Attempt.ofResult result with
    | .delivered => some (.ok ())
    | .refused status => some (.error (.rejected status))
    | .failed _ => none
  exhausted attempts result := .error (.exhausted attempts (trouble result))
  delayAfter := policy.delayAfter

namespace Poster

variable {event : Event} {secret : List UInt8} {policy : RetryPolicy} {σ : Type}
  {answer : (op : Http.Operation) → σ → op.Answer × σ} {s : σ}

theorem eq_trouble {result : Except Failure Response} {reason : String} (h : Attempt.ofResult result = .failed reason) :
    reason = trouble result := by
  cases result with
  | error e => exact (Attempt.failed.inj h).symm
  | ok response =>
      unfold Attempt.ofResult at h
      split at h
      · next heq => cases heq
      · next heq =>
          cases heq
          split_ifs at h
          exact (Attempt.failed.inj h).symm

theorem attempts_eq_retry (left made : Nat) :
    attempts policy (attempt event.url event.payload.task (event.signature secret) event.text) left made =
      (event.retry secret policy).attempts left made := by
  refine (event.retry secret policy).eq_attempts (fun left made => ?_) left made
  have hattempt : attempt event.url event.payload.task (event.signature secret) event.text =
      (event.retry secret policy).attempt >>= fun result => pure (Attempt.ofResult result) := rfl
  rw [attempts, hattempt, bind_assoc]
  refine bind_congr fun result => ?_
  rw [pure_bind, ← hattempt]
  cases hresult : Attempt.ofResult result with
  | delivered | refused => simp only [Event.retry, hresult]
  | failed reason =>
      cases left with
      | zero => simp only [Event.retry, hresult, eq_trouble hresult]
      | succ left => simp only [Event.retry, hresult]

theorem send_eq_retry : send ⟨some secret, policy⟩ event = (event.retry secret policy).attempts (policy.maxAttempts - 1) 0 := by
  rw [← attempts_eq_retry]
  rfl

theorem isSuccess_iff {status : Nat} : Http.Status.isSuccess status ↔ Succeeds status := by
  simp [Http.Status.isSuccess, Succeeds]

theorem isPermanent_iff {status : Nat} : isPermanent status ↔ Refuses status := by
  simp [isPermanent, Http.Status.isClientError, Refuses, and_assoc]

theorem refused_iff {result : Except Failure Response} {status : Nat} : Attempt.ofResult result = .refused status ↔
    ∃ response, result = .ok response ∧ Refuses response.status ∧ status = response.status := by
  cases result with
  | error e => simp [Attempt.ofResult]
  | ok response =>
      by_cases hrefuses : Refuses response.status
      · have hfails : ¬ Http.Status.isSuccess response.status := by
          rw [isSuccess_iff]
          rintro ⟨-, hsuccess⟩
          have herror := hrefuses.1
          omega
        simp [Attempt.ofResult, hfails, isPermanent_iff.mpr hrefuses, hrefuses, eq_comm]
      · have hpermanent : isPermanent response.status = false := by
          rwa [← Bool.not_eq_true, isPermanent_iff]
        by_cases hsuccess : Http.Status.isSuccess response.status <;>
          simp [Attempt.ofResult, hsuccess, hpermanent, hrefuses]

theorem settled?_eq_none {t : Round} (h : (event.retry secret policy).settled? t.result = none) :
    ¬ t.Answered Succeeds ∧ ¬ t.Answered Refuses := by
  have hfailed : Attempt.ofResult t.result ≠ .delivered ∧ ∀ status, Attempt.ofResult t.result ≠ .refused status := by
    simp only [Event.retry] at h
    cases hresult : Attempt.ofResult t.result <;> simp [hresult] at h ⊢
  constructor
  · rintro ⟨response, hresponse, hsucceeds⟩
    exact hfailed.1 (delivered_iff.mpr ⟨response, hresponse, isSuccess_iff.mpr hsucceeds⟩)
  · rintro ⟨response, hresponse, hrefuses⟩
    exact hfailed.2 _ (refused_iff.mpr ⟨response, hresponse, hrefuses, rfl⟩)

theorem settled?_eq_some {t : Round} {result : Except Error Unit}
    (h : (event.retry secret policy).settled? t.result = some result) : t.Answered Succeeds ∧ result = .ok () ∨
      ∃ status, Refuses status ∧ t.Answered (· = status) ∧ result = .error (.rejected status) := by
  simp only [Event.retry] at h
  cases hattempt : Attempt.ofResult t.result with
  | delivered =>
      obtain ⟨response, hresponse, hsuccess⟩ := delivered_iff.mp hattempt
      rw [hattempt] at h
      exact .inl ⟨⟨response, hresponse, isSuccess_iff.mp hsuccess⟩, (Option.some.inj h).symm⟩
  | refused status =>
      obtain ⟨response, hresponse, hrefuses, rfl⟩ := refused_iff.mp hattempt
      rw [hattempt] at h
      exact .inr ⟨_, hrefuses, ⟨response, hresponse, rfl⟩, (Option.some.inj h).symm⟩
  | failed reason => simp [hattempt] at h

theorem posts_of_asked {request : Request} {reply : Except Silence Response}
    (h : ⟨.send request, reply⟩ ∈ (send ⟨some secret, policy⟩ event).asked answer s) :
    request.body = none ∨ request.Posts (headers event.payload.task (event.signature secret)) event.text := by
  rw [send_eq_retry] at h
  obtain ⟨before, last, hasked, hrounds⟩ :=
    (event.retry secret policy).run_attempts answer (policy.maxAttempts - 1) 0 s
  rw [hasked] at h
  obtain ⟨t, ht, hmem⟩ | ⟨length, hwait⟩ := mem_course h
  · obtain ⟨s, rfl⟩ := hrounds.makes t ht
    dsimp only [Event.retry] at hmem
    obtain ⟨log, hlog, hposting⟩ := asked_post answer event.url
      (headers event.payload.task (event.signature secret)) event.text s
    rw [hlog] at hmem
    obtain ⟨e, he, hquery⟩ := List.mem_map.mp hmem
    obtain rfl : e.request = request := Http.Operation.send.inj (Sigma.mk.inj hquery).1
    exact hposting.carries he
  · cases (Sigma.mk.inj hwait).1

end Poster

end SandboxTasks.Callback
