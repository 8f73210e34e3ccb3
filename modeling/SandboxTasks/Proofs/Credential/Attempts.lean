import SandboxTasks.Credential.Installation
import SandboxTasks.Proofs.Http.Retry
import SandboxTasks.Proofs.Json.Text

namespace SandboxTasks

/-- The request posts a text that, read as a value, names one repository and nothing else. -/
def Http.Request.AsksFor (request : Http.Request) (name : String) : Prop :=
  request.method = "POST" ∧ ∃ text, request.body = some text ∧
    Json.ofText? text = some (.object [("repositories", .array [.string name])])

namespace Credential

open Http

def Grants (result : Except Failure Response) (grant : Grant) : Prop :=
  ∃ response, result = .ok response ∧ 200 ≤ response.status ∧ response.status ≤ 299 ∧
    Json.decodeText Installation.decodeToken response.body = .ok grant

def Refuses (response : Response) : Prop :=
  ¬ (200 ≤ response.status ∧ response.status ≤ 299) ∧ ¬ (500 ≤ response.status ∧ response.status ≤ 599) ∧
    response.status ≠ 429

/-- No answer, an error of the server, too many requests, or a success that holds no grant. -/
def Passes : Except Failure Response → Prop
  | .error _ => True
  | .ok response => 500 ≤ response.status ∧ response.status ≤ 599 ∨ response.status = 429 ∨
      200 ≤ response.status ∧ response.status ≤ 299 ∧
        ∀ grant, Json.decodeText Installation.decodeToken response.body ≠ .ok grant

def trouble : Except Failure Response → String
  | .error e => e.message
  | .ok response =>
    if 200 ≤ response.status ∧ response.status ≤ 299 then "malformed token response"
    else Http.Status.text response.status ++ ": " ++ response.body

namespace Installation

variable {i : Installation} {key : SigningKey} {name : String}

def retry (i : Installation) (key : SigningKey) (name : String) : Retry (Except ExchangeError Grant) where
  attempt := do
    let now ← ask .now
    post i.url (headers ((i.assertion now).signed key)) (body name).toText
  settled? result :=
    match outcome result with
    | .error (.transient _) => none
    | settled => some settled
  exhausted _ result := outcome result
  delayAfter := i.delayAfter

theorem attempts_eq_retry (left made : Nat) :
    i.attempts (i.attempt key name) left made = (i.retry key name).attempts left made := by
  refine (i.retry key name).eq_attempts (fun left made => ?_) left made
  have hattempt : i.attempt key name = (i.retry key name).attempt >>= fun result => pure (outcome result) :=
    (bind_assoc ..).symm
  rw [attempts, hattempt, bind_assoc]
  refine bind_congr fun result => ?_
  rw [pure_bind, ← hattempt]
  cases hresult : outcome result with
  | ok grant => simp only [retry, hresult]
  | error e =>
      cases e with
      | rejected | signing | invalidRepository => simp only [retry, hresult]
      | transient reason => cases left <;> simp only [retry, hresult]

theorem outcome_cases (result : Except Failure Response) :
    (∃ grant, Grants result grant ∧ outcome result = .ok grant) ∨
    (∃ response, result = .ok response ∧ Refuses response ∧
      outcome result = .error (.rejected response.status response.body)) ∨
    Passes result ∧ outcome result = .error (.transient (trouble result)) := by
  cases result with
  | error e => exact .inr (.inr ⟨trivial, rfl⟩)
  | ok response =>
      by_cases hsuccess : 200 ≤ response.status ∧ response.status ≤ 299
      · have htest : Http.Status.isSuccess response.status := by simpa [Http.Status.isSuccess] using hsuccess
        cases hgrant : Json.decodeText decodeToken response.body with
        | ok grant => exact .inl ⟨grant, ⟨response, rfl, hsuccess.1, hsuccess.2, hgrant⟩, by simp [outcome, htest, hgrant]⟩
        | error fault =>
            refine .inr (.inr ⟨.inr (.inr ⟨hsuccess.1, hsuccess.2, fun grant h => ?_⟩), ?_⟩)
            · cases hgrant.symm.trans h
            · simp [outcome, htest, hgrant, trouble, hsuccess]
      · have htest : Http.Status.isSuccess response.status = false := by simpa [Http.Status.isSuccess] using hsuccess
        by_cases hpasses : 500 ≤ response.status ∧ response.status ≤ 599 ∨ response.status = 429
        · refine .inr (.inr ⟨?_, ?_⟩)
          · rcases hpasses with ⟨hlow, hhigh⟩ | hmany
            · exact .inl ⟨hlow, hhigh⟩
            · exact .inr (.inl hmany)
          · simp [outcome, htest, Http.Status.isServerError, hpasses, trouble, hsuccess]
        · obtain ⟨hserver, hmany⟩ := not_or.mp hpasses
          refine .inr (.inl ⟨response, rfl, ⟨hsuccess, hserver, hmany⟩, ?_⟩)
          simp [outcome, htest, Http.Status.isServerError, hpasses]

theorem settled?_eq_none {result : Except Failure Response} (h : (i.retry key name).settled? result = none) :
    Passes result ∧ outcome result = .error (.transient (trouble result)) := by
  obtain ⟨grant, -, houtcome⟩ | ⟨response, -, -, houtcome⟩ | hpasses := outcome_cases result
  · simp [retry, houtcome] at h
  · simp [retry, houtcome] at h
  · exact hpasses

theorem settled?_eq_some {result : Except Failure Response} {settled : Except ExchangeError Grant}
    (h : (i.retry key name).settled? result = some settled) : (∃ grant, Grants result grant ∧ settled = .ok grant) ∨
      ∃ response, result = .ok response ∧ Refuses response ∧
        settled = .error (.rejected response.status response.body) := by
  obtain ⟨grant, hgrants, houtcome⟩ | ⟨response, hresponse, hrefuses, houtcome⟩ | ⟨-, houtcome⟩ := outcome_cases result
  · simp only [retry, houtcome] at h
    exact .inl ⟨grant, hgrants, (Option.some.inj h).symm⟩
  · simp only [retry, houtcome] at h
    exact .inr ⟨response, hresponse, hrefuses, (Option.some.inj h).symm⟩
  · simp [retry, houtcome] at h

theorem asksFor_of_posts {request : Request} {hs : List Header} (h : request.Posts hs (body name).toText) :
    request.AsksFor name := by
  have hverbal : (body name).isVerbal := rfl
  refine ⟨h.method, _, h.body, ?_⟩
  rw [Json.ofText?, Json.toText, String.toList_ofList, Json.readDocument_print hverbal]
  rfl

theorem asked_attempt {σ : Type} {answer : (op : Http.Operation) → σ → op.Answer × σ} (s : σ) : ∃ now log,
    (i.retry key name).attempt.asked answer s = ⟨.now, now⟩ :: log.map Exchange.query ∧
      Posting i.url (headers ((i.assertion now).signed key)) (body name).toText log
        ((i.retry key name).attempt.run answer s).1 ∧
      (log.length ≤ 1 ∨ ∃ e ∈ log, e.Redirects) ∧
      ((∀ e ∈ log, e.request.AsksFor name) ∨ ∃ e ∈ log, e.Turns) := by
  unfold retry
  dsimp only
  rw [Program.asked_bind, Program.run_bind, asked_ask, run_ask]
  generalize answer .now s = reading
  obtain ⟨now, t⟩ := reading
  obtain ⟨log, hasked, hposting⟩ :=
    asked_post answer i.url (headers ((i.assertion now).signed key)) (body name).toText t
  refine ⟨now, log, ?_, hposting, hposting.one_or_redirects, ?_⟩
  · rw [hasked]
    rfl
  · exact hposting.posts_or_turns.imp_left fun hposts e he => asksFor_of_posts (hposts e he)

theorem exchange_ne_invalidRepository {σ : Type} (i : Installation) (key : SigningKey) {repository : Repository}
    (h : repository.slug?.isSome) (answer : (op : Http.Operation) → σ → op.Answer × σ) (s : σ) (url : String) :
    ((i.exchange key repository).run answer s).1 ≠ .error (.invalidRepository url) := by
  obtain ⟨slug, hslug⟩ := Option.isSome_iff_exists.mp h
  simp only [exchange, hslug, attempts_eq_retry]
  obtain ⟨before, last, -, hrounds⟩ := (i.retry key slug.name).run_attempts answer (i.maxAttempts - 1) 0 s
  intro hresult
  rcases hrounds.settles with hsettled | ⟨hunsettled, -, hlast⟩
  · rw [hresult] at hsettled
    rcases settled?_eq_some hsettled with ⟨grant, -, hgrant⟩ | ⟨response, -, -, hrefused⟩
    · cases hgrant
    · cases hrefused
  · have houtcome : outcome last.result = .error (.invalidRepository url) := hlast.symm.trans hresult
    cases houtcome.symm.trans (settled?_eq_none hunsettled).2

/-- What asking for a credential does, over every repository and all that a code host may answer. Without a name in the
repository's URL nothing is asked. Otherwise there are rounds, not more of them than allowed, which is at least one;
each reads the clock and posts under an assertion of that time. The post is one request, and it names that repository
alone, unless it is redirected. None of the rounds before the last got more than an answer that may pass. The last one
got a grant or a refusal for good, which is the result; or it is the last that is allowed, and its trouble is told. -/
theorem exchange_bounded {σ : Type} (i : Installation) (key : SigningKey) (repository : Repository)
    (answer : (op : Http.Operation) → σ → op.Answer × σ) (s : σ) :
    match repository.slug? with
    | none => (i.exchange key repository).asked answer s = [] ∧
        ((i.exchange key repository).run answer s).1 = .error (.invalidRepository repository.url)
    | some slug => ∃ before last result,
        ((i.exchange key repository).run answer s).1 = result ∧
        (i.exchange key repository).asked answer s = course i.delayAfter 0 before last ∧
        (∀ t ∈ before ++ [last], ∃ now log, t.asked = ⟨.now, now⟩ :: log.map Exchange.query ∧
          Posting i.url (headers ((i.assertion now).signed key)) (body slug.name).toText log t.result ∧
          (log.length ≤ 1 ∨ ∃ e ∈ log, e.Redirects) ∧
          ((∀ e ∈ log, e.request.AsksFor slug.name) ∨ ∃ e ∈ log, e.Turns)) ∧
        (∀ t ∈ before, Passes t.result) ∧
        before.length + 1 ≤ max 1 i.maxAttempts ∧
        ((∃ grant, Grants last.result grant ∧ result = .ok grant) ∨
          (∃ response, last.result = .ok response ∧ Refuses response ∧
            result = .error (.rejected response.status response.body)) ∨
          Passes last.result ∧ before.length + 1 = max 1 i.maxAttempts ∧
            result = .error (.transient (trouble last.result))) := by
  unfold exchange
  cases repository.slug? with
  | none => exact ⟨rfl, rfl⟩
  | some slug =>
      dsimp only
      rw [attempts_eq_retry]
      obtain ⟨before, last, hasked, hrounds⟩ :=
        (i.retry key slug.name).run_attempts answer (i.maxAttempts - 1) 0 s
      refine ⟨before, last, _, rfl, hasked, ?_, fun t ht => (settled?_eq_none (hrounds.unsettled t ht)).1, ?_, ?_⟩
      · intro t ht
        obtain ⟨s, rfl⟩ := hrounds.makes t ht
        dsimp only
        exact asked_attempt s
      · have hfew := hrounds.few
        omega
      · rcases hrounds.settles with hsettled | ⟨hunsettled, hlength, hresult⟩
        · rcases settled?_eq_some hsettled with hgrants | hrefuses
          · exact .inl hgrants
          · exact .inr (.inl hrefuses)
        · obtain ⟨hpasses, houtcome⟩ := settled?_eq_none hunsettled
          refine .inr (.inr ⟨hpasses, by omega, ?_⟩)
          rw [hresult]
          exact houtcome

end Installation

end Credential

end SandboxTasks
