import SandboxTasks.Assignment.Worker
import SandboxTasks.Callback.Channel
import SandboxTasks.Proofs.Http.Exchange

namespace SandboxTasks

open Http Callback

namespace Callback

namespace Event

def text (e : Event) : String := String.ofList e.payload.body

def signature (e : Event) (secret : List UInt8) : String := String.ofList (Signature.sign secret e.text.toUTF8.toList)

def post? (e : Event) (secret : List UInt8) : Except Failure Request :=
  Http.post? e.url (Poster.headers e.payload.task (e.signature secret)) e.text

end Event

namespace Poster

variable {p : Poster} {policy : RetryPolicy} {once : Http.Routine Attempt} {left made : Nat} {log : List Exchange}
  {event : Event} {secret : List UInt8}

theorem attempts_delivered (h : Yields (attempts policy once left made) log (.ok ())) :
    ∃ before last, log = before ++ last ∧ Yields once last .delivered ∧
      ∀ e ∈ before, ∃ part reason, Yields once part (.failed reason) ∧ e ∈ part := by
  induction left using Nat.strongRecOn generalizing made log with
  | ind left ih =>
      unfold attempts at h
      obtain ⟨early, late, result, rfl, honce, hrest⟩ := h.of_bind
      cases result with
      | delivered =>
          obtain ⟨rfl, -⟩ := hrest.of_pure
          exact ⟨[], early, List.append_nil early, honce, nofun⟩
      | refused status => cases hrest
      | failed reason =>
          cases left with
          | zero => cases hrest
          | succ left =>
              obtain _ | _ | rest | _ := hrest
              obtain ⟨before, last, rfl, hlast, hbefore⟩ := ih left left.lt_succ_self rest
              refine ⟨early ++ before, last, (List.append_assoc ..).symm, hlast, ?_⟩
              intro e he
              rcases List.mem_append.mp he with he | he
              · exact ⟨early, reason, honce, he⟩
              · exact hbefore e he

theorem final_isSuccess : Final fun status => Http.Status.isSuccess status := by
  unfold Final
  decide

theorem delivered_iff {result : Except Failure Response} :
    Attempt.ofResult result = .delivered ↔ ∃ response, result = .ok response ∧ Http.Status.isSuccess response.status := by
  cases result with
  | error e => simp [Attempt.ofResult]
  | ok response =>
      by_cases hsuccess : Http.Status.isSuccess response.status
      · simp [Attempt.ofResult, hsuccess]
      · by_cases hpermanent : isPermanent response.status <;> simp [Attempt.ofResult, hsuccess, hpermanent]

theorem not_earns_of_failed {url task signature text reason body : String} {headers : List Header}
    (h : Yields (attempt url task signature text) log (.failed reason)) {e : Exchange} (he : e ∈ log) :
    ¬ e.Earns headers body fun status => Http.Status.isSuccess status := by
  rintro ⟨-, status, hstatus, hsuccess⟩
  obtain ⟨early, late, result, rfl, hpost, hrest⟩ := h.of_bind
  obtain ⟨rfl, hreason⟩ := hrest.of_pure
  rw [List.append_nil] at he
  obtain ⟨rfl, -⟩ | ⟨request, -, hchain⟩ := hpost.posted
  · cases he
  · obtain ⟨request', silence | response⟩ := e
    · cases hstatus
    · obtain rfl := Option.some.inj hstatus
      obtain rfl := hchain.settles he rfl (final_isSuccess.redirected?_eq_none hsuccess)
      exact absurd (delivered_iff.mpr ⟨response, rfl, hsuccess⟩) (hreason ▸ nofun)

theorem send_delivered (h : Yields (p.send event) log (.ok ())) :
    ∃ secret request response before last, p.secret = some secret ∧ event.post? secret = .ok request ∧
      log = before ++ last ∧ Chain request last (.ok response) ∧ Http.Status.isSuccess response.status ∧
      ∀ e ∈ before, ∀ headers body, ¬ e.Earns headers body fun status => Http.Status.isSuccess status := by
  unfold send at h
  split at h
  · cases h
  · next secret hsecret =>
      obtain ⟨before, last, rfl, hlast, hbefore⟩ := attempts_delivered h
      obtain ⟨early, late, result, rfl, hpost, hrest⟩ := hlast.of_bind
      obtain ⟨rfl, hdelivered⟩ := hrest.of_pure
      obtain ⟨response, rfl, hsuccess⟩ := delivered_iff.mp hdelivered.symm
      obtain ⟨-, e, he⟩ | ⟨request, hrequest, hchain⟩ := hpost.posted
      · cases he
      · refine ⟨secret, request, response, before, early, hsecret, hrequest, ?_, hchain, hsuccess, ?_⟩
        · rw [List.append_nil]
        · intro e he headers body
          obtain ⟨part, reason, hfailed, hpart⟩ := hbefore e he
          exact not_earns_of_failed hfailed hpart

theorem yields_of_chain {request : Request} {response : Response} (hsecret : p.secret = some secret)
    (hrequest : event.post? secret = .ok request) (hchain : Chain request log (.ok response))
    (hlimit : log.length ≤ redirectLimit + 1) (hsuccess : Http.Status.isSuccess response.status) :
    Yields (p.send event) log (.ok ()) := by
  have hpost : Yields (post event.url (headers event.payload.task (event.signature secret)) event.text) log
      (.ok response) := by
    unfold post
    rw [show Http.post? .. = _ from hrequest]
    exact hchain.yields hlimit
  have honce : Yields (attempt event.url event.payload.task (event.signature secret) event.text) (log ++ []) .delivered :=
    hpost.bind (delivered_iff.mpr ⟨response, rfl, hsuccess⟩ ▸ .done)
  unfold send
  rw [hsecret]
  unfold attempts
  rw [← List.append_nil log, ← List.append_nil (log ++ [])]
  exact honce.bind .done

end Poster

/-- The event's own post, signed with the secret, was answered with a success. -/
def Event.Arrived (event : Event) (secret : List UInt8) (log : List Exchange) : Prop :=
  ∃ e ∈ log, e.Earns [⟨Signature.header, event.signature secret⟩] event.text fun status => Http.Status.isSuccess status

end Callback

namespace Assignment

variable {port : Nat} {address id api : String} {log : List Exchange} {acceptance : Acceptance}

/-- The assignment's own post was answered as one that the worker has. -/
def Arrived (id api : String) (log : List Exchange) : Prop :=
  ∃ e ∈ log, e.Earns [] (body id api).toText (· ∈ [200, 202, 409])

def post? (port : Nat) (address id api : String) : Except Failure Request :=
  Http.post? (url address port) [⟨"content-type", "application/json"⟩] (body id api).toText

theorem final_accepted : Final (· ∈ [200, 202, 409]) := by
  unfold Final
  decide

theorem outcome_ok_iff {result : Except Failure Response} :
    (∃ acceptance, outcome address result = .ok acceptance) ↔
      ∃ response, result = .ok response ∧ response.status ∈ [200, 202, 409] := by
  cases result with
  | error e => simp [outcome]
  | ok response =>
      by_cases haccepted : response.status = 200 ∨ response.status = 202
      · simp [outcome, haccepted, ← or_assoc]
      · by_cases halready : response.status = 409 <;> simp [outcome, haccepted, halready, ← or_assoc]

theorem assign_accepted (h : Yields (assign port address id api) log (.ok acceptance)) :
    ∃ request response, post? port address id api = .ok request ∧ Chain request log (.ok response) ∧
      response.status ∈ [200, 202, 409] := by
  obtain ⟨early, late, result, rfl, hpost, hrest⟩ := h.of_bind
  obtain ⟨rfl, haccepted⟩ := hrest.of_pure
  obtain ⟨response, rfl, hstatus⟩ := outcome_ok_iff.mp ⟨acceptance, haccepted.symm⟩
  obtain ⟨-, e, he⟩ | ⟨request, hrequest, hchain⟩ := hpost.posted
  · cases he
  · exact ⟨request, response, hrequest, by rwa [List.append_nil], hstatus⟩

theorem yields_of_chain {request : Request} {response : Response} (hrequest : post? port address id api = .ok request)
    (hchain : Chain request log (.ok response)) (hlimit : log.length ≤ redirectLimit + 1)
    (hstatus : response.status ∈ [200, 202, 409]) :
    ∃ acceptance, Yields (assign port address id api) log (.ok acceptance) := by
  obtain ⟨acceptance, hacceptance⟩ := outcome_ok_iff.mpr ⟨response, rfl, hstatus⟩
  have hpost : Yields (post (url address port) [⟨"content-type", "application/json"⟩] (body id api).toText) log
      (.ok response) := by
    unfold post
    rw [show Http.post? .. = _ from hrequest]
    exact hchain.yields hlimit
  refine ⟨acceptance, ?_⟩
  rw [← List.append_nil log, ← hacceptance]
  exact hpost.bind .done

end Assignment

/-- A success is only reported when the last answer was one. Then the callback, or the assignment, arrived exactly if
no redirect in the chain that led to that answer has the client read instead. -/
theorem arrived_iff_repeated (p : Poster) (event : Event) (port : Nat) (address id api : String)
    (acceptance : Assignment.Acceptance) (log assigned : List Exchange) :
    (Yields (p.send event) log (.ok ()) →
      ∃ secret request response before last, p.secret = some secret ∧ event.post? secret = .ok request ∧
        log = before ++ last ∧ Chain request last (.ok response) ∧ Http.Status.isSuccess response.status ∧
        (event.Arrived secret log ↔ ∀ e ∈ last, ¬ e.Turns)) ∧
    (Yields (Assignment.assign port address id api) assigned (.ok acceptance) →
      ∃ request response, Assignment.post? port address id api = .ok request ∧
        Chain request assigned (.ok response) ∧ response.status ∈ [200, 202, 409] ∧
        (Assignment.Arrived id api assigned ↔ ∀ e ∈ assigned, ¬ e.Turns)) := by
  constructor
  · intro h
    obtain ⟨secret, request, response, before, last, hsecret, hrequest, rfl, hchain, hsuccess, hbefore⟩ :=
      Poster.send_delivered h
    refine ⟨secret, request, response, before, last, hsecret, hrequest, rfl, hchain, hsuccess, ?_⟩
    have hposts : request.Posts [⟨Signature.header, event.signature secret⟩] event.text := by
      obtain ⟨hmethod, hbody, hheaders⟩ := posts_of_post? hrequest
      exact ⟨hmethod, hbody, fun h hh => hheaders (List.mem_singleton.mp hh ▸ .tail _ (.head _))⟩
    rw [← hchain.earns_iff hposts Poster.final_isSuccess hsuccess]
    constructor
    · rintro ⟨e, he, hearns⟩
      rcases List.mem_append.mp he with he | he
      · exact absurd hearns (hbefore e he _ _)
      · exact ⟨e, he, hearns⟩
    · rintro ⟨e, he, hearns⟩
      exact ⟨e, List.mem_append_right before he, hearns⟩
  · intro h
    obtain ⟨request, response, hrequest, hchain, hstatus⟩ := Assignment.assign_accepted h
    refine ⟨request, response, hrequest, hchain, hstatus, ?_⟩
    have hposts : request.Posts [] (Assignment.body id api).toText := by
      obtain ⟨hmethod, hbody, -⟩ := posts_of_post? hrequest
      exact ⟨hmethod, hbody, List.nil_subset _⟩
    exact hchain.earns_iff hposts Assignment.final_accepted hstatus

namespace Callback

theorem isHeaderText_sign (secret text : List UInt8) : isHeaderText (String.ofList (Signature.sign secret text)) := by
  have hdigit : ∀ n < 16, 0x20 ≤ (Text.Hex.digit n).toNat ∧ (Text.Hex.digit n).toNat ≠ 0x7F := by decide
  rw [isHeaderText, String.toList_ofList, Signature.sign, List.all_append, Bool.and_eq_true]
  refine ⟨by decide +kernel, ?_⟩
  induction Digest.Hmac.tag secret text with
  | nil => rfl
  | cons b bs ih =>
      have hhigh := hdigit (b.toNat / 16) (by have := b.toNat_lt; omega)
      have hlow := hdigit (b.toNat % 16) (Nat.mod_lt _ (by decide))
      simpa [Text.Hex.encode, hhigh, hlow] using ih

def page (name : String) : Url :=
  ⟨"http".toList, some ⟨[], "[::1]".toList, some 8080⟩, .segments [name.toList], none, none⟩

def key : List UInt8 := "secret".toUTF8.toList

def completion : Event :=
  ⟨"http://[::1]:8080/cb", ⟨"t1", .completed, "Completed", none, none, .ofNanos 1700000000000000000⟩⟩

def signed : Request := ⟨"POST", page "cb", Poster.headers "t1" (completion.signature key), some completion.text⟩

theorem completion_post? : completion.post? key = .ok signed := by
  refine post?_eq_ok_iff.mpr ⟨page "cb", by decide +kernel, by decide +kernel, ?_, by decide +kernel, rfl⟩
  simp only [Poster.headers, List.forall_mem_cons, List.not_mem_nil, false_implies, implies_true, and_true]
  exact ⟨by decide +kernel, isHeaderText_sign _ _, by decide +kernel⟩

end Callback

namespace Assignment

def handed : Request :=
  ⟨"POST", Callback.page "task", [⟨"content-type", "application/json"⟩], some (body "t1" "http://controller:8080").toText⟩

theorem handed_post? : post? 8080 "[::1]" "t1" "http://controller:8080" = .ok handed :=
  post?_eq_ok_iff.mpr
    ⟨Callback.page "task", by decide +kernel, by decide +kernel, by decide +kernel, by decide +kernel, rfl⟩

end Assignment

namespace Http

def redirection (status : Nat) : Response := ⟨status, some "/landing", ""⟩

def onward (request next : Request) (status : Nat) : List Exchange :=
  [⟨request, .ok (redirection status)⟩, ⟨next, .ok ⟨200, none, ""⟩⟩]

theorem chain_onward {request next : Request} {status : Nat}
    (h : redirected? request (redirection status) = some next) :
    Chain request (onward request next status) (.ok ⟨200, none, ""⟩) :=
  .redirected h (.answered rfl)

def Request.elsewhere (request : Request) : Request := { request with url := Callback.page "landing" }

def Request.read (request : Request) : Request :=
  ⟨"GET", Callback.page "landing", request.headers.filter (·.name ≠ "content-type"), none⟩

variable {request : Request}

theorem redirected?_elsewhere (h : Url.read? (some request.url) "/landing" = some (Callback.page "landing")) :
    redirected? request (redirection 307) = some request.elsewhere := by
  simp [redirected?, redirection, h, Request.elsewhere]

theorem redirected?_read (h : Url.read? (some request.url) "/landing" = some (Callback.page "landing"))
    (hmethod : request.method = "POST") : redirected? request (redirection 302) = some request.read := by
  simp [redirected?, redirection, h, hmethod, Request.read]

theorem not_turns_onward {next : Request} {e : Exchange} (he : e ∈ onward request next 307) : ¬ e.Turns := by
  rintro ⟨status, hmem, hstatus⟩
  rcases List.mem_cons.mp he with rfl | he
  · obtain rfl := Option.some.inj hstatus
    revert hmem
    decide
  · obtain rfl := List.mem_singleton.mp he
    obtain rfl := Option.some.inj hstatus
    revert hmem
    decide

end Http

/-- A callback and an assignment that are both repeated elsewhere, and arrive. -/
theorem arrived_iff_repeated_elsewhere :
    Yields (Poster.send ⟨some key, .default⟩ completion) (onward signed signed.elsewhere 307) (.ok ()) ∧
      completion.Arrived key (onward signed signed.elsewhere 307) ∧
      (∃ acceptance, Yields (Assignment.assign 8080 "[::1]" "t1" "http://controller:8080")
        (onward Assignment.handed Assignment.handed.elsewhere 307) (.ok acceptance)) ∧
      Assignment.Arrived "t1" "http://controller:8080" (onward Assignment.handed Assignment.handed.elsewhere 307) := by
  have hsent : Yields (Poster.send ⟨some key, .default⟩ completion) (onward signed signed.elsewhere 307) (.ok ()) :=
    Poster.yields_of_chain rfl completion_post? (chain_onward (redirected?_elsewhere (by decide +kernel))) (by decide) rfl
  obtain ⟨acceptance, hassigned⟩ := Assignment.yields_of_chain Assignment.handed_post?
    (chain_onward (redirected?_elsewhere (by decide +kernel))) (by decide) (by decide)
  obtain ⟨hcallback, hassignment⟩ := arrived_iff_repeated _ _ _ _ _ _ acceptance _ _
  refine ⟨hsent, ?_, ⟨acceptance, hassigned⟩, ?_⟩
  · obtain ⟨secret, request, response, before, last, hsecret, -, hlog, -, -, harrived⟩ := hcallback hsent
    obtain rfl := Option.some.inj hsecret
    exact harrived.mpr fun e he => not_turns_onward (hlog ▸ List.mem_append_right before he)
  · obtain ⟨request, response, -, -, -, harrived⟩ := hassignment hassigned
    exact harrived.mpr fun e he => not_turns_onward he

/-- A callback and an assignment that count as arrived, where only a page was read. -/
theorem page_read_instead :
    Yields (Poster.send ⟨some key, .default⟩ completion) (onward signed signed.read 302) (.ok ()) ∧
      ¬ completion.Arrived key (onward signed signed.read 302) ∧
      (∃ acceptance, Yields (Assignment.assign 8080 "[::1]" "t1" "http://controller:8080")
        (onward Assignment.handed Assignment.handed.read 302) (.ok acceptance)) ∧
      ¬ Assignment.Arrived "t1" "http://controller:8080" (onward Assignment.handed Assignment.handed.read 302) := by
  have hsigned : Chain signed (onward signed signed.read 302) (.ok ⟨200, none, ""⟩) :=
    chain_onward (redirected?_read (by decide +kernel) rfl)
  have hhanded : Chain Assignment.handed (onward Assignment.handed Assignment.handed.read 302) (.ok ⟨200, none, ""⟩) :=
    chain_onward (redirected?_read (by decide +kernel) rfl)
  have hturns (request : Request) : ¬ ∀ e ∈ onward request request.read 302, ¬ e.Turns :=
    fun hnone => hnone _ (.head _) ⟨302, by decide, rfl⟩
  refine ⟨Poster.yields_of_chain rfl completion_post? hsigned (by decide) rfl, ?_,
    Assignment.yields_of_chain Assignment.handed_post? hhanded (by decide) (by decide), ?_⟩
  · have hposts : signed.Posts [⟨Signature.header, completion.signature key⟩] completion.text :=
      ⟨rfl, rfl, fun h hh => List.mem_singleton.mp hh ▸ .tail _ (.head _)⟩
    intro harrived
    exact hturns signed ((hsigned.earns_iff hposts Poster.final_isSuccess rfl).mp harrived)
  · have hposts : Assignment.handed.Posts [] (Assignment.body "t1" "http://controller:8080").toText :=
      ⟨rfl, rfl, List.nil_subset _⟩
    intro harrived
    exact hturns Assignment.handed ((hhanded.earns_iff hposts Assignment.final_accepted (by decide)).mp harrived)

end SandboxTasks
