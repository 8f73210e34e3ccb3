import SandboxTasks.Http.Client
import Mathlib.Tactic.SplitIfs

namespace SandboxTasks.Http

structure Exchange where
  request : Request
  answer : Except Silence Response

namespace Exchange

def status? (e : Exchange) : Option Nat := e.answer.toOption.map (·.status)

def Turns (e : Exchange) : Prop := ∃ status ∈ [301, 302, 303], e.status? = some status

end Exchange

structure Request.Posts (request : Request) (headers : List Header) (body : String) : Prop where
  method : request.method = "POST"
  body : request.body = some body
  headers : headers ⊆ request.headers

/-- The post itself had an answer that counts. -/
def Exchange.Earns (e : Exchange) (headers : List Header) (body : String) (counts : Nat → Prop) : Prop :=
  e.request.Posts headers body ∧ ∃ status, e.status? = some status ∧ counts status

variable {α β : Type}

inductive Yields : Routine α → List Exchange → α → Prop
  | done {a} : Yields (.done a) [] a
  | read {next log a} (now : Instant) (rest : Yields (next now) log a) : Yields (.call .now next) log a
  | slept {length next log a} (rest : Yields (next ()) log a) : Yields (.call (.sleep length) next) log a
  | sent {request next log a} (answer : Except Silence Response) (rest : Yields (next answer) log a) :
      Yields (.call (.send request) next) (⟨request, answer⟩ :: log) a

namespace Yields

variable {p : Routine α} {f : α → Routine β} {early late log : List Exchange} {a : α} {b : β}

theorem of_pure {x : α} (h : Yields (pure x) log a) : log = [] ∧ a = x := by
  cases h
  exact ⟨rfl, rfl⟩

theorem bind (hp : Yields p early a) (hf : Yields (f a) late b) : Yields (p >>= f) (early ++ late) b := by
  induction hp with
  | done => exact hf
  | read now rest ih => exact .read now (ih hf)
  | slept rest ih => exact .slept (ih hf)
  | sent answer rest ih => exact .sent answer (ih hf)

theorem of_bind (h : Yields (p >>= f) log b) :
    ∃ early late a, log = early ++ late ∧ Yields p early a ∧ Yields (f a) late b := by
  induction p generalizing log with
  | done a => exact ⟨[], log, a, rfl, .done, h⟩
  | call op next ih =>
      cases h with
      | read now rest =>
          obtain ⟨early, late, a, rfl, hp, hf⟩ := ih now rest
          exact ⟨early, late, a, rfl, .read now hp, hf⟩
      | slept rest =>
          obtain ⟨early, late, a, rfl, hp, hf⟩ := ih () rest
          exact ⟨early, late, a, rfl, .slept hp, hf⟩
      | sent answer rest =>
          obtain ⟨early, late, a, rfl, hp, hf⟩ := ih answer rest
          exact ⟨_ :: early, late, a, rfl, .sent answer hp, hf⟩

end Yields

section Redirected

variable {request next : Request} {response : Response}

theorem redirected?_eq (h : redirected? request response = some next) :
    response.status ∈ [301, 302, 303] ∧ next.method ≠ "POST" ∨
      response.status ∈ [307, 308] ∧ next = { request with url := next.url } := by
  obtain ⟨location, -, h⟩ := Option.bind_eq_some_iff.mp h
  obtain ⟨url, -, h⟩ := Option.bind_eq_some_iff.mp h
  split at h
  · next hturns =>
      obtain rfl := Option.some.inj h
      refine .inl ⟨List.contains_iff_mem.mp hturns, ?_⟩
      dsimp only
      split
      · next hread =>
          rcases hread with hread | hread <;> simp [hread]
      · decide
  · split at h
    · next hrepeats =>
        obtain rfl := Option.some.inj h
        exact .inr ⟨List.contains_iff_mem.mp hrepeats, rfl⟩
    · cases h

/-- No redirect counts as the answer to a request. -/
def Final (counts : Nat → Prop) : Prop := ∀ status ∈ [301, 302, 303, 307, 308], ¬ counts status

theorem Final.redirected?_eq_none {counts : Nat → Prop} (hfinal : Final counts) (h : counts response.status) :
    redirected? request response = none := by
  cases hnext : redirected? request response with
  | none => rfl
  | some next =>
      rcases redirected?_eq hnext with ⟨hmem, -⟩ | ⟨hmem, -⟩
      · exact absurd h (hfinal _ (List.mem_append_left [307, 308] hmem))
      · exact absurd h (hfinal _ (List.mem_append_right [301, 302, 303] hmem))

end Redirected

/-- A request and where its answers redirect it, up to the one that makes the result. -/
inductive Chain : Request → List Exchange → Except Failure Response → Prop
  | answered {q r} (final : redirected? q r = none) : Chain q [⟨q, .ok r⟩] (.ok r)
  | unanswered {q} (silence : Silence) : Chain q [⟨q, .error silence⟩] (.error (.unanswered silence q.url))
  | abandoned {q r onward} (h : redirected? q r = some onward) : Chain q [⟨q, .ok r⟩] (.error (.redirects onward.url))
  | redirected {q r onward log result} (h : redirected? q r = some onward) (rest : Chain onward log result) :
      Chain q (⟨q, .ok r⟩ :: log) result

variable {request : Request} {response : Response} {headers : List Header} {body : String} {counts : Nat → Prop}
  {log : List Exchange} {result : Except Failure Response}

theorem Yields.chain {limit : Nat} (h : Yields (follow limit request) log result) : Chain request log result := by
  induction limit using Nat.strongRecOn generalizing request log with
  | ind limit ih =>
      unfold follow at h
      obtain _ | _ | _ | ⟨silence | response, rest⟩ := h
      · obtain ⟨rfl, rfl⟩ := rest.of_pure
        exact .unanswered silence
      · cases honward : redirected? request response with
        | none =>
            simp only [Program.bind, honward] at rest
            obtain ⟨rfl, rfl⟩ := rest.of_pure
            exact .answered honward
        | some onward =>
            simp only [Program.bind, honward] at rest
            cases limit with
            | zero =>
                obtain ⟨rfl, rfl⟩ := rest.of_pure
                exact .abandoned honward
            | succ limit => exact .redirected honward (ih limit limit.lt_succ_self rest)

theorem Chain.yields {limit : Nat} (h : Chain request log (.ok response)) (hlimit : log.length ≤ limit + 1) :
    Yields (follow limit request) log (.ok response) := by
  generalize hresult : Except.ok response = result at h ⊢
  induction h generalizing limit with
  | unanswered | abandoned => cases hresult
  | answered final =>
      unfold follow
      refine .sent _ ?_
      simp only [Program.bind, final]
      exact .done
  | redirected onward rest ih =>
      cases limit with
      | zero => cases rest <;> cases hlimit <;> contradiction
      | succ limit =>
          unfold follow
          refine .sent _ ?_
          simp only [Program.bind, onward]
          exact ih (Nat.le_of_succ_le_succ hlimit) hresult

theorem Yields.posted {url : String} (h : Yields (post url headers body) log result) :
    log = [] ∧ (∃ e, result = .error e) ∨ ∃ request, post? url headers body = .ok request ∧ Chain request log result := by
  unfold post at h
  split at h
  · next e _ =>
      obtain ⟨rfl, rfl⟩ := h.of_pure
      exact .inl ⟨rfl, e, rfl⟩
  · next request hpost => exact .inr ⟨request, hpost, h.chain⟩

theorem post?_eq_ok_iff {url : String} : post? url headers body = .ok request ↔ ∃ u, Url.ofText? url = some u ∧
    hasHost u ∧ (∀ h ∈ headers, isHeaderText h.value) ∧ isRequestable u ∧ request = ⟨"POST", u, headers, some body⟩ := by
  constructor
  · intro h
    unfold post? at h
    split at h
    · cases h
    · next u hurl =>
        split_ifs at h with hhost hheaders hrequestable
        obtain rfl := Except.ok.inj h
        simp only [Bool.not_eq_true', Bool.not_eq_false] at hhost hrequestable
        exact ⟨u, hurl, hhost, by simpa using hheaders, hrequestable, rfl⟩
  · rintro ⟨u, hurl, hhost, hheaders, hrequestable, rfl⟩
    have hany : (headers.any fun h => !isHeaderText h.value) = false := by simpa using hheaders
    simp only [post?, hurl, hhost, hany, hrequestable, Bool.not_true, Bool.false_eq_true, if_false]

theorem posts_of_post? {url : String} (h : post? url headers body = .ok request) : request.Posts headers body := by
  obtain ⟨u, -, -, -, -, rfl⟩ := post?_eq_ok_iff.mp h
  exact ⟨rfl, rfl, List.Subset.refl headers⟩

namespace Chain

theorem settles (h : Chain request log result) {e : Exchange} (he : e ∈ log) (hanswer : e.answer = .ok response)
    (hfinal : redirected? e.request response = none) : result = .ok response := by
  induction h with
  | answered =>
      obtain rfl := List.mem_singleton.mp he
      exact congrArg _ (Except.ok.inj hanswer)
  | unanswered =>
      obtain rfl := List.mem_singleton.mp he
      cases hanswer
  | abandoned honward =>
      obtain rfl := List.mem_singleton.mp he
      obtain rfl := Except.ok.inj hanswer
      exact absurd (honward.symm.trans hfinal) (Option.some_ne_none _)
  | redirected honward rest ih =>
      rcases List.mem_cons.mp he with rfl | he
      · obtain rfl := Except.ok.inj hanswer
        exact absurd (honward.symm.trans hfinal) (Option.some_ne_none _)
      · exact ih he

theorem keeps {P : Request → Prop} (h : Chain request log result)
    (hstep : ∀ {q next : Request} {r : Response}, redirected? q r = some next → P q → P next) (hrequest : P request)
    {e : Exchange} (he : e ∈ log) : P e.request := by
  induction h with
  | answered | unanswered | abandoned =>
      obtain rfl := List.mem_singleton.mp he
      exact hrequest
  | redirected honward rest ih =>
      rcases List.mem_cons.mp he with rfl | he
      · exact hrequest
      · exact ih (hstep honward hrequest) he

theorem reads (h : Chain request log result) (hread : request.method ≠ "POST") {e : Exchange} (he : e ∈ log) :
    e.request.method ≠ "POST" := by
  refine h.keeps (P := fun q => q.method ≠ "POST") (fun honward hread => ?_) hread he
  rcases redirected?_eq honward with ⟨-, hnext⟩ | ⟨-, hnext⟩
  · exact hnext
  · exact hnext ▸ hread

theorem earns_iff (h : Chain request log (.ok response)) (hposts : request.Posts headers body) (hfinal : Final counts)
    (hcounts : counts response.status) : (∃ e ∈ log, e.Earns headers body counts) ↔ ∀ e ∈ log, ¬ e.Turns := by
  generalize hresult : Except.ok response = result at h
  induction h with
  | unanswered | abandoned => cases hresult
  | answered =>
      obtain rfl := Except.ok.inj hresult
      refine iff_of_true ⟨_, .head _, hposts, _, rfl, hcounts⟩ ?_
      rintro e he ⟨status, hmem, hstatus⟩
      obtain rfl := List.mem_singleton.mp he
      obtain rfl := Option.some.inj hstatus
      exact hfinal _ (List.mem_append_left [307, 308] hmem) hcounts
  | @redirected request answer onward log result honward rest ih =>
      have hunearned : ¬ (⟨request, .ok answer⟩ : Exchange).Earns headers body counts := by
        rintro ⟨-, status, hstatus, hcounts⟩
        obtain rfl := Option.some.inj hstatus
        exact absurd (honward.symm.trans (hfinal.redirected?_eq_none hcounts)) (Option.some_ne_none _)
      rcases redirected?_eq honward with ⟨hturns, hread⟩ | ⟨hrepeats, hsame⟩
      · refine iff_of_false ?_ fun hnone => hnone _ (.head _) ⟨_, hturns, rfl⟩
        rintro ⟨e, he, hearns⟩
        rcases List.mem_cons.mp he with rfl | he
        · exact hunearned hearns
        · exact rest.reads hread he hearns.1.method
      · have hposts' : onward.Posts headers body := by
          rw [hsame]
          exact ⟨hposts.method, hposts.body, hposts.headers⟩
        have hstays : ¬ (⟨request, .ok answer⟩ : Exchange).Turns := by
          rintro ⟨status, hmem, hstatus⟩
          obtain rfl := Option.some.inj hstatus
          have hdisjoint : ∀ status ∈ [301, 302, 303], status ∉ [307, 308] := by decide
          exact hdisjoint _ hmem hrepeats
        simpa [hunearned, hstays] using ih hposts' hresult

end Chain

end SandboxTasks.Http
