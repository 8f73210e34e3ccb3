import SandboxTasks.Proofs.Http.Exchange

namespace SandboxTasks

namespace Program

variable {Op : Type} {Answer : Op → Type} {α β σ : Type}

def asked (answer : (op : Op) → σ → Answer op × σ) : Program Op Answer α → σ → List ((op : Op) × Answer op)
  | .done _, _ => []
  | .call op next, s => ⟨op, (answer op s).1⟩ :: (next (answer op s).1).asked answer (answer op s).2

theorem asked_bind (answer : (op : Op) → σ → Answer op × σ) (p : Program Op Answer α) (f : α → Program Op Answer β)
    (s : σ) : (p >>= f).asked answer s = p.asked answer s ++ (f (p.run answer s).1).asked answer (p.run answer s).2 := by
  induction p generalizing s with
  | done a => rfl
  | call op next ih => exact congrArg (_ :: ·) (ih (answer op s).1 (answer op s).2)

end Program

namespace Http

abbrev Query := (op : Operation) × op.Answer

def Exchange.query (e : Exchange) : Query := ⟨.send e.request, e.answer⟩

def wait (length : Duration) : Query := ⟨.sleep length, ()⟩

variable {α σ : Type} (answer : (op : Operation) → σ → op.Answer × σ)

theorem run_ask (op : Operation) (s : σ) : (ask op).run answer s = answer op s := rfl

theorem asked_ask (op : Operation) (s : σ) : (ask op).asked answer s = [⟨op, (answer op s).1⟩] := rfl

/-- What passes when a text is posted, and what comes of it: nothing passes if there is no such request. -/
inductive Posting (url : String) (headers : List Header) (body : String) : List Exchange → Except Failure Response → Prop
  | unusable {e} (h : post? url headers body = .error e) : Posting url headers body [] (.error e)
  | made {request log result} (h : post? url headers body = .ok request) (chain : Chain request log result) :
      Posting url headers body log result

theorem asked_follow (limit : Nat) (request : Request) (s : σ) : ∃ log,
    (follow limit request).asked answer s = log.map Exchange.query ∧
      Chain request log ((follow limit request).run answer s).1 := by
  induction limit using Nat.strongRecOn generalizing request s with
  | ind limit ih =>
      unfold follow
      rw [Program.asked_bind, Program.run_bind, asked_ask, run_ask]
      cases hanswer : (answer (.send request) s).1 with
      | error silence => exact ⟨[⟨request, .error silence⟩], rfl, .unanswered silence⟩
      | ok response =>
          cases honward : redirected? request response with
          | none =>
              simp only [honward]
              exact ⟨[⟨request, .ok response⟩], rfl, .answered honward⟩
          | some onward =>
              simp only [honward]
              cases limit with
              | zero => exact ⟨[⟨request, .ok response⟩], rfl, .abandoned honward⟩
              | succ limit =>
                  obtain ⟨log, hasked, hchain⟩ := ih limit limit.lt_succ_self onward (answer (.send request) s).2
                  exact ⟨⟨request, .ok response⟩ :: log, congrArg (_ :: ·) hasked, .redirected honward hchain⟩

theorem asked_post (url : String) (headers : List Header) (body : String) (s : σ) : ∃ log,
    (post url headers body).asked answer s = log.map Exchange.query ∧
      Posting url headers body log ((post url headers body).run answer s).1 := by
  unfold post
  cases h : post? url headers body with
  | error e => exact ⟨[], rfl, .unusable h⟩
  | ok request =>
      obtain ⟨log, hasked, hchain⟩ := asked_follow answer redirectLimit request s
      exact ⟨log, hasked, .made h hchain⟩

theorem Chain.posts_or_turns {request : Request} {log : List Exchange} {result : Except Failure Response}
    {headers : List Header} {body : String} (h : Chain request log result) (hposts : request.Posts headers body) :
    (∀ e ∈ log, e.request.Posts headers body) ∨ ∃ e ∈ log, e.Turns := by
  induction h with
  | answered | unanswered | abandoned => exact .inl fun e he => List.mem_singleton.mp he ▸ hposts
  | redirected honward rest ih =>
      rcases redirected?_eq honward with ⟨hturns, -⟩ | ⟨-, hsame⟩
      · exact .inr ⟨_, .head _, _, hturns, rfl⟩
      · obtain hall | ⟨e, he, hturns⟩ := ih (hsame ▸ ⟨hposts.method, hposts.body, hposts.headers⟩)
        · exact .inl (List.forall_mem_cons.mpr ⟨hposts, hall⟩)
        · exact .inr ⟨e, .tail _ he, hturns⟩

theorem Posting.posts_or_turns {url : String} {headers : List Header} {body : String} {log : List Exchange}
    {result : Except Failure Response} (h : Posting url headers body log result) :
    (∀ e ∈ log, e.request.Posts headers body) ∨ ∃ e ∈ log, e.Turns := by
  cases h with
  | unusable => exact .inl nofun
  | made h chain => exact chain.posts_or_turns (posts_of_post? h)

theorem redirected?_body {request next : Request} {response : Response} (h : redirected? request response = some next) :
    next.body = none ∨ next = { request with url := next.url } := by
  obtain ⟨location, -, h⟩ := Option.bind_eq_some_iff.mp h
  obtain ⟨url, -, h⟩ := Option.bind_eq_some_iff.mp h
  split at h
  · exact .inl (Option.some.inj h ▸ rfl)
  · split at h
    · exact .inr (Option.some.inj h ▸ rfl)
    · cases h

theorem Posting.carries {url : String} {headers : List Header} {body : String} {log : List Exchange}
    {result : Except Failure Response} (h : Posting url headers body log result) {e : Exchange} (he : e ∈ log) :
    e.request.body = none ∨ e.request.Posts headers body := by
  cases h with
  | unusable => cases he
  | made h chain =>
      refine chain.keeps (P := fun q => q.body = none ∨ q.Posts headers body) (fun honward hq => ?_)
        (.inr (posts_of_post? h)) he
      obtain hnone | hsame := redirected?_body honward
      · exact .inl hnone
      · exact hsame ▸ hq.imp id fun hposts => ⟨hposts.method, hposts.body, hposts.headers⟩

def Exchange.Redirects (e : Exchange) : Prop :=
  ∃ response onward, e.answer = .ok response ∧ redirected? e.request response = some onward

theorem Posting.one_or_redirects {url : String} {headers : List Header} {body : String} {log : List Exchange}
    {result : Except Failure Response} (h : Posting url headers body log result) :
    log.length ≤ 1 ∨ ∃ e ∈ log, e.Redirects := by
  cases h with
  | unusable => exact .inl (Nat.zero_le 1)
  | made h chain =>
      cases chain with
      | answered | unanswered | abandoned => exact .inl (Nat.le_refl 1)
      | redirected honward => exact .inr ⟨_, .head _, _, _, rfl, honward⟩

structure Retry (α : Type) where
  attempt : Routine (Except Failure Response)
  /-- What an attempt settles the matter as; none if another may help. -/
  settled? : Except Failure Response → Option α
  /-- What is said after so many attempts, the last of which came to this. -/
  exhausted : Nat → Except Failure Response → α
  delayAfter : Nat → Duration

/-- `left` more may follow this attempt, which is number `made + 1`. -/
def Retry.attempts (r : Retry α) : Nat → Nat → Routine α
  | left, made => do
    let result ← r.attempt
    match r.settled? result with
    | some a => return a
    | none =>
      match left with
      | 0 => return r.exhausted (made + 1) result
      | left + 1 =>
        ask (.sleep (r.delayAfter (made + 1)))
        r.attempts left (made + 1)

structure Round where
  asked : List Query
  result : Except Failure Response

def Round.Answered (t : Round) (counts : Nat → Prop) : Prop := ∃ response, t.result = .ok response ∧ counts response.status

def course (delayAfter : Nat → Duration) : Nat → List Round → Round → List Query
  | _, [], last => last.asked
  | made, t :: before, last => t.asked ++ wait (delayAfter (made + 1)) :: course delayAfter (made + 1) before last

theorem mem_course {delayAfter : Nat → Duration} {made : Nat} {before : List Round} {last : Round} {q : Query}
    (h : q ∈ course delayAfter made before last) : (∃ t ∈ before ++ [last], q ∈ t.asked) ∨ ∃ length, q = wait length := by
  induction before generalizing made with
  | nil => exact .inl ⟨last, .head _, h⟩
  | cons t before ih =>
      rcases List.mem_append.mp h with ht | h
      · exact .inl ⟨t, .head _, ht⟩
      · rcases List.mem_cons.mp h with rfl | h
        · exact .inr ⟨_, rfl⟩
        · exact (ih h).imp_left fun ⟨u, hu, hq⟩ => ⟨u, .tail _ hu, hq⟩

def Retry.Makes (r : Retry α) (answer : (op : Operation) → σ → op.Answer × σ) (t : Round) : Prop :=
  ∃ s, t = ⟨r.attempt.asked answer s, (r.attempt.run answer s).1⟩

/-- The rounds of a loop: the last one settles the matter, or no further one was left. -/
structure Retry.Rounds (r : Retry α) (answer : (op : Operation) → σ → op.Answer × σ) (left made : Nat)
    (before : List Round) (last : Round) (a : α) : Prop where
  makes : ∀ t ∈ before ++ [last], r.Makes answer t
  unsettled : ∀ t ∈ before, r.settled? t.result = none
  few : before.length ≤ left
  settles : r.settled? last.result = some a ∨
    r.settled? last.result = none ∧ before.length = left ∧ a = r.exhausted (made + left + 1) last.result

namespace Retry.Rounds

variable {answer}
variable {r : Retry α} {left made : Nat} {t last : Round} {before : List Round} {a : α}

theorem alone (ht : r.Makes answer t) (hsettles : r.settled? t.result = some a ∨
    r.settled? t.result = none ∧ 0 = left ∧ a = r.exhausted (made + left + 1) t.result) :
    r.Rounds answer left made [] t a where
  makes := fun _ hu => List.mem_singleton.mp hu ▸ ht
  unsettled := nofun
  few := Nat.zero_le left
  settles := hsettles

theorem after (h : r.Rounds answer left (made + 1) before last a) (ht : r.Makes answer t)
    (hunsettled : r.settled? t.result = none) : r.Rounds answer (left + 1) made (t :: before) last a where
  makes := List.forall_mem_cons.mpr ⟨ht, h.makes⟩
  unsettled := List.forall_mem_cons.mpr ⟨hunsettled, h.unsettled⟩
  few := Nat.succ_le_succ h.few
  settles := by
    refine h.settles.imp_right ?_
    rintro ⟨hnone, hlength, ha⟩
    refine ⟨hnone, congrArg (· + 1) hlength, ?_⟩
    rw [ha, Nat.add_right_comm made 1 left]
    rfl

end Retry.Rounds

/-- A loop that does what an attempt and its outcome call for is the loop of these attempts. -/
theorem Retry.eq_attempts (r : Retry α) {loop : Nat → Nat → Routine α}
    (hloop : ∀ left made, loop left made = r.attempt >>= fun result =>
      match r.settled? result, left with
      | some a, _ => pure a
      | none, 0 => pure (r.exhausted (made + 1) result)
      | none, left + 1 => ask (.sleep (r.delayAfter (made + 1))) >>= fun _ => loop left (made + 1))
    (left made : Nat) : loop left made = r.attempts left made := by
  induction left using Nat.strongRecOn generalizing made with
  | ind left ih =>
      unfold attempts
      rw [hloop]
      refine bind_congr fun result => ?_
      cases r.settled? result with
      | some a => rfl
      | none =>
          cases left with
          | zero => rfl
          | succ left => exact bind_congr fun _ => ih left left.lt_succ_self (made + 1)

theorem Retry.run_attempts (r : Retry α) (left made : Nat) (s : σ) : ∃ before last,
    (r.attempts left made).asked answer s = course r.delayAfter made before last ∧
      r.Rounds answer left made before last ((r.attempts left made).run answer s).1 := by
  -- How many are left is looked at only after an attempt, so the cases on it come late and the induction is a strong one.
  induction left using Nat.strongRecOn generalizing made s with
  | ind left ih =>
      unfold attempts
      rw [Program.asked_bind, Program.run_bind]
      generalize hround : Round.mk (r.attempt.asked answer s) (r.attempt.run answer s).1 = t
      have hmakes : r.Makes answer t := ⟨s, hround.symm⟩
      rw [show r.attempt.asked answer s = t.asked from congrArg Round.asked hround,
        show (r.attempt.run answer s).1 = t.result from congrArg Round.result hround]
      cases hsettled : r.settled? t.result with
      | some a => exact ⟨[], t, List.append_nil _, .alone hmakes (.inl hsettled)⟩
      | none =>
          cases left with
          | zero => exact ⟨[], t, List.append_nil _, .alone hmakes (.inr ⟨hsettled, rfl, rfl⟩)⟩
          | succ left =>
              dsimp only
              rw [Program.asked_bind, Program.run_bind, asked_ask, run_ask]
              obtain ⟨before, last, hcourse, hrounds⟩ := ih left left.lt_succ_self (made + 1)
                (answer (.sleep (r.delayAfter (made + 1))) (r.attempt.run answer s).2).2
              exact ⟨t :: before, last, hcourse ▸ rfl, hrounds.after hmakes hsettled⟩

end Http

end SandboxTasks
