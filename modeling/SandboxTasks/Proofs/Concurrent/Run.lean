import Mathlib.Logic.Relation
import SandboxTasks.Proofs.Concurrent.Pass

namespace SandboxTasks

open Store

inductive Mode (α : Type) where
  | running (rest : Routine α)
  | dropped (waiting : Operation)

structure Thread where
  job : Job
  past : History
  mode : Mode job.Result

namespace Job

variable {id : String}

def thread (id : String) (j : Job) : Thread := ⟨j, [], .running (j.routine id)⟩

def asked : Job → Bool
  | leftover _ => false
  | _ => true

def leaves (id : String) : Job → Operation → List Thread
  | credential _, waiting => [(leftover waiting).thread id]
  | _, _ => []

theorem past_of_leaves {j : Job} {waiting : Operation} {t : Thread} (h : t ∈ j.leaves id waiting) : t.past = [] := by
  cases j with
  | credential => rw [List.mem_singleton.mp h]; rfl
  | _ => cases h

theorem routine_conforms {j : Job} (h : ∀ i repository, j = leftover (.exchange i repository) → i = id) :
    Conforms (j.May id) j.Ends [] (j.routine id) := by
  match j with
  | report r => exact report_conforms r
  | cancel => exact cancel_conforms
  | credential configured => exact credential_conforms configured
  | pass policy notifier => exact Reconcile.pass_conforms
  | leftover waiting => exact leftover_conforms fun i repository he => h i repository (he ▸ rfl)

end Job

structure Pool {id : String} (C : Contract id) where
  state : C.State
  threads : List Thread

variable {id : String} {C : Contract id} {others : Option Versioned → Option Versioned → Prop}

/-- A thread moves: its request is answered, or it is dropped before its request is carried out, or after. -/
inductive Moves (C : Contract id) : C.State → Thread → C.State → List Thread → Prop
  | answer {s s' j past op next} {a : op.Answer} (h : C.serves s op a s') :
      Moves C s ⟨j, past, .running (.call op next)⟩ s' [⟨j, ⟨op, a⟩ :: past, .running (next a)⟩]
  | drop {s j past op next} :
      Moves C s ⟨j, past, .running (.call op next)⟩ s (⟨j, past, .dropped op⟩ :: j.leaves id op)
  | lose {s s' j past op next} {a : op.Answer} (h : C.serves s op a s') :
      Moves C s ⟨j, past, .running (.call op next)⟩ s' (⟨j, ⟨op, a⟩ :: past, .dropped op⟩ :: j.leaves id op)

/-- `others` says what clients that are not jobs may do to the task. -/
inductive Step (C : Contract id) (others : Option Versioned → Option Versioned → Prop) : Pool C → Pool C → Prop
  | start {s ts} (j : Job) (h : j.asked) : Step C others ⟨s, ts⟩ ⟨s, j.thread id :: ts⟩
  | move {s s' t ts before after} (h : Moves C s t s' ts) :
      Step C others ⟨s, before ++ t :: after⟩ ⟨s', before ++ ts ++ after⟩
  | other {s s' op ts} {a : op.Answer} (h : C.serves s op a s') (ho : others (C.current s) (C.current s')) :
      Step C others ⟨s, ts⟩ ⟨s', ts⟩

def Run (C : Contract id) (others : Option Versioned → Option Versioned → Prop) : Pool C → Pool C → Prop :=
  Relation.ReflTransGen (Step C others)

namespace Thread

/-- The thread keeps to the rule of its job, and what it saw last is current or retired. -/
structure Sound (C : Contract id) (s : C.State) (t : Thread) : Prop where
  knows : ∀ r, t.past.lastSeen? = some r → C.Knows s r
  conforms : ∀ rest, t.mode = .running rest → Conforms (t.job.May id) t.job.Ends t.past rest

variable {s s' : C.State} {t : Thread} {op : Operation} {a : op.Answer}

theorem Sound.carry (h : t.Sound C s) (hs : C.serves s op a s') : t.Sound C s' :=
  ⟨fun r hr => (h.knows r hr).carry hs, h.conforms⟩

theorem sound_new {j : Job} (h : ∀ i repository, j = .leftover (.exchange i repository) → i = id) :
    (j.thread id).Sound C s where
  knows _ hr := by cases hr
  conforms _ hm := by cases hm; exact Job.routine_conforms h

theorem sound_asked {j : Job} (h : j.asked) : (j.thread id).Sound C s :=
  sound_new fun _ _ he => by rw [he] at h; cases h

theorem sound_leaves {j : Job} {past : History} (h : j.May id past op) : ∀ t ∈ j.leaves id op, t.Sound C s := by
  intro t ht
  cases j with
  | credential configured =>
      obtain rfl := List.mem_singleton.mp ht
      refine sound_new fun i repository he => ?_
      cases he
      exact h.1
  | _ => cases ht

end Thread

/-- What an answered request of a job comes to for the task: nothing, or one of its changes to the record it saw. -/
inductive Effect (C : Contract id) (s s' : C.State) (j : Job) (past : History) (turn : Turn) : Prop
  | quiet (hview : C.view s' = C.view s) (hwrote : turn.wrote = false)
  | wrote {r t : Versioned} {change : Change} {now : Instant} {next : Status} (hbefore : C.current s = some r)
      (hseen : past.lastSeen? = some r) (hmakes : j.Makes past.writes change)
      (hchange : change now r.record = some next) (hafter : C.current s' = some t)
      (hrecord : t.record = { r.record with status := next }) (hturn : turn = ⟨.swap id r.version next, .ok t⟩)
      (hclock : past.head? = some ⟨.now, now⟩)

section Answer

variable {s s' : C.State} {j : Job} {past : History} {op : Operation} {a : op.Answer}

theorem effect_of_serves (hknows : ∀ r, past.lastSeen? = some r → C.Knows s r) (hmay : j.May id past op)
    (h : C.serves s op a s') : Effect C s s' j past ⟨op, a⟩ := by
  cases op with
  | swap i version status =>
      obtain ⟨rfl, seen, now, change, hseen, rfl, hmakes, hchange, hclock⟩ := hmay
      match a, h with
      | .error e, h => exact .quiet (C.swap_error h) rfl
      | .ok t, h =>
          obtain ⟨-, hafter, r, hbefore, hversion, hrecord⟩ := C.swap_ok h
          cases (hknows seen hseen).eq_of_version hbefore hversion
          exact .wrote hbefore hseen hmakes hchange hafter hrecord rfl hclock
  | create | erase => cases hmay
  | _ => exact .quiet (C.elsewhere h (by simp)) rfl

theorem current_of_shows {r : Versioned} (hmay : j.May id past op) (h : C.serves s op a s')
    (hr : (⟨op, a⟩ : Turn).shows? = some r) : C.current s' = some r := by
  cases op with
  | find i =>
      obtain rfl : i = id := hmay
      cases a with
      | ok found =>
          rw [Contract.current, C.elsewhere h (by simp), ← C.find_ok h]
          exact hr
      | error e => cases hr
  | swap i version status =>
      obtain ⟨rfl, -⟩ := hmay
      cases a with
      | ok t => exact Option.some.inj hr ▸ (C.swap_ok h).2.1
      | error e => cases hr
  | _ => cases hr

theorem knows_answer (hknows : ∀ r, past.lastSeen? = some r → C.Knows s r) (hmay : j.May id past op)
    (h : C.serves s op a s') {r : Versioned} (hr : History.lastSeen? (⟨op, a⟩ :: past) = some r) : C.Knows s' r := by
  rw [History.lastSeen?_cons, Option.or_eq_some_iff] at hr
  rcases hr with hshown | ⟨-, hseen⟩
  · exact C.knows_current (current_of_shows hmay h hshown)
  · exact (hknows r hseen).carry h

end Answer

namespace Moves

variable {s s' : C.State} {t : Thread} {ts : List Thread}

theorem sound (h : Moves C s t s' ts) (ht : t.Sound C s) : ∀ u ∈ ts, u.Sound C s' := by
  cases h with
  | answer hs =>
      obtain ⟨hmay, hnext⟩ := ht.conforms _ rfl
      rw [List.forall_mem_singleton]
      exact ⟨fun r hr => knows_answer ht.knows hmay hs hr, fun _ hm => by cases hm; exact hnext _ (C.fits hs)⟩
  | drop =>
      obtain ⟨hmay, -⟩ := ht.conforms _ rfl
      exact List.forall_mem_cons.mpr ⟨⟨ht.knows, fun _ hm => nomatch hm⟩, Thread.sound_leaves hmay⟩
  | lose hs =>
      obtain ⟨hmay, -⟩ := ht.conforms _ rfl
      refine List.forall_mem_cons.mpr ⟨⟨fun r hr => knows_answer ht.knows hmay hs hr, fun _ hm => nomatch hm⟩, ?_⟩
      exact Thread.sound_leaves hmay

end Moves

theorem Effect.isSome {s s' : C.State} {j : Job} {past : History} {turn : Turn} (h : Effect C s s' j past turn) :
    (C.current s').isSome = (C.current s).isSome := by
  cases h with
  | quiet hview => rw [Contract.current, Contract.current, hview]
  | wrote hbefore _ _ _ hafter => rw [hbefore, hafter]; rfl

theorem Moves.isSome {s s' : C.State} {t : Thread} {ts : List Thread} (h : Moves C s t s' ts) (ht : t.Sound C s) :
    (C.current s').isSome = (C.current s).isSome := by
  cases h with
  | drop => rfl
  | answer hs | lose hs => exact (effect_of_serves ht.knows (ht.conforms _ rfl).1 hs).isSome

def Pool.Sound (c : Pool C) : Prop := ∀ t ∈ c.threads, t.Sound C c.state

namespace Step

variable {c d : Pool C}

/-- What every new thread has, no request takes from the other threads, and each move keeps, all threads have. -/
theorem forall_threads {P : C.State → Thread → Prop} (h : Step C others c d)
    (hnew : ∀ s (j : Job), j.asked → P s (j.thread id))
    (hcarry : ∀ s s' op (a : op.Answer) t, C.serves s op a s' → P s t → P s' t)
    (hmoves : ∀ s s' t ts, Moves C s t s' ts → P s t → ∀ u ∈ ts, P s' u) (hc : ∀ t ∈ c.threads, P c.state t) :
    ∀ t ∈ d.threads, P d.state t := by
  cases h with
  | start j hj => exact List.forall_mem_cons.mpr ⟨hnew _ j hj, hc⟩
  | @move s s' t ts before after hm =>
      have hothers {u : Thread} (hu : P s u) : P s' u := by
        cases hm with
        | drop => exact hu
        | answer hs | lose hs => exact hcarry _ _ _ _ _ hs hu
      intro u hu
      rcases List.mem_append.mp hu with hu | hu
      · rcases List.mem_append.mp hu with hu | hu
        · exact hothers (hc u (List.mem_append_left _ hu))
        · exact hmoves _ _ _ _ hm (hc t (List.mem_append_right _ (.head _))) u hu
      · exact hothers (hc u (List.mem_append_right _ (.tail _ hu)))
  | other hs => exact fun t ht => hcarry _ _ _ _ _ hs (hc t ht)

theorem sound (h : Step C others c d) (hc : c.Sound) : d.Sound :=
  h.forall_threads (fun _ _ hj => Thread.sound_asked hj) (fun _ _ _ _ _ hs ht => ht.carry hs)
    (fun _ _ _ _ hm ht => hm.sound ht) hc

theorem task (h : Step C others c d) (hc : c.Sound) :
    C.current d.state = C.current c.state ∨
    (∃ j writes change now r next t, Job.Makes j writes change ∧ change now r.record = some next ∧
      C.current c.state = some r ∧ C.current d.state = some t ∧ t.record = { r.record with status := next }) ∨
    others (C.current c.state) (C.current d.state) := by
  have heffect {s s' j past turn} (he : Effect C s s' j past turn) : C.current s' = C.current s ∨
      ∃ j writes change now r next t, Job.Makes j writes change ∧ change now r.record = some next ∧
        C.current s = some r ∧ C.current s' = some t ∧ t.record = { r.record with status := next } := by
    cases he with
    | quiet hview => exact .inl (congrArg View.current hview)
    | wrote hbefore _ hmakes hchange hafter hrecord =>
        exact .inr ⟨_, _, _, _, _, _, _, hmakes, hchange, hbefore, hafter, hrecord⟩
  cases h with
  | start => exact .inl rfl
  | move hm =>
      cases hm with
      | drop => exact .inl rfl
      | answer hs | lose hs =>
          have ht := hc _ (List.mem_append_right _ (.head _))
          rcases heffect (effect_of_serves ht.knows (ht.conforms _ rfl).1 hs) with hsame | hwrote
          · exact .inl hsame
          · exact .inr (.inl hwrote)
  | other _ ho => exact .inr (.inr ho)

end Step

theorem Run.answer {s s' : C.State} {j : Job} {past : History} {op : Operation} {next : op.Answer → Routine j.Result}
    {a : op.Answer} {after : List Thread} {d : Pool C} (before : List Thread) (h : C.serves s op a s')
    (rest : Run C others ⟨s', before ++ ⟨j, ⟨op, a⟩ :: past, .running (next a)⟩ :: after⟩ d) :
    Run C others ⟨s, before ++ ⟨j, past, .running (.call op next)⟩ :: after⟩ d :=
  .head (Step.move (.answer h)) (by simpa [Run] using rest)

theorem Run.answers {s s' : C.State} {j : Job} {past past' : History} {p p' : Routine j.Result} {after : List Thread}
    {d : Pool C} (before : List Thread) (h : AnsweredRun C.serves s past p s' past' p')
    (rest : Run C others ⟨s', before ++ ⟨j, past', .running p'⟩ :: after⟩ d) :
    Run C others ⟨s, before ++ ⟨j, past, .running p⟩ :: after⟩ d := by
  induction h with
  | refl => exact rest
  | head h _ ih => exact .answer before h (ih rest)

theorem Run.start {s : C.State} {ts : List Thread} {d : Pool C} (j : Job) (h : j.asked)
    (rest : Run C others ⟨s, j.thread id :: ts⟩ d) : Run C others ⟨s, ts⟩ d :=
  .head (.start j h) rest

theorem Run.other {s s' : C.State} {op : Operation} {a : op.Answer} {ts : List Thread} {d : Pool C}
    (h : C.serves s op a s') (ho : others (C.current s) (C.current s')) (rest : Run C others ⟨s', ts⟩ d) :
    Run C others ⟨s, ts⟩ d :=
  .head (.other h ho) rest

theorem run_sound {c d : Pool C} (h : Run C others c d) (hc : c.Sound) : d.Sound := by
  induction h with
  | refl => exact hc
  | tail _ hs ih => exact hs.sound ih

theorem sound_idle (s : C.State) : (⟨s, []⟩ : Pool C).Sound := fun _ ht => nomatch ht

end SandboxTasks
