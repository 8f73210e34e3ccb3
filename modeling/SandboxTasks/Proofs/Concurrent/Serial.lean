import Mathlib.Algebra.Notation.Lemmas
import SandboxTasks.Proofs.Concurrent.Among

namespace SandboxTasks

open Store

def Mode.isWaiting {α : Type} : Mode α → Bool
  | .running (.call _ _) => true
  | _ => false

theorem Mode.isWaiting_iff {α : Type} {m : Mode α} : m.isWaiting ↔ ∃ op next, m = .running (.call op next) := by
  cases m with
  | dropped op => simp [isWaiting]
  | running rest =>
      cases rest with
      | done a => simp [isWaiting]
      | call op next => exact ⟨fun _ => ⟨op, next, rfl⟩, fun _ => rfl⟩

/-- The thread is a pass that has neither ended nor been dropped. -/
def Thread.passing (t : Thread) : Bool := t.job.isPass && t.mode.isWaiting

theorem Thread.passing_iff {t : Thread} : t.passing ↔ t.job.isPass ∧ ∃ op, t.Waits op := by
  rw [passing, Bool.and_eq_true, Mode.isWaiting_iff]
  rfl

variable {id : String}

/-- A step of jobs whose passes take turns; `others` says what clients that are not jobs may do. -/
inductive Orderly (C : Contract id) (others : C.State → C.State → Prop) : Pool C → Pool C → Prop
  | start {s ts} (j : Job) (h : j.asked) (hfree : j.isPass → ∀ t ∈ ts, ¬ t.passing) :
      Orderly C others ⟨s, ts⟩ ⟨s, j.thread id :: ts⟩
  | move {s s' t ts before after} (h : Moves C s t s' ts) :
      Orderly C others ⟨s, before ++ t :: after⟩ ⟨s', before ++ ts ++ after⟩
  | other {s s' op ts} {a : op.Answer} (h : C.serves s op a s') (ho : others s s') : Orderly C others ⟨s, ts⟩ ⟨s', ts⟩

def OrderlyRun (C : Contract id) (others : C.State → C.State → Prop) : Pool C → Pool C → Prop :=
  Relation.ReflTransGen (Orderly C others)

def Pool.Serial {C : Contract id} (c : Pool C) : Prop := c.threads.countP (·.passing) ≤ 1

variable {C : Contract id} {others : C.State → C.State → Prop} {c d : Pool C}

theorem Job.not_passing_of_leaves {j : Job} {op : Operation} : (j.leaves id op).countP (·.passing) = 0 := by
  cases j <;> rfl

theorem Moves.passing_le {s s' : C.State} {t : Thread} {ts : List Thread} (h : Moves C s t s' ts) :
    ts.countP (·.passing) ≤ t.passing.toNat := by
  cases h with
  | @answer s' j past op next a hs =>
      have hwas : (⟨j, past, .running (.call op next)⟩ : Thread).passing = j.isPass := Bool.and_true _
      rw [hwas, List.countP_singleton]
      cases hpass : j.isPass with
      | true => exact ite_le_one le_rfl (Nat.zero_le 1)
      | false => simp [Thread.passing, hpass]
  | drop | lose =>
      rw [List.countP_cons, Job.not_passing_of_leaves]
      simp [Thread.passing, Mode.isWaiting]

namespace Orderly

theorem serial (h : Orderly C others c d) (hc : c.Serial) : d.Serial := by
  cases h with
  | @start s ts j hj hfree =>
      unfold Pool.Serial
      rw [List.countP_cons]
      cases hpass : j.isPass with
      | true =>
          have hnone : ts.countP (·.passing) = 0 := List.countP_eq_zero.mpr (hfree hpass)
          rw [hnone, Nat.zero_add]
          exact ite_le_one le_rfl (Nat.zero_le 1)
      | false =>
          have hnot : (j.thread id).passing = false := by simp [Job.thread, Thread.passing, hpass]
          rw [hnot]
          exact hc
  | other => exact hc
  | @move s s' t ts before after hm =>
      have hle := hm.passing_le
      have hcount : (before ++ t :: after).countP (·.passing) ≤ 1 := hc
      rw [List.countP_append, List.countP_cons] at hcount
      unfold Pool.Serial
      rw [List.countP_append, List.countP_append]
      cases hpassing : t.passing with
      | true =>
          rw [hpassing] at hle hcount
          simp only [if_true, Bool.toNat_true] at hle hcount
          omega
      | false =>
          rw [hpassing] at hle hcount
          simp only [Bool.false_eq_true, if_false, Bool.toNat_false] at hle hcount
          omega

theorem step (h : Orderly C others c d) (hothers : ∀ s s', others s s' → Spares (C.current s) (C.current s')) :
    Step C Spares c d := by
  cases h with
  | start j hj => exact .start j hj
  | move hm => exact .move hm
  | other hs ho => exact .other hs (hothers _ _ ho)

end Orderly

theorem Pool.Serial.not_pass {s : C.State} {before after : List Thread} {t u : Thread} {op : Operation}
    (hc : Pool.Serial (⟨s, before ++ t :: after⟩ : Pool C)) (hu : u ∈ before ++ after) (hpassing : u.passing)
    (ht : t.Waits op) : ¬ t.job.isPass := by
  intro hpass
  have htp : t.passing := Thread.passing_iff.mpr ⟨hpass, op, ht⟩
  have hpos : 0 < (before ++ after).countP (·.passing) := List.countP_pos_iff.mpr ⟨u, hu, hpassing⟩
  have hcount : (before ++ t :: after).countP (·.passing) ≤ 1 := hc
  rw [List.countP_append] at hpos
  rw [List.countP_append, List.countP_cons, if_pos htp] at hcount
  omega

theorem Pool.Serial.eq {t u : Thread} (hc : c.Serial) (ht : t ∈ c.threads) (hu : u ∈ c.threads) (htp : t.passing)
    (hup : u.passing) : u = t := by
  obtain ⟨s, threads⟩ := c
  obtain ⟨before, after, rfl⟩ := List.append_of_mem ht
  obtain ⟨hpass, op, hwaits⟩ := Thread.passing_iff.mp htp
  by_contra hne
  have hu' : u ∈ before ++ after := by
    rcases List.mem_append.mp hu with hu | hu
    · exact List.mem_append_left _ hu
    · exact List.mem_append_right _ ((List.mem_cons.mp hu).resolve_left hne)
  exact hc.not_pass hu' hup hwaits hpass

theorem Moves.waits {s s' : C.State} {t : Thread} {ts : List Thread} (h : Moves C s t s' ts) : ∃ op, t.Waits op := by
  cases h <;> exact ⟨_, _, rfl⟩

theorem Orderly.origin (h : Orderly C others c d) (hsound : c.Sound) (hserial : c.Serial) :
    ∀ u ∈ d.threads, Origin C others (·.isPass) c d.state u := by
  cases h with
  | start j hj =>
      refine List.forall_mem_cons.mpr ⟨.started j fun i repository he => ?_, fun u hu => .kept hu (.idle rfl)⟩
      rw [he] at hj
      cases hj
  | other hs ho => exact fun u hu => .kept hu (.other hs ho)
  | @move s s' t ts before after hm =>
      intro u hu
      obtain ⟨op, hwaits⟩ := hm.waits
      have hkept (hu : u ∈ before ++ after) : Origin C others (·.isPass) ⟨s, before ++ t :: after⟩ s' u := by
        refine .kept ?_ (hm.foreign fun h => hserial.not_pass hu (Thread.passing_iff.mpr h) hwaits)
        rcases List.mem_append.mp hu with hu | hu
        · exact List.mem_append_left _ hu
        · exact List.mem_append_right _ (.tail _ hu)
      rcases List.mem_append.mp hu with hu | hu
      · rcases List.mem_append.mp hu with hu | hu
        · exact hkept (List.mem_append_left _ hu)
        · exact hm.origin (hsound t (List.mem_append_right _ (.head _))) u hu
      · exact hkept (List.mem_append_right _ hu)

theorem Orderly.foreign (h : Orderly C others c d) : Foreign C others False c d.state := by
  cases h with
  | start => exact .idle rfl
  | other hs ho => exact .other hs ho
  | move hm => exact hm.foreign False.elim

/-- All that is known of a pool whose passes take turns. -/
structure Pool.SerialInvariant (c : Pool C) : Prop where
  sound : c.Sound
  serial : c.Serial
  keepsRule : ∀ t ∈ c.threads, t.KeepsRule C (·.isPass) c.state
  recalls : ∀ t ∈ c.threads, t.Recalls C c.state

theorem Orderly.serialInvariant (h : Orderly C others c d)
    (hothers : ∀ s s', others s s' → Spares (C.current s) (C.current s')) (hc : c.SerialInvariant) : d.SerialInvariant where
  sound := (h.step hothers).sound hc.sound
  serial := h.serial hc.serial
  keepsRule u hu := (h.origin hc.sound hc.serial u hu).keepsRule hc.sound hothers fun t ht _ => hc.keepsRule t ht
  recalls u hu := (h.origin hc.sound hc.serial u hu).recalls hc.sound hothers fun t ht _ => hc.recalls t ht

theorem serialInvariant_idle (s : C.State) : (⟨s, []⟩ : Pool C).SerialInvariant where
  sound := sound_idle s
  serial := Nat.zero_le _
  keepsRule _ ht := nomatch ht
  recalls _ ht := nomatch ht

theorem run_serialInvariant (h : OrderlyRun C others c d)
    (hothers : ∀ s s', others s s' → Spares (C.current s) (C.current s')) (hc : c.SerialInvariant) : d.SerialInvariant := by
  induction h with
  | refl => exact hc
  | tail _ hs ih => exact hs.serialInvariant hothers ih

theorem Orderly.isSome (h : Orderly C others c d) (hothers : ∀ s s', others s s' → C.current s' = C.current s)
    (hc : c.Sound) : (C.current d.state).isSome = (C.current c.state).isSome := by
  cases h with
  | start => rfl
  | move hm => exact hm.isSome (hc _ (List.mem_append_right _ (.head _)))
  | other _ ho => exact congrArg Option.isSome (hothers _ _ ho)

theorem run_current (h : OrderlyRun C others c d) (hothers : ∀ s s', others s s' → C.current s' = C.current s)
    (hc : c.SerialInvariant) (hstart : (C.current c.state).isSome) : ∃ q, C.current d.state = some q := by
  rw [← Option.isSome_iff_exists]
  induction h with
  | refl => exact hstart
  | tail hrun hs ih =>
      have hmid := run_serialInvariant hrun (fun _ _ ho => .inl (hothers _ _ ho)) hc
      exact (hs.isSome hothers hmid.sound).trans ih

theorem OrderlyRun.run (h : OrderlyRun C others c d)
    (hothers : ∀ s s', others s s' → Spares (C.current s) (C.current s')) : Run C Spares c d := by
  induction h with
  | refl => exact .refl
  | tail _ hs ih => exact ih.tail (hs.step hothers)

namespace OrderlyRun

theorem answer {s s' : C.State} {j : Job} {past : History} {op : Operation} {next : op.Answer → Routine j.Result}
    {a : op.Answer} {after : List Thread} (before : List Thread) (h : C.serves s op a s')
    (rest : OrderlyRun C others ⟨s', before ++ ⟨j, ⟨op, a⟩ :: past, .running (next a)⟩ :: after⟩ d) :
    OrderlyRun C others ⟨s, before ++ ⟨j, past, .running (.call op next)⟩ :: after⟩ d :=
  .head (.move (.answer h)) (by simpa [OrderlyRun] using rest)

theorem answers {s s' : C.State} {j : Job} {past past' : History} {p p' : Routine j.Result} {after : List Thread}
    (before : List Thread) (h : AnsweredRun C.serves s past p s' past' p')
    (rest : OrderlyRun C others ⟨s', before ++ ⟨j, past', .running p'⟩ :: after⟩ d) :
    OrderlyRun C others ⟨s, before ++ ⟨j, past, .running p⟩ :: after⟩ d := by
  induction h with
  | refl => exact rest
  | head h _ ih => exact .answer before h (ih rest)

theorem drop {s : C.State} {j : Job} {past : History} {op : Operation} {next : op.Answer → Routine j.Result}
    {after : List Thread} (before : List Thread)
    (rest : OrderlyRun C others ⟨s, before ++ ⟨j, past, .dropped op⟩ :: (j.leaves id op ++ after)⟩ d) :
    OrderlyRun C others ⟨s, before ++ ⟨j, past, .running (.call op next)⟩ :: after⟩ d :=
  .head (.move .drop) (by simpa [OrderlyRun] using rest)

theorem start {s : C.State} {ts : List Thread} (j : Job) (h : j.asked)
    (hfree : j.isPass → ts.countP (·.passing) = 0) (rest : OrderlyRun C others ⟨s, j.thread id :: ts⟩ d) :
    OrderlyRun C others ⟨s, ts⟩ d :=
  .head (.start j h fun hpass => List.countP_eq_zero.mp (hfree hpass)) rest

end OrderlyRun

def onceTried : Reconcile.Policy where
  provisioningWindow := .ofSeconds 60
  provisioningPoll := .ofSeconds 1
  runningPoll := .ofSeconds 5
  taskTimeout := .ofSeconds 600
  assignmentMaxAttempts := 1
  assignmentInitialBackoff := .ofSeconds 2
  assignmentMaxBackoff := .ofSeconds 5
  callbackApi := ""

end SandboxTasks
