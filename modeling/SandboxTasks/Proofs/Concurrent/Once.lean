import Mathlib.Algebra.Order.BigOperators.Group.List
import SandboxTasks.Proofs.Concurrent.Uphold

namespace SandboxTasks

open Store

namespace Turn

/-- The turn made the task as `p` says, which it was not when it was last seen. -/
def turns (p : Status → Bool) (seen : Option Versioned) : Turn → Bool
  | ⟨.swap _ _ next, .ok _⟩ => p next && !seen.any (p ·.record.status)
  | _ => false

theorem turns_eq_false {p : Status → Bool} {seen : Option Versioned} {turn : Turn} (h : turn.wrote = false) :
    turn.turns p seen = false := by
  obtain ⟨op, answer⟩ := turn
  cases op with
  | swap => cases answer with
    | ok t => cases h
    | error e => rfl
  | _ => rfl

end Turn

namespace History

variable {p : Status → Bool} {past : History}

def turned (p : Status → Bool) : History → Nat
  | [] => 0
  | turn :: past => turned p past + (turn.turns p (lastSeen? past)).toNat

theorem turned_cons_of_not_wrote {turn : Turn} (h : turn.wrote = false) : turned p (turn :: past) = turned p past := by
  rw [turned, Turn.turns_eq_false h]
  rfl

theorem Wrote.turned {q t : Versioned} {change : Change} (h : past.Wrote q change t)
    (hbefore : p q.record.status = false) (hafter : p t.record.status) : 0 < past.turned p := by
  obtain ⟨earlier, now, next, -, hrecord, rfl⟩ := h
  have hnext : p next := by rw [hrecord] at hafter; exact hafter
  simp [History.turned, Turn.turns, Turn.shows?, hnext, hbefore]

theorem turns_of_turned {i version : String} {next : Status} {r q : Versioned} (hseen : past.lastSeen? = some r)
    (hbefore : ¬ 0 < past.turned p) (hafter : 0 < turned p (⟨.swap i version next, .ok q⟩ :: past)) :
    p next ∧ p r.record.status = false := by
  rw [turned, Nat.eq_zero_of_not_pos hbefore, Nat.zero_add, hseen] at hafter
  cases hturns : p next && !p r.record.status with
  | true => simpa using hturns
  | false => simp [Turn.turns, hturns] at hafter

end History

def Thread.Waits (t : Thread) (op : Operation) : Prop := ∃ next, t.mode = .running (.call op next)

variable {id : String} {C : Contract id} {others : Option Versioned → Option Versioned → Prop} {c d : Pool C}

theorem Thread.Sound.may {s : C.State} {t : Thread} {op : Operation} (h : t.Sound C s) (hwaits : t.Waits op) :
    t.job.May id t.past op := by
  obtain ⟨next, hmode⟩ := hwaits
  exact (h.conforms _ hmode).1

def Pool.total (f : Job → History → Nat) (c : Pool C) : Nat := (c.threads.map fun t => f t.job t.past).sum

theorem Pool.le_total {f : Job → History → Nat} {t : Thread} (h : t ∈ c.threads) : f t.job t.past ≤ c.total f :=
  List.single_le_sum (by simp) _ (List.mem_map_of_mem h)

theorem Pool.countP_le_total (f : Job → History → Nat) (c : Pool C) :
    c.threads.countP (fun t => 0 < f t.job t.past) ≤ c.total f := by
  unfold Pool.total
  induction c.threads with
  | nil => exact le_rfl
  | cons t ts ih =>
      rw [List.countP_cons, List.map_cons, List.sum_cons]
      split
      · next h =>
          have hpos : 0 < f t.job t.past := by simpa using h
          omega
      · omega

theorem Pool.total_pos {f : Job → History → Nat} : 0 < c.total f ↔ ∃ t ∈ c.threads, 0 < f t.job t.past := by
  constructor
  · intro h
    obtain ⟨n, hn, hpos⟩ := List.exists_mem_ne_zero_of_sum_ne_zero h.ne'
    obtain ⟨t, ht, rfl⟩ := List.mem_map.mp hn
    exact ⟨t, ht, Nat.pos_of_ne_zero hpos⟩
  · rintro ⟨t, ht, hpos⟩
    exact hpos.trans_le (Pool.le_total ht)

theorem Job.total_leaves {f : Job → History → Nat} (hnil : ∀ j, f j [] = 0) (j : Job) (op : Operation) :
    ((j.leaves id op).map fun t => f t.job t.past).sum = 0 := by
  cases j with
  | credential => exact hnil _
  | _ => rfl

theorem Step.total {f : Job → History → Nat} (hnil : ∀ j, f j [] = 0) (h : Step C others c d) :
    d.total f = c.total f ∧ (d.state = c.state ∨ others (C.current c.state) (C.current d.state)) ∨
    ∃ t ∈ c.threads, ∃ op, ∃ a : op.Answer, t.Waits op ∧ C.serves c.state op a d.state ∧
      d.total f + f t.job t.past = c.total f + f t.job (⟨op, a⟩ :: t.past) := by
  cases h with
  | start j => exact .inl ⟨by simp [Pool.total, Job.thread, hnil], .inl rfl⟩
  | other _ ho => exact .inl ⟨rfl, .inr ho⟩
  | move hm =>
      cases hm with
      | drop => exact .inl ⟨by simp [Pool.total, Job.total_leaves hnil], .inl rfl⟩
      | answer hs | lose hs =>
          refine .inr ⟨_, List.mem_append_right _ (.head _), _, _, ⟨_, rfl⟩, hs, ?_⟩
          simp [Pool.total, Job.total_leaves hnil]
          omega

def Pool.turned (p : Status → Bool) (c : Pool C) : Nat := c.total fun _ past => past.turned p

theorem Pool.turned_le {p : Status → Bool} {t : Thread} (h : t ∈ c.threads) : t.past.turned p ≤ c.turned p :=
  Pool.le_total (f := fun _ past => past.turned p) h

/-- One thread at most made the task as `p` says, and so it is since. -/
structure Pool.TurnedOnce (p : Status → Bool) (c : Pool C) : Prop where
  once : c.turned p ≤ 1
  held : 0 < c.turned p → ∀ q, C.current c.state = some q → p q.record.status

def Lasts (p : Status → Bool) : Prop := ∀ r q : Record, r.Becomes False q → p r.status → p q.status

variable {p : Status → Bool}

theorem Step.turnedOnce (hp : Lasts p) (h : Step C Spares c d) (hsound : c.Sound) (hc : c.TurnedOnce p) :
    d.TurnedOnce p := by
  have hlasts (hr : ∀ r, C.current c.state = some r → p r.record.status) (q : Versioned)
      (hq : C.current d.state = some q) : p q.record.status := by
    obtain ⟨r, hr', hbecomes⟩ := (h.meanwhile hsound).becomes q hq
    exact hp _ _ hbecomes (hr r hr')
  have hkept (hsame : d.turned p = c.turned p) : d.TurnedOnce p :=
    ⟨hsame ▸ hc.once, fun hpos => hlasts (hc.held (hsame ▸ hpos))⟩
  obtain ⟨hsame, -⟩ | ⟨t, ht, op, a, hwaits, hs, htotal⟩ := h.total (f := fun _ past => past.turned p) fun _ => rfl
  · exact hkept hsame
  · change d.turned p + t.past.turned p = c.turned p + History.turned p (⟨op, a⟩ :: t.past) at htotal
    cases effect_of_serves (hsound t ht).knows ((hsound t ht).may hwaits) hs with
    | quiet _ hwrote =>
        rw [History.turned_cons_of_not_wrote hwrote] at htotal
        exact hkept (Nat.add_right_cancel htotal)
    | @wrote r q change now next hbefore hseen _ _ hafter hrecord hturn =>
        have hturns : (⟨op, a⟩ : Turn).turns p t.past.lastSeen? = (p next && !p r.record.status) := by
          rw [hturn, hseen]
          rfl
        rw [History.turned, hturns] at htotal
        cases hbool : p next && !p r.record.status with
        | false =>
            rw [hbool] at htotal
            exact hkept (by simpa using htotal)
        | true =>
            obtain ⟨hnext, hnot⟩ : p next ∧ p r.record.status = false := by simpa using hbool
            rw [hbool] at htotal
            have hzero : c.turned p = 0 := by
              by_contra hne
              exact absurd (hnot.symm.trans (hc.held (Nat.pos_of_ne_zero hne) r hbefore)) (by decide)
            refine ⟨by simp at htotal; omega, fun _ q' hq' => ?_⟩
            cases hafter.symm.trans hq'
            rw [hrecord]
            exact hnext

theorem turnedOnce_idle (s : C.State) : (⟨s, []⟩ : Pool C).TurnedOnce p :=
  ⟨Nat.zero_le _, fun h => absurd h (Nat.lt_irrefl 0)⟩

theorem run_turnedOnce (hp : Lasts p) (h : Run C Spares c d) (hsound : c.Sound) (hc : c.TurnedOnce p) :
    d.TurnedOnce p := by
  induction h with
  | refl => exact hc
  | tail hrun hs ih => exact hs.turnedOnce hp (run_sound hrun hsound) ih

end SandboxTasks
