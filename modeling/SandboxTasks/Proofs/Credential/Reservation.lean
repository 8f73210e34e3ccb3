import SandboxTasks.Proofs.Concurrent.Run
import SandboxTasks.Proofs.Store.Memory
import SandboxTasks.Proofs.Task.Change

namespace SandboxTasks

open Store

variable {now : Instant} {r : Record} {next : Status}

namespace Change

theorem OfPass.has_tokenIssued {change : Change} (hpass : change.OfPass) (h : change now r = some next) :
    next.has .tokenIssued = r.status.has .tokenIssued := by
  obtain hsame | ⟨kind, holds, reason, message, hkind, -, hset⟩ := hpass.conditions h
  · exact Status.has_congr hsame
  · rw [Status.has_congr hset, Status.has_setCondition, beq_false_of_ne hkind, Bool.or_false]

theorem reserveCredential_has (h : reserveCredential now r = some next) :
    r.status.has .tokenIssued = false ∧ next.has .tokenIssued = true := by
  obtain ⟨hfree, hnext⟩ := Option.ite_none_left_eq_some.mp h
  cases hnext
  simp only [Bool.or_eq_true, not_or, Bool.not_eq_true] at hfree
  exact ⟨hfree.2, by simp⟩

theorem releaseCredential_has (h : releaseCredential now r = some next) :
    r.status.has .tokenIssued = true ∧ next.has .tokenIssued = false := by
  obtain ⟨hmarked, hnext⟩ := Option.ite_none_right_eq_some.mp h
  cases hnext
  simp [hmarked]

end Change

def Record.marks (r : Record) : Nat := (r.status.has .tokenIssued).toNat

theorem Record.marks_le_one (r : Record) : r.marks ≤ 1 := by
  unfold Record.marks
  cases r.status.has .tokenIssued <;> decide

def marks (stored : Option Versioned) : Nat := (stored.map (·.record.marks)).getD 0

@[simp] theorem marks_some (r : Versioned) : marks (some r) = r.record.marks := rfl

def Operation.isExchange : Operation → Bool
  | .exchange _ _ => true
  | _ => false

/-- The job has set the mark and not taken it off again, or it is there to take it off and has not. -/
def Job.owes : Job → History → Bool
  | credential _, past => past.writes == 1
  | leftover waiting, past => waiting.isExchange && past.writes == 0
  | _, _ => false

/-- A request that was dropped at the exchange has left its debt behind. -/
def Thread.owes : Thread → Bool
  | ⟨.credential _, past, .dropped waiting⟩ => !waiting.isExchange && past.writes == 1
  | ⟨j, past, _⟩ => j.owes past

def owing (ts : List Thread) : Nat := ts.countP (·.owes)

theorem owing_cons (t : Thread) (ts : List Thread) : owing (t :: ts) = t.owes.toNat + owing ts := by
  cases h : t.owes <;> simp [owing, h, Nat.add_comm]

theorem owing_append (ts us : List Thread) : owing (ts ++ us) = owing ts + owing us := List.countP_append

variable {id : String} {C : Contract id} {others : Option Versioned → Option Versioned → Prop}

theorem Job.owes_of_not_wrote {j : Job} {past : History} {turn : Turn} (h : turn.wrote = false) :
    j.owes (turn :: past) = j.owes past := by
  cases j with
  | credential | leftover => simp [owes, h]
  | _ => rfl

theorem Effect.balance {s s' : C.State} {j : Job} {past : History} {turn : Turn} (h : Effect C s s' j past turn) :
    (j.owes (turn :: past)).toNat + marks (C.current s) = (j.owes past).toNat + marks (C.current s') := by
  cases h with
  | quiet hview hwrote => rw [Job.owes_of_not_wrote hwrote, Contract.current, Contract.current, hview]
  | @wrote r t change now next hbefore hseen hmakes hchange hafter hrecord hturn =>
      have hwrites : History.writes (turn :: past) = past.writes + 1 := by simp [hturn, Turn.wrote]
      rw [hbefore, hafter]
      simp only [marks_some, Record.marks, hrecord]
      generalize hn : past.writes = n at hmakes hwrites
      cases hmakes with
      | report report => simp [Job.owes, Status.has_congr (Change.conditions_report hchange)]
      | cancel => simp [Job.owes, Status.has_congr (Change.conditions_terminate hchange)]
      | pass _ _ _ hpass => simp [Job.owes, hpass.has_tokenIssued hchange]
      | reserve =>
          obtain ⟨hfree, hmarked⟩ := Change.reserveCredential_has hchange
          simp [Job.owes, hn, hwrites, hfree, hmarked]
      | giveBack | release =>
          obtain ⟨hmarked, hfree⟩ := Change.releaseCredential_has hchange
          simp [Job.owes, Operation.isExchange, hn, hwrites, hfree, hmarked]

theorem owes_running {j : Job} {past : History} {rest : Routine j.Result} :
    (⟨j, past, .running rest⟩ : Thread).owes = j.owes past := by
  cases j <;> rfl

/-- Dropping a job does not change what is owed: at the exchange, the debt passes to what is left behind. -/
theorem owes_dropped {j : Job} {past : History} {op : Operation} (h : op.isExchange → j.owes past) :
    owing (⟨j, past, .dropped op⟩ :: j.leaves id op) = (j.owes past).toNat := by
  rw [owing_cons]
  cases j with
  | credential configured =>
      cases hop : op.isExchange with
      | true =>
          have howes : past.writes = 1 := by simpa [Job.owes] using h hop
          simp [owing, Job.leaves, Job.thread, Thread.owes, Job.owes, hop, howes]
      | false => simp [owing, Job.leaves, Job.thread, Thread.owes, Job.owes, hop]
  | _ => exact Nat.add_zero _

theorem owes_of_dropped {j : Job} {past : History} {op : Operation} (h : (⟨j, past, .dropped op⟩ : Thread).owes) :
    j.owes past := by
  cases j with
  | credential => exact (Bool.and_eq_true_iff.mp h).2
  | _ => exact h

theorem owes_at_exchange {j : Job} {past : History} {op : Operation} (h : j.May id past op) (hop : op.isExchange) :
    j.owes past := by
  cases op with
  | exchange i repository =>
      obtain ⟨-, ⟨configured, rfl⟩, hwrites⟩ := h
      simp [Job.owes, hwrites]
  | _ => cases hop

theorem wrote_at_exchange {op : Operation} {a : op.Answer} (hop : op.isExchange) : Turn.wrote ⟨op, a⟩ = false := by
  cases op with
  | exchange => rfl
  | _ => cases hop

namespace Moves

variable {s s' : C.State} {t : Thread} {ts : List Thread}

theorem balance (h : Moves C s t s' ts) (ht : t.Sound C s) :
    owing ts + marks (C.current s) = t.owes.toNat + marks (C.current s') := by
  cases h with
  | answer hs =>
      obtain ⟨hmay, -⟩ := ht.conforms _ rfl
      rw [owing_cons, owes_running, owes_running]
      exact (effect_of_serves ht.knows hmay hs).balance
  | drop =>
      obtain ⟨hmay, -⟩ := ht.conforms _ rfl
      rw [owes_dropped (owes_at_exchange hmay), owes_running]
  | lose hs =>
      obtain ⟨hmay, -⟩ := ht.conforms _ rfl
      rw [owes_running, ← (effect_of_serves ht.knows hmay hs).balance, owes_dropped]
      intro hop
      rw [Job.owes_of_not_wrote (wrote_at_exchange hop)]
      exact owes_at_exchange hmay hop

theorem seen (h : Moves C s t s' ts) (ht : t.Sound C s) : ∀ u ∈ ts, u.owes → ∀ r, u.past.lastSeen? = some r →
    C.current s' = some r ∨ t.owes ∧ t.past.lastSeen? = some r := by
  have hanswered {s s' : C.State} {j : Job} {past : History} {op : Operation} {a : op.Answer} (hmay : j.May id past op)
      (hs : C.serves s op a s') (howes : j.owes (⟨op, a⟩ :: past)) (r : Versioned)
      (hr : History.lastSeen? (⟨op, a⟩ :: past) = some r) :
      C.current s' = some r ∨ j.owes past ∧ past.lastSeen? = some r := by
    rw [History.lastSeen?_cons, Option.or_eq_some_iff] at hr
    rcases hr with hshown | ⟨hnothing, hseen⟩
    · exact .inl (current_of_shows hmay hs hshown)
    · exact .inr ⟨Job.owes_of_not_wrote (Turn.wrote_eq_false_of_shows hnothing) ▸ howes, hseen⟩
  have hleaves {j : Job} {op : Operation} {s : C.State} {t : Thread} : ∀ u ∈ j.leaves id op, u.owes →
      ∀ r, u.past.lastSeen? = some r → C.current s = some r ∨ t.owes ∧ t.past.lastSeen? = some r :=
    fun u hu _ r hr => by rw [Job.past_of_leaves hu] at hr; cases hr
  cases h with
  | answer hs =>
      obtain ⟨hmay, -⟩ := ht.conforms _ rfl
      rw [List.forall_mem_singleton, owes_running, owes_running]
      exact hanswered hmay hs
  | drop =>
      refine List.forall_mem_cons.mpr ⟨fun howes r hr => .inr ⟨?_, hr⟩, hleaves⟩
      rw [owes_running]
      exact owes_of_dropped howes
  | lose hs =>
      obtain ⟨hmay, -⟩ := ht.conforms _ rfl
      refine List.forall_mem_cons.mpr ⟨fun howes => ?_, hleaves⟩
      rw [owes_running]
      exact hanswered hmay hs (owes_of_dropped howes)

end Moves

/-- Clients that neither create the task nor set its mark or take it off. -/
def KeepsMark (before after : Option Versioned) : Prop :=
  ∀ q, after = some q → ∃ r, before = some r ∧ q.record.marks = r.record.marks

/-- The mark is accounted for: `early` is how often it was on the task at the start. -/
structure Pool.Accounted (early : Nat) (c : Pool C) : Prop where
  sound : c.Sound
  bound : owing c.threads + early ≤ 1
  balance : ∀ r, C.current c.state = some r → owing c.threads + early = r.record.marks
  seen : ∀ t ∈ c.threads, t.owes → ∀ r, t.past.lastSeen? = some r → r.record.status.has .tokenIssued

theorem has_of_owing {early : Nat} {ts : List Thread} {r : Record} (h : owing ts + early = r.marks) {t : Thread}
    (ht : t ∈ ts) (howes : t.owes) : r.status.has .tokenIssued := by
  have hpos : 0 < owing ts := List.countP_pos_iff.mpr ⟨t, ht, howes⟩
  cases hhas : r.status.has .tokenIssued with
  | true => rfl
  | false =>
      simp only [Record.marks, hhas, Bool.toNat_false] at h
      omega

namespace Step

variable {c d : Pool C}

theorem owes_of_asked {j : Job} (h : j.asked) : (j.thread id).owes = false := by
  cases j with
  | leftover => cases h
  | _ => rfl

/-- A step keeps the balance, or the task is gone and nobody owes more. -/
theorem balance (h : Step C KeepsMark c d) (hc : c.Sound) :
    C.current d.state = none ∧ owing d.threads = owing c.threads ∨
    ∃ r q, C.current c.state = some r ∧ C.current d.state = some q ∧
      owing d.threads + r.record.marks = owing c.threads + q.record.marks := by
  cases h with
  | @start s ts j hj =>
      have hnew : owing (j.thread id :: ts) = owing ts := by rw [owing_cons, owes_of_asked hj]; exact Nat.zero_add _
      cases hcurrent : C.current s with
      | none => exact .inl ⟨rfl, hnew⟩
      | some r => exact .inr ⟨r, r, rfl, rfl, by rw [hnew]⟩
  | @move s s' t ts before after hm =>
      have ht := hc t (List.mem_append_right _ (.head _))
      have hbalance := hm.balance ht
      have hsome := hm.isSome ht
      simp only [owing_append, owing_cons]
      cases hafter : C.current s' with
      | none =>
          obtain hbefore : C.current s = none := by simpa [hafter] using hsome
          rw [hafter, hbefore] at hbalance
          exact .inl ⟨rfl, by omega⟩
      | some q =>
          obtain ⟨r, hr⟩ := Option.isSome_iff_exists.mp (hsome.symm.trans (by rw [hafter]; rfl))
          rw [hafter, hr, marks_some, marks_some] at hbalance
          exact .inr ⟨r, q, hr, rfl, by omega⟩
  | @other s s' op ts a hs ho =>
      cases hafter : C.current s' with
      | none => exact .inl ⟨rfl, rfl⟩
      | some q =>
          obtain ⟨r, hr, hmarks⟩ := ho q hafter
          exact .inr ⟨r, q, hr, rfl, by rw [hmarks]⟩

theorem seen (h : Step C others c d) (hc : c.Sound) : ∀ u ∈ d.threads, u.owes → ∀ r, u.past.lastSeen? = some r →
    C.current d.state = some r ∨ ∃ t ∈ c.threads, t.owes ∧ t.past.lastSeen? = some r := by
  intro u hu howes r hr
  cases h with
  | start j hj =>
      rcases List.mem_cons.mp hu with rfl | hu
      · cases hr
      · exact .inr ⟨u, hu, howes, hr⟩
  | @move s s' t ts before after hm =>
      have ht : t ∈ before ++ t :: after := List.mem_append_right _ (.head _)
      rcases List.mem_append.mp hu with hu | hu
      · rcases List.mem_append.mp hu with hu | hu
        · exact .inr ⟨u, List.mem_append_left _ hu, howes, hr⟩
        · exact (hm.seen (hc t ht) u hu howes r hr).imp_right fun hold => ⟨t, ht, hold⟩
      · exact .inr ⟨u, List.mem_append_right _ (.tail _ hu), howes, hr⟩
  | other => exact .inr ⟨u, hu, howes, hr⟩

theorem accounted {early : Nat} (h : Step C KeepsMark c d) (hc : c.Accounted early) : d.Accounted early := by
  have hbound : owing d.threads + early ≤ 1 ∧
      ∀ q, C.current d.state = some q → owing d.threads + early = q.record.marks := by
    rcases h.balance hc.sound with ⟨hgone, howing⟩ | ⟨r, q, hr, hq, hbalance⟩
    · exact ⟨by rw [howing]; exact hc.bound, fun q hq => nomatch hgone.symm.trans hq⟩
    · have hbefore := hc.balance r hr
      have hmarks := q.record.marks_le_one
      refine ⟨by omega, fun q' hq' => ?_⟩
      cases hq.symm.trans hq'
      omega
  refine ⟨h.sound hc.sound, hbound.1, hbound.2, fun u hu howes r hr => ?_⟩
  rcases h.seen hc.sound u hu howes r hr with hcurrent | ⟨t, ht, htowes, hseen⟩
  · exact has_of_owing (hbound.2 r hcurrent) hu howes
  · exact hc.seen t ht htowes r hseen

end Step

theorem accounted_idle (s : C.State) : (⟨s, []⟩ : Pool C).Accounted (marks (C.current s)) where
  sound := sound_idle s
  bound := by
    cases h : C.current s with
    | none => exact Nat.zero_le 1
    | some r => simpa [owing] using r.record.marks_le_one
  balance r hr := by
    rw [show C.current s = some r from hr]
    exact Nat.zero_add _
  seen _ ht := nomatch ht

theorem run_accounted {c d : Pool C} {early : Nat} (h : Run C KeepsMark c d) (hc : c.Accounted early) :
    d.Accounted early := by
  induction h with
  | refl => exact hc
  | tail _ hs ih => exact hs.accounted ih

namespace Thread

def granted : Thread → Bool
  | ⟨.credential _, _, .running (.done (.ok _))⟩ => true
  | _ => false

def exchanging : Thread → Bool
  | ⟨_, _, .running (.call (.exchange _ _) _)⟩ => true
  | _ => false

theorem Sound.owes_of_granted {s : C.State} {t : Thread} (ht : t.Sound C s) (h : t.granted) : t.owes := by
  unfold granted at h
  split at h
  · next configured past grant =>
      have hwrites : past.writes = 1 := ht.conforms _ rfl
      simp [owes, Job.owes, hwrites]
  · cases h

theorem Sound.owes_of_exchanging {s : C.State} {t : Thread} (ht : t.Sound C s) (h : t.exchanging) : t.owes := by
  unfold exchanging at h
  split at h
  · next j past i repository next =>
      obtain ⟨hmay, -⟩ := ht.conforms _ rfl
      rw [owes_running]
      exact owes_at_exchange hmay rfl
  · cases h

theorem not_granted_of_call {j : Job} {past : History} {op : Operation} {next : op.Answer → Routine j.Result} :
    (⟨j, past, .running (.call op next)⟩ : Thread).granted = false := by
  cases j <;> rfl

theorem not_exchanging_of_granted {t : Thread} (h : t.granted) : t.exchanging = false := by
  unfold granted at h
  split at h
  · rfl
  · cases h

end Thread

variable {c d : Pool C}

theorem Step.granted_mem (h : Step C others c d) {t : Thread} (ht : t ∈ c.threads) (hg : t.granted) :
    t ∈ d.threads := by
  cases h with
  | start => exact .tail _ ht
  | other => exact ht
  | @move s s' u ts before after hm =>
      have hne : t ≠ u := by
        rintro rfl
        cases hm <;> exact absurd (Thread.not_granted_of_call.symm.trans hg) (by decide)
      rcases List.mem_append.mp ht with ht | ht
      · exact List.mem_append_left _ (List.mem_append_left _ ht)
      · exact List.mem_append_right _ ((List.mem_cons.mp ht).resolve_left hne)

theorem run_granted_mem (h : Run C others c d) {t : Thread} (ht : t ∈ c.threads) (hg : t.granted) : t ∈ d.threads := by
  induction h with
  | refl => exact ht
  | tail _ hs ih => exact hs.granted_mem ih hg

theorem Pool.Accounted.at_most_one {early : Nat} (hc : c.Accounted early) :
    c.threads.countP (fun t => t.granted || t.exchanging) ≤ 1 := by
  refine (List.countP_mono_left fun t ht h => ?_).trans ((Nat.le_add_right _ early).trans hc.bound)
  rcases Bool.or_eq_true_iff.mp h with h | h
  · exact (hc.sound t ht).owes_of_granted h
  · exact (hc.sound t ht).owes_of_exchanging h

theorem eq_of_countP_le_one {p : Thread → Bool} {ts : List Thread} {t u : Thread} (h : ts.countP p ≤ 1) (ht : t ∈ ts)
    (hu : u ∈ ts) (hpt : p t) (hpu : p u) : u = t := by
  obtain ⟨before, after, rfl⟩ := List.append_of_mem ht
  rw [List.countP_append, List.countP_cons_of_pos hpt] at h
  have hnone {us : List Thread} (hus : us.countP p = 0) : u ∉ us := fun hmem => List.countP_eq_zero.mp hus u hmem hpu
  rcases List.mem_append.mp hu with hu | hu
  · exact absurd hu (hnone (by omega))
  · exact (List.mem_cons.mp hu).resolve_right (hnone (by omega))

/-- Of any number of credential requests, failed or dropped wherever they are, at most one gets a grant and one at a
time is at the exchange; once there is a grant, nobody asks for another and the task is marked. -/
theorem issued_once {s : C.State} (hc : Run C KeepsMark ⟨s, []⟩ c) (hd : Run C KeepsMark c d) :
    d.threads.countP (·.granted) ≤ 1 ∧ d.threads.countP (·.exchanging) ≤ 1 ∧
    ∀ t ∈ c.threads, t.granted → t ∈ d.threads ∧ (∀ u ∈ d.threads, u.exchanging = false) ∧
      ∀ r, C.current d.state = some r → r.record.status.has .tokenIssued := by
  have haccounted := run_accounted (hc.trans hd) (accounted_idle s)
  have hone := haccounted.at_most_one
  refine ⟨(List.countP_mono_left fun t _ h => ?_).trans hone, (List.countP_mono_left fun t _ h => ?_).trans hone, ?_⟩
  · exact Bool.or_eq_true_iff.mpr (.inl h)
  · exact Bool.or_eq_true_iff.mpr (.inr h)
  · intro t ht hg
    have htd := run_granted_mem hd ht hg
    refine ⟨htd, fun u hu => ?_, fun r hr => ?_⟩
    · by_contra hexchanging
      have hu' : (u.granted || u.exchanging) = true := Bool.or_eq_true_iff.mpr (.inr (by simpa using hexchanging))
      obtain rfl := eq_of_countP_le_one hone htd hu (Bool.or_eq_true_iff.mpr (.inl hg)) hu'
      exact hexchanging (Thread.not_exchanging_of_granted hg)
    · exact has_of_owing (haccounted.balance r hr) htd ((haccounted.sound t htd).owes_of_granted hg)

theorem issued_once_of_three : ∃ (c d : Pool (Memory.contract "task")) (t : Thread),
    Run _ KeepsMark ⟨Memory.holding Memory.sample 1, []⟩ c ∧ Run _ KeepsMark c d ∧ d.threads.length = 3 ∧
    t ∈ c.threads ∧ t.granted ∧ (∀ u ∈ d.threads, u.exchanging = false) ∧ d.threads.countP (·.granted) ≤ 1 := by
  suffices h : ∃ (c d : Pool (Memory.contract "task")) (t : Thread),
      Run _ KeepsMark ⟨Memory.holding Memory.sample 1, []⟩ c ∧ Run _ KeepsMark c d ∧ d.threads.length = 3 ∧
      t ∈ c.threads ∧ t.granted by
    obtain ⟨c, d, t, hc, hd, hlength, ht, hg⟩ := h
    obtain ⟨hone, -, hlast⟩ := issued_once hc hd
    exact ⟨c, d, t, hc, hd, hlength, ht, hg, (hlast t ht hg).2.1, hone⟩
  have hstores := Memory.stores "task" default
  exact ⟨_, _, _, .start (.credential true) rfl <|
    .answers [] (.round hstores rfl rfl rfl .refl) <| .start (.credential true) rfl <|
    .answers [] (.read hstores rfl .refl) <|
    .answer [_] (Memory.holding_exchange (.ok ⟨"", default⟩)) .refl,
    .start (.credential true) rfl <| .answers [] (.read hstores rfl .refl) .refl, rfl, .tail _ (.head _), rfl⟩

end SandboxTasks
