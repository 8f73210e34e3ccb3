import SandboxTasks.Proofs.Concurrent.Serial

namespace SandboxTasks

open Store

variable {id : String} {C : Contract id} {others : C.State → C.State → Prop} {c d : Pool C}

/-- In a step, the thread has made `q` of the task, which was `r` before and when the thread saw it last. -/
structure Written (c d : Pool C) (t : Thread) (change : Change) (now : Instant) (r q : Versioned) : Prop where
  mem : t ∈ c.threads
  before : C.current c.state = some r
  seen : t.past.lastSeen? = some r
  grounds : t.job.Grounds t.job.isPass t.past r.record change
  changes : change now r.record = some q.record.status
  record : q.record = { r.record with status := q.record.status }
  clock : t.past.head? = some ⟨.now, now⟩
  after : ∃ u ∈ d.threads, u.job = t.job ∧ u.past = ⟨.swap id r.version q.record.status, .ok q⟩ :: t.past

theorem GroundedEffect.written {t u : Thread} {op : Operation} {a : op.Answer} {q : Versioned}
    (h : GroundedEffect C t.job.isPass c.state d.state t ⟨op, a⟩) (hmem : t ∈ c.threads) (hu : u ∈ d.threads)
    (hjob : u.job = t.job) (hpast : u.past = ⟨op, a⟩ :: t.past) (hq : C.current d.state = some q) :
    C.current c.state = some q ∨ ∃ change now r, Written c d t change now r q := by
  cases h with
  | quiet hview => exact .inl (by rwa [Contract.current, ← hview])
  | @wrote r q' change now next hbefore hseen hgrounds hchange hafter hrecord hturn hclock =>
      cases hafter.symm.trans hq
      have hstatus : q.record.status = next := by rw [hrecord]
      refine .inr ⟨change, now, r, hmem, hbefore, hseen, hgrounds, ?_, ?_, hclock, u, hu, hjob, ?_⟩
      · rw [hchange, hstatus]
      · rw [hstatus]
        exact hrecord
      · rw [hpast, hturn, hstatus]

theorem Orderly.descendant {t : Thread} (h : Orderly C others c d) (ht : t ∈ c.threads) :
    ∃ u ∈ d.threads, u.job = t.job ∧ t.past <:+ u.past := by
  cases h with
  | start => exact ⟨t, .tail _ ht, rfl, List.suffix_refl _⟩
  | other => exact ⟨t, ht, rfl, List.suffix_refl _⟩
  | @move s s' moved ts before after hm =>
      have hmoved : ∃ u ∈ ts, u.job = moved.job ∧ moved.past <:+ u.past := by
        cases hm with
        | drop => exact ⟨_, .head _, rfl, List.suffix_refl _⟩
        | answer | lose => exact ⟨_, .head _, rfl, List.suffix_cons ..⟩
      rcases List.mem_append.mp ht with ht | ht
      · exact ⟨t, List.mem_append_left _ (List.mem_append_left _ ht), rfl, List.suffix_refl _⟩
      · rcases List.mem_cons.mp ht with rfl | ht
        · obtain ⟨u, hu, hrest⟩ := hmoved
          exact ⟨u, List.mem_append_left _ (List.mem_append_right _ hu), hrest⟩
        · exact ⟨t, List.mem_append_right _ ht, rfl, List.suffix_refl _⟩

theorem Orderly.written (h : Orderly C others c d)
    (hothers : ∀ s s', others s s' → Spares (C.current s) (C.current s')) (hc : c.SerialInvariant) {q : Versioned}
    (hq : C.current d.state = some q) :
    C.current c.state = some q ∨ ∃ t change now r, Written c d t change now r q := by
  cases h with
  | start => exact .inl hq
  | other _ ho =>
      obtain hsame | hgone := hothers _ _ ho
      · exact .inl (hsame.symm.trans hq)
      · cases hgone.symm.trans hq
  | @move s s' t ts before after hm =>
      have ht : t ∈ before ++ t :: after := List.mem_append_right _ (.head _)
      have hwritten {u : Thread} {op : Operation} {a : op.Answer} (hwaits : t.Waits op) (hs : C.serves s op a s')
          (hu : u ∈ ts) (hjob : u.job = t.job) (hpast : u.past = ⟨op, a⟩ :: t.past) :
          C.current s = some q ∨ ∃ u change now r,
            Written (⟨s, before ++ t :: after⟩ : Pool C) ⟨s', before ++ ts ++ after⟩ u change now r q := by
        have hu' : u ∈ before ++ ts ++ after := List.mem_append_left _ (List.mem_append_right _ hu)
        have hdeed := (hc.keepsRule t ht).groundedEffect (hc.sound t ht) hwaits hs
        exact (GroundedEffect.written (c := ⟨s, _⟩) (d := ⟨s', _⟩) hdeed ht hu' hjob hpast hq).imp_right fun h => ⟨t, h⟩
      cases hm with
      | drop => exact .inl hq
      | answer hs | lose hs => exact hwritten ⟨_, rfl⟩ hs (List.mem_cons_self ..) rfl rfl

/-- What is true of every record: of the one there is, and of those the threads were shown. -/
structure Pool.All (P : Record → Prop) (c : Pool C) : Prop where
  current : ∀ q, C.current c.state = some q → P q.record
  shown : ∀ t ∈ c.threads, ∀ r, t.past.Shows r → P r

theorem Pool.all_idle {P : Record → Prop} {s : C.State} (h : ∀ q, C.current s = some q → P q.record) :
    (⟨s, []⟩ : Pool C).All P :=
  ⟨h, fun _ ht => nomatch ht⟩

theorem Origin.shown {others : C.State → C.State → Prop} {alone : Job → Prop} {s' : C.State} {u : Thread}
    {P : Record → Prop} (h : Origin C others alone c s' u) (hsound : c.Sound)
    (hcurrent : ∀ q, C.current s' = some q → P q.record) (hc : ∀ t ∈ c.threads, ∀ r, t.past.Shows r → P r) :
    ∀ r, u.past.Shows r → P r := by
  have hserved {j : Job} {past : History} {op : Operation} {next : op.Answer → Routine j.Result} {a : op.Answer}
      (hmem : ⟨j, past, .running (.call op next)⟩ ∈ c.threads) (hs : C.serves c.state op a s') (r : Record)
      (hr : History.Shows (⟨op, a⟩ :: past) r) : P r := by
    obtain ⟨q, hq, rfl⟩ | hr := hr.served ((hsound _ hmem).may ⟨next, rfl⟩) hs
    · exact hcurrent q hq
    · exact hc _ hmem r hr
  cases h with
  | kept hmem => exact hc u hmem
  | started j =>
      rintro r ⟨turn, hturn, -⟩
      cases hturn
  | answered hmem hs | lost hmem hs => exact hserved hmem hs
  | dropped hmem => exact fun r hr => hc _ hmem r hr

/-- What the changes of jobs keep, when the jobs were only shown records of which it was true. -/
def Kept (P : Record → Prop) : Prop :=
  ∀ (j : Job) (past : History) (change : Change) (now : Instant) (r : Record) (next : Status),
    j.Grounds j.isPass past r change → (∀ q, past.Shows q → P q) → change now r = some next → P r →
      P { r with status := next }

theorem Orderly.all {P : Record → Prop} (hP : Kept P) (h : Orderly C others c d)
    (hothers : ∀ s s', others s s' → Spares (C.current s) (C.current s')) (hc : c.SerialInvariant) (hall : c.All P) :
    d.All P := by
  have hcurrent (q : Versioned) (hq : C.current d.state = some q) : P q.record := by
    obtain hsame | ⟨t, change, now, r, hwritten⟩ := h.written hothers hc hq
    · exact hall.current q hsame
    · rw [hwritten.record]
      exact hP _ _ _ _ _ _ hwritten.grounds (hall.shown t hwritten.mem) hwritten.changes
        (hall.current r hwritten.before)
  exact ⟨hcurrent, fun u hu => (h.origin hc.sound hc.serial u hu).shown hc.sound hcurrent hall.shown⟩

theorem run_all {P : Record → Prop} (hP : Kept P) (h : OrderlyRun C others c d)
    (hothers : ∀ s s', others s s' → Spares (C.current s) (C.current s')) (hc : c.SerialInvariant) (hall : c.All P) :
    d.All P := by
  induction h with
  | refl => exact hall
  | tail hrun hs ih => exact hs.all hP hothers (run_serialInvariant hrun hothers hc) ih

end SandboxTasks
