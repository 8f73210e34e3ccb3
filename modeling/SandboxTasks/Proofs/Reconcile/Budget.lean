import SandboxTasks.Proofs.Concurrent.Written
import SandboxTasks.Proofs.Reconcile.Attempt

namespace SandboxTasks

open Store Reconcile

variable {id : String} {C : Contract id} {others : C.State → C.State → Prop} {c d : Pool C} {s s' : C.State}
  {p : Policy} {o : Opening} {past : History} {t u : Thread} {t' : Versioned}
  {ts before after : List Thread}

def Pool.ofPasses (f : History → Nat) (c : Pool C) : Nat := c.total fun j past => if j.isPass then f past else 0

/-- How many assignments of the task have failed without excuse. -/
def Pool.failures (p : Policy) (c : Pool C) : Nat := c.ofPasses (·.charged p)

/-- How often a pass has moved the task on from being assigned. -/
def Pool.takings (c : Pool C) : Nat := c.ofPasses (·.turned (·.pastAssigning))

/-- A report, a cancel, or a pass by this policy that is not dropped. -/
inductive Thread.WorksBy (p : Policy) : Thread → Prop
  | report {r past mode} : WorksBy p ⟨.report r, past, mode⟩
  | cancel {past mode} : WorksBy p ⟨.cancel, past, mode⟩
  | pass {n past rest} : WorksBy p ⟨.pass p n, past, .running rest⟩

theorem Thread.WorksBy.of_pass (h : t.WorksBy p) (hpass : t.job.isPass) :
    ∃ n past rest, t = ⟨.pass p n, past, .running rest⟩ := by
  cases h with
  | report | cancel => cases hpass
  | pass => exact ⟨_, _, _, rfl⟩

theorem Moves.worksBy (h : Moves C s t s' ts) (hts : ∀ u ∈ ts, u.WorksBy p) : t.WorksBy p := by
  cases h with
  | answer => cases hts _ (.head _) <;> constructor
  | drop | lose => cases hts _ (.head _) <;> constructor

theorem Orderly.worksBy (h : Orderly C others c d) (hd : ∀ u ∈ d.threads, u.WorksBy p) :
    ∀ t ∈ c.threads, t.WorksBy p := by
  cases h with
  | start => exact fun t ht => hd t (.tail _ ht)
  | other => exact hd
  | @move s s' moved ts before after hm =>
      intro t ht
      rcases List.mem_append.mp ht with ht | ht
      · exact hd t (List.mem_append_left _ (List.mem_append_left _ ht))
      · rcases List.mem_cons.mp ht with rfl | ht
        · exact hm.worksBy fun u hu => hd u (List.mem_append_left _ (List.mem_append_right _ hu))
        · exact hd t (List.mem_append_right _ ht)

theorem Moves.of_pass {n : Callback.Notifier} {mode : Mode (Job.pass p n).Result}
    (h : Moves C s ⟨.pass p n, past, mode⟩ s' ts) (hts : ∀ u ∈ ts, u.WorksBy p) :
    ∃ op next, ∃ a : op.Answer, mode = .running (.call op next) ∧ C.serves s op a s' ∧
      ts = [⟨.pass p n, ⟨op, a⟩ :: past, .running (next a)⟩] := by
  cases h with
  | answer hs => exact ⟨_, _, _, rfl, hs, rfl⟩
  | drop | lose => cases hts _ (.head _)

def Overtakes (C : Contract id) (s s' : C.State) : Prop :=
  ∀ q, C.current s' = some q → ∃ r, C.current s = some r ∧ (q = r ∨ r.record.status.Overtaken q.record.status)

theorem Overtakes.of_current (h : C.current s' = C.current s) : Overtakes C s s' :=
  fun q hq => ⟨q, h ▸ hq, .inl rfl⟩

theorem Thread.WorksBy.overtaken {writes : Nat} {change : Change} {now : Instant} {r : Record} {next : Status}
    (h : t.WorksBy p) (hpass : ¬ t.job.isPass) (hmakes : t.job.Makes writes change)
    (hchange : change now r = some next) : r.status.Overtaken next := by
  cases h with
  | report =>
      cases hmakes
      exact Change.overtaken_of_report hchange
  | cancel =>
      cases hmakes
      exact Change.overtaken_of_cancel hchange
  | pass => exact absurd rfl hpass

theorem Moves.of_plain (h : Moves C s t s' ts) (ht : t.WorksBy p) (hpass : ¬ t.job.isPass) (hsound : t.Sound C s) :
    Overtakes C s s' ∧ ∃ u, ts = [u] ∧ u.job = t.job := by
  have hserved {op : Operation} {a : op.Answer} (hwaits : t.Waits op) (hs : C.serves s op a s') : Overtakes C s s' := by
    cases effect_of_serves hsound.knows (hsound.may hwaits) hs with
    | quiet hview => exact .of_current (congrArg View.current hview)
    | @wrote r q change now next hbefore _ hmakes hchange hafter hrecord =>
        intro q' hq'
        cases hafter.symm.trans hq'
        exact ⟨r, hbefore, .inr (by rw [hrecord]; exact ht.overtaken hpass hmakes hchange)⟩
  cases h with
  | answer hs => exact ⟨hserved ⟨_, rfl⟩ hs, _, rfl, rfl⟩
  | drop =>
      refine ⟨.of_current rfl, ?_⟩
      cases ht with
      | report | cancel => exact ⟨_, rfl, rfl⟩
      | pass => exact absurd rfl hpass
  | lose hs =>
      refine ⟨hserved ⟨_, rfl⟩ hs, ?_⟩
      cases ht with
      | report | cancel => exact ⟨_, rfl, rfl⟩
      | pass => exact absurd rfl hpass

theorem Pool.ofPasses_start (f : History → Nat) (hf : f [] = 0) (j : Job) :
    (⟨s, j.thread id :: ts⟩ : Pool C).ofPasses f = (⟨s, ts⟩ : Pool C).ofPasses f := by
  simp [Pool.ofPasses, Pool.total, Job.thread, hf]

theorem Pool.ofPasses_move (f : History → Nat) (before after : List Thread) (hjob : u.job = t.job) :
    (⟨s', before ++ u :: after⟩ : Pool C).ofPasses f + (if t.job.isPass then f t.past else 0) =
      (⟨s, before ++ t :: after⟩ : Pool C).ofPasses f + (if t.job.isPass then f u.past else 0) := by
  simp [Pool.ofPasses, Pool.total, hjob]
  omega

theorem mem_beside {w : Thread} : w ∈ before ++ t :: after ↔ w = t ∨ w ∈ before ++ after := by
  simp only [List.mem_append, List.mem_cons]
  tauto

/-- The task is as the client saw it last, or it was overtaken since; and it was if the client was refused its last
write. -/
def SeenOrOvertaken (C : Contract id) (o : Opening) (s : C.State) (past : History) : Prop :=
  ∀ q, C.current s = some q → (past = [] → Tally o.policy q.record.status o.failed o.taken) ∧
    ∀ t, past.lastSeen? = some t →
      q = t ∧ past.head?.any (·.lost) = false ∨ t.record.status.Overtaken q.record.status

theorem SeenOrOvertaken.carry (h : SeenOrOvertaken C o s past) (hs : Overtakes C s s') :
    SeenOrOvertaken C o s' past := by
  intro q hq
  obtain ⟨r, hr, rfl | hover⟩ := hs q hq
  · exact h q hr
  · obtain ⟨hfirst, hseen⟩ := h r hr
    refine ⟨fun hpast => lasting_tally.overtaken _ _ _ _ _ (hfirst hpast) hover, fun t ht => .inr ?_⟩
    obtain ⟨rfl, -⟩ | hbefore := hseen t ht
    · exact hover
    · exact hbefore.trans hover

theorem SeenOrOvertaken.settled (h : SeenOrOvertaken C o s past) (htallied : TallyOrLost o past) {q : Versioned}
    (hq : C.current s = some q) : o.Has Tally past q.record.status := by
  obtain ⟨t, ht, haccount⟩ := htallied
  obtain ⟨rfl, hwon⟩ | hover := (h q hq).2 t ht
  · exact haccount.resolve_right fun hlost => absurd (hwon.symm.trans hlost.2) (by decide)
  · obtain htally | ⟨howed, -⟩ := haccount
    · exact lasting_tally.overtaken _ _ _ _ _ htally hover
    · exact .beaten (howed.uncounted hover.uncounted) (hover.past howed.assigning)

theorem SeenOrOvertaken.tallyOrOwed (h : SeenOrOvertaken C o s past) (howing : TallyOrOwed o past) {q : Versioned}
    (hq : C.current s = some q) : o.Has Tally past q.record.status ∨ o.Has Owed past q.record.status := by
  obtain rfl | ⟨t, ht, haccount⟩ := howing
  · exact .inl ((h q hq).1 rfl)
  · obtain ⟨rfl, -⟩ | hover := (h q hq).2 t ht
    · exact haccount
    · exact haccount.imp (lasting_tally.overtaken _ _ _ _ _ · hover) (lasting_owed.overtaken _ _ _ _ _ · hover)

section Answer

variable {op : Operation} {a : op.Answer} {n : Callback.Notifier}

theorem SeenOrOvertaken.aside (h : SeenOrOvertaken C o s past) (hcurrent : C.current s' = C.current s)
    (hshows : (⟨op, a⟩ : Turn).shows? = none) (hlost : (⟨op, a⟩ : Turn).lost = false) :
    SeenOrOvertaken C o s' (⟨op, a⟩ :: past) := by
  intro q hq
  refine ⟨fun hnil => absurd hnil (List.cons_ne_nil _ _), fun t ht => ?_⟩
  rw [History.lastSeen?_cons, hshows, Option.none_or] at ht
  exact ((h q (hcurrent ▸ hq)).2 t ht).imp_left fun hsame => ⟨hsame.1, hlost⟩

theorem seenOrOvertaken_shown (ht : C.current s' = some t') (hshows : (⟨op, a⟩ : Turn).shows? = some t')
    (hlost : (⟨op, a⟩ : Turn).lost = false) : SeenOrOvertaken C o s' (⟨op, a⟩ :: past) := by
  intro q hq
  refine ⟨fun hnil => absurd hnil (List.cons_ne_nil _ _), fun r hr => .inl ?_⟩
  rw [History.lastSeen?_cons, hshows, Option.some_or] at hr
  cases hr
  cases ht.symm.trans hq
  exact ⟨rfl, hlost⟩

theorem SeenOrOvertaken.refused {i : String} {next : Status} (h : SeenOrOvertaken C o s past)
    (ht : past.lastSeen? = some t')
    (hs : C.serves s (.swap id t'.version next) (.error (.conflict i)) s') :
    SeenOrOvertaken C o s' (⟨.swap id t'.version next, .error (.conflict i)⟩ :: past) := by
  intro q hq
  have hcurrent : C.current s = some q := by rw [← hq, Contract.current, Contract.current, C.swap_error hs]
  refine ⟨fun hnil => absurd hnil (List.cons_ne_nil _ _), fun r hr => .inr ?_⟩
  cases ht.symm.trans hr
  refine ((h q hcurrent).2 t' ht).resolve_left ?_
  rintro ⟨rfl, -⟩
  exact C.swap_conflict hs q hcurrent rfl

theorem SeenOrOvertaken.answered (h : SeenOrOvertaken C o s past) (hreliable : C.Reliable) (hsome : (C.current s).isSome)
    (hknows : ∀ r, past.lastSeen? = some r → C.Knows s r) (hmay : (Job.pass p n).May id past op)
    (hs : C.serves s op a s') : ReliablyAnswered id o past op a ∧ SeenOrOvertaken C o s' (⟨op, a⟩ :: past) := by
  obtain ⟨q, hq⟩ := Option.isSome_iff_exists.mp hsome
  cases op with
  | find i =>
      obtain rfl : i = id := hmay
      cases a with
      | error e => exact (hreliable.find _ _ _ hs).elim
      | ok found =>
          obtain rfl : found = some q := (C.find_ok hs).trans hq
          have hcurrent : C.current s' = some q := by rw [Contract.current, C.elsewhere hs (by simp)]; exact hq
          obtain ⟨hfirst, hseen⟩ := h q hq
          exact ⟨⟨q, rfl, C.fits hs, hfirst, fun t ht => (hseen t ht).imp_left And.left⟩,
            seenOrOvertaken_shown hcurrent rfl rfl⟩
  | swap i version status =>
      have hrefused := not_refused hknows hmay hs
      obtain ⟨rfl, seen, -, -, hseen, rfl, -⟩ := hmay
      cases a with
      | ok t =>
          obtain ⟨-, hafter, r, hbefore, hversion, hrecord⟩ := C.swap_ok hs
          cases (hknows seen hseen).eq_of_version hbefore hversion
          exact ⟨⟨seen, hseen, hrecord⟩, seenOrOvertaken_shown hafter rfl rfl⟩
      | error e =>
          obtain hgone | ⟨j, rfl⟩ | ⟨j, p, q, rfl⟩ := hreliable.swap _ _ _ _ _ hs
          · cases hq.symm.trans hgone
          · exact ⟨⟨j, rfl⟩, h.refused hseen hs⟩
          · exact absurd ⟨_, _, _, _, _, _, rfl⟩ hrefused
  | create | erase => cases hmay
  | _ => exact ⟨trivial, h.aside (by rw [Contract.current, C.elsewhere hs (by simp)]; rfl) rfl rfl⟩

end Answer

/-- In the pool, a pass that started from `o` has done `past` and goes on. -/
structure Pool.InPass (c : Pool C) (o : Opening) (past : History) (rest : Routine (Except Error Outcome)) : Prop where
  failed : o.failed + past.charged o.policy = c.failures o.policy
  taken : o.taken + past.turned (·.pastAssigning) = c.takings
  seenOrOvertaken : SeenOrOvertaken C o c.state past
  upholds : Upholds (Rule.accounting id o).around (fun past _ _ => TallyOrOwed o past)
    (fun past _ _ => TallyOrLost o past) past () rest

theorem Pool.InPass.answered {o : Opening} {n : Callback.Notifier} {op : Operation} {a : op.Answer}
    {next : op.Answer → Routine (Job.pass o.policy n).Result}
    (h : (⟨s, before ++ t :: after⟩ : Pool C).InPass o past (.call op next))
    (ht : t = ⟨.pass o.policy n, past, .running (.call op next)⟩)
    (hu : u = ⟨.pass o.policy n, ⟨op, a⟩ :: past, .running (next a)⟩) (hsound : t.Sound C s) (hreliable : C.Reliable)
    (hsome : (C.current s).isSome) (hs : C.serves s op a s') :
    (⟨s', before ++ u :: after⟩ : Pool C).InPass o (⟨op, a⟩ :: past) (next a) := by
  have hadded (f : History → Nat) : (⟨s', before ++ u :: after⟩ : Pool C).ofPasses f + f past =
      (⟨s, before ++ t :: after⟩ : Pool C).ofPasses f + f (⟨op, a⟩ :: past) := by
    have hmove : (⟨s', before ++ u :: after⟩ : Pool C).ofPasses f + _ =
      (⟨s, before ++ t :: after⟩ : Pool C).ofPasses f + _ := ofPasses_move f before after (by rw [ht, hu])
    subst ht hu
    simpa [Job.isPass] using hmove
  have hwaits : t.Waits op := by
    rw [ht]
    exact ⟨next, rfl⟩
  subst ht
  obtain ⟨htold, hseenLast⟩ := h.seenOrOvertaken.answered hreliable hsome hsound.knows (hsound.may hwaits) hs
  refine ⟨?_, ?_, hseenLast, (h.upholds () trivial).2 a () htold⟩
  · have hfailures := hadded (·.charged o.policy)
    have hbefore := h.failed
    unfold failures at hbefore ⊢
    omega
  · have htakings := hadded (·.turned (·.pastAssigning))
    have hbefore := h.taken
    unfold takings at hbefore ⊢
    omega

/-- While no pass is at work, all is settled. One that is at work keeps an account. -/
structure Pool.Accounts (p : Policy) (c : Pool C) : Prop where
  idle : (∀ t ∈ c.threads, ¬ t.passing) → ∀ q, C.current c.state = some q →
    Tally p q.record.status (c.failures p) c.takings
  busy : ∀ n past rest, ⟨.pass p n, past, .running rest⟩ ∈ c.threads →
    Thread.passing ⟨.pass p n, past, .running rest⟩ → ∃ o : Opening, o.policy = p ∧ c.InPass o past rest

namespace Pool.Accounts

theorem start {j : Job} (h : (⟨s, ts⟩ : Pool C).Accounts p) (hworks : (j.thread id).WorksBy p)
    (hfree : j.isPass → ∀ t ∈ ts, ¬ t.passing) : (⟨s, j.thread id :: ts⟩ : Pool C).Accounts p := by
  have hfailures : (⟨s, j.thread id :: ts⟩ : Pool C).failures p = (⟨s, ts⟩ : Pool C).failures p :=
    ofPasses_start _ rfl j
  have htakings : (⟨s, j.thread id :: ts⟩ : Pool C).takings = (⟨s, ts⟩ : Pool C).takings := ofPasses_start _ rfl j
  refine ⟨fun hidle q hq => ?_, fun n past rest hmem hpassing => ?_⟩
  · rw [hfailures, htakings]
    exact h.idle (fun t ht => hidle t (.tail _ ht)) q hq
  · rcases List.mem_cons.mp hmem with hnew | hold
    · cases hnew
      have hsettled := h.idle (hfree rfl)
      refine ⟨⟨p, (⟨s, ts⟩ : Pool C).failures p, (⟨s, ts⟩ : Pool C).takings⟩, rfl, hfailures.symm, htakings.symm, ?_,
        pass_tallyOrLost⟩
      exact fun q hq => ⟨fun _ => hsettled q hq, fun _ ht => nomatch ht⟩
    · obtain ⟨o, rfl, hinPass⟩ := h.busy n past rest hold hpassing
      exact ⟨o, rfl, hfailures ▸ hinPass.failed, htakings ▸ hinPass.taken, hinPass.seenOrOvertaken, hinPass.upholds⟩

theorem elsewhere (h : (⟨s, ts⟩ : Pool C).Accounts p) (hs : C.current s' = C.current s) :
    (⟨s', ts⟩ : Pool C).Accounts p := by
  refine ⟨fun hidle q hq => h.idle hidle q (hs ▸ hq), fun n past rest hmem hpassing => ?_⟩
  obtain ⟨o, rfl, hinPass⟩ := h.busy n past rest hmem hpassing
  exact ⟨o, rfl, hinPass.failed, hinPass.taken, hinPass.seenOrOvertaken.carry (.of_current hs), hinPass.upholds⟩

theorem overtaken (h : (⟨s, before ++ t :: after⟩ : Pool C).Accounts p) (hpass : ¬ t.job.isPass)
    (hjob : u.job = t.job) (hs : Overtakes C s s') : (⟨s', before ++ u :: after⟩ : Pool C).Accounts p := by
  have hsame (f : History → Nat) :
      (⟨s', before ++ u :: after⟩ : Pool C).ofPasses f = (⟨s, before ++ t :: after⟩ : Pool C).ofPasses f := by
    have hmove : (⟨s', before ++ u :: after⟩ : Pool C).ofPasses f + _ =
      (⟨s, before ++ t :: after⟩ : Pool C).ofPasses f + _ := ofPasses_move f before after hjob
    simpa [hpass] using hmove
  have hfailures : (⟨s', before ++ u :: after⟩ : Pool C).failures p =
    (⟨s, before ++ t :: after⟩ : Pool C).failures p := hsame _
  have htakings : (⟨s', before ++ u :: after⟩ : Pool C).takings = (⟨s, before ++ t :: after⟩ : Pool C).takings :=
    hsame _
  have hnot {w : Thread} (hw : w.job = t.job) : ¬ w.passing := by
    rw [Thread.passing_iff, hw]
    exact fun hpassing => hpass hpassing.1
  refine ⟨fun hidle q hq => ?_, fun n past rest hmem hpassing => ?_⟩
  · obtain ⟨r, hr, hq⟩ := hs q hq
    have htally := h.idle (fun w hw => ?_) r hr
    · rw [hfailures, htakings]
      obtain rfl | hover := hq
      · exact htally
      · exact lasting_tally.overtaken _ _ _ _ _ htally hover
    · obtain rfl | hw := mem_beside.mp hw
      · exact hnot rfl
      · exact hidle w (mem_beside.mpr (.inr hw))
  · obtain hnew | hold := mem_beside.mp hmem
    · exact absurd hpassing (hnot (hnew ▸ hjob))
    · obtain ⟨o, rfl, hinPass⟩ := h.busy n past rest (mem_beside.mpr (.inr hold)) hpassing
      exact ⟨o, rfl, hfailures ▸ hinPass.failed, htakings ▸ hinPass.taken, hinPass.seenOrOvertaken.carry hs,
        hinPass.upholds⟩

theorem answered {n : Callback.Notifier} {op : Operation} {a : op.Answer}
    {next : op.Answer → Routine (Job.pass p n).Result} (h : (⟨s, before ++ t :: after⟩ : Pool C).Accounts p)
    (ht : t = ⟨.pass p n, past, .running (.call op next)⟩)
    (hu : u = ⟨.pass p n, ⟨op, a⟩ :: past, .running (next a)⟩) (hc : (⟨s, before ++ t :: after⟩ : Pool C).SerialInvariant)
    (hreliable : C.Reliable) (hsome : (C.current s).isSome) (hs : C.serves s op a s') :
    (⟨s', before ++ u :: after⟩ : Pool C).Accounts p := by
  have hmem : t ∈ before ++ t :: after := mem_beside.mpr (.inl rfl)
  have hwaits : t.Waits op := by
    rw [ht]
    exact ⟨next, rfl⟩
  have hpassing : t.passing := Thread.passing_iff.mpr ⟨by rw [ht]; rfl, op, hwaits⟩
  obtain ⟨o, rfl, hinPass⟩ := h.busy n past (.call op next) (by rw [← ht]; exact hmem) (by rw [← ht]; exact hpassing)
  have hlater := hinPass.answered ht hu (hc.sound t hmem) hreliable hsome hs
  -- Passes take turns, so when this one is through, none is at work, and while it is not, it is the only one.
  refine ⟨fun hidle q hq => ?_, fun m later rest hmem' hworks => ?_⟩
  · have hended : ¬ u.passing := hidle u (mem_beside.mpr (.inl rfl))
    rw [← hlater.failed, ← hlater.taken]
    cases hrest : next a with
    | call op' next' =>
        rw [hu, hrest] at hended
        exact absurd rfl hended
    | done result =>
        have hupholds := hlater.upholds
        rw [hrest] at hupholds
        exact hlater.seenOrOvertaken.settled hupholds hq
  · obtain hnew | hold := mem_beside.mp hmem'
    · cases hnew.trans hu
      exact ⟨o, rfl, hlater⟩
    · exact absurd (by rw [ht]; rfl) (hc.serial.not_pass hold hworks hwaits)

end Pool.Accounts

theorem Orderly.accounts (h : Orderly C others c d) (hreliable : C.Reliable)
    (hothers : ∀ s s', others s s' → C.current s' = C.current s) (hc : c.SerialInvariant)
    (hsome : (C.current c.state).isSome)
    (hworks : ∀ t ∈ d.threads, t.WorksBy p) (haccounts : c.Accounts p) : d.Accounts p := by
  have hbefore := h.worksBy hworks
  cases h with
  | start j _ hfree => exact haccounts.start (hworks _ (.head _)) hfree
  | other _ ho => exact haccounts.elsewhere (hothers _ _ ho)
  | @move s s' t ts before after hm =>
      have hmem : t ∈ before ++ t :: after := mem_beside.mpr (.inl rfl)
      have hts (u : Thread) (hu : u ∈ ts) : u.WorksBy p := hworks u (List.mem_append_left _ (List.mem_append_right _ hu))
      by_cases hpass : t.job.isPass
      · obtain ⟨n, past, rest, rfl⟩ := (hbefore t hmem).of_pass hpass
        obtain ⟨op, next, a, ⟨⟩, hs, rfl⟩ := hm.of_pass hts
        rw [List.append_assoc]
        exact haccounts.answered rfl rfl hc hreliable hsome hs
      · obtain ⟨hs, u, rfl, hjob⟩ := hm.of_plain (hbefore t hmem) hpass (hc.sound t hmem)
        rw [List.append_assoc]
        exact haccounts.overtaken hpass hjob hs

theorem run_accounts (h : OrderlyRun C others c d) (hreliable : C.Reliable)
    (hothers : ∀ s s', others s s' → C.current s' = C.current s) (hc : c.SerialInvariant)
    (hsome : (C.current c.state).isSome)
    (hworks : ∀ t ∈ d.threads, t.WorksBy p) (haccounts : c.Accounts p) : d.Accounts p := by
  induction h with
  | refl => exact haccounts
  | tail hrun hs ih =>
      have hmid := run_serialInvariant hrun (fun _ _ ho => .inl (hothers _ _ ho)) hc
      have hstill := Option.isSome_iff_exists.mpr (run_current hrun hothers hc hsome)
      exact hs.accounts hreliable hothers hmid hstill hworks (ih (hs.worksBy hworks))

theorem Orderly.turned {f : Status → Bool} (h : Orderly C others c d)
    (hothers : ∀ s s', others s s' → Spares (C.current s) (C.current s')) (hc : c.SerialInvariant)
    (hturned : ∀ q, C.current c.state = some q → f q.record.status → 0 < c.turned f) :
    ∀ q, C.current d.state = some q → f q.record.status → 0 < d.turned f := by
  have hle : c.turned f ≤ d.turned f := by
    obtain ⟨htotal, -⟩ | ⟨t, -, op, a, -, -, htotal⟩ :=
      (h.step hothers).total (f := fun _ past => past.turned f) fun _ => rfl
    · exact htotal.ge
    · have hmore : t.past.turned f ≤ History.turned f (⟨op, a⟩ :: t.past) := Nat.le_add_right _ _
      unfold Pool.turned
      omega
  intro q hq hholds
  obtain hsame | ⟨t, change, now, r, hwritten⟩ := h.written hothers hc hq
  · exact (hturned q hsame hholds).trans_le hle
  · cases hr : f r.record.status with
    | true => exact (hturned r hwritten.before hr).trans_le hle
    | false =>
        obtain ⟨u, hu, -, hpast⟩ := hwritten.after
        have hpos : 0 < u.past.turned f := by
          rw [hpast]
          simp [History.turned, Turn.turns, hwritten.seen, hr, hholds]
        exact hpos.trans_le (Pool.turned_le hu)

theorem run_turned {f : Status → Bool} (h : OrderlyRun C others c d)
    (hothers : ∀ s s', others s s' → Spares (C.current s) (C.current s')) (hc : c.SerialInvariant)
    (hturned : ∀ q, C.current c.state = some q → f q.record.status → 0 < c.turned f) :
    ∀ q, C.current d.state = some q → f q.record.status → 0 < d.turned f := by
  induction h with
  | refl => exact hturned
  | tail hrun hs ih => exact hs.turned hothers (run_serialInvariant hrun hothers hc) ih

theorem accounts_new {q : Versioned} (hq : C.current s = some q) (hnew : q.record.status = .initial)
    (hmax : 1 ≤ p.assignmentMaxAttempts) : (⟨s, []⟩ : Pool C).Accounts p := by
  refine ⟨fun _ r hr => ?_, fun _ _ _ hmem => nomatch hmem⟩
  cases hq.symm.trans hr
  rw [hnew]
  exact .even rfl hmax (by decide) fun _ => rfl

theorem Pool.moved_of_takings (hturned : 0 < c.turned (·.pastAssigning)) (hnone : c.takings = 0) :
    ∃ u ∈ c.threads, ¬ u.job.isPass ∧ 0 < u.past.turned (·.pastAssigning) := by
  obtain ⟨u, hu, hpos⟩ := Pool.total_pos.mp hturned
  refine ⟨u, hu, fun hpass => ?_, hpos⟩
  have hle : (if u.job.isPass then u.past.turned (·.pastAssigning) else 0) ≤ c.takings :=
    Pool.le_total (f := fun j past => if j.isPass then past.turned (·.pastAssigning) else 0) hu
  rw [hnone, if_pos hpass] at hle
  exact absurd hpos (Nat.not_lt.mpr hle)

theorem Pool.Accounts.tallyOrOwed (h : c.Accounts p) (hworks : ∀ t ∈ c.threads, t.WorksBy p) {q : Versioned}
    (hq : C.current c.state = some q) : Tally p q.record.status (c.failures p) c.takings ∨
      Owed p q.record.status (c.failures p) c.takings := by
  by_cases hidle : ∀ t ∈ c.threads, ¬ t.passing
  · exact .inl (h.idle hidle q hq)
  · obtain ⟨t, ht, hpassing⟩ : ∃ t ∈ c.threads, t.passing := by simpa using hidle
    obtain ⟨n, past, rest, rfl⟩ := (hworks t ht).of_pass (Thread.passing_iff.mp hpassing).1
    obtain ⟨o, rfl, hinPass⟩ := h.busy n past rest ht hpassing
    rw [← hinPass.failed, ← hinPass.taken]
    cases rest with
    | done result => cases hpassing
    | call op next => exact hinPass.seenOrOvertaken.tallyOrOwed (hinPass.upholds () trivial).1 hq

/-- Passes by one policy take turns at a new task, each of them made to its end, and reports and cancels act in between.
The failures on record are always fewer than the policy allows. Between two passes all are on record as long as the task
is being assigned. As many as are allowed end the task, in the pass that meets the last of them, unless somebody who is
no pass has moved the task on by then; fewer never do. -/
theorem budget_exact {r : Versioned} (hrun : OrderlyRun C others ⟨s, []⟩ c) (hreliable : C.Reliable)
    (hothers : ∀ s s', others s s' → C.current s' = C.current s) (hr : C.current s = some r)
    (hnew : r.record.status = .initial) (hmax : 1 ≤ p.assignmentMaxAttempts) (hworks : ∀ t ∈ c.threads, t.WorksBy p) :
    ∃ q, C.current c.state = some q ∧ q.record.status.attempts < p.assignmentMaxAttempts ∧
      c.failures p ≤ p.assignmentMaxAttempts ∧
      (q.record.status.reason = some .assignmentFailure → c.failures p = p.assignmentMaxAttempts) ∧
      ((∀ t ∈ c.threads, ¬ t.passing) →
        (q.record.status.phase = .assigning → q.record.status.attempts = c.failures p) ∧
        (c.failures p = p.assignmentMaxAttempts → q.record.status.reason = some .assignmentFailure ∨
          ∃ u ∈ c.threads, ¬ u.job.isPass ∧ 0 < u.past.turned (·.pastAssigning))) := by
  have hspares (s s' : C.State) (ho : others s s') : Spares (C.current s) (C.current s') := .inl (hothers s s' ho)
  have hsome : (C.current s).isSome := by rw [hr]; rfl
  obtain ⟨q, hq⟩ := run_current hrun hothers (serialInvariant_idle s) hsome
  have haccounts := run_accounts hrun hreliable hothers (serialInvariant_idle s) hsome hworks (accounts_new hr hnew hmax)
  refine ⟨q, hq, ?_, ?_, fun hreason => ?_, fun hidle => ⟨fun hphase => ?_, fun hspent => ?_⟩⟩
  · exact (haccounts.tallyOrOwed hworks hq).elim (·.attempts_lt) (·.attempts_lt)
  · exact (haccounts.tallyOrOwed hworks hq).elim (·.failed_le) (·.limit)
  · exact (haccounts.tallyOrOwed hworks hq).elim (·.of_reason hreason) fun howed => absurd hreason howed.reason
  · exact ((haccounts.idle hidle q hq).of_assigning hphase).1
  · cases haccounts.idle hidle q hq with
    | even _ hlimit => exact absurd hspent hlimit.ne
    | ended _ _ hreason => exact .inl hreason
    | beaten howed hpast =>
        have hturned := run_turned (f := (·.pastAssigning)) hrun hspares (serialInvariant_idle s) fun r' hr' hpast' => ?_
        · exact .inr (Pool.moved_of_takings (hturned q hq hpast) howed.untaken)
        · cases hr.symm.trans hr'
          rw [hnew] at hpast'
          cases hpast'

/-- The one assignment that is tried is answered by a gateway. -/
theorem budget_exact_once : ∃ (c : Pool (Memory.contract "task")) (q : Versioned),
    OrderlyRun _ (fun s s' => s' = s) ⟨Memory.holding Memory.sample 1, []⟩ c ∧ Contract.current _ c.state = some q ∧
    (∀ t ∈ c.threads, ¬ t.passing) ∧ q.record.status.reason = some .assignmentFailure ∧
    q.record.status.attempts = 0 ∧ c.failures onceTried = 1 := by
  suffices h : ∃ (c : Pool (Memory.contract "task")) (q : Versioned),
      OrderlyRun _ (fun s s' => s' = s) ⟨Memory.holding Memory.sample 1, []⟩ c ∧ Contract.current _ c.state = some q ∧
      (∀ t ∈ c.threads, t.WorksBy onceTried) ∧ (∀ t ∈ c.threads, ¬ t.passing) ∧
      q.record.status.reason = some .assignmentFailure by
    obtain ⟨c, q, hrun, hq, hworks, hidle, hreason⟩ := h
    have hothers (s s' : (Memory.contract "task").State) (ho : s' = s) :
        Contract.current (Memory.contract "task") s' = Contract.current _ s := by rw [ho]
    obtain ⟨q', hq', hattempts, -, hspent, -⟩ :=
      budget_exact hrun Memory.reliable hothers Memory.current_holding rfl (by decide) hworks
    cases hq.symm.trans hq'
    exact ⟨c, q, hrun, hq, hidle, hreason, Nat.lt_one_iff.mp hattempts, hspent hreason⟩
  have hstores := Memory.stores "task" default
  refine ⟨_, _, .start (.pass onceTried .off) rfl (fun _ => rfl) <|
    .answers [] (.read hstores rfl <| .round hstores rfl rfl rfl <| .head (Memory.holding_now default) <|
      .head (Memory.holding_provision (.ok ⟨"sandbox", none⟩)) <| .round hstores rfl rfl rfl <|
      .head (Memory.holding_now default) .refl) <| .start (.pass onceTried .off) rfl (fun _ => rfl) <|
    .answers [] (.read hstores rfl <| .head (Memory.holding_now default) <|
      .head (Memory.holding_poll (.ok (.ready "worker"))) <| .round hstores rfl rfl rfl <|
      .head (Memory.holding_poll (.ok (.ready "worker"))) <| .round hstores rfl rfl rfl <|
      .head (Memory.holding_assign (.error (.unexpected 504 "gateway timeout"))) <|
      .head (Memory.holding_now default) <| .round hstores rfl rfl rfl <|
      .head (Memory.holding_deleteClaim (.ok .absent)) <| .round hstores rfl rfl rfl <|
      .round hstores rfl rfl rfl .refl) .refl, Memory.current_holding, ?_, ?_, rfl⟩
  · exact List.forall_mem_cons.mpr ⟨.pass, List.forall_mem_singleton.mpr .pass⟩
  · decide

end SandboxTasks
