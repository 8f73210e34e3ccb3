import SandboxTasks.Proofs.Sandbox.Address
import SandboxTasks.Proofs.Task.Cause

namespace SandboxTasks

open Store Contract

variable {id : String} {C : Contract id} {K : Claims C}

inductive Pool.Deletes : Pool C → Pool C → Prop
  | intro {s s' t ts before after sandbox} (h : Moves C s t s' ts) (hwaits : t.Waits (.deleteClaim sandbox)) :
      Deletes ⟨s, before ++ t :: after⟩ ⟨s', before ++ ts ++ after⟩

/-- A run in which a claim was made in the name of the task so many times, and so many times one was taken away though
no thread had asked for that. -/
inductive Audit (K : Claims C) (b : Pool C) : Nat → Nat → Pool C → Prop
  | start : Audit K b 0 0 b
  | keeps {made taken c d} (h : Audit K b made taken c) (hs : Orderly C K.Spared c d)
      (hsame : K.claimed d.state ↔ K.claimed c.state) : Audit K b made taken d
  | makes {made taken c d} (h : Audit K b made taken c) (hs : Orderly C K.Spared c d) (hfree : ¬ K.claimed c.state)
      (hheld : K.claimed d.state) : Audit K b (made + 1) taken d
  | deletes {made taken c d} (h : Audit K b made taken c) (hs : Orderly C K.Spared c d) (hheld : K.claimed c.state)
      (hfree : ¬ K.claimed d.state) (hasked : c.Deletes d) : Audit K b made taken d
  | loses {made taken c d} (h : Audit K b made taken c) (hs : Orderly C K.Spared c d) (hheld : K.claimed c.state)
      (hfree : ¬ K.claimed d.state) (hunasked : ¬ c.Deletes d) : Audit K b made (taken + 1) d

variable {b c d : Pool C} {made taken : Nat}

theorem Audit.run (h : Audit K b made taken c) : OrderlyRun C K.Spared b c := by
  induction h with
  | start => exact .refl
  | keeps _ hs _ ih | makes _ hs _ _ ih | deletes _ hs _ _ _ ih | loses _ hs _ _ _ ih => exact ih.tail hs

theorem OrderlyRun.audit (h : OrderlyRun C K.Spared b c) : ∃ made taken, Audit K b made taken c := by
  induction h with
  | refl => exact ⟨0, 0, .start⟩
  | @tail c d hrun hs ih =>
      obtain ⟨made, taken, haudit⟩ := ih
      by_cases hheld : K.claimed c.state <;> by_cases hafter : K.claimed d.state
      · exact ⟨_, _, haudit.keeps hs (iff_of_true hafter hheld)⟩
      · by_cases hasked : c.Deletes d
        · exact ⟨_, _, haudit.deletes hs hheld hafter hasked⟩
        · exact ⟨_, _, haudit.loses hs hheld hafter hasked⟩
      · exact ⟨_, _, haudit.makes hs hheld hafter⟩
      · exact ⟨_, _, haudit.keeps hs (iff_of_false hafter hheld)⟩

/-- A pass that has been outside, or has found the task ended, does not ask for a sandbox. -/
def Thread.Spent (t : Thread) : Prop := t.past.outside ≠ [] ∨ ∀ r, t.past.Shows r → r.status.phase.isTerminal

structure Pool.Spent (c : Pool C) : Prop where
  ended : ∀ q, C.current c.state = some q → q.record.status.phase.isTerminal
  threads : ∀ t ∈ c.threads, t.passing → t.Spent

theorem Thread.KeepsRule.provisions {t : Thread} {s : C.State} {r : Record} (h : t.KeepsRule C (·.isPass) s)
    (hwaits : t.Waits (.provision r)) : t.job.isPass ∧ Known C t.job.isPass t.past s r ∧
      r.status.phase = .provisioning ∧ r.status.sandbox = none ∧ t.past.outside = [] := by
  obtain ⟨-, -, -, hpass, hr, hrest⟩ := h.passCalls hwaits not_false
  exact ⟨hpass, hr, hrest⟩

theorem Pool.Spent.not_provision {t : Thread} {r : Record} (h : c.Spent) (hc : c.SerialInvariant) (ht : t ∈ c.threads) :
    ¬ t.Waits (.provision r) := by
  intro hwaits
  obtain ⟨hpass, hr, hphase, -, hfirst⟩ := (hc.keepsRule t ht).provisions hwaits
  obtain hlog | hshown := h.threads t ht (Thread.passing_iff.mpr ⟨hpass, _, hwaits⟩)
  · exact hlog hfirst
  · have hended := hshown r hr.shown
    rw [hphase] at hended
    cases hended

theorem History.outside_ne_nil {past : History} (h : past.outside ≠ []) (turn : Turn) :
    History.outside (turn :: past) ≠ [] := by
  rw [History.outside_cons]
  split
  · exact List.cons_ne_nil _ _
  · exact h

theorem Orderly.spent {others : C.State → C.State → Prop} (h : Orderly C others c d)
    (hothers : ∀ s s', others s s' → Spares (C.current s) (C.current s')) (hc : c.SerialInvariant) (hspent : c.Spent) :
    d.Spent := by
  have hended (q : Versioned) (hq : C.current d.state = some q) : q.record.status.phase.isTerminal := by
    obtain ⟨r, hr, hbecomes⟩ := (h.foreign.meanwhile hc.sound hothers).becomes q hq
    exact hbecomes.isTerminal (hspent.ended r hr)
  refine ⟨hended, fun u hu hpassing => ?_⟩
  have hwaits := Thread.passing_iff.mp hpassing
  cases h.origin hc.sound hc.serial u hu with
  | kept hmem => exact hspent.threads u hmem hpassing
  | started =>
      right
      rintro r ⟨turn, hturn, -⟩
      cases hturn
  | @answered j past op next a hmem hs =>
      obtain hlog | hshown := hspent.threads _ hmem (Thread.passing_iff.mpr ⟨hwaits.1, op, next, rfl⟩)
      · exact .inl (History.outside_ne_nil hlog _)
      · refine .inr fun r hr => ?_
        obtain ⟨q, hq, rfl⟩ | hr := hr.served ((hc.sound _ hmem).may ⟨next, rfl⟩) hs
        · exact hended q hq
        · exact hshown r hr
  | dropped | lost =>
      obtain ⟨-, op, next, hmode⟩ := hwaits
      cases hmode

theorem Moves.past_of_passing {s s' : C.State} {t u : Thread} {ts : List Thread} (h : Moves C s t s' ts) (hu : u ∈ ts)
    (hpassing : u.passing) : ∃ (op : Operation) (a : op.Answer), t.Waits op ∧ u.past = ⟨op, a⟩ :: t.past := by
  cases h with
  | @answer s' j past op next a hs =>
      cases List.mem_singleton.mp hu
      exact ⟨op, a, ⟨next, rfl⟩, rfl⟩
  | drop | lose =>
      rcases List.mem_cons.mp hu with rfl | hu
      · obtain ⟨-, op, next, hmode⟩ := Thread.passing_iff.mp hpassing
        cases hmode
      · exact absurd hpassing (List.countP_eq_zero.mp Job.not_passing_of_leaves u hu)

theorem Pool.Deletes.waits (h : c.Deletes d) : ∃ t ∈ c.threads, ∃ sandbox, t.Waits (.deleteClaim sandbox) := by
  obtain ⟨-, hwaits⟩ := h
  exact ⟨_, List.mem_append_right _ (.head _), _, hwaits⟩

theorem Pool.Deletes.spent (h : c.Deletes d) (hc : c.SerialInvariant) : d.Spent := by
  cases h with
  | @intro s s' t ts before after sandbox hm hwaits =>
      have ht : t ∈ before ++ t :: after := List.mem_append_right _ (.head _)
      obtain ⟨-, -, -, hpass, r, hr, hended, -⟩ := (hc.keepsRule t ht).passCalls hwaits not_false
      have hforeign : Foreign C (fun _ _ => False) False ⟨s, before ++ t :: after⟩ s' := hm.foreign False.elim
      refine ⟨fun q hq => ?_, fun u hu hpassing => ?_⟩
      · obtain ⟨q', hq', hbecomes⟩ := (hforeign.meanwhile hc.sound fun _ _ => False.elim).becomes q hq
        exact hbecomes.isTerminal ((hr.becomes q' hq').isTerminal hended)
      · by_cases hmoved : u ∈ ts
        · obtain ⟨op, a, hop, hpast⟩ := hm.past_of_passing hmoved hpassing
          obtain ⟨next, hmode⟩ := hop
          obtain ⟨next', hmode'⟩ := hwaits
          cases hmode.symm.trans hmode'
          exact .inl (by simp [hpast, History.outside_cons, Operation.isOutside])
        · have hother : u ∈ before ++ after := by
            rw [List.append_assoc, List.mem_append, List.mem_append] at hu
            exact List.mem_append.mpr (hu.imp_right fun hu => hu.resolve_left hmoved)
          exact absurd hpass (hc.serial.not_pass hother hpassing hwaits)

theorem Orderly.provision_of_claimed (h : Orderly C K.Spared c d) (hfree : ¬ K.claimed c.state)
    (hheld : K.claimed d.state) : ∃ t ∈ c.threads, ∃ r, t.Waits (.provision r) := by
  cases h.foreign with
  | idle h => exact absurd (h ▸ hheld) hfree
  | other _ ho => exact absurd (ho.2 hheld) hfree
  | @job t op a ht hwaits _ hs =>
      obtain hwas | ⟨r, rfl, -⟩ := K.made hs hheld
      · exact absurd hwas hfree
      · exact ⟨t, ht, r, hwaits⟩

/-- As long as somebody may still ask for a sandbox, a claim that is gone was taken away. -/
theorem Audit.balance (h : Audit K b made taken c) (hb : b.SerialInvariant) :
    made ≤ taken + 1 ∧ (¬ K.claimed c.state → made ≤ taken ∨ c.Spent) := by
  have hspares (s s' : C.State) (ho : K.Spared s s') : Spares (C.current s) (C.current s') := ho.spares
  have hinv {made taken : Nat} {c : Pool C} (h : Audit K b made taken c) : c.SerialInvariant :=
    run_serialInvariant h.run hspares hb
  induction h with
  | start => exact ⟨Nat.zero_le _, fun _ => .inl (Nat.le_refl _)⟩
  | keeps haudit hs hsame ih =>
      obtain ⟨hbound, hfree⟩ := ih
      refine ⟨hbound, fun hd => (hfree (mt hsame.mpr hd)).imp_right fun hspent => ?_⟩
      exact hs.spent hspares (hinv haudit) hspent
  | makes haudit hs hfree hheld ih =>
      obtain ⟨t, ht, r, hwaits⟩ := hs.provision_of_claimed hfree hheld
      obtain hbound | hspent := ih.2 hfree
      · exact ⟨Nat.succ_le_succ hbound, fun hd => absurd hheld hd⟩
      · exact absurd hwaits (hspent.not_provision (hinv haudit) ht)
  | deletes haudit _ _ _ hasked ih => exact ⟨ih.1, fun _ => .inr (hasked.spent (hinv haudit))⟩
  | loses _ _ _ _ _ ih => exact ⟨Nat.le_succ_of_le ih.1, fun _ => .inl ih.1⟩

theorem Pool.Addressed.reported_of_assign {t : Thread} {address i api : String} (h : c.Addressed) (hc : c.SerialInvariant)
    (hall : c.All (·.status.WellFormed)) (ht : t ∈ c.threads) (hwaits : t.Waits (.assign address i api)) :
    c.Reported address := by
  obtain ⟨hpass, -, r, hr, hphase, ⟨sandbox, hpoll⟩ | hrecorded⟩ := (hc.keepsRule t ht).assigns hwaits
  · have hmem := (List.mem_filter.mp hpoll).1
    exact ⟨t, ht, sandbox, hmem, h.polled t ht sandbox _ hmem⟩
  · obtain ⟨hready, sandbox, hsandbox, -⟩ := (hall.shown t ht r hr.shown).ready (hphase ▸ trivial)
    have haddress := hrecorded hpass
    rw [Record.sandbox, hsandbox] at haddress
    exact h.reported.shown t ht r hr.shown hready sandbox address hsandbox haddress

theorem Pool.Addressed.unready_of_provision {t : Thread} {r : Record} {q : Versioned} (h : c.Addressed)
    (hc : c.SerialInvariant)
    (hall : c.All (·.status.WellFormed)) (ht : t ∈ c.threads) (hwaits : t.Waits (.provision r))
    (hq : C.current c.state = some q) :
    q.record.status.readyAt = none ∧ ∀ u ∈ c.threads, ∀ shown, u.past.Shows shown → shown.status.readyAt = none := by
  obtain ⟨hpass, hr, hphase, -⟩ := (hc.keepsRule t ht).provisions hwaits
  obtain ⟨-, hnone, -⟩ := (hall.shown t ht r hr.shown).provisioning hphase
  have hnow : q.record.status.readyAt = none := ((hr.becomes q hq).course hpass).readyAt.trans hnone
  refine ⟨hnow, fun u hu shown hshown => ?_⟩
  by_contra hready
  have hstill := h.lasting.shown u hu shown hshown (Option.isSome_iff_ne_none.mpr hready) q hq
  rw [hnow] at hstill
  cases hstill

/-- Passes take turns at a new task, each of them dropped wherever it may be, all other jobs act in between, and others
may take its claim away. A sandbox is only asked for by a pass that has seen the task provisioned without one, and only
as long as no record ever said that it was ready. So at most one claim is made for the task, and one more for each that
was taken away unasked. The task is only handed over at an address that was reported of its own sandbox, after it was on
record as being assigned; so if it ended because no sandbox was ready in time, then nobody was ever asked to take it. -/
theorem provisioned_once {s : C.State} {r : Versioned} (hrun : OrderlyRun C K.Spared ⟨s, []⟩ c)
    (hstart : C.current s = some r) (hnew : r.record.status = .initial) :
    ((∃ made taken, Audit K ⟨s, []⟩ made taken c) ∧
      ∀ made taken, Audit K ⟨s, []⟩ made taken c → made ≤ taken + 1) ∧
    ∃ q, C.current c.state = some q ∧
      (∀ t ∈ c.threads, ∀ seen, t.Waits (.provision seen) →
        t.job.isPass ∧ t.past.Shows seen ∧ seen.status.phase = .provisioning ∧ seen.status.sandbox = none ∧
          q.record.status.readyAt = none ∧
          ∀ u ∈ c.threads, ∀ shown, u.past.Shows shown → shown.status.readyAt = none) ∧
      (∀ t ∈ c.threads, ∀ address i api, t.Waits (.assign address i api) →
        i = id ∧ (∃ seen, t.past.Shows seen ∧ seen.status.phase = .assigning) ∧
          Phase.assigning.rank ≤ q.record.status.phase.rank ∧ c.Reported address) ∧
      (q.record.status.reason = some .provisioningTimeout → ∀ t ∈ c.threads, ¬ t.Assigned) := by
  have hspares (s s' : C.State) (ho : K.Spared s s') : Spares (C.current s) (C.current s') := ho.spares
  have hinv := run_serialInvariant hrun hspares (serialInvariant_idle s)
  have hinitial (q : Versioned) (hq : C.current s = some q) : q.record.status = .initial := by
    cases hstart.symm.trans hq
    exact hnew
  have hfresh := Pool.wellFormed_new hinitial
  have hall := run_all kept_wellFormed hrun hspares (serialInvariant_idle s) hfresh
  have hsome : (C.current s).isSome := Option.isSome_iff_exists.mpr ⟨r, hstart⟩
  have haddressed := run_addressed hrun (serialInvariant_idle s) (Pool.tracksClaim_new hstart hnew) hfresh hsome
    (Pool.addressed_new hinitial)
  have hjustified := run_justified hrun hspares (serialInvariant_idle s) hfresh (Pool.justified_new hinitial)
  obtain ⟨q, hq⟩ := run_current hrun (fun _ _ ho => ho.1) (serialInvariant_idle s) hsome
  refine ⟨⟨hrun.audit, fun made taken h => (h.balance (serialInvariant_idle s)).1⟩, q, hq, ?_, ?_, ?_⟩
  · intro t ht seen hwaits
    obtain ⟨hpass, hseen, hphase, hsandbox, -⟩ := (hinv.keepsRule t ht).provisions hwaits
    exact ⟨hpass, hseen.shown, hphase, hsandbox, haddressed.unready_of_provision hinv hall ht hwaits hq⟩
  · intro t ht address i api hwaits
    obtain ⟨-, hid, seen, hseen, hphase, -⟩ := (hinv.keepsRule t ht).assigns hwaits
    refine ⟨hid, ⟨seen, hseen.shown, hphase⟩, ?_, haddressed.reported_of_assign hinv hall ht hwaits⟩
    rw [← hphase]
    exact (hseen.becomes q hq).follows.rank
  · intro hreason t ht hassigned
    obtain ⟨u, -, before, -, hjustifies⟩ := hjustified q hq .provisioningTimeout hreason
    cases hjustifies with
    | provisioningTimeout _ hready =>
        have hwas := haddressed.assigned t ht hassigned q hq
        rw [hready] at hwas
        cases hwas

namespace Audit

variable {s s' : C.State} {ts : List Thread} {j : Job} {past : History} {op : Operation}
  {next : op.Answer → Routine j.Result} {a : op.Answer}

theorem started (j : Job) (h : Audit K b made taken ⟨s, ts⟩) (hj : j.asked) (hfree : ts.countP (·.passing) = 0) :
    Audit K b made taken ⟨s, j.thread id :: ts⟩ :=
  h.keeps (.start j hj fun _ => List.countP_eq_zero.mp hfree) Iff.rfl

theorem dropped (h : Audit K b made taken ⟨s, ⟨j, past, .running (.call op next)⟩ :: ts⟩) :
    Audit K b made taken ⟨s, ⟨j, past, .dropped op⟩ :: (j.leaves id op ++ ts)⟩ :=
  h.keeps (@Orderly.move _ _ _ _ _ _ _ [] _ .drop) Iff.rfl

theorem answered (h : Audit K b made taken ⟨s, ⟨j, past, .running (.call op next)⟩ :: ts⟩) (hs : C.serves s op a s')
    (hsame : K.claimed s' ↔ K.claimed s) : Audit K b made taken ⟨s', ⟨j, ⟨op, a⟩ :: past, .running (next a)⟩ :: ts⟩ :=
  h.keeps (@Orderly.move _ _ _ _ _ _ _ [] _ (.answer hs)) hsame

theorem answers {past' : History} {p p' : Routine j.Result} (h : Audit K b made taken ⟨s, ⟨j, past, .running p⟩ :: ts⟩)
    (hs : AnsweredRun (fun s op a s' => C.serves s op a s' ∧ (K.claimed s' ↔ K.claimed s)) s past p s' past' p') :
    Audit K b made taken ⟨s', ⟨j, past', .running p'⟩ :: ts⟩ := by
  induction hs with
  | refl => exact h
  | head hs _ ih => exact ih (h.answered hs.1 hs.2)

theorem provided (h : Audit K b made taken ⟨s, ⟨j, past, .running (.call op next)⟩ :: ts⟩) (hs : C.serves s op a s')
    (hfree : ¬ K.claimed s) (hheld : K.claimed s') :
    Audit K b (made + 1) taken ⟨s', ⟨j, ⟨op, a⟩ :: past, .running (next a)⟩ :: ts⟩ :=
  h.makes (@Orderly.move _ _ _ _ _ _ _ [] _ (.answer hs)) hfree hheld

end Audit

/-- The pass is dropped when it has its sandbox and is about to record it, and the claim is taken away. The next pass
asks for another. -/
theorem provisioned_once_anew : ∃ (K : Claims ((Memory.contract "task").beside Sandbox.Memory.Serves)) (c d : Pool _)
    (t : Thread) (seen : Record) (q : Versioned),
    Audit K ⟨(Memory.holding Memory.sample 1, .empty), []⟩ 1 1 c ∧ t ∈ c.threads ∧ t.Waits (.provision seen) ∧
    Contract.current _ c.state = some q ∧ seen.status.phase = .provisioning ∧ q.record.status.readyAt = none ∧
    Audit K ⟨(Memory.holding Memory.sample 1, .empty), []⟩ 2 1 d ∧
    ∀ made taken, Audit K ⟨(Memory.holding Memory.sample 1, .empty), []⟩ made taken d → made ≤ taken + 1 := by
  suffices h : ∃ (c d : Pool ((Memory.contract "task").beside Sandbox.Memory.Serves)) (t : Thread) (seen : Record),
      Audit (Sandbox.Memory.beside _) ⟨(Memory.holding Memory.sample 1, .empty), []⟩ 1 1 c ∧ t ∈ c.threads ∧
      t.Waits (.provision seen) ∧
      Audit (Sandbox.Memory.beside _) ⟨(Memory.holding Memory.sample 1, .empty), []⟩ 2 1 d by
    obtain ⟨c, d, t, seen, hc, ht, hwaits, hd⟩ := h
    obtain ⟨-, q, hq, hprovision, -⟩ := provisioned_once hc.run Memory.current_holding rfl
    obtain ⟨-, -, hphase, -, hready, -⟩ := hprovision t ht seen hwaits
    exact ⟨_, c, d, t, seen, q, hc, ht, hwaits, hq, hphase, hready, hd,
      (provisioned_once hd.run Memory.current_holding rfl).1.2⟩
  have hclaims (m : Sandbox.Memory) : Stores (fun (s : Memory × Sandbox.Memory) (_ : Operation) _ s' =>
      (Sandbox.Memory.beside (Memory.contract "task")).claimed s' ↔
        (Sandbox.Memory.beside (Memory.contract "task")).claimed s) default (fun r n => (Memory.holding r n, m)) :=
    ⟨fun _ _ => .rfl, fun _ _ => .rfl, fun _ _ _ _ => .rfl⟩
  have hstores (m : Sandbox.Memory) :=
    ((Memory.stores "task" default).beside (Sandbox.Memory.stores m default)).and (hclaims m)
  have hdropped := (Audit.start (K := Sandbox.Memory.beside (Memory.contract "task"))
      (b := ⟨(Memory.holding Memory.sample 1, .empty), []⟩)).started (.pass onceTried .off) rfl rfl
    |>.answers (.read (hstores _) rfl <| .round (hstores _) rfl rfl rfl .refl)
    |>.answered (serves_beside (Memory.holding_now default) rfl) Iff.rfl
    |>.provided (serves_beside (Memory.holding_provision _) (Exists.intro default rfl)) Bool.false_ne_true rfl
    |>.dropped
  have hvanishes : Sandbox.Memory.Serves (Sandbox.Memory.empty.provision "task" default).2
      (.deleteClaim ⟨TaskId.claimName "task", none⟩) (.ok .deleted) _ := ⟨rfl, rfl⟩
  have hlost := hdropped.loses (.other (serves_beside (Memory.holding_deleteClaim _) hvanishes) ⟨rfl, fun _ => rfl⟩) rfl
    Bool.false_ne_true fun hasked => by
      obtain ⟨t, ht, sandbox, next, hmode⟩ := hasked.waits
      cases List.mem_singleton.mp ht
      cases hmode
  have hwaits := hlost.started (.pass onceTried .off) rfl rfl
    |>.answers (.read (hstores _) rfl .refl)
    |>.answered (serves_beside (Memory.holding_now default) rfl) Iff.rfl
  have hagain := hwaits.provided (serves_beside (Memory.holding_provision _) (Exists.intro default rfl))
    Bool.false_ne_true rfl
  exact ⟨_, _, _, _, hwaits, .head _, ⟨_, rfl⟩, hagain⟩

end SandboxTasks
