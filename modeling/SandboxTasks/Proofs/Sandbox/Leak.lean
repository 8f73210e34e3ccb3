import SandboxTasks.Proofs.Concurrent.Serial
import SandboxTasks.Proofs.Sandbox.Claims

namespace SandboxTasks

open Store Contract

variable {id : String} {C : Contract id} {K : Claims C} {c d : Pool C}

namespace Reconcile

variable {alone : Prop} {p : Policy} {n : Callback.Notifier} {past : History} {q r : Record} {change : Change}
  {now : Instant} {next : Status}

theorem Warranted.sandbox (h : Warranted alone p n past q change) (hchange : change now r = some next)
    {sandbox : SandboxRef} (hnext : next.sandbox = some sandbox) :
    (∃ old, r.status.sandbox = some old ∧ old.claim = sandbox.claim) ∨
      ∃ q rest, past.outside = ⟨.provision q, .ok sandbox⟩ :: rest := by
  have hkept (hsame : next.sandbox = r.status.sandbox) :
      ∃ old, r.status.sandbox = some old ∧ old.claim = sandbox.claim := ⟨sandbox, hsame ▸ hnext, rfl⟩
  cases h with
  | recordSandbox hprovision =>
      obtain ⟨-, he⟩ := Option.ite_none_right_eq_some.mp hchange
      cases he
      cases hnext
      exact .inr ⟨_, _, hprovision⟩
  | forgetSandbox =>
      obtain ⟨-, he⟩ := Option.ite_none_right_eq_some.mp hchange
      cases he
      cases hnext
  | markReady =>
      obtain ⟨-, he⟩ := Option.ite_none_right_eq_some.mp hchange
      cases he
      obtain ⟨old, hold, rfl⟩ := Option.map_eq_some_iff.mp hnext
      exact .inl ⟨old, hold, rfl⟩
  | assigned =>
      obtain ⟨-, he⟩ := Option.ite_none_right_eq_some.mp hchange
      cases he
      exact .inl (hkept (Change.course_noteWorker r.status).sandbox)
  | startProvisioning | startAssigning | assignmentFailed =>
      obtain ⟨-, he⟩ := Option.ite_none_right_eq_some.mp hchange
      cases he
      exact .inl (hkept rfl)
  | finish => exact .inl (hkept (by rw [Change.terminate_eq hchange]))
  | sandboxDeleted | notified =>
      obtain ⟨-, he⟩ := Option.ite_none_left_eq_some.mp hchange
      cases he
      exact .inl (hkept rfl)

theorem Warranted.deleted (h : Warranted alone p n past q change) (hchange : change now r = some next)
    (hnext : next.has .sandboxDeleted) : r.status.has .sandboxDeleted ∨
      ∃ sandbox deletion rest, past.outside = ⟨.deleteClaim sandbox, .ok deletion⟩ :: rest := by
  obtain hsame | ⟨-, hdeleted⟩ | ⟨he, -⟩ := h.condition? hchange .sandboxDeleted trivial
  · rw [Status.has, hsame] at hnext
    exact .inl hnext
  · exact .inr hdeleted
  · cases he

end Reconcile

namespace Job.Grounds

variable {alone : Prop} {j : Job} {past : History} {change : Change} {now : Instant} {r : Record} {next : Status}

theorem sandbox (h : j.Grounds alone past r change) (hchange : change now r = some next) {sandbox : SandboxRef}
    (hnext : next.sandbox = some sandbox) : (∃ old, r.status.sandbox = some old ∧ old.claim = sandbox.claim) ∨
      j.isPass ∧ ∃ q rest, past.outside = ⟨.provision q, .ok sandbox⟩ :: rest := by
  cases h with
  | plain hpass h =>
      have hsame : next.sandbox = r.status.sandbox := ((h.becomes hchange fun _ => hpass).course trivial).sandbox
      exact .inl ⟨sandbox, hsame ▸ hnext, rfl⟩
  | pass hpass h =>
      obtain ⟨-, hlog, -, -, h⟩ := h
      exact (h.sandbox hchange hnext).imp_right fun hasked => ⟨hpass ▸ rfl, hlog ▸ hasked⟩

theorem deleted (h : j.Grounds alone past r change) (hchange : change now r = some next)
    (hnext : next.has .sandboxDeleted) : r.status.has .sandboxDeleted ∨
      j.isPass ∧ ∃ sandbox deletion rest, past.outside = ⟨.deleteClaim sandbox, .ok deletion⟩ :: rest := by
  cases h with
  | plain hpass h =>
      have hsame : next.has .sandboxDeleted = r.status.has .sandboxDeleted :=
        (h.becomes hchange fun _ => hpass).has_eq trivial (by decide)
      exact .inl (hsame ▸ hnext)
  | pass hpass h =>
      obtain ⟨-, hlog, -, -, h⟩ := h
      exact (h.deleted hchange hnext).imp_right fun hdeleted => ⟨hpass ▸ rfl, hlog ▸ hdeleted⟩

end Job.Grounds

/-- What the pass that is at work has seen of the sandbox. -/
structure Thread.KnowsSandbox (K : Claims C) (s : C.State) (t : Thread) : Prop where
  provided : ∀ q sandbox rest, t.past.outside = ⟨.provision q, .ok sandbox⟩ :: rest →
    sandbox.claim = TaskId.claimName id
  removed : ∀ sandbox deletion rest, t.past.outside = ⟨.deleteClaim sandbox, .ok deletion⟩ :: rest →
    ∀ q, C.current s = some q → q.record.status.phase.isTerminal ∧ ¬ K.claimed s
  shown : ∀ r, t.past.Shows r → r.status.has .sandboxDeleted → r.status.phase.isTerminal

/-- The sandbox on record is the task's own, and if it is on record that it was deleted, then it was, for good. -/
structure TracksClaim (K : Claims C) (s : C.State) (r : Record) : Prop where
  named : ∀ sandbox, r.status.sandbox = some sandbox → sandbox.claim = TaskId.claimName id
  cleared : r.status.has .sandboxDeleted → r.status.phase.isTerminal ∧ ¬ K.claimed s

theorem TracksClaim.claim_eq {alone : Prop} {past : History} {s : C.State} {q : Versioned} {r : Record}
    (h : TracksClaim K s q.record) (hr : Known C alone past s r) (halone : alone) (hq : C.current s = some q) :
    r.sandbox.claim = TaskId.claimName id := by
  have hbecomes := hr.becomes q hq
  have hsame : r.status.sandbox = q.record.status.sandbox := (hbecomes.course halone).sandbox.symm
  rw [Record.sandbox, hsame]
  cases hsandbox : q.record.status.sandbox with
  | none => exact congrArg TaskId.claimName hr.id
  | some sandbox => exact h.named sandbox hsandbox

structure Pool.TracksClaim (K : Claims C) (c : Pool C) : Prop where
  record : ∀ q, C.current c.state = some q → SandboxTasks.TracksClaim K c.state q.record
  threads : ∀ t ∈ c.threads, t.passing → t.KnowsSandbox K c.state

/-- Clients that leave the task as it is and make no claim in its name. -/
def Claims.Spared (K : Claims C) (s s' : C.State) : Prop := C.current s' = C.current s ∧ (K.claimed s' → K.claimed s)

theorem Claims.Spared.spares {s s' : C.State} (h : K.Spared s s') : Spares (C.current s) (C.current s') := .inl h.1

theorem Foreign.claimed {alone : Prop} {s' : C.State} (h : Foreign C K.Spared alone c s') (hc : c.SerialInvariant)
    (halone : alone) (hclaimed : K.claimed s') : K.claimed c.state := by
  cases h with
  | idle h => exact h ▸ hclaimed
  | other _ ho => exact ho.2 hclaimed
  | @job t op a ht hwaits hpass hs =>
      obtain hheld | ⟨r, rfl, -⟩ := K.made hs hclaimed
      · exact hheld
      · obtain ⟨-, -, -, hpass', -⟩ := (hc.keepsRule _ ht).passCalls hwaits not_false
        exact absurd hpass' (hpass halone)

theorem Thread.KnowsSandbox.carry {t u : Thread} {s s' : C.State} (h : t.KnowsSandbox K s) (hm : Meanwhile False C s s')
    (hclaimed : K.claimed s' → K.claimed s) (houtside : u.past.outside = t.past.outside)
    (hshown : ∀ r, u.past.Shows r → r.status.has .sandboxDeleted → r.status.phase.isTerminal) : u.KnowsSandbox K s' where
  provided q sandbox rest hlog := h.provided q sandbox rest (houtside ▸ hlog)
  removed sandbox deletion rest hlog q hq := by
    obtain ⟨r, hr, hbecomes⟩ := hm.becomes q hq
    obtain ⟨hended, hfree⟩ := h.removed sandbox deletion rest (houtside ▸ hlog) r hr
    exact ⟨hbecomes.isTerminal hended, fun hheld => hfree (hclaimed hheld)⟩
  shown := hshown

theorem Claims.made_only {s s' : C.State} {op : Operation} {a : op.Answer} (hs : C.serves s op a s')
    (hop : ∀ r, op ≠ .provision r) (hheld : K.claimed s') : K.claimed s :=
  (K.made hs hheld).resolve_right fun ⟨r, he, _⟩ => hop r he

/-- A sandbox is only asked for by a pass that knows the task as provisioning, and such a task has none of its
conditions of the end. -/
theorem Pool.TracksClaim.unwritten {t : Thread} {op : Operation} {a : op.Answer} {s' : C.State} {q : Versioned}
    (hc : c.SerialInvariant) (ht : c.TracksClaim K) (hmem : t ∈ c.threads) (hwaits : t.Waits op)
    (hs : C.serves c.state op a s') (hq : C.current c.state = some q) : SandboxTasks.TracksClaim K s' q.record := by
  obtain ⟨hnamed, hcleared⟩ := ht.record q hq
  refine ⟨hnamed, fun hdeleted => ⟨(hcleared hdeleted).1, fun hheld => ?_⟩⟩
  obtain hheld | ⟨r, rfl, -⟩ := K.made hs hheld
  · exact (hcleared hdeleted).2 hheld
  · obtain ⟨-, -, -, hpass, hr, hphase, -⟩ := (hc.keepsRule t hmem).passCalls hwaits not_false
    have hsame : q.record.status.has .sandboxDeleted = r.status.has .sandboxDeleted :=
      (hr.becomes q hq).has_eq hpass (by decide)
    have hknows := ht.threads t hmem (Thread.passing_iff.mpr ⟨hpass, _, hwaits⟩)
    have hended := hknows.shown r hr.shown (hsame ▸ hdeleted)
    rw [hphase] at hended
    cases hended

theorem TracksClaim.written {alone : Prop} {t : Thread} {s s' : C.State} {r : Versioned} {change : Change} {now : Instant}
    {next : Status} (h : TracksClaim K s r.record) (hknows : t.job.isPass → t.KnowsSandbox K s)
    (hclaimed : K.claimed s' → K.claimed s) (hbefore : C.current s = some r)
    (hgrounds : t.job.Grounds alone t.past r.record change) (hchange : change now r.record = some next) :
    TracksClaim K s' { r.record with status := next } where
  named sandbox hsandbox := by
    obtain ⟨old, hold, he⟩ | ⟨hpass, q, rest, hlog⟩ := hgrounds.sandbox hchange hsandbox
    · exact he ▸ h.named old hold
    · exact (hknows hpass).provided q sandbox rest hlog
  cleared hdeleted := by
    have hwas : r.record.status.phase.isTerminal ∧ ¬ K.claimed s := by
      obtain hdeleted | ⟨hpass, sandbox, deletion, rest, hlog⟩ := hgrounds.deleted hchange hdeleted
      · exact h.cleared hdeleted
      · exact (hknows hpass).removed sandbox deletion rest hlog r hbefore
    have hfollows := hgrounds.makes.follows hchange
    exact ⟨(hfollows.ended hwas.1).phase ▸ hwas.1, fun hheld => hwas.2 (hclaimed hheld)⟩

theorem Orderly.tracksClaim_record (h : Orderly C K.Spared c d) (hc : c.SerialInvariant) (ht : c.TracksClaim K) :
    ∀ q, C.current d.state = some q → SandboxTasks.TracksClaim K d.state q.record := by
  intro q hq
  cases h.foreign with
  | idle hidle =>
      rw [hidle] at hq ⊢
      exact ht.record q hq
  | other _ hspared =>
      obtain ⟨hnamed, hcleared⟩ := ht.record q (hspared.1 ▸ hq)
      refine ⟨hnamed, fun hdeleted => ?_⟩
      obtain ⟨hended, hfree⟩ := hcleared hdeleted
      exact ⟨hended, fun hheld => hfree (hspared.2 hheld)⟩
  | @job t op a hmem hwaits _ hs =>
      cases (hc.keepsRule t hmem).groundedEffect (hc.sound t hmem) hwaits hs with
      | quiet hview => exact ht.unwritten hc hmem hwaits hs (by rwa [Contract.current, ← hview])
      | wrote hbefore _ hgrounds hchange hafter hrecord hturn =>
          cases hafter.symm.trans hq
          rw [hrecord]
          refine (ht.record _ hbefore).written (fun hpass => ?_) (fun hheld => ?_) hbefore hgrounds hchange
          · exact ht.threads t hmem (Thread.passing_iff.mpr ⟨hpass, op, hwaits⟩)
          · exact K.made_only hs (fun _ he => by subst he; cases hturn) hheld

theorem Pool.TracksClaim.answered {j : Job} {past : History} {op : Operation} {next : op.Answer → Routine j.Result}
    {a : op.Answer} {s' : C.State} (hc : c.SerialInvariant) (ht : c.TracksClaim K)
    (hrecord : ∀ q, C.current s' = some q → SandboxTasks.TracksClaim K s' q.record)
    (hmem : ⟨j, past, .running (.call op next)⟩ ∈ c.threads) (hpass : j.isPass) (hs : C.serves c.state op a s') :
    (⟨j, ⟨op, a⟩ :: past, .running (next a)⟩ : Thread).KnowsSandbox K s' := by
  have hwaits : Thread.Waits ⟨j, past, .running (.call op next)⟩ op := ⟨next, rfl⟩
  have hknowing := ht.threads _ hmem (Thread.passing_iff.mpr ⟨hpass, op, hwaits⟩)
  have hmay := (hc.sound _ hmem).may hwaits
  have hshown (r : Record) (hr : History.Shows (⟨op, a⟩ :: past) r) (hdeleted : r.status.has .sandboxDeleted) :
      r.status.phase.isTerminal := by
    obtain ⟨q, hq, rfl⟩ | hr := hr.served hmay hs
    · exact ((hrecord q hq).cleared hdeleted).1
    · exact hknowing.shown r hr hdeleted
  cases hop : op.isOutside with
  | false =>
      have hm : Meanwhile False C c.state s' :=
        .of_effect hs (effect_of_serves (hc.sound _ hmem).knows hmay hs) False.elim
      have hclaimed := K.made_only hs fun r he => by
        subst he
        cases hop
      exact hknowing.carry hm hclaimed (History.outside_inside hop) hshown
  | true =>
      have hlog : History.outside (⟨op, a⟩ :: past) = ⟨op, a⟩ :: past.outside := History.outside_outside hop
      refine ⟨fun q sandbox rest he => ?_, fun sandbox deletion rest he q hq => ?_, hshown⟩
      · cases hlog.symm.trans he
        obtain ⟨-, -, -, -, hr, -⟩ := (hc.keepsRule _ hmem).passCalls hwaits not_false
        exact K.provided hs hr.id
      · cases hlog.symm.trans he
        obtain ⟨-, -, -, -, r, hr, hended, rfl⟩ := (hc.keepsRule _ hmem).passCalls hwaits not_false
        have hq' : C.current c.state = some q := by rwa [Contract.current, ← C.elsewhere hs (by simp)]
        have hown := (ht.record q hq').claim_eq hr hpass hq'
        exact ⟨(hr.becomes q hq').isTerminal hended, K.deleted hs hown⟩

theorem Orderly.tracksClaim (h : Orderly C K.Spared c d) (hc : c.SerialInvariant) (ht : c.TracksClaim K) :
    d.TracksClaim K := by
  have hrecord := h.tracksClaim_record hc ht
  refine ⟨hrecord, fun u hu hpassing => ?_⟩
  have hwaits := Thread.passing_iff.mp hpassing
  cases h.origin hc.sound hc.serial u hu with
  | kept hmem hforeign =>
      have hm := hforeign.meanwhile hc.sound fun _ _ ho => ho.spares
      have hknowing := ht.threads u hmem hpassing
      exact hknowing.carry hm.weaken (hforeign.claimed hc hwaits) rfl hknowing.shown
  | started j =>
      refine ⟨fun _ _ _ hlog => (by cases hlog), fun _ _ _ hlog => (by cases hlog), ?_⟩
      rintro r ⟨turn, hmem, -⟩
      cases hmem
  | answered hmem hs => exact ht.answered hc hrecord hmem hwaits.1 hs
  | dropped | lost =>
      obtain ⟨-, op, next, hmode⟩ := hwaits
      cases hmode

theorem run_tracksClaim (h : OrderlyRun C K.Spared c d) (hc : c.SerialInvariant) (ht : c.TracksClaim K) :
    d.TracksClaim K := by
  induction h with
  | refl => exact ht
  | tail hrun hs ih => exact hs.tracksClaim (run_serialInvariant hrun (fun _ _ ho => ho.spares) hc) ih

theorem Pool.tracksClaim_new {s : C.State} {r : Versioned} (hstart : C.current s = some r)
    (hnew : r.record.status = .initial) : (⟨s, []⟩ : Pool C).TracksClaim K := by
  refine ⟨fun q hq => ?_, fun _ ht => nomatch ht⟩
  cases hstart.symm.trans hq
  refine ⟨fun sandbox hsandbox => ?_, fun hdeleted => ?_⟩
  · rw [hnew] at hsandbox
    cases hsandbox
  · rw [hnew] at hdeleted
    cases hdeleted

theorem Reconcile.Closes.cleanedUp {past : History} {result : Except Error Outcome} {i : String} {found q : Versioned}
    (h : Closes C (true = true) past c.state result) (hreliable : C.Reliable) (hq : C.current c.state = some q)
    (hfound : past.getLast? = some ⟨.find i, .ok (some found)⟩) (hended : found.record.status.phase.isTerminal)
    (hdeleted : ∀ sandbox e, ⟨.deleteClaim sandbox, .error e⟩ ∉ past) :
    result = .ok .done ∧ q.record.status.has .sandboxDeleted ∧ q.record.status.has .notified := by
  have hfoundEnded : FoundEnded past := ⟨i, found, hfound, hended⟩
  match result with
  | .ok .done =>
      obtain ⟨-, hgone⟩ | ⟨r, hr, -, hdeleted, hnotified, -⟩ := h
      · cases hq.symm.trans hgone
      · have hbecomes := hr.becomes q hq
        exact ⟨rfl, hbecomes.has .sandboxDeleted trivial hdeleted, hbecomes.has .notified trivial hnotified⟩
  | .ok (.requeue after) =>
      obtain ⟨he, -⟩ | ⟨r, -, hopen, -⟩ := h
      · cases he
      · exact absurd hfoundEnded hopen
  | .error (.store e) =>
      have hgone := h (.inl hfoundEnded) rfl hreliable
      cases hq.symm.trans hgone
  | .error (.provision e) =>
      obtain ⟨-, ⟨sandbox, rest, hlog, -⟩ | ⟨hopen, -⟩⟩ := h
      · have hmem : ⟨.deleteClaim sandbox, .error e⟩ ∈ past.outside := hlog ▸ .head _
        exact absurd (List.mem_filter.mp hmem).1 (hdeleted sandbox e)
      · exact absurd hfoundEnded hopen

/-- Passes take turns at a new task, each of them dropped wherever it may be, and all other jobs act in between. If it
is on record that the sandbox was deleted, then no claim is left in the name of the task. Only the task's own claim is
ever deleted, and only once the task has ended. And a pass that finds it ended, and can delete the claim if that is
still to be done, comes to rest with no claim left, both things on record and the end as it found it. -/
theorem no_claim_left {s : C.State} {r : Versioned} (hrun : OrderlyRun C K.Spared ⟨s, []⟩ c)
    (hstart : C.current s = some r) (hnew : r.record.status = .initial) :
    ∃ q, C.current c.state = some q ∧ (q.record.status.has .sandboxDeleted → ¬ K.claimed c.state) ∧
      (∀ t ∈ c.threads, ∀ sandbox, t.Waits (.deleteClaim sandbox) →
        q.record.status.phase.isTerminal ∧ sandbox.claim = TaskId.claimName id) ∧
      ∀ policy notifier past result i (found : Versioned), C.Reliable →
        ⟨.pass policy notifier, past, .running (.done result)⟩ ∈ c.threads →
        past.getLast? = some ⟨.find i, .ok (some found)⟩ → found.record.status.phase.isTerminal →
        (∀ sandbox e, ⟨.deleteClaim sandbox, .error e⟩ ∉ past) →
        result = .ok .done ∧ q.record.status.has .sandboxDeleted ∧ ¬ K.claimed c.state ∧
          q.record.status.has .notified ∧ found.record.status.SameEnd q.record.status := by
  have hinv := run_serialInvariant hrun (fun _ _ ho => ho.spares) (serialInvariant_idle s)
  have hrecord := (run_tracksClaim hrun (serialInvariant_idle s) (Pool.tracksClaim_new hstart hnew)).record
  obtain ⟨q, hq⟩ := run_current hrun (fun _ _ ho => ho.1) (serialInvariant_idle s) (Option.isSome_iff_exists.mpr ⟨r, hstart⟩)
  refine ⟨q, hq, fun hdeleted => ((hrecord q hq).cleared hdeleted).2, fun t ht sandbox hwaits => ?_, ?_⟩
  · obtain ⟨-, -, -, hpass, r, hr, hended, rfl⟩ := (hinv.keepsRule t ht).passCalls hwaits not_false
    exact ⟨(hr.becomes q hq).isTerminal hended, (hrecord q hq).claim_eq hr hpass hq⟩
  · intro policy notifier past result i found hreliable ht hfound hended hdeletes
    have hcloses : Reconcile.Closes C _ past c.state result := (hinv.keepsRule _ ht).closes
    obtain ⟨hdone, hdeleted, hnotified⟩ := hcloses.cleanedUp hreliable hq hfound hended hdeletes
    have hshown : past.Shows found.record := ⟨_, List.mem_of_getLast? hfound, found, rfl, rfl⟩
    have hsame := (hinv.recalls _ ht found.record hshown q hq).ended hended
    exact ⟨hdone, hdeleted, ((hrecord q hq).cleared hdeleted).2, hnotified, hsame⟩

/-- The pass is dropped when it has its sandbox and is about to record it. The task is canceled, and the next pass finds
the claim by its name. -/
theorem no_claim_left_unrecorded : ∃ (K : Claims ((Memory.contract "task").beside Sandbox.Memory.Serves)) (b c : Pool _)
    (q : Versioned), OrderlyRun _ K.Spared ⟨(Memory.holding Memory.sample 1, .empty), []⟩ b ∧ K.claimed b.state ∧
    OrderlyRun _ K.Spared b c ∧ Contract.current _ c.state = some q ∧ q.record.status.phase = .canceled ∧
    q.record.status.has .sandboxDeleted ∧ q.record.status.has .notified ∧ ¬ K.claimed c.state := by
  suffices h : ∃ (b c : Pool ((Memory.contract "task").beside Sandbox.Memory.Serves)) (past : History)
      (found : Versioned) (result : Except Reconcile.Error Reconcile.Outcome),
      OrderlyRun _ (Sandbox.Memory.beside _).Spared ⟨(Memory.holding Memory.sample 1, .empty), []⟩ b ∧
      (Sandbox.Memory.beside (Memory.contract "task")).claimed b.state ∧
      OrderlyRun _ (Sandbox.Memory.beside _).Spared b c ∧
      ⟨.pass onceTried .off, past, .running (.done result)⟩ ∈ c.threads ∧
      past.getLast? = some ⟨.find "task", .ok (some found)⟩ ∧ found.record.status.phase = .canceled ∧
      ∀ sandbox e, ⟨.deleteClaim sandbox, .error e⟩ ∉ past by
    obtain ⟨b, c, past, found, result, hb, hclaimed, hc, ht, hfound, hphase, hdeletes⟩ := h
    have hreliable : ((Memory.contract "task").beside Sandbox.Memory.Serves).Reliable := Memory.reliable.beside
    obtain ⟨q, hq, -, -, hrest⟩ := no_claim_left (hb.trans hc) Memory.current_holding rfl
    obtain ⟨-, hdeleted, hfree, hnotified, hsame⟩ :=
      hrest _ _ past result _ found hreliable ht hfound (hphase ▸ rfl) hdeletes
    exact ⟨_, b, c, q, hb, hclaimed, hc, hq, hsame.phase.trans hphase, hdeleted, hnotified, hfree⟩
  have hstores (m : Sandbox.Memory) := (Memory.stores "task" default).beside (Sandbox.Memory.stores m default)
  refine ⟨_, _, _, _, _, .start (.pass onceTried .off) rfl (fun _ => rfl) <|
    .answers [] (.read (hstores _) rfl <| .round (hstores _) rfl rfl rfl <|
      .head (serves_beside (Memory.holding_now default) rfl) <|
      .head (serves_beside (Memory.holding_provision _) ⟨default, rfl⟩) .refl) .refl, rfl,
    .drop [] <| .start .cancel rfl (fun h => nomatch h) <| .answers [] (.round (hstores _) rfl rfl rfl .refl) <|
    .start (.pass onceTried .off) rfl (fun _ => rfl) <| .answers [] (.head (serves_beside Memory.holding_find rfl) <|
      .head (serves_beside (Memory.holding_deleteClaim _) ⟨rfl, rfl⟩) <| .round (hstores _) rfl rfl rfl <|
      .round (hstores _) rfl rfl rfl .refl) .refl, .head _, rfl, rfl, ?_⟩
  intro sandbox e h
  simp at h

end SandboxTasks
