import SandboxTasks.Proofs.Sandbox.Leak
import SandboxTasks.Proofs.Task.WellFormed

namespace SandboxTasks

open Store

variable {id : String} {C : Contract id} {K : Claims C} {c d : Pool C}

def Operation.isAssign : Operation → Bool
  | .assign _ _ _ => true
  | _ => false

section

variable {alone : Prop} {past : History} {q r : Record} {change : Change} {now : Instant} {next : Status}
  {sandbox : SandboxRef} {address : String}

theorem Reconcile.Warranted.addressed {p : Policy} {n : Callback.Notifier} (h : Warranted alone p n past q change)
    (hr : r.status.WellFormed) (hchange : change now r = some next) (hready : next.readyAt.isSome)
    (hsandbox : next.sandbox = some sandbox) (haddress : sandbox.address = some address) :
    r.status.readyAt.isSome ∧ r.status.sandbox = some sandbox ∨
      ∃ polled, ⟨.poll polled, .ok (.ready address)⟩ ∈ past := by
  have hkept (hcourse : r.status.SameCourse next) : r.status.readyAt.isSome ∧ r.status.sandbox = some sandbox :=
    ⟨hcourse.readyAt ▸ hready, hcourse.sandbox.symm.trans hsandbox⟩
  cases h with
  | recordSandbox =>
      obtain ⟨⟨hphase, -⟩, hnext⟩ := Option.ite_none_right_eq_some.mp hchange
      cases hnext
      rw [(hr.provisioning hphase).2.1] at hready
      cases hready
  | forgetSandbox =>
      obtain ⟨-, hnext⟩ := Option.ite_none_right_eq_some.mp hchange
      cases hnext
      cases hsandbox
  | @markReady polled told log hpoll _ =>
      obtain ⟨-, rfl⟩ := Change.markReady_eq hchange
      obtain ⟨old, -, rfl⟩ := Option.map_eq_some_iff.mp hsandbox
      cases haddress
      have hmem : ⟨.poll polled, .ok (.ready address)⟩ ∈ past.outside := hpoll ▸ .head _
      exact .inr ⟨polled, (List.mem_filter.mp hmem).1⟩
  | startProvisioning =>
      obtain ⟨-, hnext⟩ := Option.ite_none_right_eq_some.mp hchange
      cases hnext
      exact .inl ⟨hready, hsandbox⟩
  | assigned =>
      obtain ⟨-, hnext⟩ := Option.ite_none_right_eq_some.mp hchange
      cases hnext
      exact .inl (hkept ((Change.course_noteWorker r.status).trans ⟨rfl, rfl, rfl, rfl⟩))
  | startAssigning | assignmentFailed =>
      obtain ⟨-, hnext⟩ := Option.ite_none_right_eq_some.mp hchange
      cases hnext
      exact .inl ⟨hready, hsandbox⟩
  | finish => exact .inl (hkept (Change.course_terminate hchange))
  | sandboxDeleted | notified =>
      obtain ⟨-, hnext⟩ := Option.ite_none_left_eq_some.mp hchange
      cases hnext
      exact .inl ⟨hready, hsandbox⟩

theorem Job.Grounds.addressed {j : Job} (h : j.Grounds alone past r change) (hr : r.status.WellFormed)
    (hchange : change now r = some next) (hready : next.readyAt.isSome) (hsandbox : next.sandbox = some sandbox)
    (haddress : sandbox.address = some address) :
    r.status.readyAt.isSome ∧ r.status.sandbox = some sandbox ∨
      ∃ polled, ⟨.poll polled, .ok (.ready address)⟩ ∈ past := by
  cases h with
  | plain hpass h =>
      have hcourse : r.status.SameCourse next := (h.becomes hchange fun _ => hpass).course trivial
      exact .inl ⟨hcourse.readyAt ▸ hready, hcourse.sandbox.symm.trans hsandbox⟩
  | pass hpass h =>
      obtain ⟨hearlier, -, -, -, h⟩ := h
      refine (h.addressed hr hchange hready hsandbox haddress).imp_right ?_
      exact fun ⟨polled, hpoll⟩ => ⟨polled, hearlier.mem hpoll⟩

theorem Job.Makes.readyAt {j : Job} {writes : Nat} (h : j.Makes writes change) (hchange : change now r = some next)
    (hready : r.status.readyAt.isSome) : next.readyAt.isSome := by
  by_cases hpass : j.isPass
  · cases h with
    | pass _ _ _ h =>
        cases h with
        | markReady =>
            obtain ⟨-, rfl⟩ := Change.markReady_eq hchange
            rfl
        | finish => exact (Change.course_terminate hchange).readyAt ▸ hready
        | assigned =>
            obtain ⟨-, hnext⟩ := Option.ite_none_right_eq_some.mp hchange
            cases hnext
            exact (Change.course_noteWorker r.status).readyAt ▸ hready
        | startProvisioning | recordSandbox | forgetSandbox | startAssigning | assignmentFailed =>
            obtain ⟨-, hnext⟩ := Option.ite_none_right_eq_some.mp hchange
            cases hnext
            exact hready
        | sandboxDeleted | notified =>
            obtain ⟨-, hnext⟩ := Option.ite_none_left_eq_some.mp hchange
            cases hnext
            exact hready
    | _ => cases hpass
  · exact ((h.becomes hchange fun _ => hpass).course trivial).readyAt ▸ hready

end

/-- Some client was told in a poll of the task's own sandbox that it is ready at this address. -/
def Pool.Reported (c : Pool C) (address : String) : Prop :=
  ∃ t ∈ c.threads, ∃ sandbox, ⟨.poll sandbox, .ok (.ready address)⟩ ∈ t.past ∧ sandbox.claim = TaskId.claimName id

def Pool.AddressReported (c : Pool C) (r : Record) : Prop :=
  r.status.readyAt.isSome → ∀ sandbox address, r.status.sandbox = some sandbox → sandbox.address = some address →
    c.Reported address

def Pool.ReadyLasts (c : Pool C) (r : Record) : Prop :=
  r.status.readyAt.isSome → ∀ q, C.current c.state = some q → q.record.status.readyAt.isSome

def Thread.Assigned (t : Thread) : Prop :=
  (∃ turn ∈ t.past, turn.op.isAssign) ∨ ∃ op, op.isAssign ∧ (t.Waits op ∨ t.mode = .dropped op)

theorem Pool.Reported.later {others : C.State → C.State → Prop} {address : String} (h : c.Reported address)
    (hs : Orderly C others c d) : d.Reported address := by
  obtain ⟨t, ht, sandbox, hpoll, hclaim⟩ := h
  obtain ⟨u, hu, -, hpast⟩ := hs.descendant ht
  exact ⟨u, hu, sandbox, hpast.mem hpoll, hclaim⟩

/-- What is known about addresses. Only the task's own sandbox is polled, and nobody is asked to take a task unless it
is on record that its sandbox was ready, where it stays. -/
structure Pool.Addressed (c : Pool C) : Prop where
  polled : ∀ t ∈ c.threads, ∀ sandbox a, ⟨.poll sandbox, a⟩ ∈ t.past → sandbox.claim = TaskId.claimName id
  reported : c.All c.AddressReported
  lasting : c.All c.ReadyLasts
  assigned : ∀ t ∈ c.threads, t.Assigned → ∀ q, C.current c.state = some q → q.record.status.readyAt.isSome

theorem Thread.KeepsRule.assigns {t : Thread} {s : C.State} {address i api : String} (h : t.KeepsRule C (·.isPass) s)
    (hwaits : t.Waits (.assign address i api)) : t.job.isPass ∧ i = id ∧ ∃ r, Known C t.job.isPass t.past s r ∧
      r.status.phase = .assigning ∧ Reconcile.Located t.job.isPass address t.past r := by
  obtain ⟨-, -, -, hpass, hid, hrest⟩ := h.passCalls hwaits not_false
  exact ⟨hpass, hid, hrest⟩

theorem Pool.SerialInvariant.ready_of_assign {t : Thread} {op : Operation} {q : Versioned} (hc : c.SerialInvariant)
    (hall : c.All (·.status.WellFormed)) (ht : t ∈ c.threads) (hop : op.isAssign) (hwaits : t.Waits op)
    (hq : C.current c.state = some q) : q.record.status.readyAt.isSome := by
  cases op with
  | assign address i api =>
      obtain ⟨hpass, -, r, hr, hphase, -⟩ := (hc.keepsRule t ht).assigns hwaits
      have hready := ((hall.shown t ht r hr.shown).ready (hphase ▸ trivial)).1
      exact ((hr.becomes q hq).course hpass).readyAt ▸ hready
  | _ => cases hop

theorem Pool.SerialInvariant.claim_of_poll {t : Thread} {sandbox : SandboxRef} {q : Versioned}
    (hc : c.SerialInvariant) (htracks : c.TracksClaim K)
    (ht : t ∈ c.threads) (hwaits : t.Waits (.poll sandbox)) (hq : C.current c.state = some q) :
    sandbox.claim = TaskId.claimName id := by
  obtain ⟨-, -, -, hpass, r, hr, rfl⟩ := (hc.keepsRule t ht).passCalls hwaits not_false
  exact (htracks.record q hq).claim_eq hr hpass hq

section

variable {others : C.State → C.State → Prop} {alone : Job → Prop} {s' : C.State} {u : Thread} {turn : Turn}

theorem Origin.done (h : Origin C others alone c s' u) (hturn : turn ∈ u.past) :
    (∃ t ∈ c.threads, turn ∈ t.past) ∨ ∃ t ∈ c.threads, t.Waits turn.op := by
  have hserved {j : Job} {past : History} {op : Operation} {next : op.Answer → Routine j.Result} {a : op.Answer}
      (hmem : ⟨j, past, .running (.call op next)⟩ ∈ c.threads) (hturn : turn ∈ (⟨op, a⟩ :: past : History)) :
      (∃ t ∈ c.threads, turn ∈ t.past) ∨ ∃ t ∈ c.threads, t.Waits turn.op := by
    rcases List.mem_cons.mp hturn with rfl | hturn
    · exact .inr ⟨_, hmem, next, rfl⟩
    · exact .inl ⟨_, hmem, hturn⟩
  cases h with
  | kept hmem | dropped hmem => exact .inl ⟨_, hmem, hturn⟩
  | started => cases hturn
  | answered hmem | lost hmem => exact hserved hmem hturn

theorem Origin.assigned (h : Origin C others alone c s' u) (hu : u.Assigned) :
    (∃ t ∈ c.threads, t.Assigned) ∨ ∃ op, op.isAssign ∧ u.Waits op := by
  obtain ⟨turn, hturn, hop⟩ | ⟨op, hop, hwaits | hdropped⟩ := hu
  · obtain ⟨t, ht, hturn⟩ | ⟨t, ht, hwaits⟩ := h.done hturn
    · exact .inl ⟨t, ht, .inl ⟨turn, hturn, hop⟩⟩
    · exact .inl ⟨t, ht, .inr ⟨_, hop, .inl hwaits⟩⟩
  · exact .inr ⟨op, hop, hwaits⟩
  · cases h with
    | kept hmem => exact .inl ⟨u, hmem, .inr ⟨op, hop, .inr hdropped⟩⟩
    | dropped hmem | lost hmem =>
        cases hdropped
        exact .inl ⟨_, hmem, .inr ⟨_, hop, .inl ⟨_, rfl⟩⟩⟩
    | started | answered => cases hdropped

variable (h : Orderly C others c d) (hothers : ∀ s s', others s s' → Spares (C.current s) (C.current s'))
  (hc : c.SerialInvariant)

include h hothers hc

theorem Orderly.readyAt {q r : Versioned} (hr : C.current c.state = some r) (hready : r.record.status.readyAt.isSome)
    (hq : C.current d.state = some q) : q.record.status.readyAt.isSome := by
  obtain hsame | ⟨t, change, now, r', hwritten⟩ := h.written hothers hc hq
  · cases hr.symm.trans hsame
    exact hready
  · cases hr.symm.trans hwritten.before
    exact hwritten.grounds.makes.readyAt hwritten.changes hready

theorem Orderly.reported (hall : c.All (·.status.WellFormed)) (haddressed : c.Addressed) : d.All d.AddressReported := by
  have hlater {r : Record} (hr : c.AddressReported r) : d.AddressReported r :=
    fun hready sandbox address hsandbox haddress => (hr hready sandbox address hsandbox haddress).later h
  have hcurrent (q : Versioned) (hq : C.current d.state = some q) : d.AddressReported q.record := by
    obtain hsame | ⟨t, change, now, r, hwritten⟩ := h.written hothers hc hq
    · exact hlater (haddressed.reported.current q hsame)
    · intro hready sandbox address hsandbox haddress
      have hr := hall.current r hwritten.before
      obtain ⟨hready, hsandbox⟩ | ⟨polled, hpoll⟩ :=
        hwritten.grounds.addressed hr hwritten.changes hready hsandbox haddress
      · exact hlater (haddressed.reported.current r hwritten.before) hready sandbox address hsandbox haddress
      · have hreported : c.Reported address :=
          ⟨t, hwritten.mem, polled, hpoll, haddressed.polled t hwritten.mem polled _ hpoll⟩
        exact hreported.later h
  refine ⟨hcurrent, fun u hu => (h.origin hc.sound hc.serial u hu).shown hc.sound hcurrent fun t ht r hr => ?_⟩
  exact hlater (haddressed.reported.shown t ht r hr)

theorem Orderly.lasting {q : Versioned} (hq : C.current c.state = some q) (haddressed : c.Addressed) :
    d.All d.ReadyLasts := by
  have hcurrent (r : Versioned) (hr : C.current d.state = some r) : d.ReadyLasts r.record := by
    intro hready r' hr'
    cases hr.symm.trans hr'
    exact hready
  refine ⟨hcurrent, fun u hu => ?_⟩
  refine (h.origin hc.sound hc.serial u hu).shown hc.sound hcurrent fun t ht r hr hready r' hr' => ?_
  exact h.readyAt hothers hc hq (haddressed.lasting.shown t ht r hr hready q hq) hr'

theorem Orderly.addressed (htracks : c.TracksClaim K) (hall : c.All (·.status.WellFormed)) {q : Versioned}
    (hq : C.current c.state = some q) (haddressed : c.Addressed) : d.Addressed where
  polled u hu sandbox a hpoll := by
    obtain ⟨t, ht, hpoll⟩ | ⟨t, ht, hwaits⟩ := (h.origin hc.sound hc.serial u hu).done hpoll
    · exact haddressed.polled t ht sandbox a hpoll
    · exact hc.claim_of_poll htracks ht hwaits hq
  reported := h.reported hothers hc hall haddressed
  lasting := h.lasting hothers hc hq haddressed
  assigned u hu hassigned r hr := by
    obtain ⟨t, ht, hassigned⟩ | ⟨op, hop, hwaits⟩ := (h.origin hc.sound hc.serial u hu).assigned hassigned
    · exact h.readyAt hothers hc hq (haddressed.assigned t ht hassigned q hq) hr
    · exact (h.serialInvariant hothers hc).ready_of_assign (h.all kept_wellFormed hothers hc hall) hu hop hwaits hr

end

theorem Pool.addressed_new {s : C.State} (hnew : ∀ q, C.current s = some q → q.record.status = .initial) :
    (⟨s, []⟩ : Pool C).Addressed := by
  have hnone (q : Versioned) (hq : C.current s = some q) : ¬ q.record.status.readyAt.isSome := by
    rw [hnew q hq]
    exact Bool.false_ne_true
  exact ⟨fun _ ht => (nomatch ht), Pool.all_idle fun q hq hready => absurd hready (hnone q hq),
    Pool.all_idle fun q hq hready => absurd hready (hnone q hq), fun _ ht => nomatch ht⟩

theorem run_addressed (h : OrderlyRun C K.Spared c d) (hc : c.SerialInvariant) (htracks : c.TracksClaim K)
    (hall : c.All (·.status.WellFormed)) (hcurrent : (C.current c.state).isSome) (haddressed : c.Addressed) : d.Addressed := by
  induction h with
  | refl => exact haddressed
  | tail hrun hs ih =>
      have hspares (s s' : C.State) (ho : K.Spared s s') := ho.spares
      have hmid := run_serialInvariant hrun hspares hc
      obtain ⟨r, hr⟩ := run_current hrun (fun _ _ ho => ho.1) hc hcurrent
      exact hs.addressed hspares hmid (run_tracksClaim hrun hc htracks) (run_all kept_wellFormed hrun hspares hc hall) hr ih

end SandboxTasks
