import SandboxTasks.Proofs.Reconcile.Deadline
import SandboxTasks.Proofs.Store.Undisturbed
import SandboxTasks.Proofs.Sweep.System

namespace SandboxTasks

open Store

/-- The stored tasks and the claims beside them, and which claims were to be deleted, the first one first. -/
structure SweepState where
  store : Memory
  claims : List Sandbox.ClaimSummary
  attempts : List SandboxRef

namespace SweepState

/-- The answers at one instant, with some deletions of claims refused. -/
def answer (now : Instant) (refusal : String → Option ProvisionError) (others : (op : Operation) → op.Answer) :
    (op : Operation) → SweepState → op.Answer × SweepState
  | .claims, g => (.ok g.claims, g)
  | .deleteClaim sandbox, g =>
    let attempts := g.attempts ++ [sandbox]
    match refusal sandbox.claim with
    | some e => (.error e, { g with attempts })
    | none =>
      (.ok (if g.claims.any (·.sandbox.claim == sandbox.claim) then .deleted else .absent),
        { g with claims := g.claims.filter (·.sandbox.claim != sandbox.claim), attempts })
  | op, g => let (a, store) := g.store.answer now others op; (a, { g with store })

structure Distinct (g : SweepState) : Prop where
  store : g.store.Distinct
  claims : (g.claims.map (·.sandbox.claim)).Nodup

def tasks (g : SweepState) : List Record := g.store.entries.map (·.record)

end SweepState

namespace Sweep

variable {s : Settings} {now : Instant} {refusal : String → Option ProvisionError}
  {others : (op : Operation) → op.Answer} {tasks : List Record} {g : SweepState}

/-- A sweep wants the claim deleted, as it has listed the tasks. -/
def isDue (s : Settings) (now : Instant) (tasks : List Record) (c : Sandbox.ClaimSummary) : Bool :=
  c.task.any fun id => isOld s.grace now c && isOrphaned tasks id

def isGone (s : Settings) (now : Instant) (tasks : List Record) (refusal : String → Option ProvisionError)
    (c : Sandbox.ClaimSummary) : Bool :=
  isDue s now tasks c && (refusal c.sandbox.claim).isNone

theorem filter_notMem_cons {α : Type} (name : α → String) (n : String) (ns : List String) (xs : List α) :
    (xs.filter (name · != n)).filter (name · ∉ ns) = xs.filter (name · ∉ n :: ns) := by
  rw [List.filter_filter]
  refine List.filter_congr fun x _ => ?_
  by_cases h : name x = n <;> simp [h]

theorem filter_notMem_filter {α : Type} {name : α → String} {xs : List α} (h : (xs.map name).Nodup) (p : α → Bool) :
    xs.filter (name · ∉ (xs.filter p).map name) = xs.filter (!p ·) := by
  refine List.filter_congr fun x hx => ?_
  have hmem : name x ∈ (xs.filter p).map name ↔ p x := by
    simp only [List.mem_map, List.mem_filter]
    constructor
    · rintro ⟨y, ⟨hy, hp⟩, hname⟩
      rwa [← List.inj_on_of_nodup_map h hy hx hname]
    · exact fun hp => ⟨x, ⟨hx, hp⟩, rfl⟩
  simp [hmem]

theorem run_sweepClaims (cs : List Sandbox.ClaimSummary) (g : SweepState) :
    (sweepClaims s tasks cs).run (SweepState.answer now refusal others) g =
      (cs.countP (isGone s now tasks refusal),
        { g with
          claims := g.claims.filter (·.sandbox.claim ∉ (cs.filter (isGone s now tasks refusal)).map (·.sandbox.claim))
          attempts := g.attempts ++ (cs.filter (isDue s now tasks)).map (·.sandbox) }) := by
  induction cs generalizing g with
  | nil => simp [sweepClaims, Program.run_pure]
  | cons c cs ih =>
      unfold sweepClaims
      split
      · next htask =>
          have hdue : isDue s now tasks c = false := by simp [isDue, htask]
          rw [ih]
          simp [isGone, hdue]
      · next id htask =>
          rw [Program.run_bind, run_ask .now]
          have hdue : isDue s now tasks c = (isOld s.grace now c && isOrphaned tasks id) := by simp [isDue, htask]
          change (if (isOld s.grace now c && isOrphaned tasks id) = true then _ else _ : Routine Nat).run _ g = _
          rw [← hdue]
          cases h : isDue s now tasks c with
          | false =>
              rw [if_neg Bool.false_ne_true, ih]
              simp [isGone, h]
          | true =>
              rw [if_pos rfl, Program.run_bind, run_ask (.deleteClaim c.sandbox)]
              cases hrefusal : refusal c.sandbox.claim with
              | some e =>
                  simp only [SweepState.answer, hrefusal]
                  rw [ih]
                  simp [isGone, h, hrefusal]
              | none =>
                  simp only [SweepState.answer, hrefusal]
                  rw [Program.run_bind, ih, Program.run_pure]
                  have hgone : isGone s now tasks refusal c := by simp [isGone, h, hrefusal]
                  rw [List.countP_cons_of_pos hgone, List.filter_cons_of_pos hgone, List.filter_cons_of_pos h,
                    filter_notMem_cons]
                  simp

theorem run_sweepTasks {retention : Duration} (rs : List Record) (g : SweepState) (hrs : (rs.map (·.id)).Nodup)
    (hstored : ∀ r ∈ rs, (g.store.stored? r.id).isSome) :
    (sweepTasks retention rs).run (SweepState.answer now refusal others) g =
      (.ok (rs.countP (isExpired retention now)), { g with
        store := ⟨g.store.entries.filter (·.record.id ∉ (rs.filter (isExpired retention now)).map (·.id))⟩ }) := by
  induction rs generalizing g with
  | nil => simp [sweepTasks, Program.run_pure]
  | cons r rs ih =>
      obtain ⟨hr, hrs⟩ := List.nodup_cons.mp hrs
      obtain ⟨hfirst, hrest⟩ := List.forall_mem_cons.mp hstored
      unfold sweepTasks
      rw [Program.run_bind, run_ask .now]
      change (if isExpired retention now r = true then _ else _ : Routine _).run _ g = _
      cases h : isExpired retention now r with
      | false =>
          rw [if_neg Bool.false_ne_true, ih g hrs hrest]
          simp [h]
      | true =>
          rw [if_pos rfl, Program.run_bind, run_ask (.erase r.id)]
          have herased : (g.store.erase r.id).1 = true := hfirst
          simp only [SweepState.answer, Memory.answer, herased]
          rw [Program.run_bind, ih]
          · simp only [Memory.erase]
            rw [filter_notMem_cons]
            simp [Program.run_pure, Except.map, h]
          · exact hrs
          · intro q hq
            have hne : r.id ≠ q.id := fun he => hr (List.mem_map.mpr ⟨q, hq, he.symm⟩)
            rw [Memory.stored_erase, if_neg hne]
            exact hrest q hq

def isSpent (s : Settings) (now : Instant) (r : Record) : Bool :=
  s.retention.any fun retention => isExpired retention now r

end Sweep

namespace SweepState

def after (g : SweepState) (s : Sweep.Settings) (now : Instant) (refusal : String → Option ProvisionError) : SweepState where
  store := ⟨g.store.entries.filter (!Sweep.isSpent s now ·.record)⟩
  claims := g.claims.filter (!Sweep.isGone s now g.tasks refusal ·)
  attempts := g.attempts ++ (g.claims.filter (Sweep.isDue s now g.tasks)).map (·.sandbox)

def tally (g : SweepState) (s : Sweep.Settings) (now : Instant) (refusal : String → Option ProvisionError) :
    Sweep.Tally where
  claimsDeleted := g.claims.countP (Sweep.isGone s now g.tasks refusal)
  tasksDeleted := g.tasks.countP (Sweep.isSpent s now)

end SweepState

namespace Sweep

variable {s : Settings} {now : Instant} {refusal : String → Option ProvisionError}
  {others : (op : Operation) → op.Answer} {g : SweepState}

theorem run_once (hg : g.Distinct) :
    (once s).run (SweepState.answer now refusal others) g = (.ok (g.tally s now refusal), g.after s now refusal) := by
  unfold SweepState.after SweepState.tally
  have hlist : SweepState.answer now refusal others .list g = (.ok g.store.list, g) := rfl
  have htasks : g.store.list.map (·.record) = g.tasks := by simp [Memory.list, SweepState.tasks, Entry.versioned]
  have hclaims : SweepState.answer now refusal others .claims g = (.ok g.claims, g) := rfl
  rw [once, Program.run_bind, run_ask .list, hlist]
  dsimp only
  rw [Program.run_bind, run_ask .claims, hclaims]
  dsimp only
  rw [Program.run_bind, htasks, run_sweepClaims, filter_notMem_filter hg.claims]
  cases hretention : s.retention with
  | none =>
      have hspent : isSpent s now = fun _ => false := by funext r; simp [isSpent, hretention]
      simp [Program.run_pure, hspent]
  | some retention =>
      have hspent : isSpent s now = isExpired retention now := by funext r; simp [isSpent, hretention]
      have hnames : ((g.tasks.filter (isExpired retention now)).map (·.id)) =
          (g.store.entries.filter (isExpired retention now ·.record)).map (·.record.id) := by
        simp [SweepState.tasks, List.filter_map, Function.comp_def]
      have hnodup : (g.tasks.map (·.id)).Nodup := by
        simpa [SweepState.tasks, Function.comp_def, Memory.Distinct] using hg.store
      have hstored : ∀ r ∈ g.tasks, (g.store.stored? r.id).isSome := by
        intro r hr
        obtain ⟨e, he, rfl⟩ := List.mem_map.mp hr
        rw [Memory.stored_of_mem hg.store he]
        rfl
      dsimp only
      rw [Program.run_bind, run_sweepTasks _ _ hnodup]
      · dsimp only
        rw [hnames, filter_notMem_filter hg.store, hspent]
        rfl
      · exact hstored

end Sweep

namespace SweepState

structure Abandoned (g : SweepState) (s : Sweep.Settings) (now : Instant) (c : Sandbox.ClaimSummary) : Prop where
  old : ∀ t, c.createdAt = some t → s.grace.toNanos ≤ (now.distance t).toNat
  unneeded : ∃ id, c.task = some id ∧ ∀ r, g.store.record? id = some r → r.CleanedUp

end SweepState

/-- Nothing is left to do for the task, and it ended as long ago as tasks are kept. -/
structure Record.Spent (r : Record) (s : Sweep.Settings) (now : Instant) : Prop where
  cleanedUp : r.CleanedUp
  notified : r.status.has .notified
  kept : ∃ retention t, s.retention = some retention ∧ r.status.completedAt = some t ∧
    retention.toNanos ≤ (now.distance t).toNat

namespace Sweep

variable {s : Settings} {now : Instant} {g : SweepState} {c : Sandbox.ClaimSummary} {r : Record}

theorem hasElapsed_iff {t : Instant} {length : Duration} :
    Reconcile.hasElapsed now t length ↔ length.toNanos ≤ (now.distance t).toNat := by
  rw [Reconcile.hasElapsed, decide_eq_true_iff, Duration.le_iff, Reconcile.toNanos_elapsed_eq, le_min_iff]
  exact and_iff_left (Duration.toNanos_le_greatest length)

theorem isOld_iff : isOld s.grace now c ↔ ∀ t, c.createdAt = some t → s.grace.toNanos ≤ (now.distance t).toNat := by
  unfold isOld
  cases c.createdAt with
  | none => simp
  | some t => simp [hasElapsed_iff]

theorem isOrphaned_iff {id : String} :
    isOrphaned g.tasks id ↔ ∀ r, g.store.record? id = some r → r.CleanedUp := by
  have hfind : g.tasks.find? (·.id == id) = g.store.record? id := by
    rw [SweepState.tasks, List.find?_map]
    rfl
  unfold isOrphaned
  rw [hfind]
  cases g.store.record? id <;> simp [Record.CleanedUp]

theorem isDue_iff : isDue s now g.tasks c ↔ g.Abandoned s now c := by
  unfold isDue
  cases h : c.task with
  | none => exact iff_of_false Bool.false_ne_true fun ⟨_, id, hid, _⟩ => nomatch h.symm.trans hid
  | some id =>
      rw [Option.any_some, Bool.and_eq_true, isOld_iff, isOrphaned_iff]
      constructor
      · exact fun ⟨hold, hunneeded⟩ => ⟨hold, id, h, hunneeded⟩
      · rintro ⟨hold, i, hi, hunneeded⟩
        cases h.symm.trans hi
        exact ⟨hold, hunneeded⟩

theorem isExpired_iff {retention : Duration} : isExpired retention now r ↔
    r.CleanedUp ∧ r.status.has .notified ∧
      ∃ t, r.status.completedAt = some t ∧ retention.toNanos ≤ (now.distance t).toNat := by
  unfold isExpired Record.CleanedUp
  cases r.status.completedAt with
  | none => simp
  | some t => simp [hasElapsed_iff, and_assoc]

theorem isSpent_iff : isSpent s now r ↔ r.Spent s now := by
  unfold isSpent
  cases h : s.retention with
  | none => exact iff_of_false Bool.false_ne_true fun ⟨_, _, _, _, hretention, _⟩ => nomatch h.symm.trans hretention
  | some retention =>
      rw [Option.any_some, isExpired_iff]
      constructor
      · exact fun ⟨hcleaned, hnotified, t, ht, hle⟩ => ⟨hcleaned, hnotified, retention, t, h, ht, hle⟩
      · rintro ⟨hcleaned, hnotified, kept, t, hkept, ht, hle⟩
        cases h.symm.trans hkept
        exact ⟨hcleaned, hnotified, t, ht, hle⟩

end Sweep

namespace SweepState

variable {s : Sweep.Settings} {now : Instant} {refusal : String → Option ProvisionError}
  {others : (op : Operation) → op.Answer} {g h g' : SweepState}

/-- What a sweep that counts `tally` makes of the state `g`: it asks for just the abandoned claims to be deleted, each
once; of those only the ones whose deletion is refused are left; the tasks that are kept long enough are gone; and
nothing else has changed. -/
structure Swept (s : Sweep.Settings) (now : Instant) (refusal : String → Option ProvisionError) (g g' : SweepState)
    (tally : Sweep.Tally) : Prop where
  attempts : ∃ tried, g'.attempts = g.attempts ++ tried ∧ tried.Nodup ∧
    ∀ sandbox, sandbox ∈ tried ↔ ∃ c ∈ g.claims, c.sandbox = sandbox ∧ g.Abandoned s now c
  claims : g'.claims.Sublist g.claims
  claimGone : ∀ c ∈ g.claims, c ∉ g'.claims ↔ g.Abandoned s now c ∧ refusal c.sandbox.claim = none
  tasks : g'.store.entries.Sublist g.store.entries
  taskGone : ∀ e ∈ g.store.entries, e ∉ g'.store.entries ↔ e.record.Spent s now
  claimsDeleted : tally.claimsDeleted + g'.claims.length = g.claims.length
  tasksDeleted : tally.tasksDeleted + g'.store.entries.length = g.store.entries.length

/-- The same tasks and claims, enumerated in another order. -/
structure Reorders (h g : SweepState) : Prop where
  tasks : h.store.entries.Perm g.store.entries
  claims : h.claims.Perm g.claims
  attempts : h.attempts.Perm g.attempts

theorem Reorders.distinct (hr : h.Reorders g) (hg : g.Distinct) : h.Distinct where
  store := ((hr.tasks.map _).nodup_iff).mpr hg.store
  claims := ((hr.claims.map _).nodup_iff).mpr hg.claims

theorem Swept.of_after (hg : g.Distinct) : g.Swept s now refusal (g.after s now refusal) (g.tally s now refusal) where
  attempts := by
    refine ⟨_, rfl, ?_, fun sandbox => ?_⟩
    · refine List.Nodup.of_map (·.claim) ?_
      rw [List.map_map]
      exact hg.claims.sublist (List.filter_sublist.map _)
    · simp only [List.mem_map, List.mem_filter, Sweep.isDue_iff]
      exact exists_congr fun c => by tauto
  claims := List.filter_sublist
  claimGone c hc := by
    simp [after, hc, Sweep.isGone, Sweep.isDue_iff]
  tasks := List.filter_sublist
  taskGone e he := by
    simp [after, he, Sweep.isSpent_iff]
  claimsDeleted := by
    rw [tally, after, List.countP_eq_length_filter, ← List.length_eq_length_filter_add]
  tasksDeleted := by
    have hcount :
        g.tasks.countP (Sweep.isSpent s now) = (g.store.entries.filter (Sweep.isSpent s now ·.record)).length := by
      rw [SweepState.tasks, List.countP_map, List.countP_eq_length_filter]
      rfl
    rw [tally, after, hcount, ← List.length_eq_length_filter_add]

theorem record?_eq_some (hg : g.Distinct) {id : String} {r : Record} :
    g.store.record? id = some r ↔ ∃ e ∈ g.store.entries, e.record = r ∧ r.id = id := by
  rw [Memory.record?, Option.map_eq_some_iff]
  constructor
  · rintro ⟨e, he, rfl⟩
    exact ⟨e, List.mem_of_find?_eq_some he, rfl, Memory.id_of_stored he⟩
  · rintro ⟨e, he, rfl, rfl⟩
    exact ⟨e, Memory.stored_of_mem hg.store he, rfl⟩

theorem Reorders.isDue (hr : h.Reorders g) (hg : g.Distinct) :
    Sweep.isDue s now h.tasks = Sweep.isDue s now g.tasks := by
  have hrecord (id : String) (r : Record) : h.store.record? id = some r ↔ g.store.record? id = some r := by
    rw [record?_eq_some hg, record?_eq_some (hr.distinct hg)]
    simp only [hr.tasks.mem_iff]
  funext c
  rw [Bool.eq_iff_iff, Sweep.isDue_iff, Sweep.isDue_iff]
  constructor
  · exact fun ⟨hold, id, hid, hunneeded⟩ => ⟨hold, id, hid, fun r h => hunneeded r ((hrecord id r).mpr h)⟩
  · exact fun ⟨hold, id, hid, hunneeded⟩ => ⟨hold, id, hid, fun r h => hunneeded r ((hrecord id r).mp h)⟩

theorem Reorders.after (s : Sweep.Settings) (now : Instant) (refusal : String → Option ProvisionError)
    (hr : h.Reorders g) (hg : g.Distinct) :
    h.tally s now refusal = g.tally s now refusal ∧ (h.after s now refusal).Reorders (g.after s now refusal) := by
  have hdue : Sweep.isDue s now h.tasks = Sweep.isDue s now g.tasks := hr.isDue hg
  have hgone : Sweep.isGone s now h.tasks refusal = Sweep.isGone s now g.tasks refusal := by
    funext c
    rw [Sweep.isGone, Sweep.isGone, hdue]
  have htasks : h.tasks.Perm g.tasks := hr.tasks.map _
  refine ⟨?_, hr.tasks.filter _, ?_, ?_⟩
  · rw [tally, tally, hgone, hr.claims.countP_eq, htasks.countP_eq]
  · rw [SweepState.after, SweepState.after, hgone]
    exact hr.claims.filter _
  · rw [SweepState.after, SweepState.after, hdue]
    exact hr.attempts.append ((hr.claims.filter _).map _)

theorem Distinct.after (hg : g.Distinct) : (g.after s now refusal).Distinct where
  store := List.Nodup.sublist (List.filter_sublist.map _) hg.store
  claims := hg.claims.sublist (List.filter_sublist.map _)

theorem Abandoned.before {c : Sandbox.ClaimSummary} (hg : g.Distinct)
    (h : (g.after s now refusal).Abandoned s now c) : g.Abandoned s now c := by
  obtain ⟨hold, id, hid, hunneeded⟩ := h
  refine ⟨hold, id, hid, fun r hr => ?_⟩
  obtain ⟨e, he, rfl, hid⟩ := (record?_eq_some hg).mp hr
  by_cases hspent : e.record.Spent s now
  · exact hspent.cleanedUp
  · refine hunneeded _ ((record?_eq_some hg.after).mpr ⟨e, List.mem_filter.mpr ⟨he, ?_⟩, rfl, hid⟩)
    rwa [Bool.not_eq_true', Bool.eq_false_iff, ne_eq, Sweep.isSpent_iff]

theorem after_again (hg : g.Distinct) (hdone : ∀ c ∈ g.claims, g.Abandoned s now c → refusal c.sandbox.claim = none)
    (refusal' : String → Option ProvisionError) :
    (g.after s now refusal).tally s now refusal' = ⟨0, 0⟩ ∧
      (g.after s now refusal).after s now refusal' = g.after s now refusal := by
  have hdue : ∀ c ∈ (g.after s now refusal).claims, Sweep.isDue s now (g.after s now refusal).tasks c = false := by
    intro c hc
    obtain ⟨hc, hkept⟩ := List.mem_filter.mp hc
    refine Bool.eq_false_iff.mpr fun hagain => ?_
    have habandoned : g.Abandoned s now c := Abandoned.before hg (Sweep.isDue_iff.mp hagain)
    simp [Sweep.isGone, Sweep.isDue_iff.mpr habandoned, hdone c hc habandoned] at hkept
  have hgone : ∀ c ∈ (g.after s now refusal).claims,
      Sweep.isGone s now (g.after s now refusal).tasks refusal' c = false :=
    fun c hc => by simp [Sweep.isGone, hdue c hc]
  have hspent : ∀ e ∈ (g.after s now refusal).store.entries, Sweep.isSpent s now e.record = false := by
    intro e he
    simpa using (List.mem_filter.mp he).2
  generalize g.after s now refusal = g' at hdue hgone hspent
  constructor
  · have hclaims : g'.claims.countP (Sweep.isGone s now g'.tasks refusal') = 0 :=
      List.countP_eq_zero.mpr fun c hc => by simp [hgone c hc]
    have htasks : g'.tasks.countP (Sweep.isSpent s now) = 0 := by
      rw [SweepState.tasks, List.countP_map]
      exact List.countP_eq_zero.mpr fun e he => by simp [hspent e he]
    rw [tally, hclaims, htasks]
  · have hclaims : g'.claims.filter (!Sweep.isGone s now g'.tasks refusal' ·) = g'.claims :=
      List.filter_eq_self.mpr fun c hc => by simp [hgone c hc]
    have htasks : g'.store.entries.filter (!Sweep.isSpent s now ·.record) = g'.store.entries :=
      List.filter_eq_self.mpr fun e he => by simp [hspent e he]
    have hattempts : g'.claims.filter (Sweep.isDue s now g'.tasks) = [] :=
      List.filter_eq_nil_iff.mpr fun c hc => by simp [hdue c hc]
    rw [SweepState.after, hclaims, htasks, hattempts, List.map_nil, List.append_nil]

end SweepState

/-- A sweep with nobody else about, at any instant and whichever deletions of claims fail. It makes of the state what
it should, in whatever order the tasks and the claims are listed, and one more sweep at the same instant makes nothing
of it, if no deletion failed. -/
theorem sweep_exact (s : Sweep.Settings) (now : Instant) (refusal : String → Option ProvisionError)
    (others : (op : Operation) → op.Answer) {g : SweepState} (hg : g.Distinct) :
    ∃ tally g', (Sweep.once s).run (SweepState.answer now refusal others) g = (.ok tally, g') ∧
      g.Swept s now refusal g' tally ∧
      (∀ h : SweepState, h.Reorders g → ∃ h', h'.Reorders g' ∧
        (Sweep.once s).run (SweepState.answer now refusal others) h = (.ok tally, h')) ∧
      ((∀ c ∈ g.claims, g.Abandoned s now c → refusal c.sandbox.claim = none) →
        ∀ refusal', (Sweep.once s).run (SweepState.answer now refusal' others) g' = (.ok ⟨0, 0⟩, g')) := by
  refine ⟨_, _, Sweep.run_once hg, .of_after hg, fun h hr => ?_, fun hdone refusal' => ?_⟩
  · obtain ⟨htally, hafter⟩ := hr.after s now refusal hg
    exact ⟨_, hafter, by rw [Sweep.run_once (hr.distinct hg), htally]⟩
  · obtain ⟨htally, hafter⟩ := SweepState.after_again hg hdone refusal'
    rw [Sweep.run_once hg.after, htally, hafter]

def longAgo : SweepState where
  store := Memory.holding longEnded 7
  claims := [leftBehind, ⟨⟨"beside", none⟩, none, some default⟩, ⟨⟨"fresh", none⟩, some "other", some twoDaysOn⟩]
  attempts := []

theorem sweep_exact_longAgo : longAgo.Distinct ∧
    ∃ g', longAgo.Swept Config.default.sweepSettings twoDaysOn (fun _ => none) g' ⟨1, 1⟩ ∧
      g'.store.entries = [] ∧ g'.claims.length = 2 ∧
      (Sweep.once Config.default.sweepSettings).run (SweepState.answer twoDaysOn (fun _ => none) (·.answerInNewWorld)) g' =
        (.ok ⟨0, 0⟩, g') := by
  have hdistinct : longAgo.Distinct := ⟨List.nodup_singleton _, by decide⟩
  obtain ⟨tally, g', hrun, hswept, -, hagain⟩ :=
    sweep_exact Config.default.sweepSettings twoDaysOn (fun _ => none) (·.answerInNewWorld) hdistinct
  have hresult : (Sweep.once Config.default.sweepSettings).run
      (SweepState.answer twoDaysOn (fun _ => none) (·.answerInNewWorld)) longAgo = (.ok ⟨1, 1⟩,
        ⟨.empty, longAgo.claims.tail, [leftBehind.sandbox]⟩) := by rfl
  cases hresult.symm.trans hrun
  exact ⟨hdistinct, _, hswept, rfl, rfl, hagain (fun _ _ _ => rfl) _⟩

end SandboxTasks
