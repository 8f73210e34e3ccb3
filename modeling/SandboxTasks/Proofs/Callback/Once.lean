import SandboxTasks.Proofs.Callback.Event

namespace SandboxTasks

open Store Callback

/-- The client has told the outcome of the task, or has recorded that it was told. -/
def History.tells (past : History) : Bool := !past.deliveries.isEmpty || decide (0 < past.turned (·.has .notified))

theorem History.tells_iff {past : History} :
    past.tells ↔ past.deliveries ≠ [] ∨ 0 < past.turned (·.has .notified) := by
  simp [tells]

theorem History.told_of_failed {n : Notifier} {spec : TaskSpec} {past : History}
    (h : ∃ turn ∈ past.deliveries, turn.failure?.isSome) : (past.told n spec).1 = false := by
  have hfound : (past.deliveries.findSome? (·.failure?)).isSome := List.findSome?_isSome_iff.mpr h
  obtain ⟨message, hmessage⟩ := Option.isSome_iff_exists.mp hfound
  unfold told verdict
  cases spec.callbackUrl with
  | none => rfl
  | some url => cases n.hasChannels <;> simp [hmessage]

theorem lasts_notified : Lasts (·.has .notified) := fun _ _ h => h.has .notified trivial

variable {id : String} {C : Contract id} {others : C.State → C.State → Prop} {c d : Pool C}

namespace Thread

/-- What the thread has sent is what it had to send of a record that it was shown. -/
def Sent (t : Thread) : Prop := t.past.deliveries ≠ [] → ∃ policy n r now url, t.job = .pass policy n ∧ t.past.Shows r ∧
  r.status.phase.isTerminal ∧ r.spec.callbackUrl = some url ∧
  t.past.deliveries.map (·.op) <+: requests (Reconcile.outcomeEvent now url r) 0 n.channels

/-- What the thread has recorded of the outcome is what came of telling it. -/
def Recorded (C : Contract id) (s : C.State) (t : Thread) : Prop :=
  0 < t.past.turned (·.has .notified) → ∀ q, C.current s = some q → ∃ policy n entry, t.job = .pass policy n ∧
    q.record.status.condition? .notified = some entry ∧
    (entry.holds, entry.reason, entry.message) = t.past.told n q.record.spec

structure SentAndRecorded (C : Contract id) (s : C.State) (t : Thread) : Prop where
  sent : t.Sent
  recorded : t.Recorded C s

variable {t u : Thread} {s s' : C.State}

theorem Recorded.carry (h : t.Recorded C s) (hm : Meanwhile False C s s') : t.Recorded C s' := by
  intro hpos q hq
  obtain ⟨r, hr, hbecomes⟩ := hm.becomes q hq
  obtain ⟨policy, n, entry, hjob, hentry, htold⟩ := h hpos r hr
  exact ⟨policy, n, entry, hjob, hbecomes.kept _ _ trivial hentry, hbecomes.spec ▸ htold⟩

theorem SentAndRecorded.isPass {q : Versioned} (h : t.SentAndRecorded C s) (htells : t.past.tells)
    (hq : C.current s = some q) : t.job.isPass := by
  obtain hsent | hrecorded := History.tells_iff.mp htells
  · obtain ⟨policy, n, -, -, -, hjob, -⟩ := h.sent hsent
    rw [hjob]
    rfl
  · obtain ⟨policy, n, -, hjob, -⟩ := h.recorded hrecorded q hq
    rw [hjob]
    rfl

theorem KeepsRule.untold {place : Nat} {channel : String} {event : Event} (h : t.KeepsRule C (·.isPass) s)
    (hwaits : t.Waits (.send place channel event)) : t.job.isPass ∧ ∀ q, C.current s = some q →
      q.record.status.phase.isTerminal ∧ q.record.status.has .sandboxDeleted ∧
      q.record.status.has .notified = false ∧
      ∃ now url, q.record.spec.callbackUrl = some url ∧ event = Reconcile.outcomeEvent now url q.record := by
  obtain ⟨-, -, -, hpass, r, now, url, hr, hdue, hurl, rfl, -⟩ := h.passCalls hwaits not_false
  refine ⟨hpass, fun q hq => ?_⟩
  have hbecomes := hr.becomes q hq
  refine ⟨hbecomes.isTerminal hdue.ended, hbecomes.has .sandboxDeleted trivial hdue.deleted, ?_, now, url, ?_, ?_⟩
  · rw [hbecomes.has_eq hpass (by decide)]
    exact hdue.untold hpass
  · rw [hbecomes.spec]
    exact hurl
  · exact Reconcile.outcomeEvent_eq now url hbecomes.weaken hdue.ended

theorem KeepsRule.recorded {q : Versioned} (h : t.KeepsRule C (·.isPass) s) (hpass : t.job.isPass)
    (hwhole : ∀ op, t.mode ≠ .dropped op) (hended : ¬ t.passing) (htells : t.past.tells) (hreliable : C.Reliable)
    (hq : C.current s = some q) : 0 < t.past.turned (·.has .notified) := by
  refine (History.tells_iff.mp htells).elim (fun hsent => ?_) fun hrecorded => hrecorded
  rw [← History.deliveries_outside] at hsent
  obtain ⟨j, past, mode⟩ := t
  cases j with
  | pass policy n =>
      match mode with
      | .dropped op => exact absurd rfl (hwhole op)
      | .running (.call op next) => exact absurd (passing_iff.mpr ⟨rfl, op, next, rfl⟩) hended
      | .running (.done result) =>
          have hcloses : Reconcile.Closes C _ past s result := h.closes
          match result with
          | .ok .done =>
              obtain ⟨-, hgone⟩ | ⟨r, -, -, -, -, hrecorded⟩ := hcloses
              · cases hq.symm.trans hgone
              · exact hrecorded rfl hsent
          | .ok (.requeue after) =>
              obtain ⟨he, -⟩ | ⟨r, -, -, hunsent⟩ := hcloses
              · cases he
              · exact absurd hunsent hsent
          | .error (.store e) =>
              have hgone := hcloses (.inr hsent) rfl hreliable
              cases hq.symm.trans hgone
          | .error (.provision e) => exact absurd hcloses.1 hsent
  | _ => cases hpass

end Thread

section

variable {j : Job} {past : History} {op : Operation} {next : op.Answer → Routine j.Result} {a : op.Answer}
  {s' : C.State}

theorem Job.Grounds.told {alone : Prop} {change : Change} {now : Instant} {r : Record} {status : Status}
    (h : j.Grounds alone past r change) (hchange : change now r = some status) (hnew : r.status.has .notified = false)
    (hhas : status.has .notified) : ∃ policy n entry, j = .pass policy n ∧
      status.condition? .notified = some entry ∧ (entry.holds, entry.reason, entry.message) = past.told n r.spec := by
  have hdiffers : status.condition? .notified ≠ r.status.condition? .notified := by
    intro hsame
    rw [Status.has, hsame] at hhas
    exact absurd (hnew.symm.trans hhas) (by decide)
  cases h with
  | plain hpass h =>
      have hbecomes : r.Becomes True { r with status } := h.becomes hchange fun _ => hpass
      exact absurd (hbecomes.conditions trivial .notified (by decide)) hdiffers
  | @pass policy n hpass h =>
      obtain ⟨-, hlog, -, hbecomes, h⟩ := h
      obtain hsame | ⟨he, -⟩ | ⟨-, delivered, reason, message, htold, hentry⟩ := h.condition? hchange .notified trivial
      · exact absurd hsame hdiffers
      · cases he
      · refine ⟨policy, n, _, hpass, hentry, ?_⟩
        rw [hbecomes.spec]
        exact htold.trans (History.told_congr (by rw [hlog, History.deliveries_outside]))

theorem Thread.untold_of_tells {t : Thread} (hc : c.SerialInvariant) (ht : t ∈ c.threads) (hwaits : t.Waits op)
    (hs : C.serves c.state op a s') (hbefore : t.past.tells = false)
    (hafter : History.tells (⟨op, a⟩ :: t.past)) :
    t.job.isPass ∧ ∀ q, C.current c.state = some q → q.record.status.has .notified = false := by
  have hrule := hc.keepsRule t ht
  have hzero : ¬ 0 < t.past.turned (·.has .notified) := fun hpos => by
    rw [History.tells_iff.mpr (.inr hpos)] at hbefore
    cases hbefore
  cases hop : op.isSend with
  | true =>
      cases op with
      | send =>
          obtain ⟨hpass, huntold⟩ := hrule.untold hwaits
          exact ⟨hpass, fun q hq => (huntold q hq).2.2.1⟩
      | _ => cases hop
  | false =>
      have hpos : 0 < History.turned (·.has .notified) (⟨op, a⟩ :: t.past) := by
        refine (History.tells_iff.mp hafter).resolve_left fun hsent => ?_
        rw [History.deliveries_of_not_send hop] at hsent
        rw [History.tells_iff.mpr (.inl hsent)] at hbefore
        cases hbefore
      cases hrule.groundedEffect (hc.sound t ht) hwaits hs with
      | quiet _ hwrote => exact absurd (History.turned_cons_of_not_wrote hwrote ▸ hpos) hzero
      | @wrote r q change now status hbefore hseen hgrounds hchange _ _ hturn =>
          rw [hturn] at hpos
          obtain ⟨hhas, hnew⟩ := History.turns_of_turned hseen hzero hpos
          refine ⟨?_, fun q hq => ?_⟩
          · obtain ⟨policy, n, -, hjob, -⟩ := hgrounds.told hchange hnew hhas
            rw [hjob]
            rfl
          · cases hbefore.symm.trans hq
            exact hnew

theorem Thread.Sent.answered {mode : Mode j.Result} (hc : c.SerialInvariant)
    (hmem : ⟨j, past, .running (.call op next)⟩ ∈ c.threads) (ht : Sent ⟨j, past, .running (.call op next)⟩) :
    Sent ⟨j, ⟨op, a⟩ :: past, mode⟩ := by
  intro hsent
  cases hop : op.isSend with
  | false =>
      have hsame : History.deliveries (⟨op, a⟩ :: past) = past.deliveries := History.deliveries_of_not_send hop
      rw [hsame] at hsent ⊢
      obtain ⟨policy, n, r, now, url, hjob, hr, hrest⟩ := ht hsent
      exact ⟨policy, n, r, now, url, hjob, hr.cons _, hrest⟩
  | true =>
      cases op with
      | send place channel event =>
          obtain ⟨policy, n, hjob, -, r, now, url, hr, hdue, hurl, rfl, hprefix⟩ :=
            (hc.keepsRule _ hmem).passCalls ⟨next, rfl⟩ not_false
          refine ⟨policy, n, r, now, url, hjob, hr.shown.cons _, hdue.ended, hurl, ?_⟩
          rw [History.deliveries_cons, if_pos hop, List.map_append]
          rwa [History.deliveries_outside] at hprefix
      | _ => cases hop

theorem Thread.Recorded.answered {mode : Mode j.Result} (hc : c.SerialInvariant) (honce : c.TurnedOnce (·.has .notified))
    (hmem : ⟨j, past, .running (.call op next)⟩ ∈ c.threads)
    (ht : Recorded C c.state ⟨j, past, .running (.call op next)⟩) (hs : C.serves c.state op a s') :
    Recorded C s' ⟨j, ⟨op, a⟩ :: past, mode⟩ := by
  intro hpos q hq
  have hwaits : Waits ⟨j, past, .running (.call op next)⟩ op := ⟨next, rfl⟩
  cases (hc.keepsRule _ hmem).groundedEffect (hc.sound _ hmem) hwaits hs with
  | quiet hview hwrote =>
      have hrecorded : 0 < past.turned (·.has .notified) := History.turned_cons_of_not_wrote hwrote ▸ hpos
      have hq' : C.current c.state = some q := by rwa [Contract.current, ← hview]
      have hop : op.isSend = false := by
        cases op with
        | send =>
            have huntold := (((hc.keepsRule _ hmem).untold hwaits).2 q hq').2.2.1
            have hall : 0 < c.turned (·.has .notified) := hrecorded.trans_le (Pool.turned_le hmem)
            exact absurd (huntold.symm.trans (honce.held hall q hq')) (by decide)
        | _ => rfl
      obtain ⟨policy, n, entry, hjob, hentry, htold⟩ := ht hrecorded q hq'
      refine ⟨policy, n, entry, hjob, hentry, htold.trans ?_⟩
      exact (History.told_congr (History.deliveries_of_not_send hop)).symm
  | @wrote r q' change now status hbefore hseen hgrounds hchange hafter hrecord hturn =>
      cases hturn
      cases hafter.symm.trans hq
      have hsame (n : Notifier) (spec : TaskSpec) :
          History.told n spec (⟨.swap id r.version status, .ok q⟩ :: past) = past.told n spec :=
        History.told_congr (History.deliveries_of_not_send rfl)
      have hbecomes : r.record.Becomes False q.record := hrecord ▸ hgrounds.makes.becomes hchange False.elim
      by_cases hrecorded : 0 < past.turned (·.has .notified)
      · obtain ⟨policy, n, entry, hjob, hentry, htold⟩ := ht hrecorded r hbefore
        refine ⟨policy, n, entry, hjob, hbecomes.kept _ _ trivial hentry, ?_⟩
        rw [hsame, hbecomes.spec]
        exact htold
      · obtain ⟨hhas, hnew⟩ := History.turns_of_turned hseen hrecorded hpos
        obtain ⟨policy, n, entry, hjob, hentry, htold⟩ := hgrounds.told hchange hnew hhas
        refine ⟨policy, n, entry, hjob, ?_, ?_⟩
        · rw [hrecord]
          exact hentry
        · rw [hsame, hbecomes.spec]
          exact htold

end

theorem Orderly.sentAndRecorded (h : Orderly C others c d) (hothers : ∀ s s', others s s' → C.current s' = C.current s)
    (hc : c.SerialInvariant) (honce : c.TurnedOnce (·.has .notified))
    (htelling : ∀ t ∈ c.threads, t.SentAndRecorded C c.state) :
    ∀ t ∈ d.threads, t.SentAndRecorded C d.state := by
  intro u hu
  cases h.origin hc.sound hc.serial u hu with
  | kept hmem hforeign =>
      have hm := hforeign.meanwhile hc.sound fun _ _ ho => .inl (hothers _ _ ho)
      exact ⟨(htelling u hmem).sent, (htelling u hmem).recorded.carry hm.weaken⟩
  | started j => exact ⟨fun hsent => absurd rfl hsent, fun hpos => absurd hpos (Nat.lt_irrefl 0)⟩
  | dropped hmem hs => exact ⟨(htelling _ hmem).sent, hs ▸ (htelling _ hmem).recorded⟩
  | answered hmem hs | lost hmem hs =>
      exact ⟨(htelling _ hmem).sent.answered hc hmem, (htelling _ hmem).recorded.answered hc honce hmem hs⟩

def Pool.Whole (c : Pool C) : Prop := ∀ t ∈ c.threads, t.job.isPass → ∀ op, t.mode ≠ .dropped op

theorem Orderly.whole (h : Orderly C others c d) (hd : d.Whole) : c.Whole := by
  intro u hu hpass op hdropped
  cases h with
  | start => exact hd u (.tail _ hu) hpass op hdropped
  | other => exact hd u hu hpass op hdropped
  | @move s s' t ts before after hm =>
      obtain ⟨waiting, next, hmode⟩ := hm.waits
      rcases List.mem_append.mp hu with hu | hu
      · exact hd u (List.mem_append_left _ (List.mem_append_left _ hu)) hpass op hdropped
      · rcases List.mem_cons.mp hu with rfl | hu
        · cases hmode.symm.trans hdropped
        · exact hd u (List.mem_append_right _ hu) hpass op hdropped

def Pool.tellers (c : Pool C) : Nat := c.total fun _ past => past.tells.toNat

theorem Pool.countP_tells_le (c : Pool C) : c.threads.countP (·.past.tells) ≤ c.tellers := by
  refine (List.countP_mono_left fun t _ htells => ?_).trans (Pool.countP_le_total (fun _ past => past.tells.toNat) c)
  rw [htells]
  rfl

theorem Orderly.tellers_le (h : Orderly C others c d) (hothers : ∀ s s', others s s' → C.current s' = C.current s)
    (hc : c.SerialInvariant) (honce : c.TurnedOnce (·.has .notified))
    (htelling : ∀ t ∈ c.threads, t.SentAndRecorded C c.state)
    (hreliable : C.Reliable) (hwhole : c.Whole) {q : Versioned} (hq : C.current c.state = some q)
    (hle : c.tellers ≤ 1) : d.tellers ≤ 1 := by
  have hstep := h.step fun _ _ ho => .inl (hothers _ _ ho)
  obtain ⟨hsame, -⟩ | ⟨t, ht, op, a, hwaits, hs, htotal⟩ :=
    hstep.total (f := fun _ past => past.tells.toNat) fun _ => rfl
  · exact hsame.trans_le hle
  · change d.tellers + t.past.tells.toNat = c.tellers + (History.tells (⟨op, a⟩ :: t.past)).toNat at htotal
    have hone := Bool.toNat_le (History.tells (⟨op, a⟩ :: t.past))
    cases hbefore : t.past.tells with
    | true =>
        rw [hbefore, Bool.toNat_true] at htotal
        omega
    | false =>
        rw [hbefore, Bool.toNat_false] at htotal
        cases hafter : History.tells (⟨op, a⟩ :: t.past) with
        | false =>
            rw [hafter, Bool.toNat_false] at htotal
            omega
        | true =>
            obtain ⟨hpass, huntold⟩ := Thread.untold_of_tells hc ht hwaits hs hbefore hafter
            -- Another that has told would have come to its end, and have recorded it.
            have hnone : c.tellers = 0 := by
              by_contra hne
              obtain ⟨u, hu, hpos⟩ : ∃ u ∈ c.threads, 0 < u.past.tells.toNat :=
                Pool.total_pos.mp (Nat.pos_of_ne_zero hne)
              have htells : u.past.tells := by
                by_contra hnot
                rw [Bool.not_eq_true] at hnot
                rw [hnot] at hpos
                cases hpos
              have hupass := (htelling u hu).isPass htells hq
              have hended : ¬ u.passing := by
                intro hpassing
                obtain rfl := hc.serial.eq ht hu (Thread.passing_iff.mpr ⟨hpass, op, hwaits⟩) hpassing
                exact absurd (hbefore.symm.trans htells) (by decide)
              have hrecorded := (hc.keepsRule u hu).recorded hupass (hwhole u hu hupass) hended htells hreliable hq
              have hheld := honce.held (hrecorded.trans_le (Pool.turned_le hu)) q hq
              exact absurd ((huntold q hq).symm.trans hheld) (by decide)
            omega

structure Pool.NotifiedOnce (c : Pool C) : Prop where
  serialInvariant : c.SerialInvariant
  once : c.TurnedOnce (·.has .notified)
  sentAndRecorded : ∀ t ∈ c.threads, t.SentAndRecorded C c.state

theorem run_notifiedOnce (h : OrderlyRun C others c d) (hothers : ∀ s s', others s s' → C.current s' = C.current s)
    (hc : c.NotifiedOnce) : d.NotifiedOnce := by
  induction h with
  | refl => exact hc
  | tail hrun hs ih =>
      have hspares (s s' : C.State) (ho : others s s') : Spares (C.current s) (C.current s') := .inl (hothers s s' ho)
      exact {
        serialInvariant := hs.serialInvariant hspares ih.serialInvariant
        once := (hs.step hspares).turnedOnce lasts_notified ih.serialInvariant.sound ih.once
        sentAndRecorded := hs.sentAndRecorded hothers ih.serialInvariant ih.once ih.sentAndRecorded }

theorem notifiedOnce_idle (s : C.State) : (⟨s, []⟩ : Pool C).NotifiedOnce :=
  ⟨serialInvariant_idle s, turnedOnce_idle s, fun _ ht => nomatch ht⟩

/-- By induction on the run, looked at from its end: that no pass was dropped is seen there. -/
theorem run_tellers_le (h : OrderlyRun C others c d) (hothers : ∀ s s', others s s' → C.current s' = C.current s)
    (hc : c.NotifiedOnce) (hreliable : C.Reliable) (hstart : (C.current c.state).isSome) (hwhole : d.Whole)
    (hle : c.tellers ≤ 1) : d.tellers ≤ 1 := by
  induction h with
  | refl => exact hle
  | tail hrun hs ih =>
      have hmid := run_notifiedOnce hrun hothers hc
      have hwhole' := hs.whole hwhole
      obtain ⟨q, hq⟩ := run_current hrun hothers hc.serialInvariant hstart
      exact hs.tellers_le hothers hmid.serialInvariant hmid.once hmid.sentAndRecorded hreliable hwhole' hq (ih hwhole')

/-- Passes take turns at a new task, none of them is dropped, and all other jobs act in between. One pass at most tells
the outcome. It is only sent when the task has ended, it is on record that its sandbox is deleted, and nothing was told
before. Whatever was sent is still what the record says, to one channel after the other; and a pass that has come to its
end has recorded what came of it. -/
theorem outcome_told_once {s : C.State} {r : Versioned}
    (hrun : OrderlyRun C (fun s s' => C.current s' = C.current s) ⟨s, []⟩ c) (hreliable : C.Reliable)
    (hstart : C.current s = some r) (hnew : r.record.status = .initial) (hwhole : c.Whole) :
    c.threads.countP (·.past.tells) ≤ 1 ∧ ∃ q, C.current c.state = some q ∧ ∀ t ∈ c.threads,
      (∀ place channel event, t.Waits (.send place channel event) → q.record.status.phase.isTerminal ∧
        q.record.status.has .sandboxDeleted ∧ q.record.status.has .notified = false ∧ event.Reports q.record) ∧
      (t.past.deliveries ≠ [] → ∃ policy n event, t.job = .pass policy n ∧ event.Reports q.record ∧
        t.past.deliveries.map (·.op) <+: requests event 0 n.channels) ∧
      (t.past.tells → ¬ t.passing → ∃ policy n entry, t.job = .pass policy n ∧
        q.record.status.condition? .notified = some entry ∧
        (entry.holds, entry.reason, entry.message) = t.past.told n q.record.spec ∧
        ((∃ turn ∈ t.past.deliveries, turn.failure?.isSome) → entry.holds = false)) := by
  have hspares (s s' : C.State) (ho : C.current s' = C.current s) : Spares (C.current s) (C.current s') := .inl ho
  have hsome : (C.current s).isSome := Option.isSome_iff_exists.mpr ⟨r, hstart⟩
  have hpool := run_notifiedOnce hrun (fun _ _ ho => ho) (notifiedOnce_idle s)
  have hinv := hpool.serialInvariant
  have hle := run_tellers_le hrun (fun _ _ ho => ho) (notifiedOnce_idle s) hreliable hsome hwhole (Nat.zero_le 1)
  obtain ⟨q, hq⟩ := run_current hrun (fun _ _ ho => ho) (serialInvariant_idle s) hsome
  have hcomplete : q.record.status.Complete := by
    refine run_complete hrun hspares (serialInvariant_idle s) (fun r' hr' => ?_) q hq
    cases hstart.symm.trans hr'
    exact Status.complete_of_open (by rw [hnew]; rfl)
  refine ⟨(Pool.countP_tells_le c).trans hle, q, hq, fun t ht => ⟨?_, fun hsent => ?_, fun htells hended => ?_⟩⟩
  · intro place channel event hwaits
    obtain ⟨-, huntold⟩ := (hinv.keepsRule t ht).untold hwaits
    obtain ⟨hended, hdeleted, hnew, now, url, hurl, rfl⟩ := huntold q hq
    exact ⟨hended, hdeleted, hnew, Reconcile.outcomeEvent_reports hcomplete hended hurl⟩
  · obtain ⟨policy, n, r, now, url, hjob, hr, hended, hurl, hprefix⟩ := (hpool.sentAndRecorded t ht).sent hsent
    have hbecomes := hinv.recalls t ht r hr q hq
    rw [Reconcile.outcomeEvent_eq now url hbecomes hended] at hprefix
    refine ⟨policy, n, _, hjob, ?_, hprefix⟩
    exact Reconcile.outcomeEvent_reports hcomplete (hbecomes.isTerminal hended) (hbecomes.spec ▸ hurl)
  · have htelling := hpool.sentAndRecorded t ht
    have hpass := htelling.isPass htells hq
    have hrecorded := (hinv.keepsRule t ht).recorded hpass (hwhole t ht hpass) hended htells hreliable hq
    obtain ⟨policy, n, entry, hjob, hentry, htold⟩ := htelling.recorded hrecorded q hq
    refine ⟨policy, n, entry, hjob, hentry, htold, fun hfailed => ?_⟩
    exact (congrArg Prod.fst htold).trans (History.told_of_failed hfailed)

/-- A credential is given back while the sandbox is being deleted, so that has to be recorded a second time. The outcome
cannot be sent, and the next pass finds that it was told. -/
theorem outcome_told_once_refused : ∃ (c : Pool (Memory.contract "task")) (q : Versioned) (entry : Condition),
    OrderlyRun _ (fun s s' => Contract.current _ s' = Contract.current _ s)
      ⟨Memory.holding { Memory.sample with spec.callbackUrl := some "originator" } 1, []⟩ c ∧ c.Whole ∧
    c.threads.countP (·.job.isPass) = 2 ∧ c.threads.countP (·.past.tells) = 1 ∧
    Contract.current _ c.state = some q ∧ q.record.status.condition? .notified = some entry ∧ entry.holds = false := by
  suffices h : ∃ (c : Pool (Memory.contract "task")) (t : Thread),
      OrderlyRun _ (fun s s' => Contract.current _ s' = Contract.current _ s)
        ⟨Memory.holding { Memory.sample with spec.callbackUrl := some "originator" } 1, []⟩ c ∧ c.Whole ∧
      c.threads.countP (·.job.isPass) = 2 ∧ t ∈ c.threads ∧ t.past.tells ∧ ¬ t.passing ∧
      ∃ turn ∈ t.past.deliveries, turn.failure?.isSome by
    obtain ⟨c, t, hrun, hwhole, hpasses, ht, htells, hended, hfailed⟩ := h
    obtain ⟨honce, q, hq, hall⟩ := outcome_told_once hrun Memory.reliable Memory.current_holding rfl hwhole
    obtain ⟨-, -, entry, -, hentry, -, hrefused⟩ := (hall t ht).2.2 htells hended
    have hone : 0 < c.threads.countP (·.past.tells) := List.countP_pos_iff.mpr ⟨t, ht, htells⟩
    exact ⟨c, q, entry, hrun, hwhole, hpasses, le_antisymm honce hone, hq, hentry, hrefused hfailed⟩
  have hstores := Memory.stores "task" default
  refine ⟨_, _, .start (.credential true) rfl (fun h => nomatch h) <|
    .answers [] (.round hstores rfl rfl rfl .refl) <|
    .start .cancel rfl (fun h => nomatch h) <| .answers [] (.round hstores rfl rfl rfl .refl) <|
    .start (.pass onceTried (.ofChannels [⟨"channel", true⟩])) rfl (fun _ => rfl) <|
    .answers [] (.head Memory.holding_find <| .head (Memory.holding_deleteClaim (.ok .absent)) <|
      .read hstores rfl .refl) <|
    .answers [_, _] (.head (Memory.holding_exchange (.error (.transient ""))) <| .round hstores rfl rfl rfl .refl) <|
    .answers [] (.head (Memory.holding_conflict (by decide)) <| .round hstores rfl rfl rfl <|
      .head (Memory.holding_now default) <| .head (Memory.holding_send (.error (.rejected 410))) <|
      .round hstores rfl rfl rfl .refl) <|
    .start (.pass onceTried (.ofChannels [⟨"channel", true⟩])) rfl (fun _ => rfl) <|
    .answer [] Memory.holding_find .refl, ?_, rfl, .tail _ (.head _), rfl, by decide, _, .head _, rfl⟩
  simp [Pool.Whole]

end SandboxTasks
