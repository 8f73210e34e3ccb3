import SandboxTasks.Proofs.Concurrent.Written

namespace SandboxTasks

open Store

namespace Report

variable {details : Json} {report : Report}

def textAt (details : Json) (name : String) : Option String := (details.get? name).bind Json.text?

def namedIn? (details : Json) : Option String :=
  pullRequestKeys.findSome? fun name => (textAt details name).filter (· != "")

def named? (report : Report) : Option String := report.details.bind namedIn?

/-- A pull request is named behind an empty string. -/
def Hides (report : Report) : Prop :=
  ∃ details, report.details = some details ∧ pullRequestKeys.findSome? (textAt details) = some "" ∧
    (namedIn? details).isSome

theorem filter_findSome?_eq_iff {α β : Type} {f : α → Option β} {p : β → Bool} {xs : List α} :
    (xs.findSome? f).filter p = xs.findSome? (fun x => (f x).filter p) ↔
      ¬ ((∃ b, xs.findSome? f = some b ∧ p b = false) ∧ (xs.findSome? fun x => (f x).filter p).isSome) := by
  induction xs with
  | nil => simp
  | cons x xs ih =>
      cases hx : f x with
      | none => simpa [hx] using ih
      | some b =>
          cases hb : p b with
          | true => simp [hx, hb]
          | false =>
              have hnone : (some b).filter p = none := Option.filter_eq_none_iff.mpr (by simp [hb])
              cases h : xs.findSome? (fun x => (f x).filter p) <;> simp [hx, hb, h, hnone]

theorem pullRequestIn?_eq (details : Json) :
    pullRequestIn? details = (pullRequestKeys.findSome? (textAt details)).filter (· != "") := rfl

theorem pullRequest?_eq_named?_iff : report.pullRequest? = report.named? ↔ ¬ report.Hides := by
  unfold pullRequest? named? Hides
  cases report.details with
  | none => simp
  | some details =>
      rw [Option.bind_some, Option.bind_some, pullRequestIn?_eq, namedIn?, filter_findSome?_eq_iff]
      simp [namedIn?]

theorem Hides.pullRequest?_eq_none (h : report.Hides) : report.pullRequest? = none := by
  obtain ⟨details, hdetails, hfirst, -⟩ := h
  rw [pullRequest?, hdetails, Option.bind_some, pullRequestIn?_eq, hfirst]
  rfl

end Report

variable {id : String} {C : Contract id} {c d : Pool C}

theorem Change.pullRequest_noteWorker {now : Instant} (s : Status) :
    (noteWorker now s).pullRequest = s.pullRequest := by
  unfold noteWorker
  split <;> rfl

theorem Change.pullRequest_report {report : Report} {now : Instant} {r : Record} {next : Status}
    (h : Change.report report now r = some next) (hkind : report.kind.isTerminal) :
    next.pullRequest = report.pullRequest?.orElse fun _ => r.status.pullRequest := by
  obtain ⟨-, rfl⟩ := report_eq h
  have hend (reason : EndReason) :
      ((r.status.terminate? now reason report.message).getD r.status).pullRequest = r.status.pullRequest := by
    cases h : r.status.terminate? now reason report.message with
    | none => rfl
    | some next => rw [Option.getD_some, terminate_eq h]
  unfold reported
  cases hk : report.kind with
  | started | progress =>
      rw [hk] at hkind
      cases hkind
  | completed | failed => simp only [hend]

theorem Job.Makes.eq_report {report : Report} {writes : Nat} {change : Change}
    (h : (Job.report report).Makes writes change) : change = Change.report report := by
  cases h
  rfl

theorem Job.Makes.pullRequest {j : Job} {writes : Nat} {change : Change} {now : Instant} {r : Record} {next : Status}
    (hmakes : j.Makes writes change) (h : change now r = some next) (hopen : next.phase.isTerminal = false) :
    next.pullRequest = r.status.pullRequest := by
  cases hmakes with
  | report report =>
      obtain ⟨-, rfl⟩ := Change.report_eq h
      have hkind : ¬ report.kind.isTerminal := fun hkind =>
        absurd (hopen.symm.trans (Change.isTerminal_reported hkind)) (by decide)
      unfold Change.reported
      cases hk : report.kind with
      | started | progress => exact Change.pullRequest_noteWorker r.status
      | completed | failed => exact absurd (hk ▸ rfl) hkind
  | cancel => rw [Change.terminate_eq h]
  | reserve =>
      obtain ⟨-, hnext⟩ := Option.ite_none_left_eq_some.mp h
      cases hnext
      rfl
  | giveBack | release =>
      obtain ⟨-, hnext⟩ := Option.ite_none_right_eq_some.mp h
      cases hnext
      rfl
  | pass _ _ _ hpass =>
      cases hpass with
      | finish => rw [Change.terminate_eq h]
      | sandboxDeleted | notified =>
          obtain ⟨-, hnext⟩ := Option.ite_none_left_eq_some.mp h
          cases hnext
          rfl
      | assigned =>
          obtain ⟨-, hnext⟩ := Option.ite_none_right_eq_some.mp h
          cases hnext
          exact Change.pullRequest_noteWorker r.status
      | _ =>
          obtain ⟨-, hnext⟩ := Option.ite_none_right_eq_some.mp h
          cases hnext
          rfl

def Record.Unnamed (r : Record) : Prop := r.status.phase.isTerminal = false → r.status.pullRequest = none

theorem Step.unnamed (h : Step C Spares c d) (hsound : c.Sound)
    (hc : ∀ q, C.current c.state = some q → q.record.Unnamed) : ∀ q, C.current d.state = some q → q.record.Unnamed := by
  intro q hq hopen
  obtain hsame | ⟨j, writes, change, now, r, next, t, hmakes, hchange, hbefore, hafter, hrecord⟩ | hother :=
    h.task hsound
  · exact hc q (hsame ▸ hq) hopen
  · cases hafter.symm.trans hq
    rw [hrecord] at hopen ⊢
    have hr : r.record.status.phase.isTerminal = false := by
      by_contra hended
      have hsame := (hmakes.follows hchange).ended (by simpa using hended)
      exact hended (hsame.phase ▸ hopen)
    exact (hmakes.pullRequest hchange hopen).trans (hc r hbefore hr)
  · obtain hsame | hgone := hother
    · exact hc q (hsame ▸ hq) hopen
    · cases hgone.symm.trans hq

/-- The end of the task, wherever it is on record or was shown, names `url` for a pull request. -/
structure Pool.Names (url : Option String) (c : Pool C) : Prop where
  current : ∀ q, C.current c.state = some q → q.record.status.phase.isTerminal ∧ q.record.status.pullRequest = url
  shown : ∀ t ∈ c.threads, ∀ r, t.past.Shows r → r.status.phase.isTerminal → r.status.pullRequest = url

theorem Step.names_of_current {url : Option String} (h : Step C Spares c d) (hsound : c.Sound)
    (hcurrent : ∀ q, C.current d.state = some q →
      q.record.status.phase.isTerminal ∧ q.record.status.pullRequest = url)
    (hshown : ∀ t ∈ c.threads, ∀ r, t.past.Shows r → r.status.phase.isTerminal → r.status.pullRequest = url) :
    d.Names url where
  current := hcurrent
  shown u hu := (h.origin hsound u hu).shown (P := fun r => r.status.phase.isTerminal → r.status.pullRequest = url)
    hsound (fun q hq _ => (hcurrent q hq).2) hshown

theorem Step.names {url : Option String} (h : Step C Spares c d) (hsound : c.Sound) (hc : c.Names url) :
    d.Names url := by
  refine h.names_of_current hsound (fun q hq => ?_) hc.shown
  obtain ⟨r, hr, hbecomes⟩ := (h.meanwhile hsound).becomes q hq
  obtain ⟨hended, hnamed⟩ := hc.current r hr
  exact ⟨hbecomes.isTerminal hended, (hbecomes.ended hended).pullRequest.trans hnamed⟩

def Thread.Ended (t : Thread) (report : Report) : Prop :=
  t.job = .report report ∧ report.kind.isTerminal ∧ 0 < t.past.writes

structure Pool.Coherent (c : Pool C) : Prop where
  sound : c.Sound
  recalls : ∀ t ∈ c.threads, t.Recalls C c.state
  unnamed : ∀ q, C.current c.state = some q → q.record.Unnamed
  names : ∀ t ∈ c.threads, ∀ report, t.Ended report → c.Names report.pullRequest?

theorem Step.recalls (h : Step C Spares c d) (hsound : c.Sound) (hc : ∀ t ∈ c.threads, t.Recalls C c.state) :
    ∀ t ∈ d.threads, t.Recalls C d.state :=
  fun u hu => (h.origin hsound u hu).recalls hsound (fun _ _ ho => ho) fun t ht _ => hc t ht

theorem Step.names_of_report (h : Step C Spares c d) (hc : c.Coherent) {report : Report} {r q : Versioned}
    {now : Instant} {next : Status} (hkind : report.kind.isTerminal) (hbefore : C.current c.state = some r)
    (hchange : Change.report report now r.record = some next) (hafter : C.current d.state = some q)
    (hrecord : q.record = { r.record with status := next }) : d.Names report.pullRequest? := by
  have hopen : r.record.status.phase.isTerminal = false := (Change.report_eq hchange).1
  have hnext : next.phase.isTerminal ∧ next.pullRequest = report.pullRequest? := by
    refine ⟨(Change.report_eq hchange).2 ▸ Change.isTerminal_reported hkind, ?_⟩
    rw [Change.pullRequest_report hchange hkind, hc.unnamed r hbefore hopen]
    cases report.pullRequest? <;> rfl
  refine h.names_of_current hc.sound (fun q' hq' => ?_) fun t ht shown hshown hended => ?_
  · cases hafter.symm.trans hq'
    rw [hrecord]
    exact hnext
  · have hbecomes := hc.recalls t ht shown hshown r hbefore
    exact absurd (hopen.symm.trans (hbecomes.isTerminal hended)) (by decide)

theorem Step.names_of_ended (h : Step C Spares c d) (hc : c.Coherent) {u : Thread} {report : Report}
    (hu : u ∈ d.threads) (hended : u.Ended report) : d.Names report.pullRequest? := by
  have hserved {j : Job} {past : History} {op : Operation} {next : op.Answer → Routine j.Result} {a : op.Answer}
      (hmem : ⟨j, past, .running (.call op next)⟩ ∈ c.threads) (hs : C.serves c.state op a d.state)
      (hjob : j = .report report) (hkind : report.kind.isTerminal)
      (hwrites : 0 < History.writes (⟨op, a⟩ :: past)) : d.Names report.pullRequest? := by
    subst hjob
    -- Either the report has been taken in before, or it is taken in by this very request.
    by_cases hpast : 0 < past.writes
    · exact h.names hc.sound (hc.names _ hmem report ⟨rfl, hkind, hpast⟩)
    · cases effect_of_serves (hc.sound _ hmem).knows ((hc.sound _ hmem).may ⟨next, rfl⟩) hs with
      | quiet _ hwrote =>
          rw [History.writes_cons, hwrote] at hwrites
          exact absurd hwrites hpast
      | wrote hbefore _ hmakes hchange hafter hrecord =>
          rw [hmakes.eq_report] at hchange
          exact h.names_of_report hc hkind hbefore hchange hafter hrecord
  obtain ⟨hjob, hkind, hwrites⟩ := hended
  cases h.origin hc.sound u hu with
  | kept hmem => exact h.names hc.sound (hc.names u hmem report ⟨hjob, hkind, hwrites⟩)
  | started => exact absurd hwrites (Nat.lt_irrefl 0)
  | dropped hmem => exact h.names hc.sound (hc.names _ hmem report ⟨hjob, hkind, hwrites⟩)
  | answered hmem hs | lost hmem hs => exact hserved hmem hs hjob hkind hwrites

theorem Step.coherent (h : Step C Spares c d) (hc : c.Coherent) : d.Coherent where
  sound := h.sound hc.sound
  recalls := h.recalls hc.sound hc.recalls
  unnamed := h.unnamed hc.sound hc.unnamed
  names _ hu _ hended := h.names_of_ended hc hu hended

theorem run_coherent (h : Run C Spares c d) (hc : c.Coherent) : d.Coherent := by
  induction h with
  | refl => exact hc
  | tail _ hs ih => exact hs.coherent ih

theorem coherent_idle {s : C.State} {r : Versioned} (hstart : C.current s = some r)
    (hnew : r.record.status = .initial) : (⟨s, []⟩ : Pool C).Coherent where
  sound := sound_idle s
  recalls _ ht := nomatch ht
  unnamed q hq _ := by
    cases hstart.symm.trans hq
    rw [hnew]
    rfl
  names _ ht := nomatch ht

def Thread.Announces (t : Thread) (event : Callback.Event) : Prop :=
  ∃ place channel, t.Waits (.send place channel event) ∨ ∃ answer, ⟨.send place channel event, answer⟩ ∈ t.past

/-- Each event that was told was made of an end that the thread was shown. -/
structure Thread.Faithful (C : Contract id) (s : C.State) (t : Thread) : Prop where
  keepsRule : t.KeepsRule C (fun _ => False) s
  told : ∀ place channel event answer, ⟨.send place channel event, answer⟩ ∈ t.past →
    ∃ r, t.past.Shows r ∧ r.status.phase.isTerminal ∧ event.payload.pullRequest = r.status.pullRequest

theorem Thread.KeepsRule.waitsToTell {s : C.State} {t : Thread} {place : Nat} {channel : String} {event : Callback.Event}
    (h : t.KeepsRule C (fun _ => False) s) (hwaits : t.Waits (.send place channel event)) :
    ∃ r, t.past.Shows r ∧ r.status.phase.isTerminal ∧ event.payload.pullRequest = r.status.pullRequest := by
  obtain ⟨-, -, -, -, r, now, url, hknown, hdue, -, rfl, -⟩ := h.passCalls hwaits not_false
  exact ⟨r, hknown.shown, hdue.ended, rfl⟩

theorem Origin.faithful {others : C.State → C.State → Prop} {s' : C.State} {u : Thread}
    (h : Origin C others (fun _ => False) c s' u) (hsound : c.Sound)
    (hothers : ∀ s s', others s s' → Spares (C.current s) (C.current s'))
    (hc : ∀ t ∈ c.threads, t.job = u.job → t.Faithful C c.state) : u.Faithful C s' := by
  refine ⟨h.keepsRule hsound hothers fun t ht hjob => (hc t ht hjob).keepsRule, ?_⟩
  have hserved {j : Job} {past : History} {op : Operation} {next : op.Answer → Routine j.Result} {a : op.Answer}
      (ht : Thread.Faithful C c.state ⟨j, past, .running (.call op next)⟩) (place : Nat) (channel : String)
      (event : Callback.Event) (answer : Except Callback.Error Unit)
      (hmem : ⟨.send place channel event, answer⟩ ∈ (⟨op, a⟩ :: past : History)) :
      ∃ r, History.Shows (⟨op, a⟩ :: past) r ∧ r.status.phase.isTerminal ∧
        event.payload.pullRequest = r.status.pullRequest := by
    rcases List.mem_cons.mp hmem with he | hmem
    · cases he
      obtain ⟨r, hr, hrest⟩ := ht.keepsRule.waitsToTell ⟨next, rfl⟩
      exact ⟨r, hr.cons _, hrest⟩
    · obtain ⟨r, hr, hrest⟩ := ht.told place channel event answer hmem
      exact ⟨r, hr.cons _, hrest⟩
  cases h with
  | kept hmem => exact (hc u hmem rfl).told
  | started => exact fun _ _ _ _ hmem => nomatch hmem
  | dropped hmem => exact (hc _ hmem rfl).told
  | answered hmem hs | lost hmem hs => exact hserved (hc _ hmem rfl)

theorem run_faithful {s : C.State} (h : Run C Spares ⟨s, []⟩ c) : ∀ t ∈ c.threads, t.Faithful C c.state :=
  fun u hu => run_of_origin (fun _ _ _ hsound horigin ih => horigin.faithful hsound (fun _ _ ho => ho) ih) h
    (sound_idle s) (fun _ ht => nomatch ht) u hu rfl

theorem Thread.Faithful.told_of_shown {t : Thread} {s : C.State} {event : Callback.Event} (h : t.Faithful C s)
    (hannounces : t.Announces event) :
    ∃ r, t.past.Shows r ∧ r.status.phase.isTerminal ∧ event.payload.pullRequest = r.status.pullRequest := by
  obtain ⟨place, channel, hwaits | ⟨answer, hmem⟩⟩ := hannounces
  · exact h.keepsRule.waitsToTell hwaits
  · exact h.told place channel event answer hmem

theorem Callback.Payload.get?_prURL (p : Payload) : p.encode.get? "prURL" = p.pullRequest.map .string := by
  obtain ⟨task, outcome, reason, pullRequest, message, completedAt⟩ := p
  cases pullRequest <;> cases message <;> rfl

/-- A worker's report of the end is taken in, among reports, cancels, requests for credentials and passes in any order.
What is on record of a pull request, and what any pass tells the originator of it, is what was taken from the details of
that report. It is the pull request that they name, unless an empty string stands before it: then there is none. -/
theorem pull_request_told {s : C.State} {r : Versioned} {t : Thread} {report : Report}
    (hrun : Run C Spares ⟨s, []⟩ c) (hstart : C.current s = some r) (hnew : r.record.status = .initial)
    (ht : t ∈ c.threads) (hended : t.Ended report) :
    (∀ q, C.current c.state = some q → q.record.status.pullRequest = report.pullRequest?) ∧
    (∀ u ∈ c.threads, ∀ event, u.Announces event →
      event.payload.encode.get? "prURL" = report.pullRequest?.map .string) ∧
    (report.pullRequest? = report.named? ↔ ¬ report.Hides) ∧ (report.Hides → report.pullRequest? = none) := by
  have hnames := (run_coherent hrun (coherent_idle hstart hnew)).names t ht report hended
  refine ⟨fun q hq => (hnames.current q hq).2, fun u hu event hannounces => ?_, Report.pullRequest?_eq_named?_iff,
    Report.Hides.pullRequest?_eq_none⟩
  obtain ⟨r, hr, hr_ended, hevent⟩ := (run_faithful hrun u hu).told_of_shown hannounces
  rw [Callback.Payload.get?_prURL, hevent, hnames.shown u hu r hr hr_ended]

theorem run_reported (details : Json) :
    ∃ (c : Pool (Memory.contract "task")) (t u : Thread) (event : Callback.Event) (q : Versioned),
      Run _ Spares ⟨Memory.holding { Memory.sample with spec.callbackUrl := some "originator" } 1, []⟩ c ∧
      t ∈ c.threads ∧ t.Ended ⟨.completed, none, some details⟩ ∧ u ∈ c.threads ∧ u.Announces event ∧
      Contract.current _ c.state = some q ∧ q.record.status.phase = .completed ∧
      q.record.status.pullRequest = event.payload.pullRequest ∧
      event.payload.pullRequest = (Report.pullRequestIn? details).orElse fun _ => none := by
  have hstores := Memory.stores "task" default
  exact ⟨_, _, _, _, _, .start (.report ⟨.completed, none, some details⟩) rfl <|
    .answers [] (.round hstores rfl rfl rfl .refl) <|
    .start (.pass onceTried (.ofChannels [⟨"channel", true⟩])) rfl <|
    .answers [] (.head Memory.holding_find <| .head (Memory.holding_deleteClaim (.ok .absent)) <|
      .round hstores rfl rfl rfl <| .head (Memory.holding_now default) .refl) .refl,
    .tail _ (.head _), ⟨rfl, rfl, Nat.zero_lt_one⟩, .head _, ⟨0, "channel", .inl ⟨_, rfl⟩⟩, Memory.current_holding, rfl,
    rfl, rfl⟩

def lastNamed : Json :=
  .object [("prURL", .null), ("prUrl", .nat 7), ("pr_url", .string "https://github.com/acme/app/pull/7")]

theorem pull_request_told_lastNamed : ∃ (c : Pool (Memory.contract "task")) (t u : Thread) (event : Callback.Event),
    Run _ Spares ⟨Memory.holding { Memory.sample with spec.callbackUrl := some "originator" } 1, []⟩ c ∧
    t ∈ c.threads ∧ t.Ended ⟨.completed, none, some lastNamed⟩ ∧ u ∈ c.threads ∧ u.Announces event ∧
    event.payload.encode.get? "prURL" = some (.string "https://github.com/acme/app/pull/7") := by
  obtain ⟨c, t, u, event, -, hrun, ht, hended, hu, hannounces, -⟩ := run_reported lastNamed
  obtain ⟨-, htold, -⟩ := pull_request_told hrun Memory.current_holding rfl ht hended
  exact ⟨c, t, u, event, hrun, ht, hended, hu, hannounces, htold u hu event hannounces⟩

def emptyFirst : Json := .object [("prURL", .string ""), ("prUrl", .string "https://github.com/acme/app/pull/7")]

/-- The pull request is neither on record nor told. -/
theorem pull_request_lost :
    ∃ (c : Pool (Memory.contract "task")) (t u : Thread) (event : Callback.Event) (q : Versioned),
    Run _ Spares ⟨Memory.holding { Memory.sample with spec.callbackUrl := some "originator" } 1, []⟩ c ∧
    t ∈ c.threads ∧ t.Ended ⟨.completed, none, some emptyFirst⟩ ∧
    Report.named? ⟨.completed, none, some emptyFirst⟩ = some "https://github.com/acme/app/pull/7" ∧
    Contract.current _ c.state = some q ∧ q.record.status.phase = .completed ∧ q.record.status.pullRequest = none ∧
    u ∈ c.threads ∧ u.Announces event ∧ event.payload.encode.get? "prURL" = none := by
  obtain ⟨c, t, u, event, q, hrun, ht, hended, hu, hannounces, hq, hphase, hsame, hlost⟩ := run_reported emptyFirst
  have hnone : event.payload.pullRequest = none := hlost.trans rfl
  refine ⟨c, t, u, event, q, hrun, ht, hended, rfl, hq, hphase, hsame.trans hnone, hu, hannounces, ?_⟩
  rw [Callback.Payload.get?_prURL, hnone]
  rfl

end SandboxTasks
