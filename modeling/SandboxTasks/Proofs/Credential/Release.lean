import SandboxTasks.Proofs.Credential.Reservation

namespace SandboxTasks

open Store

namespace Thread

/-- No credential request and no leftover waits for anything. -/
def Rests : Thread → Prop
  | ⟨.credential _, _, .running (.call _ _)⟩ | ⟨.leftover _, _, .running (.call _ _)⟩ => False
  | _ => True

/-- What was left undone: a request dropped with its reservation, but not at the exchange; one that failed, and whose
release gave up; and what was left behind by one dropped at the exchange, if it was dropped too or gave up. -/
def Stranded : Thread → Prop
  | ⟨.credential _, past, .dropped waiting⟩ => past.writes = 1 ∧ waiting.isExchange = false
  | ⟨.credential _, past, .running (.done (.error _))⟩ =>
      past.writes = 1 ∧ ∃ recent i repository e earlier,
        past = recent ++ ⟨.exchange i repository, .error e⟩ :: earlier ∧ History.GaveUp rounds recent
  | ⟨.leftover (.exchange _ _), past, .dropped _⟩ => past.writes = 0
  | ⟨.leftover (.exchange _ _), past, .running (.done _)⟩ => past.writes = 0 ∧ past.GaveUp rounds
  | _ => False

variable {t : Thread}

theorem Stranded.owes (h : t.Stranded) : t.owes := by
  unfold Stranded at h
  split at h
  · simp [Thread.owes, h]
  · simp [Thread.owes, Job.owes, h.1]
  · simp [Thread.owes, Job.owes, Operation.isExchange, h]
  · simp [Thread.owes, Job.owes, Operation.isExchange, h.1]
  · cases h

theorem Sound.stranded {id : String} {C : Contract id} {s : C.State} (ht : t.Sound C s) (howes : t.owes)
    (hrests : t.Rests) (hgranted : t.granted = false)
    (hseen : ∀ r, t.past.lastSeen? = some r → r.record.status.has .tokenIssued) : t.Stranded := by
  have hmarked {past : History} {q : Prop} (hseen : ∀ r, past.lastSeen? = some r → r.record.status.has .tokenIssued)
      (h : q ∨ past.SeenUnmarked) : q := by
    refine h.resolve_right ?_
    rintro ⟨r, hr, hfree⟩
    exact absurd ((hseen r hr).symm.trans hfree) (by decide)
  obtain ⟨j, past, mode⟩ := t
  cases j with
  | report | cancel | pass => cases howes
  | credential configured =>
      cases mode with
      | dropped waiting =>
          obtain ⟨hwaiting, hwrites⟩ := Bool.and_eq_true_iff.mp howes
          exact ⟨by simpa using hwrites, by simpa using hwaiting⟩
      | running rest =>
          cases rest with
          | call => cases hrests
          | done result =>
              cases result with
              | ok grant => cases hgranted
              | error e =>
                  have hwrites : past.writes = 1 := by simpa [Thread.owes, Job.owes] using howes
                  exact ⟨hwrites, hmarked hseen (ht.conforms _ rfl hwrites)⟩
  | leftover waiting =>
      cases waiting with
      | exchange i repository =>
          have hwrites : past.writes = 0 := by simpa [Thread.owes, Job.owes, Operation.isExchange] using howes
          cases mode with
          | dropped => exact hwrites
          | running rest =>
              cases rest with
              | call => cases hrests
              | done result => exact ⟨hwrites, hmarked hseen (ht.conforms _ rfl hwrites)⟩
      | _ => cases howes

end Thread

variable {id : String} {C : Contract id} {c : Pool C}

/-- Once every request has failed or was dropped and every release has ended, the mark is on the task if and only if
some reservation is stranded. -/
theorem marked_iff_stranded {s : C.State} {r : Versioned} (hc : Run C KeepsMark ⟨s, []⟩ c)
    (hfree : ∀ r, C.current s = some r → r.record.status.has .tokenIssued = false)
    (hrest : ∀ t ∈ c.threads, t.Rests) (hgranted : ∀ t ∈ c.threads, t.granted = false)
    (hr : C.current c.state = some r) : r.record.status.has .tokenIssued ↔ ∃ t ∈ c.threads, t.Stranded := by
  have haccounted := run_accounted hc (accounted_idle s)
  have hearly : marks (C.current s) = 0 := by
    cases hs : C.current s with
    | none => rfl
    | some q => simp [Record.marks, hfree q hs]
  have hbalance : owing c.threads = r.record.marks := by simpa [hearly] using haccounted.balance r hr
  constructor
  · intro hmarked
    have hpos : 0 < owing c.threads := by simp [hbalance, Record.marks, hmarked]
    obtain ⟨t, ht, howes⟩ := List.countP_pos_iff.mp hpos
    exact ⟨t, ht, (haccounted.sound t ht).stranded howes (hrest t ht) (hgranted t ht) (haccounted.seen t ht howes)⟩
  · rintro ⟨t, ht, hstranded⟩
    exact has_of_owing (haccounted.balance r hr) ht hstranded.owes

theorem marked_iff_stranded_released : ∃ (c : Pool (Memory.contract "task")) (r : Versioned),
    Run _ KeepsMark ⟨Memory.holding Memory.sample 1, []⟩ c ∧ Contract.current _ c.state = some r ∧
    r.record.status.has .tokenIssued = false ∧ ¬ ∃ t ∈ c.threads, t.Stranded := by
  suffices h : ∃ (c : Pool (Memory.contract "task")) (r : Versioned),
      Run _ KeepsMark ⟨Memory.holding Memory.sample 1, []⟩ c ∧ Contract.current _ c.state = some r ∧
      r.record.status.has .tokenIssued = false ∧ ∀ t ∈ c.threads, t.Rests ∧ t.granted = false by
    obtain ⟨c, r, hc, hr, hfree, hthreads⟩ := h
    have hstart (q : Versioned) (hq : (Memory.contract "task").current (Memory.holding Memory.sample 1) = some q) :
        q.record.status.has .tokenIssued = false := by
      cases Memory.current_holding.symm.trans hq
      rfl
    refine ⟨c, r, hc, hr, hfree, fun hstranded => ?_⟩
    have hmarked := (marked_iff_stranded hc hstart (fun t ht => (hthreads t ht).1) (fun t ht => (hthreads t ht).2)
      hr).mpr hstranded
    exact absurd (hfree.symm.trans hmarked) (by decide)
  have hstores := Memory.stores "task" default
  refine ⟨_, _, .start (.credential true) rfl <|
    .answers [] (.round hstores rfl rfl rfl <| .head (Memory.holding_exchange (.error (.transient ""))) <|
      .round hstores rfl rfl rfl .refl) .refl,
    Memory.current_holding, rfl, ?_⟩
  exact List.forall_mem_singleton.mpr ⟨trivial, rfl⟩

theorem run_beaten {r : Record} {n : Nat} {change : Change} {next : Status} (hchange : change default r = some next)
    {j : Job} {past : History} {k : Except StoreError Modified → Routine j.Result} (rounds : Nat) :
    ∃ past', Run (Memory.contract r.id) KeepsMark
      ⟨Memory.holding r n, [⟨j, past, .running ((modifyWithin rounds r.id change).bind k)⟩]⟩
      ⟨Memory.holding r (n + rounds), [⟨j, past', .running (k (.error (.conflict r.id)))⟩]⟩ := by
  induction rounds generalizing n past with
  | zero => exact ⟨past, .refl⟩
  | succ rounds ih =>
      have hkeeps : KeepsMark ((Memory.contract r.id).current (Memory.holding r n))
          ((Memory.contract r.id).current (Memory.holding r (n + 1))) := by
        rw [Memory.current_holding, Memory.current_holding]
        exact fun q hq => ⟨_, rfl, by cases hq; rfl⟩
      obtain ⟨past', hrun⟩ := ih (n := n + 1)
      refine ⟨past', .answers [] (.read (Memory.stores r.id default) rfl .refl) ?_⟩
      simp only [Program.bind, hchange]
      rw [Nat.add_right_comm] at hrun
      exact .other Memory.holding_touch hkeeps <|
        .answer [] (Memory.holding_conflict (Nat.ne_of_lt (Nat.lt_succ_self n))) hrun

theorem run_release_beaten {r : Record} {n : Nat} (hmarked : r.status.has .tokenIssued) {j : Job} {past : History}
    {k : Unit → Routine j.Result} :
    ∃ past', Run (Memory.contract r.id) KeepsMark
      ⟨Memory.holding r n, [⟨j, past, .running ((Credential.release r.id).bind k)⟩]⟩
      ⟨Memory.holding r (n + rounds), [⟨j, past', .running (k ())⟩]⟩ := by
  have hbind : (Credential.release r.id).bind k =
      (modifyWithin rounds r.id Change.releaseCredential).bind fun _ => k () := Program.bind_assoc ..
  rw [hbind]
  exact run_beaten (if_pos hmarked) rounds

/-- The exchange fails, and another client beats the release in every round: nobody has a grant, nobody is at work, and
the mark is still there. -/
theorem marked_without_grant : ∃ (c : Pool (Memory.contract "task")) (r : Versioned),
    Run _ KeepsMark ⟨Memory.holding Memory.sample 1, []⟩ c ∧ (∀ t ∈ c.threads, t.Rests ∧ t.granted = false) ∧
    Contract.current _ c.state = some r ∧ r.record.status.phase.isTerminal = false ∧
    r.record.status.has .tokenIssued := by
  obtain ⟨past, hrun⟩ := run_release_beaten (n := 2) (j := .credential true)
    (r := { Memory.sample with status := Status.initial.setCondition default .tokenIssued true "Issued" none }) rfl
    (k := fun _ => .done (.error (.exchange (.transient ""))))
  have hstores := Memory.stores "task" default
  refine ⟨_, _, .start (.credential true) rfl <|
    .answers [] (.round hstores rfl rfl rfl <|
      .head (Memory.holding_exchange (.error (.transient ""))) .refl) hrun, ?_, Memory.current_holding, rfl, rfl⟩
  exact List.forall_mem_singleton.mpr ⟨trivial, rfl⟩

end SandboxTasks
