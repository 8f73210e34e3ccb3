import SandboxTasks.Proofs.Concurrent.Meanwhile
import SandboxTasks.Proofs.Store.Rounds

namespace SandboxTasks

open Store

/-- The request is made neither of the store nor of the clock. -/
def Operation.isOutside : Operation → Bool
  | .provision _ | .poll _ | .deleteClaim _ | .claims | .assign _ _ _ | .exchange _ _ | .send _ _ _ => true
  | _ => false

namespace History

def outside (past : History) : History := past.filter (·.op.isOutside)

theorem outside_cons (turn : Turn) (past : History) :
    outside (turn :: past) = if turn.op.isOutside then turn :: outside past else outside past := List.filter_cons

@[simp] theorem outside_inside {op : Operation} {a : op.Answer} {past : History} (h : op.isOutside = false) :
    outside (⟨op, a⟩ :: past) = outside past := by
  rw [outside_cons, if_neg (by simp [h])]

@[simp] theorem outside_outside {op : Operation} {a : op.Answer} {past : History} (h : op.isOutside = true) :
    outside (⟨op, a⟩ :: past) = ⟨op, a⟩ :: outside past := by
  rw [outside_cons, if_pos h]

end History

variable {id : String} {C : Contract id} {alone : Prop} {α β : Type} {past : History} {s s' : C.State}

/-- A routine is at work among others, which may write the task while it waits. -/
def Store.Contract.among (C : Contract id) (alone : Prop) : Surroundings C.State where
  waits := Meanwhile alone C
  answers _ s op a s' := C.serves s op a s'

theorem History.Shows.served {j : Job} {r : Record} {op : Operation} {a : op.Answer}
    (h : History.Shows (⟨op, a⟩ :: past) r) (hmay : j.May id past op) (hs : C.serves s op a s') :
    (∃ q, C.current s' = some q ∧ q.record = r) ∨ past.Shows r := by
  obtain ⟨turn, hturn, t, hshows, rfl⟩ := h
  rcases List.mem_cons.mp hturn with rfl | hturn
  · exact .inl ⟨t, current_of_shows hmay hs hshows, rfl⟩
  · exact .inr ⟨turn, hturn, t, hshows, rfl⟩

/-- The client was shown the record, and what the task is now has become of it in the meantime. -/
structure Known (C : Contract id) (alone : Prop) (past : History) (s : C.State) (r : Record) : Prop where
  id : r.id = id
  shown : past.Shows r
  becomes : ∀ q, C.current s = some q → r.Becomes alone q.record

namespace Known

variable {r q : Record}

theorem carry (h : Known C alone past s r) (hs : Meanwhile alone C s s') : Known C alone past s' r where
  id := h.id
  shown := h.shown
  becomes t ht := by
    obtain ⟨q, hq, hqt⟩ := hs.becomes t ht
    exact (h.becomes q hq).trans hqt

theorem cons (h : Known C alone past s r) (turn : Turn) : Known C alone (turn :: past) s r :=
  ⟨h.id, h.shown.cons turn, h.becomes⟩

theorem weaken (h : Known C alone past s r) : Known C False past s r :=
  ⟨h.id, h.shown, fun q hq => (h.becomes q hq).weaken⟩

theorem of_current {turn : Turn} {t : Versioned} (hid : t.record.id = id) (hshows : turn.shows? = some t)
    (hs : C.current s = some t) : Known C alone (turn :: past) s t.record where
  id := hid
  shown := ⟨turn, .head _, t, hshows, rfl⟩
  becomes q hq := by
    cases hs.symm.trans hq
    exact .refl _

theorem served {op : Operation} {a : op.Answer} (h : Known C alone past s r) (hs : C.serves s op a s')
    (hview : C.view s' = C.view s) : Known C alone (⟨op, a⟩ :: past) s' r :=
  (h.carry (.of_view hs hview)).cons _

end Known

/-- The store answers every request, and refuses only what it has to. -/
structure Store.Contract.Reliable (C : Contract id) : Prop where
  find : ∀ s e s', ¬ C.serves s (.find id) (.error e) s'
  swap : ∀ s version status e s', C.serves s (.swap id version status) (.error e) s' →
    C.current s = none ∨ (∃ i, e = .conflict i) ∨ ∃ i p q, e = .illegalTransition i p q

theorem Store.Memory.reliable : (Memory.contract id).Reliable where
  find s e s' hs := nomatch hs.1
  swap s version status e s' hs := by
    cases swaps_of_eq hs with
    | absent h => exact .inl (by simp [Contract.current, contract, view, Memory.find, h])
    | stale => exact .inr (.inl ⟨id, rfl⟩)
    | illegal => exact .inr (.inr ⟨_, _, _, rfl⟩)

/-- A change may be made of a task of which `known` is true. -/
structure Allows (C : Contract id) (may : History → C.State → Operation → Prop) (known : Record → Prop) (log : History)
    (change : Change) : Prop where
  find : ∀ past s, past.outside = log → may past s (.find id)
  now : ∀ past s, past.outside = log → may past s .now
  swap : ∀ past s seen now next, past.outside = log → known seen.record → C.Knows s seen →
    change now seen.record = some next → past.head? = some ⟨.now, now⟩ → may past s (.swap id seen.version next)

def History.Wrote (past : History) (q : Versioned) (change : Change) (t : Versioned) : Prop :=
  ∃ earlier now next, change now q.record = some next ∧ t.record = { q.record with status := next } ∧
    past = ⟨.swap t.record.id q.version next, .ok t⟩ :: ⟨.now, now⟩ :: ⟨.find t.record.id, .ok (some q)⟩ :: earlier

/-- Where a change may leave its client, if it was made of a task of which `known` is true. It is not beaten to the end
of a task that has ended, for at most one other write can be made to that. -/
def Changed (C : Contract id) (alone : Prop) (known : Record → Prop) (change : Change) (log : History)
    (past : History) (s : C.State) : Except StoreError Modified → Prop
  | .ok (.unchanged t) => past.outside = log ∧ Known C alone past s t.record ∧ known t.record ∧
      ∃ now, change now t.record = none
  | .ok (.applied t) => past.outside = log ∧ Known C alone past s t.record ∧
      ∃ q, known q.record ∧ past.Wrote q change t
  | .error e => past.outside = log ∧ (C.Reliable → (∃ i, e = .notFound i) → C.current s = none) ∧
      (alone → C.Reliable → (∀ r, known r → r.status.phase.isTerminal) → C.current s = none)

/-- So many rounds are enough for a task that has ended: two, or one if its mark is off. -/
def Enough (C : Contract id) (rounds : Nat) (s : C.State) : Prop :=
  C.current s = none ∨ 2 ≤ rounds ∨ 1 ≤ rounds ∧ ∀ r, C.current s = some r → r.record.status.has .tokenIssued = false

section Modify

variable {may : History → C.State → Operation → Prop} {log : History} {change : Change} {known : Record → Prop}

theorem Enough.carry {rounds : Nat} (h : Enough C rounds s) (hm : Meanwhile alone C s s') (halone : alone)
    (hended : ∀ r, C.current s = some r → r.record.status.phase.isTerminal) : Enough C rounds s' := by
  obtain hgone | hrounds | ⟨hrounds, hunmarked⟩ := h
  · exact .inl (hm.gone hgone)
  · exact .inr (.inl hrounds)
  · refine .inr (.inr ⟨hrounds, fun q hq => ?_⟩)
    obtain ⟨r, hr, -⟩ := hm.becomes q hq
    obtain hgone | hsame | ⟨hmarked, -⟩ := hm.settled halone r hr (hended r hr)
    · cases hgone.symm.trans hq
    · cases hsame.symm.trans hq
      exact hunmarked _ hr
    · exact absurd ((hunmarked r hr).symm.trans hmarked) (by decide)

/-- Before a round: `known` is true of the task, and if it has ended, then the rounds that are left are enough. -/
structure Ahead (C : Contract id) (alone : Prop) (known : Record → Prop) (log : History) (left : Nat)
    (past : History) (s : C.State) : Prop where
  outside : past.outside = log
  holds : ∀ q, C.current s = some q → known q.record
  ample : alone → C.Reliable → (∀ r, known r → r.status.phase.isTerminal) → Enough C left s

structure Round (C : Contract id) (alone : Prop) (known : Record → Prop) (log : History) (left : Nat)
    (past : History) (q : Versioned) (s s' : C.State) : Prop where
  ahead : Ahead C alone known log (left + 1) past s
  id : q.record.id = id
  read : C.current s = some q
  waited : Meanwhile alone C s s'

variable {left : Nat} {q t : Versioned} {now : Instant} {next : Status} {e : StoreError} {s'' : C.State}

theorem Ahead.carry (h : Ahead C alone known log left past s) (hm : Meanwhile alone C s s')
    (hstable : ∀ r q : Record, r.Becomes alone q → known r → known q) :
    Ahead C alone known log left past s' where
  outside := h.outside
  holds q hq := by
    obtain ⟨r, hr, hbecomes⟩ := hm.becomes q hq
    exact hstable _ _ hbecomes (h.holds r hr)
  ample halone hreliable hended :=
    (h.ample halone hreliable hended).carry hm halone fun r hr => hended _ (h.holds r hr)

namespace Round

theorem holds (h : Round C alone known log left past q s s') : known q.record := h.ahead.holds q h.read

theorem knows (h : Round C alone known log left past q s s') : C.Knows s' q :=
  h.waited.knows q (C.knows_current h.read)

theorem carry (h : Round C alone known log left past q s s') (hm : Meanwhile alone C s' s'') :
    Round C alone known log left past q s s'' :=
  ⟨h.ahead, h.id, h.read, h.waited.trans hm⟩

theorem unchanged (h : Round C alone known log left past q s s') (hnone : change now q.record = none) :
    Changed C alone known change log (⟨.now, now⟩ :: ⟨.find id, .ok (some q)⟩ :: past) s' (.ok (.unchanged q)) :=
  ⟨h.ahead.outside, ((Known.of_current h.id rfl h.read).carry h.waited).cons _, h.holds, now, hnone⟩

theorem applied (h : Round C alone known log left past q s s') (hnext : change now q.record = some next)
    (hswap : C.serves s' (.swap id q.version next) (.ok t) s'') :
    Changed C alone known change log
      (⟨.swap id q.version next, .ok t⟩ :: ⟨.now, now⟩ :: ⟨.find id, .ok (some q)⟩ :: past) s'' (.ok (.applied t)) := by
  obtain ⟨-, hafter, q', hbefore, hversion, hrecord⟩ := C.swap_ok hswap
  cases h.knows.eq_of_version hbefore hversion
  have hid : t.record.id = id := by
    rw [hrecord]
    exact h.id
  refine ⟨h.ahead.outside, .of_current hid rfl hafter, q, h.holds, past, now, next, hnext, hrecord, ?_⟩
  rw [hid]

theorem settled (h : Round C alone known log left past q s s') (hfollows : next.Follows q.record.status)
    (halone : alone) (hreliable : C.Reliable) (hended : q.record.status.phase.isTerminal)
    (hswap : C.serves s' (.swap id q.version next) (.error e) s'') :
    C.current s'' = none ∨ (∃ i, e = .conflict i) ∧ q.record.status.has .tokenIssued ∧
      ∃ t, C.current s'' = some t ∧ t.record.status.has .tokenIssued = false := by
  have hcurrent : C.current s'' = C.current s' := congrArg View.current (C.swap_error hswap)
  rw [hcurrent]
  have hstill (h : C.current s' = some q) (i : String) : e ≠ .conflict i := by
    rintro rfl
    exact C.swap_conflict hswap q h rfl
  have hlegal : ∀ i p p', e ≠ .illegalTransition i p p' := by
    rintro i p p' rfl
    obtain ⟨t, ht, hversion, hrefused⟩ := C.swap_illegal hswap
    cases h.knows.eq_of_version ht hversion
    exact absurd (hfollows.mayBecome.symm.trans hrefused) (by decide)
  rcases hreliable.swap _ _ _ _ _ hswap with hgone | ⟨i, hi⟩ | ⟨i, p, p', hi⟩
  · exact .inl hgone
  · rcases h.waited.settled halone q h.read hended with hgone | hsame | hfree
    · exact .inl hgone
    · exact absurd hi (hstill hsame i)
    · exact .inr ⟨⟨i, hi⟩, hfree⟩
  · exact absurd hi (hlegal i p p')

theorem refused (h : Round C alone known log left past q s s') (hfollows : next.Follows q.record.status)
    (hswap : C.serves s' (.swap id q.version next) (.error e) s'') (he : ∀ i, e ≠ .conflict i) :
    Changed C alone known change log
      (⟨.swap id q.version next, .error e⟩ :: ⟨.now, now⟩ :: ⟨.find id, .ok (some q)⟩ :: past) s'' (.error e) := by
  refine ⟨h.ahead.outside, fun hreliable ⟨i, hi⟩ => ?_, fun halone hreliable hended => ?_⟩
  · have hcurrent : C.current s'' = C.current s' := congrArg View.current (C.swap_error hswap)
    obtain hgone | ⟨j, hj⟩ | ⟨j, p, p', hj⟩ := hreliable.swap _ _ _ _ _ hswap
    · exact hcurrent.trans hgone
    · exact absurd hj (he j)
    · cases hi.symm.trans hj
  · refine (h.settled hfollows halone hreliable (hended _ h.holds) hswap).resolve_right ?_
    rintro ⟨⟨i, hi⟩, -⟩
    exact he i hi

/-- A round is only lost to a release, and that leaves no second one. -/
theorem lost (h : Round C alone known log left past q s s') (hfollows : next.Follows q.record.status)
    (hstable : ∀ r q : Record, r.Becomes alone q → known r → known q)
    (hswap : C.serves s' (.swap id q.version next) (.error e) s'') :
    Ahead C alone known log left
      (⟨.swap id q.version next, .error e⟩ :: ⟨.now, now⟩ :: ⟨.find id, .ok (some q)⟩ :: past) s'' where
  outside := h.ahead.outside
  holds := (h.ahead.carry (h.waited.trans (.of_view hswap (C.swap_error hswap))) hstable).holds
  ample halone hreliable hended := by
    obtain hgone | ⟨-, hmarked, t, ht, hfree⟩ := h.settled hfollows halone hreliable (hended _ h.holds) hswap
    · exact .inl hgone
    · obtain hgone | hrounds | ⟨-, hunmarked⟩ := h.ahead.ample halone hreliable hended
      · cases h.read.symm.trans hgone
      · refine .inr (.inr ⟨Nat.le_of_succ_le_succ hrounds, fun r hr => ?_⟩)
        cases ht.symm.trans hr
        exact hfree
      · exact absurd ((hunmarked q h.read).symm.trans hmarked) (by decide)

end Round

theorem rounds_among (hallows : Allows C may known log change)
    (hfollows : ∀ now r next, change now r = some next → next.Follows r.status)
    (hstable : ∀ r q : Record, r.Becomes alone q → known r → known q) :
    Rounds (C.among alone) may id change (Ahead C alone known log)
      (fun left q past s => ∃ earlier s₀, Round C alone known log left earlier q s₀ s ∧
        past = ⟨.find id, .ok (some q)⟩ :: earlier)
      (fun left q now past s => ∃ earlier s₀, Round C alone known log left earlier q s₀ s ∧
        past = ⟨.now, now⟩ :: ⟨.find id, .ok (some q)⟩ :: earlier)
      fun result past s => Changed C alone known change log past s result where
  exhausted past s h := by
    refine ⟨h.outside, ?_, fun halone hreliable hended => ?_⟩
    · rintro - ⟨i, hi⟩
      cases hi
    · obtain hgone | hrounds | ⟨hrounds, -⟩ := h.ample halone hreliable hended
      · exact hgone
      · exact absurd hrounds (by decide)
      · exact absurd hrounds (by decide)
  find left past s h s₁ h₁ := by
    refine ⟨hallows.find _ _ h.outside, fun found s₂ hfind => ?_⟩
    have hview := C.elsewhere hfind (by simp)
    cases found with
    | error e =>
        exact ⟨h.outside, fun hreliable => (hreliable.find _ _ _ hfind).elim,
          fun _ hreliable => (hreliable.find _ _ _ hfind).elim⟩
    | ok found =>
        have hcurrent : C.current s₂ = found := by
          rw [Contract.current, hview]
          exact (C.find_ok hfind).symm
        cases found with
        | none => exact ⟨h.outside, fun _ _ => hcurrent, fun _ _ _ => hcurrent⟩
        | some q =>
            have hahead := h.carry (h₁.trans (.of_view hfind hview)) hstable
            exact ⟨past, s₂, ⟨hahead, C.fits hfind, hcurrent, .refl s₂⟩, rfl⟩
  now left q past s h s₁ h₁ := by
    obtain ⟨earlier, s₀, hround, rfl⟩ := h
    refine ⟨hallows.now _ _ hround.ahead.outside, fun now s₂ hnow => ⟨earlier, s₀, ?_, rfl⟩⟩
    exact (hround.carry h₁).carry (.of_view hnow (C.elsewhere hnow (by simp)))
  unchanged left q now past s h hnone := by
    obtain ⟨earlier, s₀, hround, rfl⟩ := h
    exact hround.unchanged hnone
  swap left q now next hnext past s h s₁ h₁ := by
    obtain ⟨earlier, s₀, hround, rfl⟩ := h
    have hround := hround.carry h₁
    have hfollows := hfollows _ _ _ hnext
    refine ⟨hallows.swap _ _ q now next hround.ahead.outside hround.holds hround.knows hnext rfl, fun swapped s₂ hswap => ?_⟩
    cases swapped with
    | ok t => exact hround.applied hnext hswap
    | error e =>
        cases e with
        | conflict => exact hround.lost hfollows hstable hswap
        | notFound | alreadyExists | illegalTransition | malformed | cluster =>
            exact hround.refused hfollows hswap (by simp)

theorem modify_upholds (hallows : Allows C may known log change)
    (hfollows : ∀ now r next, change now r = some next → next.Follows r.status)
    (hstable : ∀ r q : Record, r.Becomes alone q → known r → known q) (hlog : past.outside = log)
    (hknown : ∀ q, C.current s = some q → known q.record) :
    Upholds (C.among alone) may (Changed C alone known change log) past s (Store.modify id change) :=
  (rounds_among hallows hfollows hstable).upholds Store.rounds ⟨hlog, hknown, fun _ _ _ => .inr (.inl (by decide))⟩

end Modify

end SandboxTasks
