import SandboxTasks.Proofs.Task.Outcome

namespace SandboxTasks

open Store

variable {alone : Prop} {now : Instant} {r q : Record} {next : Status}

/-- What may become of a record. -/
structure Record.Becomes (alone : Prop) (r q : Record) : Prop where
  rest : q = { r with status := q.status }
  follows : q.status.Follows r.status
  kept : ∀ kind c, Condition.Kind.OfCleanup kind → r.status.condition? kind = some c →
    q.status.condition? kind = some c
  conditions : alone → ∀ kind, kind ≠ .tokenIssued → q.status.condition? kind = r.status.condition? kind
  course : alone → r.status.SameCourse q.status

namespace Record.Becomes

theorem refl (r : Record) : r.Becomes alone r where
  rest := rfl
  follows := .refl _
  kept _ _ _ h := h
  conditions _ _ _ := rfl
  course _ := .refl _

theorem trans {t : Record} (h : r.Becomes alone q) (h' : q.Becomes alone t) : r.Becomes alone t where
  rest := by rw [h'.rest, h.rest]
  follows := h.follows.trans h'.follows
  kept kind c hkind hc := h'.kept kind c hkind (h.kept kind c hkind hc)
  conditions ha kind hkind := (h'.conditions ha kind hkind).trans (h.conditions ha kind hkind)
  course ha := (h.course ha).trans (h'.course ha)

theorem imp {fewer : Prop} (h : r.Becomes alone q) (hi : fewer → alone) : r.Becomes fewer q :=
  ⟨h.rest, h.follows, h.kept, fun hf => h.conditions (hi hf), fun hf => h.course (hi hf)⟩

theorem weaken (h : r.Becomes alone q) : r.Becomes False q := h.imp False.elim

theorem id (h : r.Becomes alone q) : q.id = r.id := by rw [h.rest]

theorem spec (h : r.Becomes alone q) : q.spec = r.spec := by rw [h.rest]

theorem ended (h : r.Becomes alone q) (hr : r.status.phase.isTerminal) : r.status.SameEnd q.status := h.follows.ended hr

theorem isTerminal (h : r.Becomes alone q) (hr : r.status.phase.isTerminal) : q.status.phase.isTerminal :=
  (h.ended hr).phase ▸ hr

theorem has (h : r.Becomes alone q) (kind : Condition.Kind) (hkind : kind.OfCleanup) (hr : r.status.has kind) :
    q.status.has kind := by
  obtain ⟨c, hc⟩ := Option.isSome_iff_exists.mp hr
  exact Option.isSome_iff_exists.mpr ⟨c, h.kept kind c hkind hc⟩

theorem of_conditions (hfollows : next.Follows r.status) (hconditions : next.conditions = r.status.conditions)
    (hcourse : alone → r.status.SameCourse next) : r.Becomes alone { r with status := next } where
  rest := rfl
  follows := hfollows
  kept kind c _ hc := by rw [← hc, Status.condition?, Status.condition?, hconditions]
  conditions _ kind _ := by rw [Status.condition?, Status.condition?, hconditions]
  course := hcourse

end Record.Becomes

namespace Change

theorem becomes_of_mark {kind : Condition.Kind} (hkind : kind = .tokenIssued) (hfollows : next.Follows r.status)
    (hcourse : r.status.SameCourse next)
    (h : ∀ k, kind ≠ k → next.condition? k = r.status.condition? k) : r.Becomes alone { r with status := next } where
  rest := rfl
  follows := hfollows
  kept k c hk hc := by
    subst hkind
    rw [← hc]
    apply h
    rintro rfl
    exact hk
  conditions _ k hk := h k (hkind ▸ hk.symm)
  course _ := hcourse

theorem becomes_of_setCondition (kind : Condition.Kind) {holds : Bool} {reason : String} {message : Option String}
    (hnew : kind.OfCleanup → r.status.has kind = false) (hfollows : next.Follows r.status)
    (hnext : next.conditions = (r.status.setCondition now kind holds reason message).conditions) :
    r.Becomes False { r with status := next } where
  rest := rfl
  follows := hfollows
  kept k c hk hc := by
    have hne : kind ≠ k := by
      rintro rfl
      have hnone := Status.condition?_eq_none.mpr (hnew hk)
      simp [hc] at hnone
    rw [← hc, Status.condition?, hnext]
    exact Condition.find?_set_of_ne hne
  conditions := False.elim
  course := False.elim

theorem OfPass.becomes {change : Change} (hpass : change.OfPass) (h : change now r = some next) :
    r.Becomes False { r with status := next } := by
  have hfollows := hpass.follows h
  obtain hsame | ⟨kind, holds, reason, message, -, hnew, hset⟩ := hpass.conditions h
  · exact .of_conditions hfollows hsame False.elim
  · exact becomes_of_setCondition kind hnew hfollows hset

end Change

namespace Job

def isPass : Job → Bool
  | pass _ _ => true
  | _ => false

variable {j : Job} {writes : Nat} {change : Change}

theorem Makes.becomes (hmakes : j.Makes writes change) (h : change now r = some next) (halone : alone → ¬ j.isPass) :
    r.Becomes alone { r with status := next } := by
  have hfollows := hmakes.follows h
  cases hmakes with
  | report report =>
      obtain ⟨-, rfl⟩ := Change.report_eq h
      obtain ⟨hconditions, hcourse⟩ := Change.keeps_reported report r.status
      exact .of_conditions hfollows hconditions fun _ => hcourse
  | cancel => exact .of_conditions hfollows (Change.conditions_terminate h) fun _ => Change.course_terminate h
  | reserve =>
      obtain ⟨-, hnext⟩ := Option.ite_none_left_eq_some.mp h
      cases hnext
      exact Change.becomes_of_mark rfl hfollows ⟨rfl, rfl, rfl, rfl⟩ fun k hk => Condition.find?_set_of_ne hk
  | giveBack | release =>
      obtain ⟨-, hnext⟩ := Option.ite_none_right_eq_some.mp h
      cases hnext
      exact Change.becomes_of_mark rfl hfollows ⟨rfl, rfl, rfl, rfl⟩ fun k hk => Condition.find?_remove_of_ne hk
  | pass _ _ _ hpass =>
      have hnot : ¬ alone := fun ha => halone ha rfl
      obtain ⟨hrest, hfollows, hkept, -, -⟩ := hpass.becomes h
      exact ⟨hrest, hfollows, hkept, fun ha => absurd ha hnot, fun ha => absurd ha hnot⟩

/-- Of a task that has ended, nobody but a pass writes anything, save that a release takes its mark off. -/
theorem Makes.of_ended (hmakes : j.Makes writes change) (h : change now r = some next) (hpass : ¬ j.isPass)
    (hended : r.status.phase.isTerminal) : r.status.has .tokenIssued ∧ next.has .tokenIssued = false := by
  cases hmakes with
  | report report => exact absurd (hended.symm.trans (Change.report_eq h).1) (by decide)
  | cancel => exact absurd hended (Option.ite_none_left_eq_some.mp h).1
  | reserve =>
      obtain ⟨hopen, -⟩ := Option.ite_none_left_eq_some.mp h
      exact absurd (Bool.or_eq_true_iff.mpr (.inl hended)) hopen
  | giveBack | release =>
      obtain ⟨hmarked, hnext⟩ := Option.ite_none_right_eq_some.mp h
      cases hnext
      exact ⟨hmarked, by simp⟩
  | pass => exact absurd rfl hpass

theorem Makes.course_of_ended (hmakes : j.Makes writes change) (h : change now r = some next)
    (hended : r.status.phase.isTerminal) : r.status.SameCourse next := by
  by_cases hpass : j.isPass
  · cases hmakes with
    | pass _ _ _ hpass =>
        cases hpass with
        | finish => exact Change.course_terminate h
        | sandboxDeleted | notified =>
            obtain ⟨-, hnext⟩ := Option.ite_none_left_eq_some.mp h
            cases hnext
            exact ⟨rfl, rfl, rfl, rfl⟩
        | assigned =>
            obtain ⟨-, hnext⟩ := Option.ite_none_right_eq_some.mp h
            cases hnext
            exact (Change.course_noteWorker r.status).trans ⟨rfl, rfl, rfl, rfl⟩
        | recordSandbox | forgetSandbox =>
            obtain ⟨⟨hphase, -⟩, -⟩ := Option.ite_none_right_eq_some.mp h
            rw [hphase] at hended
            cases hended
        | startProvisioning | markReady | startAssigning | assignmentFailed =>
            obtain ⟨hphase, -⟩ := Option.ite_none_right_eq_some.mp h
            rw [hphase] at hended
            cases hended
    | _ => cases hpass
  · exact (hmakes.becomes h fun _ => hpass).course trivial

end Job

/-- What may have happened between two states of the store while a job waited. -/
structure Meanwhile {id : String} (alone : Prop) (C : Contract id) (s s' : C.State) : Prop where
  knows : ∀ t, C.Knows s t → C.Knows s' t
  becomes : ∀ q, C.current s' = some q → ∃ r, C.current s = some r ∧ r.record.Becomes alone q.record
  settled : alone → ∀ r, C.current s = some r → r.record.status.phase.isTerminal →
    C.current s' = none ∨ C.current s' = some r ∨
      r.record.status.has .tokenIssued ∧ ∃ q, C.current s' = some q ∧ q.record.status.has .tokenIssued = false

variable {id : String} {C : Contract id} {s s' s'' : C.State}

namespace Meanwhile

theorem refl (s : C.State) : Meanwhile alone C s s where
  knows _ h := h
  becomes q hq := ⟨q, hq, .refl _⟩
  settled _ _ hr _ := .inr (.inl hr)

theorem gone (h : Meanwhile alone C s s') (hs : C.current s = none) : C.current s' = none := by
  cases hs' : C.current s' with
  | none => rfl
  | some q =>
      obtain ⟨r, hr, -⟩ := h.becomes q hs'
      cases hs.symm.trans hr

theorem trans (h : Meanwhile alone C s s') (h' : Meanwhile alone C s' s'') : Meanwhile alone C s s'' where
  knows t ht := h'.knows t (h.knows t ht)
  becomes t ht := by
    obtain ⟨q, hq, hqt⟩ := h'.becomes t ht
    obtain ⟨r, hr, hrq⟩ := h.becomes q hq
    exact ⟨r, hr, hrq.trans hqt⟩
  settled ha r hr hended := by
    rcases h.settled ha r hr hended with hgone | hsame | ⟨hmarked, q, hq, hfree⟩
    · exact .inl (h'.gone hgone)
    · exact h'.settled ha r hsame hended
    · obtain ⟨r', hr', hbecomes⟩ := h.becomes q hq
      cases hr.symm.trans hr'
      rcases h'.settled ha q hq (hbecomes.isTerminal hended) with hgone | hsame | ⟨hmarked', -⟩
      · exact .inl hgone
      · exact .inr (.inr ⟨hmarked, q, hsame, hfree⟩)
      · exact absurd (hfree.symm.trans hmarked') (by decide)

theorem imp {fewer : Prop} (h : Meanwhile alone C s s') (hi : fewer → alone) : Meanwhile fewer C s s' where
  knows := h.knows
  becomes q hq := by
    obtain ⟨r, hr, hbecomes⟩ := h.becomes q hq
    exact ⟨r, hr, hbecomes.imp hi⟩
  settled hf := h.settled (hi hf)

theorem weaken (h : Meanwhile alone C s s') : Meanwhile False C s s' := h.imp False.elim

variable {op : Operation} {a : op.Answer}

theorem of_view (hs : C.serves s op a s') (hview : C.view s' = C.view s) : Meanwhile alone C s s' where
  knows _ ht := ht.carry hs
  becomes q hq := ⟨q, by rwa [Contract.current, ← hview], .refl _⟩
  settled _ _ hr _ := .inr (.inl (by rwa [Contract.current, hview]))

theorem of_spares (hs : C.serves s op a s') (h : Spares (C.current s) (C.current s')) : Meanwhile alone C s s' where
  knows _ ht := ht.carry hs
  becomes q hq := by
    rcases h with hsame | hgone
    · exact ⟨q, hsame.symm.trans hq, .refl _⟩
    · cases hgone.symm.trans hq
  settled _ _ hr _ := by
    rcases h with hsame | hgone
    · exact .inr (.inl (hsame.trans hr))
    · exact .inl hgone

theorem of_effect {j : Job} {past : History} {turn : Turn} (hs : C.serves s op a s') (h : Effect C s s' j past turn)
    (halone : alone → ¬ j.isPass) : Meanwhile alone C s s' := by
  cases h with
  | quiet hview => exact .of_view hs hview
  | @wrote r t change now next hbefore hseen hmakes hchange hafter hrecord =>
      have hbecomes : r.record.Becomes alone t.record := hrecord ▸ hmakes.becomes hchange halone
      refine ⟨fun _ ht => ht.carry hs, fun q hq => ?_, fun ha q hq hended => ?_⟩
      · cases hafter.symm.trans hq
        exact ⟨r, hbefore, hbecomes⟩
      · cases hbefore.symm.trans hq
        obtain ⟨hmarked, hfree⟩ := hmakes.of_ended hchange (halone ha) hended
        exact .inr (.inr ⟨hmarked, t, hafter, hrecord ▸ hfree⟩)

end Meanwhile

theorem Step.meanwhile {c d : Pool C} (h : Step C Spares c d) (hc : c.Sound) : Meanwhile False C c.state d.state := by
  cases h with
  | start => exact .refl _
  | other hs ho => exact .of_spares hs ho
  | move hm =>
      cases hm with
      | drop => exact .refl _
      | answer hs | lose hs =>
          have ht := hc _ (List.mem_append_right _ (.head _))
          exact .of_effect hs (effect_of_serves ht.knows (ht.conforms _ rfl).1 hs) False.elim

theorem run_meanwhile {c d : Pool C} (h : Run C Spares c d) (hc : c.Sound) : Meanwhile False C c.state d.state := by
  induction h with
  | refl => exact .refl _
  | tail hrun hs ih => exact ih.trans (hs.meanwhile (run_sound hrun hc))

end SandboxTasks
