import Mathlib.Data.List.Basic
import Mathlib.Data.List.Induction
import SandboxTasks.Proofs.Task.Condition

namespace SandboxTasks.Status

open Condition (Kind)

inductive Edit where
  | set (now : Instant) (kind : Kind) (holds : Bool) (reason : String) (message : Option String)
  | remove (kind : Kind)
  | terminate (now : Instant) (reason : EndReason) (message : Option String)

namespace Edit

def apply (s : Status) : Edit → Status
  | set now kind holds reason message => s.setCondition now kind holds reason message
  | remove kind => s.removeCondition kind
  | terminate now reason message => (s.terminate? now reason message).getD s

def kind? : Edit → Option Kind
  | set _ kind _ _ _ | remove kind => some kind
  | terminate .. => none

def Sets (kind : Kind) (holds : Bool) (e : Edit) : Prop := ∃ now reason message, e = set now kind holds reason message

end Edit

def after (edits : List Edit) : Status := edits.foldl Edit.apply .initial

def Since (first : List Edit → Edit → Prop) (later : Edit → Prop) (edits : List Edit) : Prop :=
  ∃ before e rest, edits = before ++ e :: rest ∧ first before e ∧ ∀ x ∈ rest, later x

def Stands (kind : Kind) : List Edit → Prop :=
  Since (fun _ e => ∃ holds, e.Sets kind holds) (· ≠ .remove kind)

def LastSet (kind : Kind) (holds : Bool) (reason : String) (message : Option String) : List Edit → Prop :=
  Since (fun _ e => ∃ now, e = .set now kind holds reason message) (·.kind? ≠ some kind)

/-- The kind was recorded at that reading of the clock, when it was absent or had the other truth value, and since then
it has only been recorded with this one. -/
def TurnedAt (now : Instant) (kind : Kind) (holds : Bool) : List Edit → Prop :=
  Since
    (fun before e => (∃ reason message, e = .set now kind holds reason message) ∧
      ∀ c ∈ (after before).condition? kind, c.holds ≠ holds)
    (fun e => e.kind? = some kind → e.Sets kind holds)

theorem since_nil {first : List Edit → Edit → Prop} {later : Edit → Prop} : ¬ Since first later [] := by
  rintro ⟨before, e, rest, h, -⟩
  simp at h

theorem since_concat {first : List Edit → Edit → Prop} {later : Edit → Prop} {edits : List Edit} {e : Edit} :
    Since first later (edits ++ [e]) ↔ first edits e ∨ later e ∧ Since first later edits := by
  constructor
  · rintro ⟨before, x, rest, h, hfirst, hlater⟩
    rcases List.eq_nil_or_concat' rest with rfl | ⟨rest, y, rfl⟩
    · obtain ⟨rfl, rfl⟩ := List.append_singleton_inj.mp h
      exact .inl hfirst
    · rw [← List.cons_append, ← List.append_assoc] at h
      obtain ⟨rfl, rfl⟩ := List.append_singleton_inj.mp h
      obtain ⟨hrest, hy⟩ := List.forall_mem_append.mp hlater
      exact .inr ⟨hy _ List.mem_cons_self, before, x, rest, rfl, hfirst, hrest⟩
  · rintro (hfirst | ⟨he, before, x, rest, rfl, hfirst, hlater⟩)
    · exact ⟨edits, e, [], rfl, hfirst, nofun⟩
    · refine ⟨before, x, rest ++ [e], by simp, hfirst, ?_⟩
      exact List.forall_mem_append.mpr ⟨hlater, List.forall_mem_singleton.mpr he⟩

section Apply

variable {s : Status} {e : Edit} {kind : Kind} {holds : Bool} {edits : List Edit}

theorem conditions_terminated (s : Status) (now : Instant) (reason : EndReason) (message : Option String) :
    ((Edit.terminate now reason message).apply s).conditions = s.conditions := by
  rw [Edit.apply, terminate?]
  split <;> rfl

theorem filter_conditions_apply (s : Status) (e : Edit) :
    (e.apply s).conditions.filter (e.kind? ≠ some ·.kind) = s.conditions.filter (e.kind? ≠ some ·.kind) := by
  cases e with
  | set now kind holds reason message =>
      apply Condition.filter_set (fun k => some kind ≠ some k)
      simp
  | remove kind =>
      simp only [Edit.apply, Edit.kind?, removeCondition, Condition.remove, List.filter_filter]
      refine List.filter_congr fun c _ => ?_
      by_cases hc : c.kind = kind
      · simp [hc]
      · simp [hc, Ne.symm hc]
  | terminate => rw [conditions_terminated]

theorem condition?_apply_of_ne (h : e.kind? ≠ some kind) : (e.apply s).condition? kind = s.condition? kind := by
  cases e with
  | set => exact Condition.find?_set_of_ne fun he => h (congrArg some he)
  | remove => exact Condition.find?_remove_of_ne fun he => h (congrArg some he)
  | terminate => rw [condition?, conditions_terminated, condition?]

theorem condition?_set (now : Instant) (kind : Kind) (holds : Bool) (reason : String) (message : Option String) :
    ((Edit.set now kind holds reason message).apply s).condition? kind = some ⟨kind, holds, reason, message,
      (s.condition? kind).elim now fun c => if c.holds = holds then c.since else now⟩ :=
  Condition.find?_set s.conditions

theorem condition?_removed : ((Edit.remove kind).apply s).condition? kind = none := by
  rw [condition?_eq_none]
  simp [Edit.apply]

theorem Edit.Sets.kind?_eq (h : e.Sets kind holds) : e.kind? = some kind := by
  obtain ⟨_, _, _, rfl⟩ := h
  rfl

theorem Edit.cases_kind (e : Edit) (kind : Kind) :
    e.kind? ≠ some kind ∨ (∃ now holds reason message, e = .set now kind holds reason message) ∨ e = .remove kind := by
  cases e with
  | set now k holds reason message => by_cases h : k = kind <;> simp [Edit.kind?, h]
  | remove k => by_cases h : k = kind <;> simp [Edit.kind?, h]
  | terminate => simp [Edit.kind?]

theorem after_concat : after (edits ++ [e]) = e.apply (after edits) := List.foldl_append

theorem stands_iff : Stands kind edits ↔ (after edits).condition? kind ≠ none := by
  induction edits using List.reverseRecOn with
  | nil => exact iff_of_false since_nil (by simp [after, condition?, initial, Condition.find?])
  | append_singleton edits e ih =>
      rw [Stands, since_concat, after_concat]
      rcases e.cases_kind kind with he | ⟨now, holds, reason, message, rfl⟩ | rfl
      · have hfirst : ¬ ∃ holds, e.Sets kind holds := by
          rintro ⟨holds, h⟩
          exact he h.kind?_eq
        have hlater : e ≠ .remove kind := fun h => he (h ▸ rfl)
        rw [condition?_apply_of_ne he, ← ih]
        simp only [hfirst, hlater, ne_eq, not_false_eq_true, true_and, false_or, Stands]
      · rw [condition?_set]
        exact iff_of_true (.inl ⟨holds, now, reason, message, rfl⟩) (Option.some_ne_none _)
      · rw [condition?_removed]
        simp [Edit.Sets]

theorem lastSet_iff {reason : String} {message : Option String} : LastSet kind holds reason message edits ↔
    ∃ c ∈ (after edits).condition? kind, c.holds = holds ∧ c.reason = reason ∧ c.message = message := by
  induction edits using List.reverseRecOn with
  | nil => exact iff_of_false since_nil (by simp [after, condition?, initial, Condition.find?])
  | append_singleton edits e ih =>
      rw [LastSet, since_concat, after_concat]
      rcases e.cases_kind kind with he | ⟨now, holds', reason', message', rfl⟩ | rfl
      · have hfirst : ¬ ∃ now, e = .set now kind holds reason message := by
          rintro ⟨now, rfl⟩
          exact he rfl
        rw [condition?_apply_of_ne he, ← ih]
        simp only [hfirst, he, ne_eq, not_false_eq_true, true_and, false_or, LastSet]
      · rw [condition?_set]
        simp [Edit.kind?]
      · rw [condition?_removed]
        simp [Edit.kind?]

theorem turnedAt_iff {now : Instant} : TurnedAt now kind holds edits ↔
    ∃ c ∈ (after edits).condition? kind, c.holds = holds ∧ c.since = now := by
  induction edits using List.reverseRecOn with
  | nil => exact iff_of_false since_nil (by simp [after, condition?, initial, Condition.find?])
  | append_singleton edits e ih =>
      rw [TurnedAt, since_concat, after_concat]
      rcases e.cases_kind kind with he | ⟨now', holds', reason', message', rfl⟩ | rfl
      · have hfirst : ¬ ∃ reason message, e = .set now kind holds reason message := by
          rintro ⟨reason, message, rfl⟩
          exact he rfl
        rw [condition?_apply_of_ne he, ← ih]
        simp only [hfirst, he, false_and, false_implies, true_and, false_or, TurnedAt]
      · rw [condition?_set]
        change _ ∨ _ ∧ TurnedAt now kind holds edits ↔ _
        rw [ih]
        by_cases hholds : holds' = holds
        · subst hholds
          cases (after edits).condition? kind with
          | none => simp [Edit.Sets]
          | some c => by_cases hc : c.holds = holds' <;> simp [Edit.Sets, hc]
        · simp [Edit.Sets, Edit.kind?, hholds]
      · rw [condition?_removed]
        simp [Edit.kind?, Edit.Sets]

theorem nodup_after (edits : List Edit) : ((after edits).conditions.map (·.kind)).Nodup := by
  induction edits using List.reverseRecOn with
  | nil => exact List.nodup_nil
  | append_singleton edits e ih =>
      rw [after_concat]
      cases e with
      | set => exact Condition.nodup_set ih
      | remove => exact Condition.nodup_remove ih
      | terminate =>
          rw [conditions_terminated]
          exact ih

end Apply

/-- The conditions after any edits, at any readings of the clock. No two are of one kind. A kind is absent exactly if it
was never recorded or was removed since. What is there of a kind has the truth value, the reason and the message that it
was last recorded with; and its time is that of the last edit, since the kind was removed last, that brought it in or
changed its truth value. No edit touches the conditions of other kinds or the order they stand in. -/
theorem conditions_after (edits : List Edit) :
    ((after edits).conditions.map (·.kind)).Nodup ∧
    (∀ kind, (after edits).condition? kind = none ↔ ¬ Stands kind edits) ∧
    (∀ kind c, (after edits).condition? kind = some c ↔
      c.kind = kind ∧ LastSet kind c.holds c.reason c.message edits ∧ TurnedAt c.since kind c.holds edits) ∧
    ∀ (s : Status) (e : Edit),
      (e.apply s).conditions.filter (e.kind? ≠ some ·.kind) = s.conditions.filter (e.kind? ≠ some ·.kind) := by
  refine ⟨nodup_after edits, ?_, ?_, filter_conditions_apply⟩
  · intro kind
    rw [stands_iff, not_not]
  · intro kind c
    have hkind : ∀ d, (after edits).condition? kind = some d → d.kind = kind := by
      intro d hd
      simpa using List.find?_some hd
    constructor
    · intro hc
      exact ⟨hkind c hc, lastSet_iff.mpr ⟨c, hc, rfl, rfl, rfl⟩, turnedAt_iff.mpr ⟨c, hc, rfl, rfl⟩⟩
    · rintro ⟨hc, hlast, hturned⟩
      obtain ⟨d, hd, hholds, hreason, hmessage⟩ := lastSet_iff.mp hlast
      obtain ⟨d', hd', -, hsince⟩ := turnedAt_iff.mp hturned
      obtain rfl := Option.mem_unique hd hd'
      have hdc : d = c := by
        obtain ⟨⟩ := c
        obtain ⟨⟩ := d
        simp_all
      exact hdc ▸ hd

example : (after [
      .set (.ofNanos 1) .tokenIssued true "Issued" none,
      .set (.ofNanos 2) .notified false "CallbackFailed" none,
      .remove .tokenIssued,
      .set (.ofNanos 3) .notified true "CallbackSent" none,
      .set (.ofNanos 4) .tokenIssued true "Issued" none,
      .set (.ofNanos 5) .tokenIssued true "Issued" none]).conditions =
    [⟨.notified, true, "CallbackSent", none, .ofNanos 3⟩, ⟨.tokenIssued, true, "Issued", none, .ofNanos 4⟩] := by
  decide

end SandboxTasks.Status
