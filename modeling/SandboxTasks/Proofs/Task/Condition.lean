import SandboxTasks.Task.Record

namespace SandboxTasks

namespace Condition

variable {cs : List Condition} {k kind : Kind} {now : Instant}
  {holds : Bool} {reason : String} {message : Option String}

theorem isSome_find?_set :
    (find? (set now k holds reason message cs) kind).isSome = ((find? cs kind).isSome || k == kind) := by
  induction cs with
  | nil => by_cases hk : k = kind <;> simp [set, find?, hk]
  | cons c cs ih =>
      unfold set
      split
      · next h =>
          subst h
          by_cases hk : c.kind = kind <;> simp [find?, hk]
      · by_cases hk : c.kind = kind
        · simp [find?, hk]
        · simpa [find?, hk] using ih

theorem find?_set_of_ne (h : k ≠ kind) : find? (set now k holds reason message cs) kind = find? cs kind := by
  induction cs with
  | nil => simp [set, find?, h]
  | cons c cs ih =>
      unfold set
      split
      · next hc =>
          have hkind : c.kind ≠ kind := fun he => h (hc.symm.trans he)
          simp [find?, h, hkind]
      · by_cases hc : c.kind = kind
        · simp [find?, hc]
        · simpa [find?, hc] using ih

theorem find?_set (cs : List Condition) : find? (set now k holds reason message cs) k =
    some ⟨k, holds, reason, message, (find? cs k).elim now fun c => if c.holds = holds then c.since else now⟩ := by
  induction cs with
  | nil => simp [set, find?]
  | cons c cs ih =>
      unfold set
      by_cases hc : c.kind = k
      · simp [find?, hc]
      · simpa [find?, hc] using ih

theorem find?_set_self (h : find? cs k = none) :
    find? (set now k holds reason message cs) k = some ⟨k, holds, reason, message, now⟩ := by
  rw [find?_set, h, Option.elim_none]

theorem find?_remove_of_ne (h : k ≠ kind) : find? (remove k cs) kind = find? cs kind := by
  simp only [find?, remove, List.find?_filter]
  congr 1
  funext c
  by_cases hc : c.kind = kind
  · simp [hc, Ne.symm h]
  · simp [hc]

theorem isSome_find?_remove : (find? (remove k cs) kind).isSome = ((find? cs kind).isSome && k != kind) := by
  by_cases hk : k = kind
  · subst hk
    simp [find?, remove]
  · simp only [find?, remove, List.isSome_find?, List.any_filter, bne_iff_ne.mpr hk, Bool.and_true]
    congr 1
    funext c
    by_cases hc : c.kind = kind
    · simp [hc, Ne.symm hk]
    · simp [hc]

theorem remove_of_absent (h : find? cs kind = none) : remove kind cs = cs :=
  List.filter_eq_self.mpr fun c hc => by simpa using List.find?_eq_none.mp h c hc

theorem filter_set (p : Kind → Bool) (h : p k = false) (cs : List Condition) :
    (set now k holds reason message cs).filter (p ·.kind) = cs.filter (p ·.kind) := by
  induction cs with
  | nil => simp [set, h]
  | cons c cs ih =>
      unfold set
      by_cases hc : c.kind = k
      · simp [hc, h]
      · simp only [hc, if_false, List.filter_cons, ih]

theorem remove_set_self : remove kind (set now kind holds reason message cs) = remove kind cs :=
  filter_set (· != kind) (bne_self_eq_false kind) cs

theorem remove_set_of_ne (h : k ≠ kind) :
    remove kind (set now k holds reason message cs) = set now k holds reason message (remove kind cs) := by
  induction cs with
  | nil => simp [set, remove, h]
  | cons c cs ih =>
      simp only [remove] at ih
      by_cases hc : c.kind = k
      · simp [set, remove, hc, h]
      · by_cases hkind : c.kind = kind
        · simpa [set, remove, hc, hkind, Ne.symm h] using ih
        · simpa [set, remove, hc, hkind] using ih

theorem map_kind_set : (set now k holds reason message cs).map (·.kind) =
    if k ∈ cs.map (·.kind) then cs.map (·.kind) else cs.map (·.kind) ++ [k] := by
  induction cs with
  | nil => rfl
  | cons c cs ih =>
      unfold set
      by_cases hc : c.kind = k
      · simp [hc]
      · rw [if_neg hc, List.map_cons, ih]
        by_cases hk : k ∈ cs.map (·.kind)
        · simp only [hk, if_true, List.map_cons, List.mem_cons, or_true]
        · simp only [hk, if_false, List.map_cons, List.mem_cons, Ne.symm hc, or_self, List.cons_append]

theorem nodup_set (h : (cs.map (·.kind)).Nodup) : ((set now k holds reason message cs).map (·.kind)).Nodup := by
  rw [map_kind_set]
  split
  · exact h
  · next hk =>
      refine List.nodup_append.mpr ⟨h, by simp, fun a ha b hb he => hk ?_⟩
      rwa [← List.mem_singleton.mp hb, ← he]

theorem nodup_remove (h : (cs.map (·.kind)).Nodup) : ((remove k cs).map (·.kind)).Nodup :=
  h.sublist (List.filter_sublist.map _)

end Condition

namespace Status

variable {s : Status} {now : Instant} {k kind : Condition.Kind}

@[simp] theorem has_setCondition {holds : Bool} {reason : String} {message : Option String} :
    (s.setCondition now k holds reason message).has kind = (s.has kind || k == kind) :=
  Condition.isSome_find?_set

theorem has_congr {next : Status} (h : next.conditions = s.conditions) : next.has kind = s.has kind := by
  rw [has, has, condition?, condition?, h]

theorem condition?_eq_none : s.condition? kind = none ↔ s.has kind = false := by
  simp [has]

@[simp] theorem has_removeCondition : (s.removeCondition k).has kind = (s.has kind && k != kind) :=
  Condition.isSome_find?_remove

end Status

end SandboxTasks
