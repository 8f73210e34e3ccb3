import Mathlib.Data.List.Nodup
import SandboxTasks.Json.MergePatch

namespace SandboxTasks.Json

def names (ms : List (String × Json)) : List String := ms.map Prod.fst

@[simp] theorem find?_nil (key : String) : find? [] key = none := rfl

theorem find?_cons (m : String × Json) (ms : List (String × Json)) (key : String) :
    find? (m :: ms) key = if m.1 = key then some m.2 else find? ms key := by
  by_cases h : m.1 = key <;> simp [find?, h]

theorem find?_append (ms ns : List (String × Json)) (key : String) :
    find? (ms ++ ns) key = (find? ms key).or (find? ns key) := by
  simp only [find?, List.find?_append]
  cases ms.find? (·.1 == key) <;> rfl

theorem find?_set (ms : List (String × Json)) (key : String) (v : Json) (k : String) :
    find? (set ms key v) k = if key = k then some v else find? ms k := by
  induction ms with
  | nil => rw [set, find?_cons]
  | cons m ms ih =>
      by_cases hm : m.1 = key
      · simp only [set, hm, if_true, find?_cons]
        split <;> rfl
      · simp only [set, hm, if_false, find?_cons, ih]
        by_cases hk : key = k
        · simp [← hk, hm]
        · simp [hk]

theorem find?_erase (ms : List (String × Json)) (key k : String) :
    find? (erase ms key) k = if key = k then none else find? ms k := by
  induction ms with
  | nil => simp [erase]
  | cons m ms ih =>
      by_cases hm : m.1 = key
      · have he : erase (m :: ms) key = erase ms key := by simp [erase, hm]
        rw [he, ih, find?_cons, hm]
        split <;> rfl
      · have he : erase (m :: ms) key = m :: erase ms key := by simp [erase, hm]
        rw [he, find?_cons, find?_cons, ih]
        by_cases hk : key = k
        · simp [← hk, hm]
        · simp [hk]

theorem find?_isSome {ms : List (String × Json)} {key : String} : (find? ms key).isSome ↔ key ∈ names ms := by
  simp [find?, names]

theorem find?_eq_none {ms : List (String × Json)} {key : String} : find? ms key = none ↔ key ∉ names ms := by
  rw [← find?_isSome, Option.not_isSome_iff_eq_none]

theorem mem_of_find {ms : List (String × Json)} {key : String} {v : Json} (h : find? ms key = some v) :
    (key, v) ∈ ms := by
  obtain ⟨m, hm, rfl⟩ := Option.map_eq_some_iff.mp h
  have hk : m.1 = key := by simpa using List.find?_some hm
  exact hk ▸ List.mem_of_find?_eq_some hm

theorem find_of_mem {ms : List (String × Json)} (hms : (names ms).Nodup) {key : String} {v : Json}
    (h : (key, v) ∈ ms) : find? ms key = some v := by
  induction ms with
  | nil => cases h
  | cons m ms ih =>
      obtain ⟨hm, hms⟩ := List.nodup_cons.mp hms
      rw [find?_cons]
      rcases List.mem_cons.mp h with rfl | h
      · simp
      · have hne : m.1 ≠ key := fun he => hm (he ▸ List.mem_map_of_mem h)
        rw [if_neg hne, ih hms h]

theorem nodup_set {ms : List (String × Json)} (h : (names ms).Nodup) (key : String) (v : Json) :
    (names (set ms key v)).Nodup := by
  induction ms with
  | nil => simp [set, names]
  | cons m ms ih =>
      obtain ⟨hm, hms⟩ := List.nodup_cons.mp h
      by_cases hk : m.1 = key
      · simpa [set, hk, names] using h
      · simp only [set, hk, if_false, names, List.map_cons, List.nodup_cons]
        refine ⟨fun hin => ?_, ih hms⟩
        have hfound : (find? (set ms key v) m.1).isSome := find?_isSome.mpr hin
        rw [find?_set, if_neg (Ne.symm hk)] at hfound
        exact hm (find?_isSome.mp hfound)

theorem nodup_erase {ms : List (String × Json)} (h : (names ms).Nodup) (key : String) :
    (names (erase ms key)).Nodup :=
  h.sublist (List.filter_sublist.map Prod.fst)

/-- The same value, whatever order the members of objects outside arrays come in. -/
inductive Same : Json → Json → Prop
  | refl (j : Json) : Same j j
  | object {ms ns : List (String × Json)} (left : (names ms).Nodup) (right : (names ns).Nodup)
      (named : ∀ key, (find? ms key).isSome = (find? ns key).isSome)
      (same : ∀ key v w, find? ms key = some v → find? ns key = some w → Same v w) : Same (.object ms) (.object ns)

theorem Same.eq_of_leaf {j k : Json} (h : Same j k) (leaf : ∀ ms, k ≠ .object ms) : j = k := by
  cases h with
  | refl => rfl
  | object => exact absurd rfl (leaf _)

theorem Same.symm {j k : Json} (h : Same j k) : Same k j := by
  induction h with
  | refl j => exact .refl j
  | object left right named _ ih =>
      exact .object right left (fun key => (named key).symm) fun key v w hv hw => ih key w v hw hv

theorem object_induction {P : Json → Prop} (leaf : ∀ j, (∀ ms, j ≠ .object ms) → P j)
    (object : ∀ ms, (∀ key v, find? ms key = some v → P v) → P (.object ms)) (j : Json) : P j := by
  cases j with
  | object ms =>
      refine object ms fun key v h => ?_
      have hlt := List.sizeOf_lt_of_mem (mem_of_find h)
      exact object_induction leaf object v
  | null => exact leaf _ fun _ h => by cases h
  | bool b => exact leaf _ fun _ h => by cases h
  | number n => exact leaf _ fun _ h => by cases h
  | string s => exact leaf _ fun _ h => by cases h
  | array xs => exact leaf _ fun _ h => by cases h
  | unreadable d => exact leaf _ fun _ h => by cases h
termination_by sizeOf j
decreasing_by simp at hlt ⊢; omega

mutual

/-- No two members of an object have one name, at any depth outside arrays. -/
def isDistinct : Json → Bool
  | .object ms => membersDistinct ms
  | _ => true

def membersDistinct : List (String × Json) → Bool
  | [] => true
  | (key, v) :: ms => (find? ms key).isNone && isDistinct v && membersDistinct ms

end

mutual

/-- No member of an object is null, at any depth outside arrays. -/
def isFull : Json → Bool
  | .object ms => membersFull ms
  | _ => true

def membersFull : List (String × Json) → Bool
  | [] => true
  | (_, .null) :: _ => false
  | (_, v) :: ms => isFull v && membersFull ms

end

theorem nodup_of_distinct {ms : List (String × Json)} (h : membersDistinct ms) : (names ms).Nodup := by
  induction ms with
  | nil => exact List.nodup_nil
  | cons m ms ih =>
      simp only [membersDistinct, Bool.and_eq_true, Option.isNone_iff_eq_none] at h
      exact List.nodup_cons.mpr ⟨find?_eq_none.mp h.1.1, ih h.2⟩

theorem distinct_of_mem {ms : List (String × Json)} (h : membersDistinct ms) {m : String × Json} (hm : m ∈ ms) :
    m.2.isDistinct := by
  induction ms with
  | nil => cases hm
  | cons n ms ih =>
      simp only [membersDistinct, Bool.and_eq_true] at h
      rcases List.mem_cons.mp hm with rfl | hm
      · exact h.1.2
      · exact ih h.2 hm

theorem full_of_mem {ms : List (String × Json)} (h : membersFull ms) {m : String × Json} (hm : m ∈ ms) :
    m.2 ≠ .null ∧ m.2.isFull := by
  induction ms with
  | nil => cases hm
  | cons n ms ih =>
      obtain ⟨key, v⟩ := n
      have hv : v ≠ .null := by
        rintro rfl
        simp [membersFull] at h
      have hsplit : isFull v ∧ membersFull ms := by
        rw [membersFull] at h
        · simpa using h
        · exact fun he => hv he
      rcases List.mem_cons.mp hm with rfl | hm
      · exact ⟨hv, hsplit.1⟩
      · exact ih hsplit.2 hm

def mergeMember (old patch : Option Json) : Option Json :=
  match patch with
  | none => old
  | some .null => none
  | some p => some (merge (old.getD .null) p)

theorem mergeMember_some {p : Json} (h : p ≠ .null) (old : Option Json) :
    mergeMember old (some p) = some (merge (old.getD .null) p) := by
  cases p <;> first | rfl | exact absurd rfl h

theorem find?_mergeMembers {ps : List (String × Json)} (hps : (names ps).Nodup) (ms : List (String × Json))
    (key : String) : find? (mergeMembers ms ps) key = mergeMember (find? ms key) (find? ps key) := by
  induction ps generalizing ms with
  | nil => rw [mergeMembers, find?_nil, mergeMember]
  | cons m ps ih =>
      obtain ⟨k, p⟩ := m
      obtain ⟨hk, hrest⟩ := List.nodup_cons.mp hps
      have hnone : find? ps k = none := find?_eq_none.mpr hk
      by_cases hp : p = .null
      · subst hp
        rw [mergeMembers, ih hrest, find?_erase, find?_cons]
        by_cases he : k = key
        · subst he
          simp [hnone, mergeMember]
        · simp [he]
      · have hstep : mergeMembers ms ((k, p) :: ps) =
            mergeMembers (set ms k (merge ((find? ms k).getD .null) p)) ps := by
          rw [mergeMembers]
          exact hp
        rw [hstep, ih hrest, find?_set, find?_cons]
        by_cases he : k = key
        · subst he
          simp only [if_true, hnone, mergeMember_some hp]
          rfl
        · simp [he]

theorem nodup_mergeMembers {ms : List (String × Json)} (hms : (names ms).Nodup) (ps : List (String × Json)) :
    (names (mergeMembers ms ps)).Nodup := by
  induction ps generalizing ms with
  | nil => simpa only [mergeMembers] using hms
  | cons m ps ih =>
      obtain ⟨k, p⟩ := m
      by_cases hp : p = .null
      · subst hp
        rw [mergeMembers]
        exact ih (nodup_erase hms k)
      · rw [mergeMembers]
        · exact ih (nodup_set hms k _)
        · exact hp

def memberPatch (old : Option Json) (n : Json) : Json :=
  match old with
  | some o => mergePatch o n
  | none => n

theorem find?_memberPatches (old ns : List (String × Json)) (key : String) :
    find? (memberPatches old ns) key = (find? ns key).map (memberPatch (find? old key)) := by
  induction ns with
  | nil => rfl
  | cons m ns ih =>
      obtain ⟨k, n⟩ := m
      rw [memberPatches, find?_cons, find?_cons]
      by_cases he : k = key
      · subst he
        simp only [if_true, Option.map_some]
        rfl
      · simp only [he, if_false, ih]

theorem find?_removals (old ns : List (String × Json)) (key : String) :
    find? (removals old ns) key =
      if (find? old key).isSome ∧ (find? ns key).isNone then some .null else none := by
  induction old with
  | nil => simp [removals]
  | cons m old ih =>
      by_cases hm : (find? ns m.1).isNone
      · have hr : removals (m :: old) ns = (m.1, .null) :: removals old ns := by simp [removals, hm]
        rw [hr, find?_cons, find?_cons, ih]
        by_cases he : m.1 = key
        · simp [← he, hm]
        · simp [he]
      · have hr : removals (m :: old) ns = removals old ns := by simp [removals, hm]
        rw [hr, find?_cons, ih]
        by_cases he : m.1 = key
        · simp [← he, hm]
        · simp [he]

theorem names_memberPatches (old ns : List (String × Json)) : names (memberPatches old ns) = names ns := by
  induction ns with
  | nil => rfl
  | cons m ns ih => simpa [memberPatches, names] using ih

theorem nodup_patch {old ns : List (String × Json)} (hold : (names old).Nodup) (hns : (names ns).Nodup) :
    (names (memberPatches old ns ++ removals old ns)).Nodup := by
  have hsub : (names (removals old ns)).Sublist (names old) := by
    simp only [names, removals, List.map_map]
    exact List.filter_sublist.map Prod.fst
  have hsplit : names (memberPatches old ns ++ removals old ns) = names ns ++ names (removals old ns) := by
    rw [← names_memberPatches old ns, names, List.map_append]
    rfl
  rw [hsplit]
  refine hns.append (hold.sublist hsub) fun key hn hr => ?_
  have hfound : (find? (removals old ns) key).isSome := find?_isSome.mpr hr
  have hnew : (find? ns key).isSome := find?_isSome.mpr hn
  simp [find?_removals, Option.isSome_iff_ne_none.mp hnew] at hfound

theorem mergePatch_leaf {new : Json} (h : ∀ ns, new ≠ .object ns) (old : Json) : mergePatch old new = new := by
  cases new <;> first | rfl | exact absurd rfl (h _)

theorem merge_leaf {p : Json} (h : ∀ ps, p ≠ .object ps) (t : Json) : merge t p = p := by
  cases p <;> first | rfl | exact absurd rfl (h _)

theorem mergePatch_ne_null {new : Json} (h : new ≠ .null) (old : Json) : mergePatch old new ≠ .null := by
  cases new with
  | object ns => cases old <;> simp [mergePatch]
  | _ => simpa only [mergePatch] using h

theorem same_mergeMembers {ms ps ns : List (String × Json)} (hms : (names ms).Nodup) (hps : (names ps).Nodup)
    (hns : (names ns).Nodup)
    (kept : ∀ key n, find? ns key = some n → ∃ v, mergeMember (find? ms key) (find? ps key) = some v ∧ Same v n)
    (gone : ∀ key, find? ns key = none → mergeMember (find? ms key) (find? ps key) = none) :
    Same (.object (mergeMembers ms ps)) (.object ns) := by
  refine .object (nodup_mergeMembers hms ps) hns (fun key => ?_) fun key v n hv hn => ?_
  · rw [find?_mergeMembers hps]
    cases hn : find? ns key with
    | none => rw [gone key hn]
    | some n =>
        obtain ⟨v, hv, -⟩ := kept key n hn
        rw [hv, Option.isSome_some, Option.isSome_some]
  · rw [find?_mergeMembers hps] at hv
    obtain ⟨w, hw, hsame⟩ := kept key n hn
    cases hv.symm.trans hw
    exact hsame

theorem merge_empty (new : Json) (hd : new.isDistinct) (hf : new.isFull) :
    ∀ t : Json, t.members = [] → Same (merge t new) new := by
  induction new using object_induction with
  | leaf new hleaf =>
      intro t _
      rw [merge_leaf hleaf]
      exact .refl new
  | object ns ih =>
      intro t ht
      have hns := nodup_of_distinct hd
      rw [merge, ht]
      refine same_mergeMembers List.nodup_nil hns hns (fun key n hn => ?_) fun key hn => ?_
      · obtain ⟨hne, hfull⟩ := full_of_mem hf (mem_of_find hn)
        rw [hn, mergeMember_some hne]
        exact ⟨_, rfl, ih key n hn (distinct_of_mem hd (mem_of_find hn)) hfull .null rfl⟩
      · rw [hn, find?_nil, mergeMember]

theorem mergePatch_of_leaf {old : Json} (h : ∀ ms, old ≠ .object ms) (new : Json) : mergePatch old new = new := by
  cases new with
  | object ns => cases old <;> first | rfl | exact absurd rfl (h _)
  | _ => rfl

theorem members_of_leaf {j : Json} (h : ∀ ms, j ≠ .object ms) : j.members = [] := by
  cases j <;> first | rfl | exact absurd rfl (h _)

theorem Same.refl_members {t : Json} {ms : List (String × Json)} (h : Same t (.object ms)) (hms : (names ms).Nodup) :
    ∃ ts, t = .object ts ∧ (names ts).Nodup ∧ (∀ key, (find? ts key).isSome = (find? ms key).isSome) ∧
      ∀ key v w, find? ts key = some v → find? ms key = some w → Same v w := by
  cases h with
  | refl =>
      refine ⟨ms, rfl, hms, fun _ => rfl, fun key v w hv hw => ?_⟩
      cases hv.symm.trans hw
      exact .refl v
  | object left _ named same => exact ⟨_, rfl, left, named, same⟩

/-- The patch was made for `old`; what it is merged into may hold the members of that in another order. -/
theorem merge_mergePatch (new : Json) (hd : new.isDistinct) (hf : new.isFull) :
    ∀ t old : Json, Same t old → old.isDistinct → Same (merge t (mergePatch old new)) new := by
  induction new using object_induction with
  | leaf new hleaf =>
      intro t old _ _
      rw [mergePatch_leaf hleaf, merge_leaf hleaf]
      exact .refl new
  | object ns ih =>
      intro t old ht hold
      have hns := nodup_of_distinct hd
      by_cases ho : ∃ ms, old = .object ms
      · obtain ⟨ms, rfl⟩ := ho
        have hms := nodup_of_distinct hold
        obtain ⟨ts, rfl, hts, hnamed, hsame⟩ := ht.refl_members hms
        rw [mergePatch, merge, members]
        refine same_mergeMembers hts (nodup_patch hms hns) hns (fun key n hn => ?_) fun key hn => ?_
        · obtain ⟨hne, hfull⟩ := full_of_mem hf (mem_of_find hn)
          have hdist := distinct_of_mem hd (mem_of_find hn)
          have hkey := hnamed key
          rw [find?_append, find?_memberPatches, hn]
          cases hm : find? ms key with
          | none =>
              rw [hm, Option.isSome_none, Option.isSome_eq_false_iff, Option.isNone_iff_eq_none] at hkey
              rw [hkey]
              exact ⟨_, mergeMember_some hne none, merge_empty n hdist hfull .null rfl⟩
          | some o =>
              rw [hm, Option.isSome_some] at hkey
              obtain ⟨v, hv⟩ := Option.isSome_iff_exists.mp hkey
              rw [hv]
              exact ⟨_, mergeMember_some (mergePatch_ne_null hne o) (some v),
                ih key n hn hdist hfull v o (hsame key v o hv hm) (distinct_of_mem hold (mem_of_find hm))⟩
        · have hkey := hnamed key
          rw [find?_append, find?_memberPatches, find?_removals, hn]
          cases hm : find? ms key with
          | none =>
              rw [hm, Option.isSome_none, Option.isSome_eq_false_iff, Option.isNone_iff_eq_none] at hkey
              rw [hkey]
              rfl
          | some o => rfl
      · have hleaf : ∀ ms, old ≠ .object ms := fun ms he => ho ⟨ms, he⟩
        rw [mergePatch_of_leaf hleaf]
        refine merge_empty (.object ns) hd hf t ?_
        rw [ht.eq_of_leaf hleaf]
        exact members_of_leaf hleaf

theorem merge_mergePatch_empty {t : Json} (ht : t.members = []) {ms ns : List (String × Json)}
    (hms : (names ms).Nodup) (hd : (Json.object ns).isDistinct) (hf : (Json.object ns).isFull)
    (flat : ∀ key o, find? ms key = some o → (find? ns key).isSome ∧ ∀ os, o ≠ .object os) :
    Same (merge t (mergePatch (.object ms) (.object ns))) (.object ns) := by
  have hns := nodup_of_distinct hd
  rw [mergePatch, merge, ht]
  refine same_mergeMembers List.nodup_nil (nodup_patch hms hns) hns (fun key n hn => ?_) fun key hn => ?_
  · obtain ⟨hne, hfull⟩ := full_of_mem hf (mem_of_find hn)
    have hpatch : memberPatch (find? ms key) n = n := by
      cases hm : find? ms key with
      | none => rfl
      | some o => exact mergePatch_of_leaf (flat key o hm).2 n
    rw [find?_append, find?_memberPatches, hn, Option.map_some, hpatch, Option.some_or, mergeMember_some hne]
    exact ⟨_, rfl, merge_empty n (distinct_of_mem hd (mem_of_find hn)) hfull .null rfl⟩
  · cases hm : find? ms key with
    | none => rw [find?_append, find?_memberPatches, find?_removals, hn, hm]; rfl
    | some o => exact absurd (flat key o hm).1 (by simp [hn])

end SandboxTasks.Json
