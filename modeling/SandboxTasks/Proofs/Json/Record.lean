import Mathlib.Data.List.Forall2
import SandboxTasks.Json.Decode
import SandboxTasks.Proofs.Json.MergePatch

namespace SandboxTasks

open Json

/-- The field that a member belongs to has the member's name and takes its value; a member that belongs to no field
can be skipped. -/
def Json.Taken (forms : List (Field.Form Json)) (m : String × Json) : Prop :=
  match forms.find? (·.isNamed m.1) with
  | some f => f.name = m.1 ∧ f.check m.2 = .ok ()
  | none => skip m.2 = .ok ()

def Json.isKnown (forms : List (Field.Form Json)) (m : String × Json) : Bool :=
  (forms.find? (·.isNamed m.1)).isSome

theorem Slots.value?_append (seen more : Slots Json) (key : String) :
    Slots.value? (seen ++ more) key = (seen.value? key).or (more.value? key) := find?_append seen more key

theorem Slots.ofMembers_taken {forms : List (Field.Form Json)} (seen : Slots Json) (ms : List (String × Json))
    (hms : (names ms).Nodup) (taken : ∀ m ∈ ms, Taken forms m) (apart : ∀ m ∈ ms, seen.value? m.1 = none) :
    Slots.ofMembers forms skip seen ms = Slots.complete forms (seen ++ ms.filter (isKnown forms)) := by
  -- What was seen has none of the names that are still to come, so no member is taken for a second one.
  induction ms generalizing seen with
  | nil => rw [Slots.ofMembers, List.filter_nil, List.append_nil]
  | cons m ms ih =>
      obtain ⟨hm, hrest⟩ := List.nodup_cons.mp hms
      have htaken := taken m List.mem_cons_self
      have hlater : ∀ n ∈ ms, Taken forms n := fun n hn => taken n (List.mem_cons_of_mem m hn)
      rw [Slots.ofMembers]
      cases hf : forms.find? (·.isNamed m.1) with
      | none =>
          have hskip : skip m.2 = .ok () := by simpa only [Taken, hf] using htaken
          have hknown : isKnown forms m = false := by rw [isKnown, hf]; rfl
          rw [List.filter_cons_of_neg (by simp [hknown])]
          simp only [hskip]
          exact ih seen hrest hlater fun n hn => apart n (List.mem_cons_of_mem m hn)
      | some f =>
          obtain ⟨hname, hcheck⟩ : f.name = m.1 ∧ f.check m.2 = .ok () := by simpa only [Taken, hf] using htaken
          have hknown : isKnown forms m = true := by rw [isKnown, hf]; rfl
          have hfree : seen.value? f.name = none := hname ▸ apart m List.mem_cons_self
          rw [List.filter_cons_of_pos hknown]
          simp only [hfree, Option.isSome_none, Bool.false_eq_true, if_false, hcheck]
          have hnext := ih (seen ++ [(f.name, m.2)]) hrest hlater fun n hn => by
            have hne : m.1 ≠ n.1 := fun he => hm (he ▸ List.mem_map_of_mem hn)
            have hone : Slots.value? [(f.name, m.2)] n.1 = none := by
              rw [hname]
              exact (find?_cons _ _ _).trans (if_neg hne)
            rw [Slots.value?_append, apart n (List.mem_cons_of_mem m hn), hone, Option.or_none]
          rw [hname, List.append_assoc] at hnext
          rw [hname]
          exact hnext

theorem Json.slots_taken {forms : List (Field.Form Json)} {ms : List (String × Json)} (hms : (names ms).Nodup)
    (taken : ∀ m ∈ ms, Taken forms m) (came : ∀ f ∈ forms, f.isRequired → (find? ms f.name).isSome)
    (known : ∀ f ∈ forms, (forms.find? (·.isNamed f.name)).isSome) :
    ∃ s : Slots Json, slots forms (.object ms) = .ok s ∧ ∀ f ∈ forms, s.value? f.name = find? ms f.name := by
  have hvalue : ∀ f ∈ forms, Slots.value? (ms.filter (isKnown forms)) f.name = find? ms f.name := by
    intro f hf
    have hname : (fun m : String × Json => decide (isKnown forms m = true ∧ (m.1 == f.name) = true)) =
        (·.1 == f.name) := by
      funext m
      by_cases hm : m.1 = f.name
      · have hk : isKnown forms m = true := by rw [isKnown, hm]; exact known f hf
        simp [hk, hm]
      · simp [hm]
    simp only [Slots.value?, find?, List.find?_filter, hname]
  refine ⟨ms.filter (isKnown forms), ?_, hvalue⟩
  rw [slots, Slots.ofMembers_taken [] ms hms taken fun _ _ => rfl, List.nil_append, Slots.complete, if_pos]
  refine List.all_eq_true.mpr fun f hf => ?_
  rw [hvalue f hf]
  by_cases hreq : f.isRequired
  · simp [came f hf hreq]
  · simp [hreq]

def Json.written (es : List (String × Option Json)) : List (String × Json) :=
  es.filterMap fun (k, v) => v.map fun v => (k, v)

theorem Json.written_some (key : String) (v : Json) (es : List (String × Option Json)) :
    written ((key, some v) :: es) = (key, v) :: written es := rfl

theorem Json.mem_written {es : List (String × Option Json)} {m : String × Json} (h : m ∈ written es) :
    (m.1, some m.2) ∈ es := by
  obtain ⟨e, he, hem⟩ := List.mem_filterMap.mp h
  obtain ⟨v, hv, rfl⟩ := Option.map_eq_some_iff.mp hem
  exact hv ▸ he

theorem Json.mem_names_written {es : List (String × Option Json)} {key : String} (h : key ∈ names (written es)) :
    key ∈ es.map Prod.fst := by
  obtain ⟨m, hm, rfl⟩ := List.mem_map.mp h
  exact List.mem_map_of_mem (mem_written hm)

theorem Json.nodup_written {es : List (String × Option Json)} (hes : (es.map Prod.fst).Nodup) :
    (names (written es)).Nodup := by
  induction es with
  | nil => exact List.nodup_nil
  | cons d es ih =>
      obtain ⟨key, o⟩ := d
      obtain ⟨hd, hrest⟩ := List.nodup_cons.mp hes
      cases o with
      | none => exact ih hrest
      | some v => exact List.nodup_cons.mpr ⟨fun hin => hd (mem_names_written hin), ih hrest⟩

theorem Json.find?_written {es : List (String × Option Json)} (hes : (es.map Prod.fst).Nodup)
    {e : String × Option Json} (he : e ∈ es) : find? (written es) e.1 = e.2 := by
  induction es with
  | nil => cases he
  | cons d es ih =>
      obtain ⟨key, o⟩ := d
      obtain ⟨hd, hrest⟩ := List.nodup_cons.mp hes
      rcases List.mem_cons.mp he with rfl | hin
      · cases o with
        | none => exact find?_eq_none.mpr fun h => hd (mem_names_written h)
        | some v => rw [written_some, find?_cons, if_pos rfl]
      · have hne : key ≠ e.1 := fun hk => hd (List.mem_map.mpr ⟨e, hin, hk.symm⟩)
        cases o with
        | none => exact ih hrest hin
        | some v =>
            rw [written_some, find?_cons, if_neg hne]
            exact ih hrest hin

theorem Json.membersDistinct_of {ms : List (String × Json)} (hms : (names ms).Nodup)
    (values : ∀ m ∈ ms, m.2.isDistinct) : membersDistinct ms := by
  induction ms with
  | nil => rfl
  | cons m ms ih =>
      obtain ⟨hm, hrest⟩ := List.nodup_cons.mp hms
      simp [membersDistinct, find?_eq_none.mpr hm, values m List.mem_cons_self,
        ih hrest fun n hn => values n (List.mem_cons_of_mem m hn)]

theorem Json.membersFull_of {ms : List (String × Json)} (values : ∀ m ∈ ms, m.2 ≠ .null ∧ m.2.isFull) :
    membersFull ms := by
  induction ms with
  | nil => rfl
  | cons m ms ih =>
      obtain ⟨hne, hfull⟩ := values m List.mem_cons_self
      have hrest := ih fun n hn => values n (List.mem_cons_of_mem m hn)
      obtain ⟨key, v⟩ := m
      rw [membersFull]
      · simp [hfull, hrest]
      · exact hne

/-- Neither null itself nor with a null member or two members of one name. -/
structure Json.Solid (j : Json) : Prop where
  ne_null : j ≠ .null
  distinct : j.isDistinct = true
  full : j.isFull = true

theorem Json.solid_leaf {j : Json} (h : j ≠ .null) (leaf : ∀ ms, j ≠ .object ms) : Solid j := by
  cases j <;> first | exact ⟨h, rfl, rfl⟩ | exact absurd rfl (leaf _)

theorem Json.solid_some {w : Json} (h : Solid w) : ∀ v ∈ some w, Solid v := fun _ hv => Option.mem_some.mp hv ▸ h

theorem Json.solid_map {α : Type} {o : Option α} {write : α → Json} (h : ∀ a ∈ o, Solid (write a)) :
    ∀ v ∈ o.map write, Solid v := fun v hv => by
  obtain ⟨a, ha, rfl⟩ := Option.map_eq_some_iff.mp hv
  exact h a ha

theorem Json.solid_ofFields {es : List (String × Option Json)} (hes : (es.map Prod.fst).Nodup)
    (values : ∀ e ∈ es, ∀ v ∈ e.2, Solid v) : Solid (ofFields es) where
  ne_null h := by cases h
  distinct := membersDistinct_of (nodup_written hes) fun _ hm => (values _ (mem_written hm) _ rfl).distinct
  full := membersFull_of fun _ hm => ⟨(values _ (mem_written hm) _ rfl).ne_null, (values _ (mem_written hm) _ rfl).full⟩

structure Field.Carries {α : Type} (f : Field Json α) (a : α) (e : String × Option Json) : Prop where
  name : f.name = e.1
  plain : f.synonym = none
  written : ∀ w, e.2 = some w → ∀ v, Same v w → f.decode v = .ok a
  leftOut : e.2 = none → f.absent = some a

structure Field.Form.Fits (f : Field.Form Json) (e : String × Option Json) : Prop where
  name : f.name = e.1
  plain : f.synonym = none
  written : ∀ w, e.2 = some w → ∀ v, Same v w → f.check v = .ok ()
  leftOut : e.2 = none → f.isRequired = false

namespace Field

variable {α : Type}

theorem Carries.fits {f : Field Json α} {a : α} {e : String × Option Json} (h : f.Carries a e) : f.form.Fits e where
  name := h.name
  plain := h.plain
  written w hw v hv := by
    simp only [form, h.written w hw v hv]
    rfl
  leftOut he := by
    simp only [form, h.leftOut he]
    rfl

theorem carries_required {name : String} {decode : Json → Except Fault α} {a : α} {w : Json}
    (h : ∀ v, Same v w → decode v = .ok a) : (required name decode).Carries a (name, some w) where
  name := rfl
  plain := rfl
  written _ hw := Option.some.inj hw ▸ h
  leftOut he := by cases he

theorem carries_withDefault {name : String} {default : α} {decode : Json → Except Fault α} {a : α} {w : Json}
    (h : ∀ v, Same v w → decode v = .ok a) : (withDefault name default decode).Carries a (name, some w) where
  name := rfl
  plain := rfl
  written _ hw := Option.some.inj hw ▸ h
  leftOut he := by cases he

theorem decodeOption_of {decode : Json → Except Fault α} {v : Json} {a : α} (h : decode v = .ok a) (hv : v ≠ .null) :
    decodeOption decode v = .ok (some a) := by
  have hopt : decodeOption decode v = (decode v).map some := by
    cases v <;> first | rfl | exact absurd rfl hv
  rw [hopt, h]
  rfl

theorem carries_optional {name : String} {decode : Json → Except Fault α} {o : Option α} {write : α → Json}
    (h : ∀ a ∈ o, write a ≠ .null ∧ ∀ v, Same v (write a) → decode v = .ok a) :
    (optional name decode).Carries o (name, o.map write) where
  name := rfl
  plain := rfl
  written w hw v hv := by
    obtain ⟨a, ha, rfl⟩ := Option.map_eq_some_iff.mp hw
    obtain ⟨hne, hdecode⟩ := h a ha
    have hv' : v ≠ .null := fun h => hne (hv.symm.eq_of_leaf (fun ms hms => by cases h.symm.trans hms) |>.trans h)
    rw [ha]
    exact decodeOption_of (hdecode v hv) hv'
  leftOut he := by
    cases o with
    | none => rfl
    | some a => cases he

end Field

/-- Under every name came what was written there, if anything was. -/
def Slots.Bring (s : Slots Json) (es : List (String × Option Json)) : Prop :=
  ∀ e ∈ es, (∀ w, e.2 = some w → ∃ v, s.value? e.1 = some v ∧ Same v w) ∧ (e.2 = none → s.value? e.1 = none)

theorem Field.read_some {α : Type} {f : Field Json α} {s : Slots Json} {v : Json} {a : α}
    (hv : s.value? f.name = some v) (ha : f.decode v = .ok a) : f.read s = .ok a := by
  rw [Field.read, hv]
  exact ha

theorem Field.read_none {α : Type} {f : Field Json α} {s : Slots Json} {a : α} (hv : s.value? f.name = none)
    (ha : f.absent = some a) : f.read s = .ok a := by
  simp only [Field.read, hv, ha]

theorem Slots.Bring.read {α : Type} {s : Slots Json} {es : List (String × Option Json)} (h : s.Bring es)
    {f : Field Json α} {a : α} {e : String × Option Json} (he : e ∈ es) (hf : f.Carries a e) : f.read s = .ok a := by
  obtain ⟨hsome, hnone⟩ := h e he
  cases hw : e.2 with
  | some w =>
      obtain ⟨v, hv, hsame⟩ := hsome w hw
      exact Field.read_some (hf.name ▸ hv) (hf.written w hw v hsame)
  | none => exact Field.read_none (hf.name ▸ hnone hw) (hf.leftOut hw)

theorem find?_isNamed {forms : List (Field.Form Json)} {es : List (String × Option Json)}
    (fits : List.Forall₂ Field.Form.Fits forms es) {e : String × Option Json} (he : e ∈ es)
    (hes : (es.map Prod.fst).Nodup) : ∃ f, forms.find? (·.isNamed e.1) = some f ∧ f.Fits e := by
  induction fits with
  | nil => cases he
  | @cons f d fs ds hfit _ ih =>
      obtain ⟨hd, hes⟩ := List.nodup_cons.mp hes
      have hnamed : ∀ key, f.isNamed key = (d.1 == key) := fun key => by
        simp [Field.Form.isNamed, hfit.name, hfit.plain]
      rcases List.mem_cons.mp he with rfl | he
      · exact ⟨f, by simp [hnamed], hfit⟩
      · have hne : d.1 ≠ e.1 := fun h => hd (h ▸ List.mem_map_of_mem he)
        obtain ⟨g, hg, hgfit⟩ := ih he hes
        exact ⟨g, by simpa [hnamed, hne] using hg, hgfit⟩

theorem fits_of_mem {forms : List (Field.Form Json)} {es : List (String × Option Json)}
    (fits : List.Forall₂ Field.Form.Fits forms es) {f : Field.Form Json} (hf : f ∈ forms) : ∃ e ∈ es, f.Fits e := by
  induction fits with
  | nil => cases hf
  | cons hfit _ ih =>
      rcases List.mem_cons.mp hf with rfl | hf
      · exact ⟨_, List.mem_cons_self, hfit⟩
      · obtain ⟨e, he, hfe⟩ := ih hf
        exact ⟨e, List.mem_cons_of_mem _ he, hfe⟩

theorem Json.members_written {es : List (String × Option Json)} (hes : (es.map Prod.fst).Nodup) {j : Json}
    (hj : Same j (ofFields es)) : ∃ ms, j = .object ms ∧ (names ms).Nodup ∧ Slots.Bring ms es ∧
      ∀ m ∈ ms, ∃ w, (m.1, some w) ∈ es ∧ Same m.2 w := by
  cases hj with
  | refl =>
      refine ⟨written es, rfl, nodup_written hes, fun e he => ?_, fun m hm => ⟨m.2, mem_written hm, .refl m.2⟩⟩
      have hfound : Slots.value? (written es) e.1 = e.2 := find?_written hes he
      rw [hfound]
      exact ⟨fun w hw => ⟨w, hw, .refl w⟩, id⟩
  | object left right named same =>
      refine ⟨_, rfl, left, fun e he => ⟨fun w hw => ?_, fun hw => ?_⟩, fun m hm => ?_⟩
      · have hfound := (find?_written hes he).trans hw
        obtain ⟨v, hv⟩ := Option.isSome_iff_exists.mp ((named e.1).trans (Option.isSome_of_eq_some hfound))
        exact ⟨v, hv, same e.1 v w hv hfound⟩
      · have hnone := (named e.1).trans (congrArg Option.isSome ((find?_written hes he).trans hw))
        exact Option.isNone_iff_eq_none.mp (Option.isSome_eq_false_iff.mp hnone)
      · have hfound := find_of_mem left hm
        obtain ⟨w, hw⟩ := Option.isSome_iff_exists.mp ((named m.1).symm.trans (Option.isSome_of_eq_some hfound))
        exact ⟨w, mem_written (mem_of_find hw), same m.1 m.2 w hfound hw⟩

/-- A record that was written field by field can be taken apart, in whatever order its members come. -/
theorem Json.slots_written {forms : List (Field.Form Json)} {es : List (String × Option Json)}
    (hes : (es.map Prod.fst).Nodup) (fits : List.Forall₂ Field.Form.Fits forms es) {j : Json}
    (hj : Same j (ofFields es)) : ∃ s : Slots Json, j.slots forms = .ok s ∧ s.Bring es := by
  obtain ⟨ms, rfl, hms, hbring, hmembers⟩ := members_written hes hj
  have htaken : ∀ m ∈ ms, Taken forms m := by
    intro m hm
    obtain ⟨w, he, hsame⟩ := hmembers m hm
    obtain ⟨f, hf, hfit⟩ := find?_isNamed fits he hes
    simp only [Taken, hf]
    exact ⟨hfit.name, hfit.written w rfl m.2 hsame⟩
  have hcame : ∀ f ∈ forms, f.isRequired → (find? ms f.name).isSome := by
    intro f hf hreq
    obtain ⟨e, he, hfit⟩ := fits_of_mem fits hf
    cases hw : e.2 with
    | none => simp [hfit.leftOut hw] at hreq
    | some w =>
        obtain ⟨v, hv, -⟩ := (hbring e he).1 w hw
        rw [hfit.name]
        exact Option.isSome_of_eq_some hv
  have hknown : ∀ f ∈ forms, (forms.find? (·.isNamed f.name)).isSome := by
    intro f hf
    obtain ⟨e, he, hfit⟩ := fits_of_mem fits hf
    obtain ⟨g, hg, -⟩ := find?_isNamed fits he hes
    rw [hfit.name, hg]
    rfl
  obtain ⟨s, hs, hvalue⟩ := slots_taken hms htaken hcame hknown
  refine ⟨s, hs, fun e he => ?_⟩
  obtain ⟨f, hf, hfit⟩ := find?_isNamed fits he hes
  have hsame : s.value? e.1 = Slots.value? ms e.1 := hfit.name ▸ hvalue f (List.mem_of_find?_eq_some hf)
  rw [hsame]
  exact hbring e he

end SandboxTasks
