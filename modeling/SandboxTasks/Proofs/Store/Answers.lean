import Mathlib.Data.List.Nodup
import SandboxTasks.Proofs.Conduct
import SandboxTasks.Proofs.Store.Memory

namespace SandboxTasks

namespace Turn

def creates (id : String) : Turn → Bool
  | ⟨.create i _, .ok _⟩ => i == id
  | _ => false

def rewrites (id : String) : Turn → Bool
  | ⟨.swap i _ _, .ok _⟩ => i == id
  | _ => false

def removes (id : String) : Turn → Bool
  | ⟨.erase i, .ok true⟩ => i == id
  | _ => false

def changes (id : String) (turn : Turn) : Bool := turn.creates id || turn.rewrites id || turn.removes id

end Turn

namespace Store.Memory

/-- How the store answers anyone, those who create a task under an ID that is free again included. -/
def Answers (m : Memory) : (op : Operation) → op.Answer → Memory → Prop
  | .find i, a, m' => a = .ok (m.find i) ∧ m' = m
  | .list, a, m' => a = .ok m.list ∧ m' = m
  | .create i spec, a, m' => ∃ uid now, m.create i spec uid now = (a, m')
  | .swap i version status, a, m' => m.swap i version status = (a, m')
  | .erase i, a, m' => a = .ok (m.erase i).1 ∧ m' = (m.erase i).2
  | _, _, m' => m' = m

inductive Becomes (id : String) (turn : Turn) : Option Entry → Option Entry → Prop
  | kept (e?) (h : turn.changes id = false) : Becomes id turn e? e?
  | created {e} (h : turn.creates id) (hv : e.version = 1) : Becomes id turn none (some e)
  | written (e status) (h : turn.rewrites id) : Becomes id turn (some e) (some (Entry.write e status))
  | removed (e) (h : turn.removes id) : Becomes id turn (some e) none

theorem find?_insertEntry_self {e : Entry} {es : List Entry} (h : es.find? (·.record.id == e.record.id) = none) :
    (insertEntry e es).find? (·.record.id == e.record.id) = some e := by
  induction es with
  | nil => simp [insertEntry]
  | cons f es ih =>
      obtain ⟨hf, hes⟩ : ¬ f.record.id = e.record.id ∧ es.find? (·.record.id == e.record.id) = none := by
        simpa using h
      by_cases hlt : e.record.id < f.record.id
      · simp [insertEntry, hlt]
      · simp only [insertEntry, hlt, if_false]
        rw [List.find?_cons_of_neg (by simpa using hf)]
        exact ih hes

def Entry.new (id : String) (spec : TaskSpec) (uid : String) (now : Instant) : Entry :=
  ⟨⟨id, some uid, spec, .initial, now⟩, 1⟩

inductive Creates (m : Memory) (id : String) (spec : TaskSpec) (uid : String) (now : Instant) :
    Except StoreError Versioned → Memory → Prop
  | taken (h : (m.stored? id).isSome) : Creates m id spec uid now (.error (.alreadyExists id)) m
  | added (h : m.stored? id = none) :
      Creates m id spec uid now (.ok (Entry.new id spec uid now).versioned)
        ⟨insertEntry (Entry.new id spec uid now) m.entries⟩

theorem creates_of_eq {m m' : Memory} {id : String} {spec : TaskSpec} {uid : String} {now : Instant}
    {a : Except StoreError Versioned} (h : m.create id spec uid now = (a, m')) : Creates m id spec uid now a m' := by
  unfold create at h
  split at h
  · next hsome =>
      cases h
      exact .taken hsome
  · next hnone =>
      cases h
      exact .added (Option.not_isSome_iff_eq_none.mp hnone)

theorem stored_added {m : Memory} {id : String} {spec : TaskSpec} {uid : String} {now : Instant}
    (h : m.stored? id = none) (j : String) :
    (⟨insertEntry (Entry.new id spec uid now) m.entries⟩ : Memory).stored? j =
      if id = j then some (Entry.new id spec uid now) else m.stored? j := by
  split
  · next hj =>
      subst hj
      exact find?_insertEntry_self (e := Entry.new id spec uid now) h
  · next hj => exact find?_insertEntry (e := Entry.new id spec uid now) hj

theorem Answers.becomes {m m' : Memory} {op : Operation} {a : op.Answer} (h : m.Answers op a m') (id : String) :
    Becomes id ⟨op, a⟩ (m.stored? id) (m'.stored? id) := by
  cases op with
  | create i spec =>
      obtain ⟨uid, now, hc⟩ := h
      cases creates_of_eq hc with
      | taken => exact .kept _ rfl
      | added hnone =>
          rw [stored_added hnone id]
          by_cases hi : i = id
          · subst hi
            rw [if_pos rfl, hnone]
            exact .created (by simp [Turn.creates]) rfl
          · rw [if_neg hi]
            exact .kept _ (by simp [Turn.changes, Turn.creates, Turn.rewrites, Turn.removes, hi])
  | swap i version status =>
      cases swaps_of_eq h with
      | absent | stale | illegal => exact .kept _ rfl
      | @written e _ he _ hat =>
          rw [hat id]
          by_cases hi : i = id
          · subst hi
            rw [if_pos rfl, he]
            exact .written _ _ (by simp [Turn.rewrites])
          · rw [if_neg hi]
            exact .kept _ (by simp [Turn.changes, Turn.creates, Turn.rewrites, Turn.removes, hi])
  | erase i =>
      obtain ⟨rfl, rfl⟩ := h
      rw [stored_erase]
      by_cases hi : i = id
      · subst hi
        rw [if_pos rfl]
        cases he : m.stored? i with
        | none => exact .kept _ (by simp [Turn.changes, Turn.creates, Turn.rewrites, Turn.removes, erase, he])
        | some e => exact .removed e (by simp [Turn.removes, erase, he])
      · rw [if_neg hi]
        refine .kept _ ?_
        cases hs : (m.erase i).1 <;> simp [Turn.changes, Turn.creates, Turn.rewrites, Turn.removes, hi]
  | find i | list =>
      obtain ⟨_, rfl⟩ := h
      exact .kept _ rfl
  | _ =>
      cases h
      exact .kept _ rfl

namespace Becomes

variable {id : String} {turn : Turn} {before after : Option Entry}

theorem same (h : Becomes id turn before after) (hno : turn.changes id = false) : after = before := by
  simp only [Turn.changes, Bool.or_eq_false_iff] at hno
  cases h with
  | kept => rfl
  | created hc => simp [hc] at hno
  | written _ _ hw => simp [hw] at hno
  | removed _ hr => simp [hr] at hno

theorem first {e : Entry} (h : Becomes id turn before (some e)) (hc : turn.creates id) : e.version = 1 := by
  cases h with
  | kept _ hno => simp [Turn.changes, hc] at hno
  | created _ hv => exact hv
  | written _ _ hw =>
      obtain ⟨op, a⟩ := turn
      cases op <;> first | cases hc | cases hw

theorem earlier {e : Entry} (h : Becomes id turn before (some e)) (hno : turn.creates id = false) :
    turn.removes id = false ∧ ∃ e₀, before = some e₀ ∧ e.version = e₀.version + if turn.rewrites id then 1 else 0 := by
  cases h with
  | kept _ hkept =>
      simp only [Turn.changes, Bool.or_eq_false_iff] at hkept
      exact ⟨hkept.2, e, rfl, by simp [hkept]⟩
  | created hc => simp [hc] at hno
  | written e₀ status hw =>
      refine ⟨?_, e₀, rfl, by simp [hw, Entry.write]⟩
      obtain ⟨op, a⟩ := turn
      cases op <;> first | rfl | cases hw

theorem isSome {op : Operation} {a : op.Answer} (h : Becomes id ⟨op, a⟩ before after) (hop : op ≠ .erase id)
    (hb : before.isSome) : after.isSome := by
  cases h with
  | kept => exact hb
  | created | written => rfl
  | removed e hr =>
      cases op with
      | erase i =>
          refine absurd ?_ hop
          cases a with
          | error => cases hr
          | ok b =>
              cases b with
              | false => cases hr
              | true => rw [beq_iff_eq.mp hr]
      | _ => cases hr

theorem isSome_before {op : Operation} {a : op.Answer} (h : Becomes id ⟨op, a⟩ before after)
    (hop : ∀ spec, op ≠ .create id spec) (ha : after.isSome) : before.isSome := by
  cases h with
  | kept => exact ha
  | written => rfl
  | removed => cases ha
  | created hc =>
      cases op with
      | create i spec =>
          refine absurd ?_ (hop spec)
          cases a with
          | error => cases hc
          | ok t => rw [beq_iff_eq.mp hc]
      | _ => cases hc

end Becomes

theorem answers_of_serves {id : String} {m m' : Memory} {op : Operation} {a : op.Answer} (h : m.Serves id op a m') :
    m.Answers op a m' := by
  cases op with
  | create i spec => exact h.2
  | _ => exact h

theorem serves_of_answers {id : String} {m m' : Memory} {op : Operation} {a : op.Answer} (h : m.Answers op a m')
    (hcreate : ∀ spec, op = .create id spec → (m.stored? id).isSome) : m.Serves id op a m' := by
  cases op with
  | create i spec => exact ⟨fun hi => hcreate spec (hi ▸ rfl), h⟩
  | _ => exact h

section Find

variable {m m' : Memory} {id i : String} {spec : TaskSpec} {a : Except StoreError Versioned} {u : Versioned}

theorem find_create (h : m.Answers (.create id spec) a m') : m'.find i = m.find i ∨ i = id ∧ m.find i = none := by
  obtain ⟨uid, now, hc⟩ := h
  cases creates_of_eq hc with
  | taken => exact .inl rfl
  | added hnone =>
      by_cases hi : id = i
      · subst hi
        exact .inr ⟨rfl, by rw [find, hnone, Option.map_none]⟩
      · exact .inl (by rw [find, find, stored_added hnone, if_neg hi])

theorem find_erase (h : id ≠ i) : (m.erase id).2.find i = m.find i := by rw [find, find, stored_erase, if_neg h]

end Find

section Entries

variable {m m' : Memory} {op : Operation} {a : op.Answer}

theorem fits_of_answers (h : m.Answers op a m') : op.Fits a := by
  cases op with
  | create => trivial
  | _ => exact @serves_fits "" _ _ _ _ h

theorem insertEntry_perm (e : Entry) (es : List Entry) : (insertEntry e es).Perm (e :: es) := by
  induction es with
  | nil => exact .refl _
  | cons f es ih =>
      unfold insertEntry
      split
      · exact .refl _
      · exact (ih.cons f).trans (.swap e f es)

theorem insertEntry_split (e : Entry) (es : List Entry) :
    ∃ before after, es = before ++ after ∧ insertEntry e es = before ++ e :: after := by
  induction es with
  | nil => exact ⟨[], [], rfl, rfl⟩
  | cons f es ih =>
      unfold insertEntry
      split
      · exact ⟨[], f :: es, rfl, rfl⟩
      · obtain ⟨before, after, hes, hinsert⟩ := ih
        exact ⟨f :: before, after, congrArg (f :: ·) hes, congrArg (f :: ·) hinsert⟩

theorem isSome_stored? {id : String} : (m.stored? id).isSome ↔ ∃ e ∈ m.entries, e.record.id = id := by
  simp [stored?, List.find?_isSome]

theorem mem_of_answers (h : m.Answers op a m') {e : Entry} (he : e ∈ m'.entries) :
    (∃ f ∈ m.entries, e.record.id = f.record.id ∧ e.record.spec = f.record.spec) ∨
      op = .create e.record.id e.record.spec := by
  cases op with
  | create id spec =>
      obtain ⟨uid, now, hc⟩ := h
      cases creates_of_eq hc with
      | taken => exact .inl ⟨e, he, rfl, rfl⟩
      | added =>
          rcases List.mem_cons.mp ((insertEntry_perm _ _).mem_iff.mp he) with rfl | he
          · exact .inr rfl
          · exact .inl ⟨e, he, rfl, rfl⟩
  | swap id version status =>
      have hs : m' = (m.swap id version status).2 := by rw [show m.swap id version status = (a, m') from h]
      subst hs
      revert he
      unfold swap
      split
      · exact fun he => .inl ⟨e, he, rfl, rfl⟩
      · next g hg =>
          split_ifs
          · exact fun he => .inl ⟨e, he, rfl, rfl⟩
          · intro he
            obtain ⟨f, hf, rfl⟩ := List.mem_map.mp he
            split_ifs
            · exact .inl ⟨g, List.mem_of_find?_eq_some hg, rfl, rfl⟩
            · exact .inl ⟨f, hf, rfl, rfl⟩
          · exact fun he => .inl ⟨e, he, rfl, rfl⟩
  | erase id =>
      obtain ⟨-, rfl⟩ := h
      exact .inl ⟨e, (List.mem_filter.mp he).1, rfl, rfl⟩
  | find | list =>
      obtain ⟨-, rfl⟩ := h
      exact .inl ⟨e, he, rfl, rfl⟩
  | _ =>
      cases h
      exact .inl ⟨e, he, rfl, rfl⟩

theorem mem_of_shows {t : Versioned} (h : m.Answers op a m') (ht : Turn.shows? ⟨op, a⟩ = some t) :
    ∃ e ∈ m'.entries, t = e.versioned := by
  cases op with
  | find id =>
      obtain ⟨rfl, rfl⟩ := h
      obtain ⟨e, he, rfl⟩ := find_eq ht
      exact ⟨e, List.mem_of_find?_eq_some he, rfl⟩
  | swap id version status =>
      cases swaps_of_eq h with
      | absent | stale | illegal => cases ht
      | written _ _ hat =>
          cases ht
          exact ⟨_, List.mem_of_find?_eq_some ((hat id).trans (if_pos rfl)), rfl⟩
  | _ => cases ht

end Entries

def Distinct (m : Memory) : Prop := (m.entries.map (·.record.id)).Nodup

theorem stored_of_mem {m : Memory} {e : Entry} (h : m.Distinct) (he : e ∈ m.entries) :
    m.stored? e.record.id = some e := by
  obtain ⟨f, hf⟩ : ∃ f, m.stored? e.record.id = some f := by
    cases hs : m.stored? e.record.id with
    | some f => exact ⟨f, rfl⟩
    | none => exact absurd (List.find?_eq_none.mp hs e he) (by simp)
  rw [hf, List.inj_on_of_nodup_map h (List.mem_of_find?_eq_some hf) he (id_of_stored hf)]

theorem stored_of_mem_list {m : Memory} {t : Versioned} (h : m.Distinct) (ht : t ∈ m.list) :
    ∃ e, m.stored? t.record.id = some e ∧ t = e.versioned := by
  obtain ⟨e, he, rfl⟩ := List.mem_map.mp ht
  exact ⟨e, stored_of_mem h he, rfl⟩

theorem Distinct.added {m : Memory} {id : String} {spec : TaskSpec} {uid : String} {now : Instant} (hm : m.Distinct)
    (h : m.stored? id = none) : Distinct ⟨insertEntry (Entry.new id spec uid now) m.entries⟩ := by
  refine ((insertEntry_perm _ _).map _).nodup_iff.mpr (List.nodup_cons.mpr ⟨fun hi => ?_, hm⟩)
  obtain ⟨e, he, hid⟩ := List.mem_map.mp hi
  exact Option.some_ne_none e ((stored_of_mem hm he).symm.trans (hid.symm ▸ h))

theorem Distinct.swap {m : Memory} (hm : m.Distinct) (id version : String) (status : Status) :
    (m.swap id version status).2.Distinct := by
  unfold Memory.swap
  split
  · exact hm
  · next e he =>
      have hid : e.record.id = id := id_of_stored he
      have hids : (fun f : Entry => (if f.record.id = id then Entry.write e status else f).record.id) =
          (·.record.id) := by
        funext f
        by_cases hf : f.record.id = id <;> simp [hf, Entry.write, hid]
      split_ifs
      · exact hm
      · simpa only [Distinct, List.map_map, Function.comp_def, hids] using hm
      · exact hm

theorem Distinct.answers {m m' : Memory} {op : Operation} {a : op.Answer} (hm : m.Distinct)
    (h : m.Answers op a m') : m'.Distinct := by
  cases op with
  | create i spec =>
      obtain ⟨uid, now, hc⟩ := h
      cases creates_of_eq hc with
      | taken => exact hm
      | added hnone => exact hm.added hnone
  | swap i version status =>
      have hs : m.swap i version status = (a, m') := h
      simpa only [hs] using hm.swap i version status
  | erase i =>
      obtain ⟨_, rfl⟩ := h
      exact hm.sublist (List.filter_sublist.map _)
  | find i | list =>
      obtain ⟨_, rfl⟩ := h
      exact hm
  | _ =>
      cases h
      exact hm

theorem distinct_empty : empty.Distinct := List.nodup_nil

end Store.Memory

end SandboxTasks
