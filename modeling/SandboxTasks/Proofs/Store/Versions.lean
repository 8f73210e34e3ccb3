import SandboxTasks.Proofs.Store.Answers

namespace SandboxTasks

def Turn.shown : Turn → List Versioned
  | ⟨.find _, .ok found⟩ => found.toList
  | ⟨.list, .ok tasks⟩ => tasks
  | ⟨.create _ _, .ok task⟩ => [task]
  | ⟨.swap _ _ _, .ok task⟩ => [task]
  | _ => []

namespace Store.Memory

theorem stored_of_shown {m m' : Memory} {op : Operation} {a : op.Answer} {t : Versioned} (hm : m.Distinct)
    (h : m.Answers op a m') (ht : t ∈ Turn.shown ⟨op, a⟩) : ∃ e, m'.stored? t.record.id = some e ∧ t = e.versioned := by
  cases op with
  | find i =>
      obtain ⟨rfl, rfl⟩ := h
      obtain ⟨e, he, rfl⟩ := find_eq (Option.mem_toList.mp ht)
      exact ⟨e, (id_of_stored he).symm ▸ he, rfl⟩
  | list =>
      obtain ⟨rfl, rfl⟩ := h
      exact stored_of_mem_list hm ht
  | create i spec =>
      obtain ⟨uid, now, hc⟩ := h
      cases creates_of_eq hc with
      | taken => cases ht
      | added hnone =>
          cases List.mem_singleton.mp ht
          exact ⟨_, (stored_added hnone _).trans (if_pos rfl), rfl⟩
  | swap i version status =>
      cases swaps_of_eq h with
      | absent | stale | illegal => cases ht
      | @written e _ he _ hat =>
          cases List.mem_singleton.mp ht
          have hid : e.record.id = i := id_of_stored he
          exact ⟨_, (hat e.record.id).trans (if_pos hid.symm), rfl⟩
  | _ => cases ht

/-- A history of the store, the latest request first. -/
inductive Trace (m : Memory) : History → Memory → Prop
  | nil : Trace m [] m
  | cons {past m' op a m''} (h : Trace m past m') (ha : m'.Answers op a m'') : Trace m (⟨op, a⟩ :: past) m''

theorem Trace.split {later earlier : History} {m m' : Memory} (h : Trace m (later ++ earlier) m') :
    ∃ between, Trace m earlier between ∧ Trace between later m' := by
  induction later generalizing m' with
  | nil => exact ⟨m', h, .nil⟩
  | cons turn later ih =>
      cases h with
      | cons hrest ha =>
          obtain ⟨between, he, hl⟩ := ih hrest
          exact ⟨between, he, hl.cons ha⟩

theorem Distinct.trace {m m' : Memory} {past : History} (hm : m.Distinct) (h : Trace m past m') : m'.Distinct := by
  induction h with
  | nil => exact hm
  | cons _ ha ih => exact ih.answers ha

variable {id : String} {m m' : Memory} {later : History}

theorem Trace.unchanged (h : Trace m later m') (hno : ∀ turn ∈ later, turn.changes id = false) :
    m'.stored? id = m.stored? id := by
  induction h with
  | nil => rfl
  | cons _ ha ih =>
      obtain ⟨hturn, hrest⟩ := List.forall_mem_cons.mp hno
      exact ((ha.becomes id).same hturn).trans (ih hrest)

theorem Trace.counted {e : Entry} (h : Trace m later m') (hno : ∀ turn ∈ later, turn.creates id = false)
    (he : m'.stored? id = some e) :
    (∀ turn ∈ later, turn.removes id = false) ∧
      ∃ e₀, m.stored? id = some e₀ ∧ e.version = e₀.version + later.countP (·.rewrites id) := by
  induction h generalizing e with
  | nil => exact ⟨by simp, e, he, by simp⟩
  | @cons later between op a last _ ha ih =>
      obtain ⟨hturn, hrest⟩ := List.forall_mem_cons.mp hno
      obtain ⟨hkept, e₁, he₁, hv₁⟩ := (he ▸ ha.becomes id).earlier hturn
      obtain ⟨hall, e₀, he₀, hv₀⟩ := ih hrest he₁
      refine ⟨List.forall_mem_cons.mpr ⟨hkept, hall⟩, e₀, he₀, ?_⟩
      rw [hv₁, hv₀, List.countP_cons]
      omega

theorem Trace.since_creation {since before : History} {creation : Turn} {e : Entry}
    (h : Trace m (since ++ creation :: before) m') (hc : creation.creates id)
    (hno : ∀ turn ∈ since, turn.creates id = false) (he : m'.stored? id = some e) :
    e.version = since.countP (·.rewrites id) + 1 := by
  obtain ⟨between, hbefore, hsince⟩ := h.split
  obtain ⟨_, e₀, he₀, hv⟩ := hsince.counted hno he
  cases hbefore with
  | cons _ ha =>
      have hfirst := (he₀ ▸ ha.becomes id).first hc
      omega

/-- The ID was created again on the way, and the writes since that creation give the version. -/
def Reaches (id : String) (later : History) (version : Nat) : Prop :=
  ∃ since creation before, later = since ++ creation :: before ∧ creation.creates id ∧
    (∀ turn ∈ since, turn.creates id = false) ∧ version = since.countP (·.rewrites id) + 1

theorem Trace.same_version_iff {e₀ e : Entry} (h : Trace m later m') (he₀ : m.stored? id = some e₀)
    (he : m'.stored? id = some e) :
    e.version = e₀.version ↔ (∀ turn ∈ later, turn.changes id = false) ∨ Reaches id later e₀.version := by
  -- The last creation decides: without one the versions count on, and after it they count from the start.
  cases hlast : later.find? (·.creates id) with
  | none =>
      have hno : ∀ turn ∈ later, turn.creates id = false := by simpa using hlast
      obtain ⟨hkept, f, hf, hv⟩ := h.counted hno he
      cases he₀.symm.trans hf
      constructor
      · intro hsame
        have hzero : later.countP (·.rewrites id) = 0 := by omega
        refine .inl fun turn hturn => ?_
        have hw : turn.rewrites id = false := by simpa using List.countP_eq_zero.mp hzero turn hturn
        simp [Turn.changes, hno turn hturn, hw, hkept turn hturn]
      · rintro (hall | ⟨since, creation, before, rfl, hc, _, _⟩)
        · exact congrArg Entry.version (Option.some.inj (he.symm.trans ((h.unchanged hall).trans he₀)))
        · simp [hno creation (by simp)] at hc
  | some creation =>
      obtain ⟨hc, since, before, rfl, hno⟩ := List.find?_eq_some_iff_append.mp hlast
      have hv := h.since_creation hc (by simpa using hno) he
      constructor
      · exact fun hsame => .inr ⟨since, creation, before, rfl, hc, by simpa using hno, by omega⟩
      · rintro (hall | ⟨since', creation', before', hsplit, hc', hno', hv'⟩)
        · have hunchanged := hall creation (by simp)
          simp [Turn.changes, hc] at hunchanged
        · rw [hsplit] at h
          rw [hv', h.since_creation hc' hno' he]

theorem swap_ok_iff {version : String} {status : Status} :
    (∃ u, (m.swap id version status).1 = .ok u) ↔
      ∃ e, m.stored? id = some e ∧ e.record.status.mayBecome status ∧ toString e.version = version := by
  unfold swap
  cases m.stored? id with
  | none => simp
  | some e =>
      by_cases hv : toString e.version = version
      · subst hv
        cases hl : e.record.status.mayBecome status <;> simp [hl]
      · simp only [ne_eq, hv, not_false_eq_true, if_true, reduceCtorEq, exists_false, false_iff, not_exists]
        rintro f ⟨hf, _, hf'⟩
        exact hv (Option.some.inj hf ▸ hf')

/-- A version that was read with a record still writes if nobody changed the task since, and also if the task was
created again since and has now been written as often as the other had when it was read. -/
theorem read_version_writes_iff {later earlier : History} {reading : Turn} {t : Versioned} (status : Status)
    (h : Trace empty (later ++ reading :: earlier) m) (ht : t ∈ reading.shown) :
    (∃ u, (m.swap t.record.id t.version status).1 = .ok u) ↔
      (∃ u, m.find t.record.id = some u ∧ u.record.status.mayBecome status) ∧
        ((∀ turn ∈ later, turn.changes t.record.id = false) ∨
          ∃ n, t.version = toString n ∧ Reaches t.record.id later n) := by
  obtain ⟨between, hpast, hlater⟩ := h.split
  obtain ⟨e₀, he₀, hread⟩ : ∃ e, between.stored? t.record.id = some e ∧ t = e.versioned := by
    cases hpast with
    | cons hrest ha => exact stored_of_shown (distinct_empty.trace hrest) ha ht
  have hversion : t.version = toString e₀.version := congrArg Versioned.version hread
  have hreaches : (∃ n, t.version = toString n ∧ Reaches t.record.id later n) ↔
      Reaches t.record.id later e₀.version := by
    rw [hversion]
    exact ⟨fun ⟨n, hn, hr⟩ => Text.toString_inj hn ▸ hr, fun hr => ⟨_, rfl, hr⟩⟩
  rw [swap_ok_iff, find, hreaches]
  cases he : m.stored? t.record.id with
  | none => simp
  | some e =>
      have hsame : toString e.version = t.version ↔ e.version = e₀.version := by
        rw [hversion]
        exact ⟨Text.toString_inj, congrArg toString⟩
      rw [← hlater.same_version_iff he₀ he, ← hsame]
      simp [Entry.versioned]

def firstTask : Entry := Entry.new "task" sample.spec "first" default

def secondTask : Entry := Entry.new "task" sample.spec "second" default

def created : Turn := ⟨.create "task" sample.spec, .ok firstTask.versioned⟩

def replaced : History := [⟨.create "task" sample.spec, .ok secondTask.versioned⟩, ⟨.erase "task", .ok true⟩]

theorem trace_replaced : Trace empty (replaced ++ [created]) ⟨[secondTask]⟩ :=
  .cons (.cons (.cons .nil ⟨"first", default, rfl⟩) ⟨rfl, rfl⟩) ⟨"second", default, rfl⟩

theorem read_version_writes_anew : (∃ u, (swap ⟨[secondTask]⟩ "task" "1" .initial).1 = .ok u) ∧
    ∃ turn ∈ replaced, turn.changes "task" :=
  ⟨(read_version_writes_iff (t := firstTask.versioned) .initial trace_replaced (.head _)).mpr
    ⟨⟨secondTask.versioned, rfl, rfl⟩, .inr ⟨1, rfl, [], _, _, rfl, rfl, by simp, rfl⟩⟩, _, .head _, rfl⟩

theorem version_came_back : ¬ ∀ (later earlier : History) (reading : Turn) (m : Memory) (t u : Versioned)
    (status : Status), Trace empty (later ++ reading :: earlier) m → t ∈ reading.shown →
      (m.swap t.record.id t.version status).1 = .ok u → ∀ turn ∈ later, turn.changes t.record.id = false := by
  intro h
  have hwritten : (swap ⟨[secondTask]⟩ "task" "1" .initial).1 = .ok (Entry.write secondTask .initial).versioned := rfl
  have hno := h replaced [] created _ firstTask.versioned _ .initial trace_replaced (.head _) hwritten
  have hyes : Turn.changes "task" ⟨.erase "task", .ok true⟩ = true := rfl
  exact Bool.noConfusion ((hno _ (.tail _ (.head _))).symm.trans hyes)

end Store.Memory

end SandboxTasks
