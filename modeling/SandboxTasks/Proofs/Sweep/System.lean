import SandboxTasks.Config.Basic
import SandboxTasks.Proofs.Concurrent.Meanwhile
import SandboxTasks.Proofs.Store.Answers
import SandboxTasks.Proofs.Sweep.Rule

namespace SandboxTasks

open Store Store.Memory

/-- A sweep at work, and the jobs beside it, each with the ID of its task. -/
structure SweepSystem where
  store : Memory
  jobs : List (String × Thread)
  sweep : Routine (Except Sweep.Error Sweep.Tally)
  past : History
  /-- The tasks created since the sweep listed them. -/
  arrived : List String

namespace SweepSystem

def start (m : Memory) (s : Sweep.Settings) : SweepSystem := ⟨m, [], Sweep.once s, [], []⟩

def arrivals (arrived : List String) : Operation → List String
  | .list => []
  | _ => arrived

inductive Step : SweepSystem → SweepSystem → Prop
  | create {m m' jobs sweep past arrived id spec t} (h : m.Answers (.create id spec) (.ok t) m') :
      Step ⟨m, jobs, sweep, past, arrived⟩ ⟨m', jobs, sweep, past, id :: arrived⟩
  | start {m jobs sweep past arrived} (id : String) (j : Job) (h : j.asked) :
      Step ⟨m, jobs, sweep, past, arrived⟩ ⟨m, (id, j.thread id) :: jobs, sweep, past, arrived⟩
  | move {m m' before after id t ts sweep past arrived} (h : Moves (contract id) m t m' ts) :
      Step ⟨m, before ++ (id, t) :: after, sweep, past, arrived⟩
        ⟨m', before ++ ts.map (id, ·) ++ after, sweep, past, arrived⟩
  | sweep {m m' jobs op next past arrived} {a : op.Answer} (h : m.Answers op a m') :
      Step ⟨m, jobs, .call op next, past, arrived⟩ ⟨m', jobs, next a, ⟨op, a⟩ :: past, arrivals arrived op⟩

def Run : SweepSystem → SweepSystem → Prop := Relation.ReflTransGen Step

end SweepSystem

/-- A thread that moves waits for an answer, and gets it or is dropped, with its request carried out or not. -/
theorem Moves.inv {id : String} {C : Contract id} {s s' : C.State} {t : Thread} {ts : List Thread}
    (h : Moves C s t s' ts) : ∃ j past op next, t = ⟨j, past, .running (.call op next)⟩ ∧
      (s' = s ∧ ts = ⟨j, past, .dropped op⟩ :: j.leaves id op ∨
        ∃ a, C.serves s op a s' ∧ (ts = [⟨j, ⟨op, a⟩ :: past, .running (next a)⟩] ∨
          ts = ⟨j, ⟨op, a⟩ :: past, .dropped op⟩ :: j.leaves id op)) := by
  cases h with
  | answer hs => exact ⟨_, _, _, _, rfl, .inr ⟨_, hs, .inl rfl⟩⟩
  | drop => exact ⟨_, _, _, _, rfl, .inl ⟨rfl, rfl⟩⟩
  | lose hs => exact ⟨_, _, _, _, rfl, .inr ⟨_, hs, .inr rfl⟩⟩

/-- The job keeps to its rule, and unless its task was removed, it only ever saw what is there or was replaced. -/
structure SweepSystem.Fit (m : Memory) (erased : List String) (id : String) (t : Thread) : Prop where
  conforms : ∀ rest, t.mode = .running rest → Conforms (t.job.May id) t.job.Ends t.past rest
  knows : id ∉ erased → ∀ r, t.past.lastSeen? = some r → (contract id).Knows m r ∧ (m.stored? id).isSome

namespace SweepSystem.Fit

variable {id : String} {m m' : Memory} {erased : List String} {t : Thread} {op : Operation} {a : op.Answer}

theorem sound (h : Fit m erased id t) (hid : id ∉ erased) : t.Sound (contract id) m :=
  ⟨fun r hr => (h.knows hid r hr).1, h.conforms⟩

theorem carry {erased' : List String} (h : Fit m erased id t) (ha : m.Answers op a m')
    (hkeep : ∀ i ∈ erased, i ∈ erased') (herase : op = .erase id → id ∈ erased') : Fit m' erased' id t where
  conforms := h.conforms
  knows hid r hr := by
    obtain ⟨hknows, hsome⟩ := h.knows (fun hi => hid (hkeep _ hi)) r hr
    have hserves : (contract id).serves m op a m' := serves_of_answers ha fun _ _ => hsome
    exact ⟨hknows.carry hserves, (ha.becomes id).isSome (fun he => hid (herase he)) hsome⟩

variable {ts : List Thread} {j : Job} {past : History} {mode : Mode j.Result} {r : Versioned}

theorem seen (h : Fit m erased id ⟨j, past, mode⟩) (hid : id ∉ erased) (hmay : j.May id past op)
    (hs : (contract id).serves m op a m') (hr : History.lastSeen? (⟨op, a⟩ :: past) = some r) :
    (contract id).Knows m' r ∧ (m'.stored? id).isSome := by
  refine ⟨knows_answer (h.sound hid).knows hmay hs hr, ?_⟩
  rw [History.lastSeen?_cons, Option.or_eq_some_iff] at hr
  rcases hr with hshown | ⟨-, hseen⟩
  · obtain ⟨e, he, -⟩ := find_eq (current_of_shows hmay hs hshown)
    exact Option.isSome_iff_exists.mpr ⟨e, he⟩
  · refine ((answers_of_serves hs).becomes id).isSome ?_ (h.knows hid r hseen).2
    rintro rfl
    exact hmay

theorem left {waiting : Operation} (h : j.May id past waiting) : ∀ u ∈ j.leaves id waiting, Fit m erased id u := by
  intro u hu
  refine ⟨(Thread.sound_leaves (C := contract id) (s := m) h u hu).conforms, fun _ r hr => ?_⟩
  rw [Job.past_of_leaves hu] at hr
  cases hr

theorem moves (h : Fit m erased id t) (hm : Moves (contract id) m t m' ts) : ∀ u ∈ ts, Fit m' erased id u := by
  obtain ⟨j, past, op, next, rfl, hcases⟩ := hm.inv
  obtain ⟨hmay, hnext⟩ := h.conforms _ rfl
  rcases hcases with ⟨rfl, rfl⟩ | ⟨a, hs, rfl | rfl⟩
  · exact List.forall_mem_cons.mpr ⟨⟨(fun _ he => nomatch he), h.knows⟩, left hmay⟩
  · rw [List.forall_mem_singleton]
    exact ⟨fun _ he => by cases he; exact hnext _ ((contract id).fits hs), fun hid r hr => h.seen hid hmay hs hr⟩
  · refine List.forall_mem_cons.mpr ⟨⟨(fun _ he => nomatch he), fun hid r hr => h.seen hid hmay hs hr⟩, left hmay⟩

/-- What a move asks of the store: nothing, or a request that creates and removes no task and writes its own alone. -/
theorem request (h : Fit m erased id t) (hm : Moves (contract id) m t m' ts) :
    m' = m ∨ ∃ op, ∃ a : op.Answer, m.Answers op a m' ∧ (∀ i spec, op ≠ .create i spec) ∧ (∀ i, op ≠ .erase i) ∧
      ∀ i, op.WritesTo i → i = id := by
  obtain ⟨j, past, op, next, rfl, hcases⟩ := hm.inv
  obtain ⟨hmay, -⟩ := h.conforms _ rfl
  rcases hcases with ⟨rfl, -⟩ | ⟨a, hs, -⟩
  · exact .inl rfl
  · refine .inr ⟨op, a, answers_of_serves hs, ?_, ?_, fun i hi => ?_⟩
    · rintro i spec rfl
      exact hmay
    · rintro i rfl
      exact hmay
    · cases op with
      | swap => exact hi.symm.trans hmay.1
      | create | erase => exact hmay.elim
      | _ => exact hi.elim

theorem becomes (h : Fit m erased id t) (hm : Moves (contract id) m t m' ts) {i : String} (hi : i ∉ erased)
    {u : Versioned} (hu : m.find i = some u) : ∃ v, m'.find i = some v ∧ u.record.Becomes False v.record := by
  by_cases hid : i = id
  · subst hid
    have hsound := h.sound hi
    have hmeanwhile : Meanwhile False (contract i) m m' := by
      obtain ⟨j, past, op, next, rfl, ⟨rfl, -⟩ | ⟨a, hs, -⟩⟩ := hm.inv
      · exact .refl _
      · exact .of_effect hs (effect_of_serves hsound.knows (h.conforms _ rfl).1 hs) False.elim
    obtain ⟨v, hv⟩ := Option.isSome_iff_exists.mp ((hm.isSome hsound).trans (Option.isSome_iff_exists.mpr ⟨u, hu⟩))
    obtain ⟨u', hu', hbecomes⟩ := hmeanwhile.becomes v hv
    cases hu.symm.trans hu'
    exact ⟨v, hv, hbecomes⟩
  · rcases h.request hm with rfl | ⟨op, a, ha, hcreate, -, hwrites⟩
    · exact ⟨u, hu, .refl _⟩
    · have hserves : m.Serves i op a m' := serves_of_answers ha fun spec he => absurd he (hcreate i spec)
      have hsame : m'.find i = m.find i :=
        congrArg View.current (serves_elsewhere hserves fun hw => hid (hwrites i hw))
      exact ⟨u, hsame.trans hu, .refl _⟩

end SweepSystem.Fit

namespace SweepSystem

/-- How the tasks stand to a listing of them: those listed are there unless removed, and have only moved on; others
have been created since. -/
structure Covers (m : Memory) (erased arrived : List String) (tasks : List Versioned) : Prop where
  distinct : (tasks.map (·.record.id)).Nodup
  grown : ∀ t ∈ tasks, t.record.id ∉ erased →
    ∃ u, m.find t.record.id = some u ∧ t.record.Becomes False u.record
  unlisted : ∀ id u, m.find id = some u → id ∈ tasks.map (·.record.id) ∨ id ∈ arrived

theorem covers_list {m : Memory} (hm : m.Distinct) (arrived : List String) : Covers m [] arrived m.list where
  distinct := by simpa [list, Distinct, Function.comp_def, Entry.versioned] using hm
  grown t ht _ := by
    obtain ⟨e, he, rfl⟩ := stored_of_mem_list hm ht
    exact ⟨_, find_of_stored he, .refl _⟩
  unlisted id u hu := by
    obtain ⟨e, he, rfl⟩ := find_eq hu
    refine .inl (List.mem_map.mpr ⟨e.versioned, List.mem_map.mpr ⟨e, List.mem_of_find?_eq_some he, rfl⟩, ?_⟩)
    exact id_of_stored he

theorem Covers.carry {m m' : Memory} {erased erased' arrived arrived' : List String} {tasks : List Versioned}
    (h : Covers m erased arrived tasks) (herased : ∀ i ∈ erased, i ∈ erased') (harrived : ∀ i ∈ arrived, i ∈ arrived')
    (hkeep : ∀ i, i ∉ erased' → ∀ u, m.find i = some u → ∃ v, m'.find i = some v ∧ u.record.Becomes False v.record)
    (hback : ∀ i v, m'.find i = some v → (∃ u, m.find i = some u) ∨ i ∈ arrived') :
    Covers m' erased' arrived' tasks where
  distinct := h.distinct
  grown t ht hid := by
    obtain ⟨u, hu, htu⟩ := h.grown t ht fun hi => hid (herased _ hi)
    obtain ⟨v, hv, huv⟩ := hkeep _ hid u hu
    exact ⟨v, hv, htu.trans huv⟩
  unlisted i v hv := by
    rcases hback i v hv with ⟨u, hu⟩ | hnew
    · exact (h.unlisted i u hu).imp_right (harrived i)
    · exact .inr hnew

section

variable {m m' : Memory} {erased arrived : List String} {tasks : List Versioned}

theorem isSome_find (m : Memory) (i : String) : (m.find i).isSome = (m.stored? i).isSome := Option.isSome_map

theorem Covers.create {id : String} {spec : TaskSpec} {t : Versioned} (h : Covers m erased arrived tasks)
    (ha : m.Answers (.create id spec) (.ok t) m') : Covers m' erased (id :: arrived) tasks := by
  refine h.carry (fun _ hi => hi) (fun _ hi => .tail _ hi) (fun i _ u hu => ?_) fun i v hv => ?_
  · rcases find_create (i := i) ha with hsame | ⟨-, hnone⟩
    · exact ⟨u, hsame.trans hu, .refl _⟩
    · cases hnone.symm.trans hu
  · rcases find_create (i := i) ha with hsame | ⟨rfl, -⟩
    · exact .inl ⟨v, hsame.symm.trans hv⟩
    · exact .inr (.head _)

theorem Covers.move {id : String} {t : Thread} {ts : List Thread} (h : Covers m erased arrived tasks)
    (ht : Fit m erased id t) (hm : Moves (contract id) m t m' ts) : Covers m' erased arrived tasks := by
  refine h.carry (fun _ hi => hi) (fun _ hi => hi) (fun i hi u hu => ht.becomes hm hi hu) fun i v hv => .inl ?_
  rcases ht.request hm with rfl | ⟨op, a, ha, hcreate, -⟩
  · exact ⟨v, hv⟩
  · have hsome : (m'.stored? i).isSome := by rw [← isSome_find, hv]; rfl
    exact Option.isSome_iff_exists.mp
      ((isSome_find m i).trans ((ha.becomes i).isSome_before (fun spec => hcreate i spec) hsome))

theorem Covers.erase (h : Covers m erased arrived tasks) (id : String) :
    Covers (m.erase id).2 (id :: erased) arrived tasks := by
  refine h.carry (fun _ hi => .tail _ hi) (fun _ hi => hi) (fun i hi u hu => ⟨u, ?_, .refl _⟩) fun i v hv => .inl ⟨v, ?_⟩
  · rw [find_erase (List.ne_of_not_mem_cons hi).symm, hu]
  · by_cases hid : id = i
    · subst hid
      simp [find, stored_erase] at hv
    · rwa [find_erase hid] at hv

end

/-- The jobs and the sweep keep to their rules, and what the sweep listed is outdated only in so far as tasks moved on
or arrived. -/
structure Sound (s : Sweep.Settings) (c : SweepSystem) : Prop where
  distinct : c.store.Distinct
  fit : ∀ w ∈ c.jobs, Fit c.store c.past.erased w.1 w.2
  conforms : Conforms (Sweep.May s) (fun _ _ => True) c.past c.sweep
  listed : ∀ tasks, ⟨.list, .ok tasks⟩ ∈ c.past → Covers c.store c.past.erased c.arrived tasks

variable {s : Sweep.Settings} {c d : SweepSystem} {m m' : Memory} {jobs : List (String × Thread)}
  {rest : Routine (Except Sweep.Error Sweep.Tally)} {past : History} {arrived : List String}

theorem sound_start (hm : m.Distinct) : (start m s).Sound s where
  distinct := hm
  fit _ h := nomatch h
  conforms := Sweep.once_conforms s
  listed _ h := nomatch h

theorem listed_before {op : Operation} {a : op.Answer} {tasks : List Versioned}
    (h : ⟨.list, .ok tasks⟩ ∈ (⟨op, a⟩ :: past : History)) (hop : op ≠ .list) : ⟨.list, .ok tasks⟩ ∈ past := by
  cases h with
  | head => exact absurd rfl hop
  | tail _ h => exact h

theorem Sound.create {id : String} {spec : TaskSpec} {t : Versioned} (hc : Sound s ⟨m, jobs, rest, past, arrived⟩)
    (ha : m.Answers (.create id spec) (.ok t) m') : Sound s ⟨m', jobs, rest, past, id :: arrived⟩ where
  distinct := hc.distinct.answers ha
  fit w hw := (hc.fit w hw).carry ha (fun _ h => h) fun he => by cases he
  conforms := hc.conforms
  listed tasks ht := (hc.listed tasks ht).create ha

theorem Sound.start {id : String} {j : Job} (hc : Sound s ⟨m, jobs, rest, past, arrived⟩) (hj : j.asked) :
    Sound s ⟨m, (id, j.thread id) :: jobs, rest, past, arrived⟩ where
  distinct := hc.distinct
  fit := List.forall_mem_cons.mpr
    ⟨⟨(Thread.sound_asked (C := contract id) (s := m) hj).conforms, fun _ _ hr => nomatch hr⟩, hc.fit⟩
  conforms := hc.conforms
  listed := hc.listed

theorem Sound.move {before after : List (String × Thread)} {id : String} {t : Thread} {ts : List Thread}
    (hc : Sound s ⟨m, before ++ (id, t) :: after, rest, past, arrived⟩) (hm : Moves (contract id) m t m' ts) :
    Sound s ⟨m', before ++ ts.map (id, ·) ++ after, rest, past, arrived⟩ := by
  have ht : Fit m past.erased id t := hc.fit (id, t) (by simp)
  have hothers : ∀ w ∈ before ++ after, Fit m' past.erased w.1 w.2 := by
    intro w hw
    have hfit : Fit m past.erased w.1 w.2 := hc.fit w (by simp at hw ⊢; tauto)
    rcases ht.request hm with rfl | ⟨op, a, ha, -, herase, -⟩
    · exact hfit
    · exact hfit.carry ha (fun _ h => h) fun he => absurd he (herase _)
  refine ⟨?_, ?_, hc.conforms, fun tasks hl => (hc.listed tasks hl).move ht hm⟩
  · rcases ht.request hm with rfl | ⟨op, a, ha, -⟩
    · exact hc.distinct
    · exact hc.distinct.answers ha
  · intro w hw
    simp only [List.append_assoc, List.mem_append, List.mem_map] at hw
    rcases hw with hw | ⟨u, hu, rfl⟩ | hw
    · exact hothers w (List.mem_append_left _ hw)
    · exact ht.moves hm u hu
    · exact hothers w (List.mem_append_right _ hw)

/-- A sweep lists the tasks in its first request only, so the past holds one listing. -/
theorem listed_answered {op : Operation} {a : op.Answer} {tasks : List Versioned} (hdistinct : m.Distinct)
    (hlisted : ∀ tasks, ⟨.list, .ok tasks⟩ ∈ past → Covers m past.erased arrived tasks)
    (hmay : Sweep.May s past op) (ha : m.Answers op a m') (hl : ⟨.list, .ok tasks⟩ ∈ (⟨op, a⟩ :: past : History)) :
    Covers m' (History.erased (⟨op, a⟩ :: past)) (arrivals arrived op) tasks := by
  cases op with
  | list =>
      obtain ⟨rfl, rfl⟩ := ha
      obtain rfl : past = [] := hmay
      cases List.mem_singleton.mp hl
      exact covers_list hdistinct _
  | erase i =>
      obtain ⟨rfl, rfl⟩ := ha
      exact (hlisted tasks (listed_before hl fun he => by cases he)).erase i
  | claims | now | deleteClaim =>
      cases ha
      exact hlisted tasks (listed_before hl fun he => by cases he)
  | _ => exact hmay.elim

theorem Sound.request {op : Operation} {next : op.Answer → Routine (Except Sweep.Error Sweep.Tally)} {a : op.Answer}
    (hc : Sound s ⟨m, jobs, .call op next, past, arrived⟩) (ha : m.Answers op a m') :
    Sound s ⟨m', jobs, next a, ⟨op, a⟩ :: past, arrivals arrived op⟩ := by
  obtain ⟨hmay, hnext⟩ := hc.conforms
  have hfits : op.Fits a := by cases op <;> trivial
  refine ⟨hc.distinct.answers ha, fun w hw => ?_, hnext a hfits,
    fun tasks hl => listed_answered hc.distinct hc.listed hmay ha hl⟩
  cases op with
  | erase i =>
      refine (hc.fit w hw).carry ha (fun _ h => .tail _ h) fun he => ?_
      rw [Operation.erase.inj he]
      exact .head _
  | _ => exact (hc.fit w hw).carry ha (fun _ h => h) fun he => by cases he

theorem Step.sound (h : Step c d) (hc : c.Sound s) : d.Sound s := by
  cases h with
  | create ha => exact hc.create ha
  | start id j hj => exact hc.start hj
  | move hm => exact hc.move hm
  | sweep ha => exact hc.request ha

theorem Run.sound (h : Run c d) (hc : c.Sound s) : d.Sound s := by
  induction h with
  | refl => exact hc
  | tail _ hs ih => exact hs.sound ih

end SweepSystem

def Record.CleanedUp (r : Record) : Prop := r.status.phase.isTerminal ∧ r.status.has .sandboxDeleted

theorem cleanedUp_of_orphaned {tasks : List Versioned} {t : Versioned} (hnodup : (tasks.map (·.record.id)).Nodup)
    (ht : t ∈ tasks) (h : Sweep.isOrphaned (tasks.map (·.record)) t.record.id) : t.record.CleanedUp := by
  have hfind : (tasks.map (·.record)).find? (·.id == t.record.id) = some t.record := by
    obtain ⟨r, hr⟩ : ∃ r, (tasks.map (·.record)).find? (·.id == t.record.id) = some r := by
      rw [← Option.isSome_iff_exists, List.find?_isSome]
      exact ⟨t.record, List.mem_map_of_mem ht, by simp⟩
    obtain ⟨u, hu, rfl⟩ := List.mem_map.mp (List.mem_of_find?_eq_some hr)
    rw [hr, List.inj_on_of_nodup_map hnodup hu ht (by simpa using List.find?_some hr)]
  simpa [Sweep.isOrphaned, hfind, Record.CleanedUp] using h

/-- Whatever goes on beside it, a sweep deletes the claim of no task that is not done with it, unless that task was
created since the sweep listed the tasks; and it removes tasks only that are done altogether. -/
theorem sweep_spares_unfinished {s : Sweep.Settings} {m : Memory} {c : SweepSystem} (hm : m.Distinct)
    (h : SweepSystem.Run (.start m s) c) :
    (∀ sandbox next, c.sweep = .call (.deleteClaim sandbox) next → ∃ id, Sweep.Due s c.past sandbox id ∧
      (id ∈ c.arrived ∨ ∀ t, c.store.find id = some t → t.record.CleanedUp)) ∧
    ∀ id next, c.sweep = .call (.erase id) next → ∃ t, c.store.find id = some t ∧ t.record.CleanedUp ∧
      t.record.status.has .notified := by
  obtain ⟨hdistinct, -, hconforms, hlisted⟩ := h.sound (SweepSystem.sound_start hm)
  constructor
  · intro sandbox next hsweep
    rw [hsweep] at hconforms
    obtain ⟨⟨herased, id, hdue⟩, -⟩ := hconforms
    obtain ⟨tasks, hmem, horphaned⟩ := hdue.orphaned
    have hcovers := hlisted tasks hmem
    refine ⟨id, hdue, or_iff_not_imp_left.mpr fun harrived u hu => ?_⟩
    obtain ⟨t, ht, rfl⟩ := List.mem_map.mp ((hcovers.unlisted id u hu).resolve_right harrived)
    obtain ⟨v, hv, hbecomes⟩ := hcovers.grown t ht (by simp [herased])
    cases hu.symm.trans hv
    obtain ⟨hended, hdeleted⟩ := cleanedUp_of_orphaned hcovers.distinct ht horphaned
    exact ⟨hbecomes.isTerminal hended, hbecomes.has .sandboxDeleted trivial hdeleted⟩
  · intro id next hsweep
    rw [hsweep] at hconforms
    obtain ⟨⟨done, t, rest, now, retention, hmem, rfl, -, hexpired, herased⟩, -⟩ := hconforms
    have hcovers := hlisted _ hmem
    have hfirst : t.record.id ∉ done.map (·.record.id) := by
      have hnodup := hcovers.distinct
      rw [List.map_append, List.nodup_append] at hnodup
      exact fun hi => hnodup.2.2 _ hi _ (.head _) rfl
    obtain ⟨u, hu, hbecomes⟩ := hcovers.grown t (by simp) fun hi => hfirst (herased _ hi)
    simp only [Sweep.isExpired, Bool.and_eq_true] at hexpired
    obtain ⟨⟨⟨hended, hdeleted⟩, hnotified⟩, -⟩ := hexpired
    exact ⟨u, hu, ⟨hbecomes.isTerminal hended, hbecomes.has .sandboxDeleted trivial hdeleted⟩,
      hbecomes.has .notified trivial hnotified⟩

theorem SweepSystem.Run.sweep {m m' : Memory} {jobs op next past arrived} {a : op.Answer} {c : SweepSystem}
    (h : m.Answers op a m')
    (rest : Run ⟨m', jobs, next a, ⟨op, a⟩ :: past, arrivals arrived op⟩ c) :
    Run ⟨m, jobs, .call op next, past, arrived⟩ c :=
  .head (.sweep h) rest

def longEnded : Record :=
  { sample with status := { sample.status with
      phase := .completed
      completedAt := some default
      conditions := [⟨.sandboxDeleted, true, "Deleted", none, default⟩, ⟨.notified, true, "CallbackSent", none, default⟩] } }

def twoDaysOn : Instant := .ofNanos 172800000000000

theorem run_longEnded : ∃ next, SweepSystem.Run (.start (holding longEnded 7) Config.default.sweepSettings)
    ⟨holding longEnded 7, [("task", Job.cancel.thread "task")], .call (.erase "task") next,
      [⟨.now, twoDaysOn⟩, ⟨.claims, .ok []⟩, ⟨.list, .ok [⟨longEnded, "7"⟩]⟩], []⟩ := by
  have hlist : (holding longEnded 7).Answers .list (.ok [⟨longEnded, "7"⟩]) (holding longEnded 7) := ⟨rfl, rfl⟩
  have hclaims : (holding longEnded 7).Answers .claims (.ok []) (holding longEnded 7) := rfl
  have hnow : (holding longEnded 7).Answers .now twoDaysOn (holding longEnded 7) := rfl
  exact ⟨_, .sweep hlist (.head (.start "task" .cancel rfl) (SweepSystem.Run.sweep hclaims (.sweep hnow .refl)))⟩

theorem sweep_spares_unfinished_longEnded : (holding longEnded 7).Distinct ∧
    ∃ t, (holding longEnded 7).find "task" = some t ∧ t.record.CleanedUp ∧ t.record.status.has .notified := by
  have hdistinct : (holding longEnded 7).Distinct := List.nodup_singleton _
  obtain ⟨next, hrun⟩ := run_longEnded
  exact ⟨hdistinct, (sweep_spares_unfinished hdistinct hrun).2 "task" next rfl⟩

def leftBehind : Sandbox.ClaimSummary := ⟨⟨"claim", none⟩, some "task", some default⟩

def newcomer : Entry := Entry.new "task" sample.spec "uid" default

def twoHoursOn : Instant := .ofNanos 7200000000000

theorem run_newcomer : ∃ next, SweepSystem.Run (.start empty Config.default.sweepSettings)
    ⟨⟨[newcomer]⟩, [], .call (.deleteClaim leftBehind.sandbox) next,
      [⟨.now, twoHoursOn⟩, ⟨.claims, .ok [leftBehind]⟩, ⟨.list, .ok []⟩], ["task"]⟩ := by
  have hlist : empty.Answers .list (.ok []) empty := ⟨rfl, rfl⟩
  have hcreate : empty.Answers (.create "task" sample.spec) (.ok newcomer.versioned) ⟨[newcomer]⟩ :=
    ⟨"uid", default, rfl⟩
  have hclaims : Answers ⟨[newcomer]⟩ .claims (.ok [leftBehind]) ⟨[newcomer]⟩ := rfl
  have hnow : Answers ⟨[newcomer]⟩ .now twoHoursOn ⟨[newcomer]⟩ := rfl
  exact ⟨_, .sweep hlist (.head (.create hcreate) (SweepSystem.Run.sweep hclaims (.sweep hnow .refl)))⟩

theorem sweep_hurts_newcomer : Config.default.invalid? = none ∧
    ¬ ∀ (c : SweepSystem) (sandbox : SandboxRef) (next), SweepSystem.Run (.start empty Config.default.sweepSettings) c →
      c.sweep = .call (.deleteClaim sandbox) next → ∃ claims claim id, ⟨.claims, .ok claims⟩ ∈ c.past ∧
        claim ∈ claims ∧ claim.sandbox = sandbox ∧ claim.task = some id ∧
        ∀ t, c.store.find id = some t → t.record.CleanedUp := by
  refine ⟨by decide, fun h => ?_⟩
  obtain ⟨next, hrun⟩ := run_newcomer
  obtain ⟨claims, claim, id, hclaims, hclaim, -, hid, hdone⟩ := h _ _ next hrun rfl
  obtain rfl : claims = [leftBehind] := by simpa using hclaims
  obtain rfl := List.mem_singleton.mp hclaim
  cases hid
  have hnew : Memory.find ⟨[newcomer]⟩ "task" = some newcomer.versioned := rfl
  exact absurd (hdone _ hnew).1 (by decide)

end SandboxTasks
