import SandboxTasks.Api.Handler
import SandboxTasks.Proofs.Store.Answers
import SandboxTasks.Proofs.Store.Undisturbed
import SandboxTasks.Proofs.Task.Id

namespace SandboxTasks

open Store

/-- There may be such a task: a claim can be named after it, there is something to do, and a repository to do it in. -/
structure Admissible (id : String) (spec : TaskSpec) : Prop where
  id : TaskId.IsLabelWithin 59 id
  description : ∃ c ∈ spec.description.toList, Text.isBlank c = false
  repository : spec.repository.slug?.isSome

theorem objection?_eq_none_iff {id : String} {spec : TaskSpec} :
    Api.Creation.objection? id spec = none ↔ Admissible id spec := by
  have hdescription : Text.isBlankText spec.description = false ↔
      ∃ c ∈ spec.description.toList, Text.isBlank c = false := by simp [Text.isBlankText]
  unfold Api.Creation.objection?
  cases hfault : TaskId.fault? id with
  | some fault =>
      refine iff_of_false nofun fun h => ?_
      cases hfault.symm.trans (TaskId.fault?_eq_none_iff.mpr h.id)
  | none =>
      constructor
      · intro h
        split_ifs at h with hblank hslug
        exact ⟨TaskId.fault?_eq_none_iff.mp hfault, hdescription.mp (by simpa using hblank),
          by simpa [Option.isSome_iff_ne_none] using hslug⟩
      · rintro ⟨-, hwords, hslug⟩
        simp only [hdescription.mpr hwords, Option.isNone_eq_false_iff.mpr hslug, Bool.false_eq_true, if_false]

def Api.Creation.idFrom (request : Creation) (bits : Nat) : String := request.id.getD (TaskId.ofEntropy bits)

namespace Store.Memory

def Adds (m : Memory) (id : String) (spec : TaskSpec) (m' : Memory) : Prop :=
  ∃ before r after, m.entries = before ++ after ∧ m'.entries = before ++ ⟨r, 1⟩ :: after ∧
    r.id = id ∧ r.spec = spec ∧ r.status = .initial ∧ r.status.phase = .pending

theorem adds_new {m : Memory} {id : String} {spec : TaskSpec} {uid : String} {now : Instant} :
    m.Adds id spec ⟨insertEntry (Entry.new id spec uid now) m.entries⟩ := by
  obtain ⟨before, after, hentries, hinsert⟩ := insertEntry_split (Entry.new id spec uid now) m.entries
  exact ⟨before, _, after, hentries, hinsert, rfl, rfl, rfl, rfl⟩

/-- The answers are those of a store in memory, whatever the clock and all others say. -/
def Answered (answer : (op : Operation) → Memory → op.Answer × Memory) : Prop :=
  ∀ op (m : Memory), m.Answers op (answer op m).1 (answer op m).2

theorem answered_answer (now : Instant) (others : (op : Operation) → op.Answer) : Answered (answer now others) := by
  intro op m
  cases op with
  | find | list | erase => exact ⟨rfl, rfl⟩
  | create => exact ⟨_, now, rfl⟩
  | _ => rfl

end Store.Memory

namespace Api

open Store.Memory

variable {answer : (op : Operation) → Memory → op.Answer × Memory} {m : Memory}

/-- All that can become of a request for a new task. -/
inductive Created (m : Memory) (id : String) (spec : TaskSpec) : Response × Memory → Prop
  | malformed (message : String) (h : ¬ Admissible id spec) : Created m id spec (.error 400 message, m)
  | taken (h : Admissible id spec) (htaken : ∃ e ∈ m.entries, e.record.id = id) :
      Created m id spec (.error 409 ("task " ++ id ++ " already exists"), m)
  | added {m'} (h : Admissible id spec) (hfree : ∀ e ∈ m.entries, e.record.id ≠ id) (hadds : m.Adds id spec m') :
      Created m id spec (.json 201 (.object [("id", .string id)]), m')

theorem createTask_anonymous (spec : TaskSpec) : createTask ⟨none, spec⟩ =
    ask .entropy >>= fun bits => createTask ⟨some (TaskId.ofEntropy bits), spec⟩ := by
  refine bind_congr fun bits => ?_
  generalize TaskId.ofEntropy bits = id
  simp only [createTask, pure_bind]
  cases Creation.objection? id spec with
  | some message => rfl
  | none =>
      refine bind_congr fun result => ?_
      cases result <;> rfl

theorem created_named (h : Answered answer) (m : Memory) (id : String) (spec : TaskSpec) :
    Created m id spec ((createTask ⟨some id, spec⟩).run answer m) := by
  simp only [createTask, pure_bind]
  cases hobjection : Creation.objection? id spec with
  | some message =>
      refine .malformed message fun hadmissible => ?_
      cases hobjection.symm.trans (objection?_eq_none_iff.mpr hadmissible)
  | none =>
      have hadmissible := objection?_eq_none_iff.mp hobjection
      obtain ⟨uid, now, hcreate⟩ := h (.create id spec) m
      dsimp only
      rw [Program.run_bind, run_ask]
      generalize answer (.create id spec) m = answered at hcreate
      obtain ⟨result, m'⟩ := answered
      cases creates_of_eq hcreate with
      | taken htaken => exact .taken hadmissible (isSome_stored?.mp htaken)
      | added hfree =>
          refine .added hadmissible (fun e he hid => ?_) adds_new
          have htaken := isSome_stored?.mpr ⟨e, he, hid⟩
          rw [hfree] at htaken
          cases htaken

theorem created_createTask (h : Answered answer) (m : Memory) (request : Creation) :
    Created m (request.idFrom (answer .entropy m).1) request.spec ((createTask request).run answer m) := by
  obtain ⟨id?, spec⟩ := request
  cases id? with
  | some id => exact created_named h m id spec
  | none =>
      have hstill : (answer .entropy m).2 = m := h .entropy m
      rw [createTask_anonymous, Program.run_bind, run_ask, hstill]
      exact created_named h m _ spec

namespace Created

variable {id : String} {spec : TaskSpec} {result : Response × Memory}

theorem status_eq_201_iff (h : Created m id spec result) : result.1.status = 201 ∧ m.Adds id spec result.2 ↔
    Admissible id spec ∧ ∀ e ∈ m.entries, e.record.id ≠ id := by
  cases h with
  | malformed _ h => exact iff_of_false (fun h => nomatch h.1) fun h' => h h'.1
  | taken _ htaken =>
      obtain ⟨e, he, hid⟩ := htaken
      exact iff_of_false (fun h => nomatch h.1) fun h' => h'.2 e he hid
  | added h hfree hadds => exact iff_of_true ⟨rfl, hadds⟩ ⟨h, hfree⟩

theorem status_eq_400_iff (h : Created m id spec result) :
    result.1.status = 400 ∧ result.2 = m ↔ ¬ Admissible id spec := by
  cases h with
  | malformed _ h => exact iff_of_true ⟨rfl, rfl⟩ h
  | taken h | added h => exact iff_of_false (fun h => nomatch h.1) fun h' => h' h

theorem status_eq_409_iff (h : Created m id spec result) : result.1.status = 409 ∧ result.2 = m ↔
    Admissible id spec ∧ ∃ e ∈ m.entries, e.record.id = id := by
  cases h with
  | malformed _ h => exact iff_of_false (fun h => nomatch h.1) fun h' => h h'.1
  | taken h htaken => exact iff_of_true ⟨rfl, rfl⟩ ⟨h, htaken⟩
  | added _ hfree =>
      refine iff_of_false (fun h => nomatch h.1) ?_
      rintro ⟨-, e, he, hid⟩
      exact hfree e he hid

end Created

end Api

end SandboxTasks
