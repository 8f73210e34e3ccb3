import SandboxTasks.Cluster.TaskStore
import SandboxTasks.Proofs.Task.Wire

namespace SandboxTasks.Cluster

open Json

structure Held where
  uid : Option String
  spec : TaskSpec
  createdAt : Instant
  version : String
  status : Option Json

namespace Held

def Reads (h : Held) (st : Status) : Prop :=
  match h.status with
  | some j => Status.decode j = .ok st
  | none => st = .initial

def task (h : Held) (id : String) (st : Status) : Versioned := ⟨⟨id, h.uid, h.spec, st, h.createdAt⟩, h.version⟩

def Encodes (h : Held) (st : Status) : Prop := st.Legible ∧ st.IsStored h.status

theorem Encodes.reads {h : Held} {st : Status} (henc : h.Encodes st) : h.Reads st := by
  obtain ⟨hlegible, hstored⟩ := henc
  unfold Reads
  cases hj : h.status with
  | some j =>
      rw [hj] at hstored
      exact Status.decode_same hlegible hstored
  | none =>
      rw [hj] at hstored
      exact hstored

theorem Reads.unique {h : Held} {st st' : Status} (hst : h.Reads st) (hst' : h.Reads st') : st = st' := by
  unfold Reads at hst hst'
  cases hj : h.status with
  | some j =>
      rw [hj] at hst hst'
      exact Except.ok.inj (hst.symm.trans hst')
  | none =>
      rw [hj] at hst hst'
      exact hst.trans hst'.symm

/-- The text is the object: its members, in whatever order, give the task, and whatever else there is can be read. -/
structure IsObject (h : Held) (id : String) (ms : List (String × Json)) : Prop where
  distinct : (names ms).Nodup
  readable : ∀ m ∈ ms, skip m.2 = .ok ()
  metadata : ∃ j md, find? ms "metadata" = some j ∧ Metadata.decode j = .ok md ∧ md.id = id ∧ md.uid = h.uid ∧
    md.version = some h.version ∧ md.createdAt = some h.createdAt
  spec : ∃ j, find? ms "spec" = some j ∧ TaskSpec.decode j = .ok h.spec
  status : find? ms "status" = h.status

end Held

def Response.Shows (r : Response) (id : String) (h : Held) : Prop :=
  r.isRefusal = false ∧ ∃ ms, readDocument r.body.toList = ⟨.object ms, true⟩ ∧ h.IsObject id ms

def Response.Refuses (r : Response) (code : Nat) (reason : String) : Prop :=
  r.isRefusal = true ∧ ∃ message, r.refusal = .refused code message reason

theorem Response.Refuses.read {r : Response} {code : Nat} {reason : String} (h : r.Refuses code reason)
    {α : Type} (decode : Json → Except Fault α) :
    ∃ message, r.read decode = .error (.refused code message reason) := by
  obtain ⟨hrefusal, message, hmessage⟩ := h
  exact ⟨message, by rw [Response.read, hrefusal, if_pos rfl, hmessage]⟩

theorem Held.Reads.decodeOption {h : Held} {st : Status} (hst : h.Reads st) {j : Json} (hj : h.status = some j) :
    Json.decodeOption Status.decode j = .ok (some st) := by
  have hdecode : Status.decode j = .ok st := by simpa only [Held.Reads, hj] using hst
  refine Field.decodeOption_of hdecode ?_
  rintro rfl
  cases hdecode

def taskForms : List (Field.Form Json) := [(required "metadata" Metadata.decode).form,
  (required "spec" TaskSpec.decode).form, (Json.optional "status" Status.decode).form]

theorem Held.IsObject.taken {h : Held} {id : String} {ms : List (String × Json)} (hms : h.IsObject id ms)
    {st : Status} (hst : h.Reads st) : ∀ m ∈ ms, Taken taskForms m := by
  obtain ⟨hdistinct, hskip, ⟨mj, md, hmj, hmd, -⟩, ⟨sj, hsj, hspec⟩, hstatus⟩ := hms
  rintro ⟨key, v⟩ hm
  have hfound := find_of_mem hdistinct hm
  by_cases hmeta : key = "metadata"
  · subst hmeta
    cases hfound.symm.trans hmj
    exact ⟨rfl, by simp only [Field.form, required, hmd]; rfl⟩
  · by_cases hspecs : key = "spec"
    · subst hspecs
      cases hfound.symm.trans hsj
      exact ⟨rfl, by simp only [Field.form, required, hspec]; rfl⟩
    · by_cases hstat : key = "status"
      · subst hstat
        have hdecode := hst.decodeOption (hstatus.symm.trans hfound)
        exact ⟨rfl, by simp only [Field.form, Json.optional, hdecode]; rfl⟩
      · have hunknown : taskForms.find? (·.isNamed key) = none := by
          simp [taskForms, Field.form, Field.Form.isNamed, required, Json.optional, Ne.symm hmeta, Ne.symm hspecs,
            Ne.symm hstat]
        simp only [Taken, hunknown]
        exact hskip (key, v) hm

theorem Held.IsObject.decode {h : Held} {id : String} {ms : List (String × Json)} (hms : h.IsObject id ms)
    {st : Status} (hst : h.Reads st) : ∃ md, TaskStore.decodeTask (.object ms) =
      .ok ⟨md, h.spec, h.status.map fun _ => st⟩ ∧ md.id = id ∧ md.uid = h.uid ∧ md.version = some h.version ∧
        md.createdAt = some h.createdAt := by
  have htaken := hms.taken hst
  obtain ⟨hdistinct, -, ⟨mj, md, hmj, hmd, hparts⟩, ⟨sj, hsj, hspec⟩, hstatus⟩ := hms
  obtain ⟨s, hs, hvalue⟩ := slots_taken hdistinct htaken (by
      simp only [taskForms, List.forall_mem_cons]
      exact ⟨fun _ => Option.isSome_of_eq_some hmj, fun _ => Option.isSome_of_eq_some hsj, (fun h => by cases h),
        fun _ h => by cases h⟩)
    (by decide)
  simp only [taskForms, List.forall_mem_cons] at hvalue
  obtain ⟨hmeta, hspecs, hstat, -⟩ := hvalue
  have hreadMeta : (required "metadata" Metadata.decode).read s = .ok md := Field.read_some (hmeta.trans hmj) hmd
  have hreadSpec : (required "spec" TaskSpec.decode).read s = .ok h.spec := Field.read_some (hspecs.trans hsj) hspec
  have hreadStatus : (Json.optional "status" Status.decode).read s = .ok (h.status.map fun _ => st) := by
    cases hj : h.status with
    | some j => exact Field.read_some (hstat.trans (hstatus.trans hj)) (hst.decodeOption hj)
    | none => exact Field.read_none (hstat.trans (hstatus.trans hj)) rfl
  have hslots : (Json.object ms).slots [(required "metadata" Metadata.decode).form,
    (required "spec" TaskSpec.decode).form, (Json.optional "status" Status.decode).form] = .ok s := hs
  refine ⟨md, ?_, hparts⟩
  simp only [TaskStore.decodeTask, Object.decode, hslots, bind, Except.bind, hreadMeta, hreadSpec, hreadStatus]
  rfl

theorem Response.Shows.read {r : Response} {id : String} {h : Held} (hr : r.Shows id h) {st : Status}
    (hst : h.Reads st) : ∃ o, r.read TaskStore.decodeTask = .ok o ∧ TaskStore.ofObject o = .done (.ok (h.task id st)) := by
  obtain ⟨hok, ms, hdoc, hms⟩ := hr
  obtain ⟨md, hdecode, hid, huid, hversion, hcreated⟩ := hms.decode hst
  refine ⟨⟨md, h.spec, h.status.map fun _ => st⟩, ?_, ?_⟩
  · have htext : decodeText TaskStore.decodeTask r.body = .ok ⟨md, h.spec, h.status.map fun _ => st⟩ := by
      simp only [decodeText, hdoc, hdecode]
      rfl
    rw [Response.read, hok, if_neg (by decide), htext]
  · have hread : (h.status.map fun _ => st).getD .initial = st := by
      unfold Held.Reads at hst
      cases hj : h.status with
      | some j => rfl
      | none =>
          rw [hj] at hst
          exact hst.symm
    simp only [TaskStore.ofObject, hversion, hcreated]
    rw [hid, huid, hread]
    rfl

def Held.Accepts (h : Held) (patch : Json) : Prop :=
  ∀ v, (patch.get? "metadata").bind (·.get? "resourceVersion") = some v → v = .string h.version

def Held.patched (h : Held) (patch : Json) (version : String) : Held :=
  { h with
    version
    status := (merge (ofFields [("status", h.status)]) (ofFields [("status", patch.get? "status")])).get? "status" }

theorem Held.accepts_statusPatch {h : Held} {version : String} {current next : Status} :
    h.Accepts (TaskStore.statusPatch version current next) ↔ version = h.version := by
  constructor
  · intro ha
    have hv := ha (.string version) rfl
    cases hv
    rfl
  · rintro rfl v hv
    cases hv
    rfl

theorem Held.patched_status {h : Held} {current next : Status} (hcurrent : current.IsStored h.status)
    (hnext : next.Legible) (seen version : String) :
    ∃ j, (h.patched (TaskStore.statusPatch seen current next) version).status = some j ∧ Status.decode j = .ok next := by
  have hpatch : mergePatch current.encode next.encode ≠ .null := mergePatch_ne_null next.solid_encode.ne_null _
  have hfound : find? (written [("status", h.status)]) "status" = h.status := by
    cases h.status with
    | none => rfl
    | some j => rfl
  have hstatus : (h.patched (TaskStore.statusPatch seen current next) version).status =
      some (merge (h.status.getD .null) (mergePatch current.encode next.encode)) := by
    have hnodup : (names [("status", mergePatch current.encode next.encode)]).Nodup := List.nodup_singleton _
    have hmerge := find?_mergeMembers hnodup (written [("status", h.status)]) "status"
    rw [hfound, find?_cons, if_pos rfl, mergeMember_some hpatch] at hmerge
    exact hmerge
  exact ⟨_, hstatus, Status.decode_same hnext (Status.merge_stored hcurrent next)⟩

structure ServerState where
  held : Option Held
  given : List String

namespace ServerState

def Sound (s : ServerState) : Prop := ∀ h, s.held = some h → h.version ∈ s.given ∧ ∃ st, h.Encodes st

/-- A write of anybody: another object with a version of its own takes the place of what was there, or nothing. -/
inductive Writes (s : ServerState) : ServerState → Prop
  | put (h : Held) (fresh : h.version ∉ s.given) (encoded : ∃ st, h.Encodes st) : Writes s ⟨some h, h.version :: s.given⟩
  | removed : Writes s ⟨none, s.given⟩

end ServerState

structure Address where
  space : String
  id : String
  whole : Target
  part : Target
  whole_eq : Target.object? .task space id = some whole
  part_eq : Target.changed? .task space id "/status" = some part

inductive Address.Serves (a : Address) (s : ServerState) : Request → Response → ServerState → Prop
  | shown {h r} (held : s.held = some h) (shows : r.Shows a.id h) : Serves a s ⟨.get, a.whole⟩ r s
  | missing {r} (held : s.held = none) (refused : r.Refuses 404 "NotFound") : Serves a s ⟨.get, a.whole⟩ r s
  | applied {h patch version r} (held : s.held = some h) (accepted : h.Accepts patch) (fresh : version ∉ s.given)
      (shows : r.Shows a.id (h.patched patch version)) :
      Serves a s ⟨.merge patch, a.part⟩ r ⟨some (h.patched patch version), version :: s.given⟩
  | stale {h patch reason r} (held : s.held = some h) (accepted : ¬ h.Accepts patch) (refused : r.Refuses 409 reason) :
      Serves a s ⟨.merge patch, a.part⟩ r s
  | gone {patch reason r} (held : s.held = none) (refused : r.Refuses 404 reason) :
      Serves a s ⟨.merge patch, a.part⟩ r s

structure Moment where
  request : Option Request
  before : ServerState
  after : ServerState

def Moment.isOwn (o : Moment) : Bool := o.request.isSome

/-- A stretch of a client's run, with all that happens at the server meanwhile. -/
inductive Address.Course (a : Address) {α : Type} : ServerState → Routine α → List Moment → ServerState → Routine α → Prop
  | nil {s p} : Course a s p [] s p
  | other {s s' p log t q} (written : s.Writes s') (rest : Course a s' p log t q) :
      Course a s p (⟨none, s, s'⟩ :: log) t q
  | answered {s s' request r next log t q} (served : a.Serves s request r s') (rest : Course a s' (next r) log t q) :
      Course a s (.call (.send request) next) (⟨some request, s, s'⟩ :: log) t q
  | asked {s op} {answer : op.Answer} {next log t q} (rest : Course a s (next answer) log t q) :
      Course a s (.call (.other op) next) log t q

inductive ServerState.Others : ServerState → List Moment → ServerState → Prop
  | nil {s} : Others s [] s
  | cons {s s' log t} (written : s.Writes s') (rest : Others s' log t) : Others s (⟨none, s, s'⟩ :: log) t

namespace ServerState

variable {s s' t : ServerState} {log : List Moment}

theorem Writes.sound (h : s.Writes s') : s'.Sound := by
  rintro held hheld
  cases h with
  | put h fresh encoded =>
      cases hheld
      exact ⟨List.mem_cons_self, encoded⟩
  | removed => cases hheld

theorem Writes.given (h : s.Writes s') {version : String} (hv : version ∈ s.given) : version ∈ s'.given := by
  cases h with
  | put => exact List.mem_cons_of_mem _ hv
  | removed => exact hv

theorem Others.sound (h : s.Others log t) (hs : s.Sound) : t.Sound := by
  induction h with
  | nil => exact hs
  | cons written _ ih => exact ih written.sound

theorem Others.not_own (h : s.Others log t) : ∀ o ∈ log, o.isOwn = false := by
  induction h with
  | nil => simp
  | cons _ _ ih => exact List.forall_mem_cons.mpr ⟨rfl, ih⟩

/-- No version comes back: if one that was known is still current, nothing was written. -/
theorem Others.none_written (h : s.Others log t) {held : Held} (hheld : t.held = some held)
    (hv : held.version ∈ s.given) : log = [] ∧ t = s := by
  induction h with
  | nil => exact ⟨rfl, rfl⟩
  | cons written _ ih =>
      obtain ⟨-, rfl⟩ := ih hheld (written.given hv)
      cases written with
      | put h fresh encoded =>
          cases hheld
          exact absurd hv fresh
      | removed => cases hheld

end ServerState

namespace Address.Course

variable {a : Address} {α : Type} {s t : ServerState} {log : List Moment} {p q : Routine α}

theorem done {x : α} (h : a.Course s p log t q) (hp : p = .done x) : q = .done x ∧ s.Others log t := by
  induction h with
  | nil => exact ⟨hp, .nil⟩
  | other written _ ih =>
      obtain ⟨hq, hothers⟩ := ih hp
      exact ⟨hq, .cons written hothers⟩
  | answered => cases hp
  | asked => cases hp

theorem send {request : Request} {next : Response → Routine α} (h : a.Course s p log t q)
    (hp : p = .call (.send request) next) :
    q = .call (.send request) next ∧ s.Others log t ∨
      ∃ early s₁ r s₂ late, log = early ++ ⟨some request, s₁, s₂⟩ :: late ∧ s.Others early s₁ ∧
        a.Serves s₁ request r s₂ ∧ a.Course s₂ (next r) late t q := by
  induction h with
  | nil => exact .inl ⟨hp, .nil⟩
  | other written _ ih =>
      rcases ih hp with ⟨hq, hothers⟩ | ⟨early, s₁, r, s₂, late, rfl, hothers, hserves, hrest⟩
      · exact .inl ⟨hq, .cons written hothers⟩
      · exact .inr ⟨_ :: early, s₁, r, s₂, late, rfl, .cons written hothers, hserves, hrest⟩
  | answered served rest =>
      cases hp
      exact .inr ⟨[], _, _, _, _, rfl, .nil, served, rest⟩
  | asked => cases hp

end Address.Course

end SandboxTasks.Cluster
