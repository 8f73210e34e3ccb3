import Mathlib.Logic.Relation
import SandboxTasks.Proofs.Api.Admission
import SandboxTasks.Proofs.Credential.Attempts
import SandboxTasks.Proofs.Sandbox.Claims

namespace SandboxTasks

open Store Store.Memory

variable {α β : Type}

/-- What may be asked for after what was asked for so far: no task but an admissible one, and no credential but for the
repository on the record that was seen last. -/
def Permitted (past : History) : Operation → Prop
  | .create id spec => Admissible id spec
  | .exchange _ repository => ∃ t, past.lastSeen? = some t ∧ t.record.spec.repository = repository
  | _ => True

def AsksPermitted (p : Routine α) : Prop := ∀ past, Conforms Permitted (fun _ _ => True) past p

namespace AsksPermitted

theorem pure (a : α) : AsksPermitted (pure a : Routine α) := fun _ => trivial

theorem bind {p : Routine α} {f : α → Routine β} (hp : AsksPermitted p) (hf : ∀ a, AsksPermitted (f a)) :
    AsksPermitted (p >>= f) :=
  fun past => .bind ((hp past).mono fun past' a _ => hf a past')

end AsksPermitted

theorem modifyWithin_sanctioned (id : String) (change : Change) (rounds : Nat) (past : History) :
    Conforms Permitted (fun past' result => ∀ modified, result = .ok modified → past'.lastSeen? = some modified.task)
      past (modifyWithin rounds id change) := by
  induction rounds generalizing past with
  | zero => rintro _ ⟨⟩
  | succ rounds ih =>
      refine ⟨trivial, fun found _ => ?_⟩
      rcases found with e | _ | seen
      · rintro _ ⟨⟩
      · rintro _ ⟨⟩
      · refine ⟨trivial, fun now _ => ?_⟩
        cases hnext : change now seen.record with
        | none =>
            simp only [Program.bind, hnext]
            rintro _ ⟨⟩
            rfl
        | some next =>
            simp only [Program.bind, hnext]
            refine ⟨trivial, fun swapped _ => ?_⟩
            cases swapped with
            | ok t =>
                rintro _ ⟨⟩
                rfl
            | error e =>
                cases e with
                | conflict => exact ih _
                | notFound | alreadyExists | illegalTransition | malformed | cluster => rintro _ ⟨⟩

theorem modify_asksPermitted (id : String) (change : Change) : AsksPermitted (Store.modify id change) :=
  fun past => (modifyWithin_sanctioned id change rounds past).mono fun _ _ _ => trivial

theorem issue_asksPermitted (configured : Bool) (id : String) : AsksPermitted (Credential.issue configured id) := by
  intro past
  cases configured with
  | false => exact trivial
  | true =>
      apply Conforms.bind
      refine Conforms.bind ((modifyWithin_sanctioned id Change.reserveCredential rounds past).mono ?_)
      intro past result hseen
      match result with
      | .error e => cases e <;> exact trivial
      | .ok (.unchanged t) =>
          simp only [Modified.isApplied, Bool.false_eq_true, if_false]
          split <;> exact trivial
      | .ok (.applied t) =>
          refine ⟨⟨t, hseen _ rfl, rfl⟩, fun answer _ => ?_⟩
          cases answer with
          | ok grant => exact trivial
          | error e =>
              have hrelease : AsksPermitted (Credential.release id) := .bind (modify_asksPermitted _ _) fun _ => .pure ()
              have hfailed : AsksPermitted (Credential.release id >>= fun _ =>
                pure (Except.error (.exchange e) : Except CredentialError Grant)) := hrelease.bind fun _ => .pure _
              exact hfailed _

namespace Api

theorem createTask_asksPermitted (request : Creation) : AsksPermitted (createTask request) := by
  have hnamed (id : String) (spec : TaskSpec) : AsksPermitted (createTask ⟨some id, spec⟩) := by
    simp only [createTask, pure_bind]
    intro past
    cases hobjection : Creation.objection? id spec with
    | some message => exact trivial
    | none =>
        refine ⟨objection?_eq_none_iff.mp hobjection, fun answer _ => ?_⟩
        cases answer <;> exact trivial
  obtain ⟨id?, spec⟩ := request
  cases id? with
  | some id => exact hnamed id spec
  | none =>
      rw [createTask_anonymous]
      exact .bind (fun past => ⟨trivial, fun _ _ => trivial⟩) fun bits => hnamed _ spec

theorem withRecord_asksPermitted (id : String) (go : Record → Response) : AsksPermitted (withRecord id go) := by
  refine fun past => ⟨trivial, fun found _ => ?_⟩
  match found with
  | .error e => exact trivial
  | .ok none => exact trivial
  | .ok (some task) => exact trivial

theorem cancelTask_asksPermitted (id : String) : AsksPermitted (cancelTask id) := by
  refine .bind (.bind (modify_asksPermitted _ _) fun result => ?_) fun result => ?_
  · match result with
    | .ok modified => exact .pure _
    | .error e => cases e <;> exact .pure _
  · match result with
    | .error e => exact .pure _
    | .ok none => exact .pure _
    | .ok (some phase) => exact .pure _

theorem taskToken_asksPermitted (configured : Bool) (id : String) : AsksPermitted (taskToken configured id) := by
  refine .bind (issue_asksPermitted configured id) fun result => ?_
  cases result <;> exact .pure _

theorem reportStatus_asksPermitted (id : String) (report : Report) : AsksPermitted (reportStatus id report) := by
  refine .bind (.bind (modify_asksPermitted _ _) fun result => ?_) fun result => ?_
  · match result with
    | .error e => cases e <;> exact .pure _
    | .ok modified =>
        dsimp only
        split
        · exact .pure _
        · split <;> exact .pure _
  · match result with
    | .error e => exact .pure _
    | .ok (.accepted phase changed) => exact .pure _
    | .ok (.alreadyTerminal phase) => exact .pure _
    | .ok .unknownTask => exact .pure _

theorem withId_asksPermitted {id : String} {go : String → Routine Response} (h : ∀ id, AsksPermitted (go id)) :
    AsksPermitted (withId id go) := by
  unfold withId
  split
  · exact h _
  · exact .pure _

theorem dispatch_asksPermitted (configured : Bool) (request : Request) (route : Route) :
    AsksPermitted (dispatch configured request route) := by
  cases route with
  | health | readiness => exact .pure _
  | create =>
      unfold dispatch
      dsimp only
      split
      · exact createTask_asksPermitted _
      · exact .pure _
  | get => exact withId_asksPermitted fun id => withRecord_asksPermitted id _
  | cancel => exact withId_asksPermitted cancelTask_asksPermitted
  | data => exact withId_asksPermitted fun id => withRecord_asksPermitted id _
  | token => exact withId_asksPermitted (taskToken_asksPermitted configured)
  | report =>
      refine withId_asksPermitted fun id => ?_
      split
      · exact reportStatus_asksPermitted id _
      · exact .pure _

theorem handle_asksPermitted (configured : Bool) (request : Request) : AsksPermitted (handle configured request) := by
  unfold handle
  split
  · exact .pure _
  · split
    · exact .pure _
    · exact .bind (dispatch_asksPermitted configured request _) fun response => .pure _

end Api

structure Handling where
  past : History
  rest : Routine Api.Response

structure Handling.Sound (h : Handling) : Prop where
  conforms : Conforms Permitted (fun _ _ => True) h.past h.rest
  seen : ∀ t, h.past.lastSeen? = some t → Admissible t.record.id t.record.spec

theorem Handling.Sound.answered {past : History} {op : Operation} {next : op.Answer → Routine Api.Response}
    {a : op.Answer} {m m' : Memory} (h : Handling.Sound ⟨past, .call op next⟩) (ha : m.Answers op a m')
    (hstore : ∀ e ∈ m'.entries, Admissible e.record.id e.record.spec) : Handling.Sound ⟨⟨op, a⟩ :: past, next a⟩ where
  conforms := h.conforms.2 a (fits_of_answers ha)
  seen t ht := by
    rw [History.lastSeen?_cons] at ht
    rcases Option.or_eq_some_iff.mp ht with hshows | ⟨-, hseen⟩
    · obtain ⟨e, he, rfl⟩ := mem_of_shows ha hshows
      exact hstore e he
    · exact h.seen t hseen

structure Service where
  store : Memory
  inHand : List Handling

namespace Service

/-- A request comes in, one in hand gets an answer, or somebody else uses the store, for anything but a new task. A
request that nobody waits for any more gets no further answers; what is still done for it is done by somebody else. -/
inductive Step : Service → Service → Prop
  | receive {m hs} (configured : Bool) (request : Api.Request) :
      Step ⟨m, hs⟩ ⟨m, ⟨[], Api.handle configured request⟩ :: hs⟩
  | answer {m m' past op next} {a : op.Answer} (before after) (h : m.Answers op a m') :
      Step ⟨m, before ++ ⟨past, .call op next⟩ :: after⟩ ⟨m', before ++ ⟨⟨op, a⟩ :: past, next a⟩ :: after⟩
  | other {m m' hs op} {a : op.Answer} (h : m.Answers op a m') (hop : ∀ id spec, op ≠ .create id spec) :
      Step ⟨m, hs⟩ ⟨m', hs⟩

def Reachable : Service → Prop := Relation.ReflTransGen Step ⟨.empty, []⟩

structure Sound (c : Service) : Prop where
  store : ∀ e ∈ c.store.entries, Admissible e.record.id e.record.spec
  inHand : ∀ h ∈ c.inHand, h.Sound

theorem admissible_of_answers {m m' : Memory} {op : Operation} {a : op.Answer} (h : m.Answers op a m')
    (hm : ∀ e ∈ m.entries, Admissible e.record.id e.record.spec)
    (hop : ∀ id spec, op = .create id spec → Admissible id spec) :
    ∀ e ∈ m'.entries, Admissible e.record.id e.record.spec := by
  intro e he
  rcases mem_of_answers h he with ⟨f, hf, hid, hspec⟩ | hcreate
  · rw [hid, hspec]
    exact hm f hf
  · exact hop _ _ hcreate

theorem Step.sound {c d : Service} (h : Step c d) (hc : c.Sound) : d.Sound := by
  cases h with
  | receive configured request =>
      have hnew : Handling.Sound ⟨[], Api.handle configured request⟩ := by
        refine ⟨Api.handle_asksPermitted configured request [], fun t ht => ?_⟩
        cases ht
      exact ⟨hc.store, List.forall_mem_cons.mpr ⟨hnew, hc.inHand⟩⟩
  | @answer m m' past op next a before after h =>
      have hwaiting : Handling.Sound ⟨past, .call op next⟩ := hc.inHand _ (List.mem_append_right _ List.mem_cons_self)
      have hstore := admissible_of_answers h hc.store fun id spec hop => by
        subst hop
        exact hwaiting.conforms.1
      exact ⟨hstore, forall_mem_replace hc.inHand (hwaiting.answered h hstore)⟩
  | other h hop => exact ⟨admissible_of_answers h hc.store fun id spec he => absurd he (hop id spec), hc.inHand⟩

theorem Reachable.sound {c : Service} (h : c.Reachable) : c.Sound := by
  induction h with
  | refl => exact ⟨List.forall_mem_nil _, List.forall_mem_nil _⟩
  | tail _ hs ih => exact hs.sound ih

end Service

namespace Api

def Creation.sample : Creation :=
  ⟨some "fix-1", ⟨"Fix it", none, none, ⟨"https://github.com/acme/app.git", "main"⟩, none, none⟩⟩

theorem admissible_sample : Admissible "fix-1" Creation.sample.spec := objection?_eq_none_iff.mp (by decide +kernel)

theorem handle_of_route {configured : Bool} {request : Request} {route : Route}
    (hroute : Route.ofPath? (Route.path request.uri) = some route) (hallows : route.allows request.method) :
    handle configured request = dispatch configured request route >>= fun response =>
      pure (if request.method = "HEAD" then .empty response.status else response) := by
  simp only [handle, hroute, hallows, Bool.not_true, Bool.false_eq_true, if_false]

theorem createTask_of_admissible {id : String} {spec : TaskSpec} (h : Admissible id spec) :
    ∃ next, createTask ⟨some id, spec⟩ = .call (.create id spec) next := by
  simp only [createTask, pure_bind, objection?_eq_none_iff.mpr h]
  exact ⟨_, rfl⟩

theorem exists_handle_post :
    ∃ request next, handle true request = .call (.create "fix-1" Creation.sample.spec) next := by
  let request : Request := ⟨"POST", "/tasks", some "application/json",
    "\x7b\"id\":\"fix-1\",\"description\":\"Fix it\",\"repo\":\x7b\"url\":\"https://github.com/acme/app.git\"\x7d\x7d"⟩
  have hroute : Route.ofPath? (Route.path request.uri) = some .create := by decide +kernel
  have hbody : (readBody Creation.decode request).toOption = some .sample := by decide +kernel
  refine ⟨request, ?_⟩
  rw [handle_of_route hroute rfl, dispatch]
  cases hread : readBody Creation.decode request with
  | error response =>
      rw [hread] at hbody
      cases hbody
  | ok creation =>
      rw [hread] at hbody
      cases hbody
      obtain ⟨next, hcreate⟩ := createTask_of_admissible admissible_sample
      exact ⟨_, congrArg (· >>= _) hcreate⟩

theorem exists_handle_token : ∃ request k, handle true request = (Credential.issue true "fix-1").bind k := by
  let request : Request := ⟨"GET", "/tasks/fix-1/token", none, ""⟩
  have hroute : Route.ofPath? (Route.path request.uri) = some (.token "fix-1") := by decide +kernel
  have hid : Text.Percent.decode? "fix-1" = some "fix-1" := by decide +kernel
  refine ⟨request, ?_⟩
  rw [handle_of_route hroute rfl, dispatch, withId, hid]
  exact ⟨_, Program.bind_assoc ..⟩

end Api

/-- Over all stores, all requests for a new task, and all that the surroundings may answer. A request is granted, and its
task alone gets into the store, exactly if it is admissible and its ID is free; it is called malformed exactly if it is not
admissible, and in conflict exactly if its ID is taken, and then the store stays as it is. An ID that is made up is always a
label. What is admitted can be relied on. The name of its claim is a label, and no other ID gives that name. Wherever the
interface may get to from an empty store, there are admissible tasks only, and a credential is asked for at the exchange in
such a way that the answer is never, whatever a code host says, that the repository is none. -/
theorem creation_admits_exactly :
    (∀ (answer : (op : Operation) → Memory → op.Answer × Memory), Answered answer →
      ∀ (m : Memory) (request : Api.Creation),
        let id := request.idFrom (answer .entropy m).1
        let result := (Api.createTask request).run answer m
        (result.1.status = 201 ∧ m.Adds id request.spec result.2 ↔
          Admissible id request.spec ∧ ∀ e ∈ m.entries, e.record.id ≠ id) ∧
        (result.1.status = 400 ∧ result.2 = m ↔ ¬ Admissible id request.spec) ∧
        (result.1.status = 409 ∧ result.2 = m ↔ Admissible id request.spec ∧ ∃ e ∈ m.entries, e.record.id = id)) ∧
    (∀ bits, TaskId.IsLabelWithin 59 (TaskId.ofEntropy bits)) ∧
    (∀ id spec, Admissible id spec → TaskId.IsLabelWithin 63 (TaskId.claimName id) ∧
      ∀ other, TaskId.claimName other = TaskId.claimName id → other = id) ∧
    ∀ c : Service, c.Reachable → (∀ e ∈ c.store.entries, Admissible e.record.id e.record.spec) ∧
      ∀ h ∈ c.inHand, ∀ id repository next, h.rest = .call (.exchange id repository) next →
        ∀ (i : Credential.Installation) (key : Credential.SigningKey) (σ : Type)
          (answer : (op : Http.Operation) → σ → op.Answer × σ) (s : σ) (url : String),
          ((i.exchange key repository).run answer s).1 ≠ .error (.invalidRepository url) := by
  refine ⟨?_, TaskId.isLabelWithin_ofEntropy, ?_, ?_⟩
  · intro answer hanswer m request
    have hcreated := Api.created_createTask hanswer m request
    exact ⟨hcreated.status_eq_201_iff, hcreated.status_eq_400_iff, hcreated.status_eq_409_iff⟩
  · intro id spec h
    exact ⟨TaskId.isLabelWithin_claimName h.id, fun other => TaskId.claimName_inj⟩
  · intro c hc
    refine ⟨hc.sound.store, fun h hh id repository next hrest i key σ answer s url => ?_⟩
    obtain ⟨hconforms, hadmissible⟩ := hc.sound.inHand h hh
    rw [hrest] at hconforms
    obtain ⟨⟨t, hseen, rfl⟩, -⟩ := hconforms
    exact i.exchange_ne_invalidRepository key (hadmissible t hseen).repository answer s url

/-- The task gets into an empty store, and once it is there its credential can be asked for. -/
theorem creation_admits_exactly_sample :
    (let result := (Api.createTask .sample).run (Memory.answer default Operation.answerInNewWorld) .empty
     result.1.status = 201 ∧ empty.Adds "fix-1" Api.Creation.sample.spec result.2) ∧
    TaskId.IsLabelWithin 63 (TaskId.claimName "fix-1") ∧
    ∃ (c : Service) (h : Handling), c.Reachable ∧ h ∈ c.inHand ∧
      (∃ next, h.rest = .call (.exchange "fix-1" Api.Creation.sample.spec.repository) next) ∧
      ∀ (i : Credential.Installation) (key : Credential.SigningKey) (σ : Type)
        (answer : (op : Http.Operation) → σ → op.Answer × σ) (s : σ) (url : String),
        ((i.exchange key Api.Creation.sample.spec.repository).run answer s).1 ≠ .error (.invalidRepository url) := by
  obtain ⟨hcreation, -, hname, hservice⟩ := creation_admits_exactly
  refine ⟨?_, (hname _ _ Api.admissible_sample).1, ?_⟩
  · exact (hcreation _ (answered_answer _ _) .empty .sample).1.mpr ⟨Api.admissible_sample, List.forall_mem_nil _⟩
  obtain ⟨post, next, hpost⟩ := Api.exists_handle_post
  obtain ⟨get, k, hget⟩ := Api.exists_handle_token
  suffices h : ∃ (c : Service) (h : Handling) (next : _), c.Reachable ∧ h ∈ c.inHand ∧
      h.rest = .call (.exchange "fix-1" Api.Creation.sample.spec.repository) next by
    obtain ⟨c, h, next, hc, hh, hrest⟩ := h
    exact ⟨c, h, hc, hh, ⟨next, hrest⟩, (hservice c hc).2 h hh _ _ next hrest⟩
  have hreceived : (⟨.empty, [⟨[], Api.handle true post⟩]⟩ : Service).Reachable := .single (.receive true post)
  rw [hpost] at hreceived
  have hcreated := hreceived.tail (.answer [] [] ⟨"uid", default, rfl⟩)
  have hasked := hcreated.tail (.receive true get)
  rw [hget] at hasked
  have hserved := @answers_of_serves "fix-1"
  have hmarked := hasked.trans <|
    .head (.answer [] _ (hserved (@holding_find "fix-1" _ _))) <|
    .head (.answer (a := (default : Instant)) [] _ (hserved (@holding_now "fix-1" _ _ default))) <|
    .head (.answer [] _ (hserved (@holding_swap "fix-1" _ _ _ rfl))) .refl
  exact ⟨_, _, _, hmarked, List.mem_cons_self, rfl⟩

end SandboxTasks
