import SandboxTasks.Proofs.Concurrent.Confined
import SandboxTasks.Proofs.Sandbox.Claims
import SandboxTasks.Proofs.Store.Answers

namespace SandboxTasks

namespace Sandbox.Memory

variable {m m' : Memory} {name other : String}

theorem find?_insertClaim {c : Claim} {cs : List Claim} (h : c.name ≠ name) :
    (insertClaim c cs).find? (·.name == name) = cs.find? (·.name == name) := by
  induction cs with
  | nil => simp [insertClaim, h]
  | cons d ds ih =>
      by_cases hlt : c.name < d.name
      · simp [insertClaim, hlt, h]
      · simp only [insertClaim, hlt, if_false, List.find?_cons, ih]

theorem claim?_withoutClaim (h : other ≠ name) : (m.withoutClaim other).claim? name = m.claim? name := by
  rw [claim?, claim?, withoutClaim, List.find?_filter]
  congr 1
  funext c
  by_cases hc : c.name = name
  · simp [hc, Ne.symm h]
  · simp [hc]

theorem claim?_provision_of_ne {i : String} {now : Instant} (h : TaskId.claimName i ≠ name) :
    (m.provision i now).2.claim? name = m.claim? name := by
  unfold provision
  split
  · rfl
  · dsimp only
    split
    · rfl
    · exact find?_insertClaim h

theorem claim?_delete_of_ne (h : other ≠ name) : (m.delete other).2.claim? name = m.claim? name := by
  unfold delete
  dsimp only
  split
  · exact claim?_withoutClaim h
  · rfl

variable {id i : String} {op : Operation} {a : op.Answer}

theorem claim?_setState {state : State} (h : TaskId.claimName i ≠ name) :
    (m.setState i state).claim? name = m.claim? name := by
  have hlook : ((·.name == name) ∘ fun c => if c.name = TaskId.claimName i then { c with state } else c) =
      fun c : Claim => c.name == name := by
    funext c
    rw [Function.comp_apply]
    split <;> rfl
  rw [claim?, claim?, setState, List.find?_map, hlook]
  cases hc : m.claims.find? (·.name == name) with
  | none => rfl
  | some c =>
      have hne : c.name ≠ TaskId.claimName i := by
        intro he
        have hcname : c.name = name := by simpa using List.find?_some hc
        exact h (he.symm.trans hcname)
      rw [Option.map_some, if_neg hne]

theorem claim?_insert {createdAt : Instant} (h : TaskId.claimName i ≠ name) :
    (m.insert i createdAt).claim? name = m.claim? name :=
  (find?_insertClaim h).trans (claim?_withoutClaim h)

theorem Serves.claim?_of_ne (h : m.Serves op a m') (hop : op.Concerns id) (hne : i ≠ id) :
    m'.claim? (TaskId.claimName i) = m.claim? (TaskId.claimName i) := by
  have hname : TaskId.claimName id ≠ TaskId.claimName i := fun he => hne (TaskId.claimName_inj he).symm
  cases op with
  | provision r =>
      obtain ⟨now, h⟩ := h
      have hm' : m' = (m.provision r.id now).2 := by rw [h]
      obtain rfl : r.id = id := hop
      rw [hm']
      exact claim?_provision_of_ne hname
  | deleteClaim sandbox =>
      obtain ⟨-, rfl⟩ := h
      apply claim?_delete_of_ne
      rw [show sandbox.claim = TaskId.claimName id from hop]
      exact hname
  | poll | claims =>
      obtain ⟨-, rfl⟩ := h
      rfl
  | _ =>
      obtain rfl : m' = m := h
      rfl

theorem Serves.provisioned {r : Record} {sandbox : SandboxRef} (h : m.Serves (.provision r) (.ok sandbox) m') :
    sandbox.claim = TaskId.claimName r.id := by
  obtain ⟨now, h⟩ := h
  exact claim_of_provision h

end Sandbox.Memory

structure Work where
  task : String
  {Result : Type}
  rest : Routine Result

/-- Tasks and claims, the work that goes on, and each request that was made, with the task it was made for. -/
structure TaskSystem where
  store : Store.Memory
  claims : Sandbox.Memory
  works : List Work
  log : List (String × Operation)

namespace TaskSystem

open Store Store.Memory

def empty : TaskSystem := ⟨.empty, .empty, [], []⟩

/-- Something happens that is about one task: it is created or removed, its claim changes of itself, work is begun for
it, or a request made for it is answered. Work may be dropped at any request, carried out or not. -/
inductive Step (id : String) : TaskSystem → TaskSystem → Prop
  | create {m m' k ws log spec} {a : Except StoreError Versioned} (h : m.Answers (.create id spec) a m') :
      Step id ⟨m, k, ws, log⟩ ⟨m', k, ws, log⟩
  | remove {m k ws log} : Step id ⟨m, k, ws, log⟩ ⟨(m.erase id).2, k, ws, log⟩
  | turn {m k ws log} (state : Sandbox.State) : Step id ⟨m, k, ws, log⟩ ⟨m, k.setState id state, ws, log⟩
  | vanish {m k ws log} : Step id ⟨m, k, ws, log⟩ ⟨m, k.vanish id, ws, log⟩
  | insert {m k ws log} (createdAt : Instant) : Step id ⟨m, k, ws, log⟩ ⟨m, k.insert id createdAt, ws, log⟩
  | refuse {m k ws log} (count : Nat) : Step id ⟨m, k, ws, log⟩ ⟨m, k.refuseNext count, ws, log⟩
  | job {m k ws log} (j : Job) (h : j.asked) : Step id ⟨m, k, ws, log⟩ ⟨m, k, ⟨id, j.routine id⟩ :: ws, log⟩
  | release {m k ws log t} (h : m.find id = some t) :
      Step id ⟨m, k, ws, log⟩ ⟨m, k, ⟨id, (Reconcile.releaseSandbox t.record).run⟩ :: ws, log⟩
  | answer {m m' k k' before after log op} {α : Type} {next : op.Answer → Routine α} {a : op.Answer}
      (h : m.Answers op a m') (hk : k.Serves op a k') :
      Step id ⟨m, k, before ++ ⟨id, .call op next⟩ :: after, log⟩
        ⟨m', k', before ++ ⟨id, next a⟩ :: after, (id, op) :: log⟩
  | drop {m k before after log op} {α : Type} {next : op.Answer → Routine α} :
      Step id ⟨m, k, before ++ ⟨id, .call op next⟩ :: after, log⟩
        ⟨m, k, before ++ ⟨id, Credential.abandoned op⟩ :: after, (id, op) :: log⟩
  | lose {m m' k k' before after log op} {α : Type} {next : op.Answer → Routine α} {a : op.Answer}
      (h : m.Answers op a m') (hk : k.Serves op a k') :
      Step id ⟨m, k, before ++ ⟨id, .call op next⟩ :: after, log⟩
        ⟨m', k', before ++ ⟨id, Credential.abandoned op⟩ :: after, (id, op) :: log⟩

/-- A run in which all that happens is about one task. -/
def RunOf (id : String) : TaskSystem → TaskSystem → Prop := Relation.ReflTransGen (Step id)

def Run : TaskSystem → TaskSystem → Prop := Relation.ReflTransGen fun c d => ∃ id, Step id c d

def Asked (c : TaskSystem) (id : String) (op : Operation) : Prop :=
  (id, op) ∈ c.log ∨ ∃ w ∈ c.works, w.task = id ∧ ∃ next, w.rest = .call op next

structure Sound (c : TaskSystem) : Prop where
  stored : ∀ id t, c.store.find id = some t → t.record.BelongsTo id
  confined : ∀ w ∈ c.works, ∃ past, Confined w.task (fun _ => True) past w.rest
  logged : ∀ id op, (id, op) ∈ c.log → op.Concerns id

variable {c d : TaskSystem} {id i : String}

theorem sound_empty : empty.Sound where
  stored _ _ h := nomatch h
  confined _ h := nomatch h
  logged _ _ h := nomatch h

section Answer

variable {m m' : Memory} {k k' : Sandbox.Memory} {op : Operation} {a : op.Answer}

theorem find_of_ne (h : m.Answers op a m') (hop : op.Concerns id) (hne : i ≠ id) : m'.find i = m.find i := by
  have hserves : m.Serves i op a m' := by
    apply serves_of_answers h
    rintro spec rfl
    exact hop.elim
  have hwrites : ¬ op.WritesTo i := by
    intro hwrites
    cases op with
    | swap j => exact hne (hwrites.symm.trans hop.1)
    | create | erase => exact hop
    | _ => exact hwrites
  exact congrArg View.current (serves_elsewhere hserves hwrites)

theorem tells_of_answers (h : m.Answers op a m') (hk : k.Serves op a k') (hop : op.Concerns id)
    (hstored : ∀ t, m.find id = some t → t.record.BelongsTo id) : op.Tells id a := by
  cases op with
  | find j =>
      obtain rfl : j = id := hop
      obtain ⟨rfl, -⟩ := h
      cases hfind : m.find j with
      | none => trivial
      | some t => exact hstored t hfind
  | swap j version status =>
      obtain ⟨rfl, hbears⟩ := hop
      cases swaps_of_eq h with
      | absent | stale | illegal => trivial
      | @written e _ he => exact ⟨id_of_stored (e := e) he, hbears⟩
  | provision r =>
      obtain rfl : r.id = id := hop
      cases a with
      | ok sandbox => exact hk.provisioned
      | error e => trivial
  | _ => trivial

theorem stored_of_answers (h : m.Answers op a m') (hop : op.Concerns id)
    (hstored : ∀ t, m.find id = some t → t.record.BelongsTo id) :
    ∀ t, m'.find id = some t → t.record.BelongsTo id := by
  intro t ht
  cases op with
  | swap j version status =>
      obtain ⟨rfl, hbears⟩ := hop
      cases swaps_of_eq h with
      | absent | stale | illegal => exact hstored t ht
      | @written e _ he _ hat =>
          have hwritten := (hat j).trans (if_pos rfl)
          rw [find_of_stored hwritten] at ht
          cases ht
          exact ⟨id_of_stored (e := e) he, hbears⟩
  | create | erase => exact hop.elim
  | find | list =>
      obtain ⟨-, rfl⟩ := h
      exact hstored t ht
  | _ =>
      obtain rfl : m' = m := h
      exact hstored t ht

end Answer

namespace Step

theorem elsewhere (h : Step id c d) (hc : c.Sound) (hne : i ≠ id) :
    d.store.find i = c.store.find i ∧
      d.claims.claim? (TaskId.claimName i) = c.claims.claim? (TaskId.claimName i) := by
  have hname : TaskId.claimName id ≠ TaskId.claimName i := fun he => hne (TaskId.claimName_inj he).symm
  cases h with
  | create ha =>
      refine ⟨?_, rfl⟩
      rcases find_create (i := i) ha with hsame | ⟨he, -⟩
      · exact hsame
      · exact absurd he hne
  | remove => exact ⟨find_erase (Ne.symm hne), rfl⟩
  | turn state => exact ⟨rfl, Sandbox.Memory.claim?_setState hname⟩
  | vanish => exact ⟨rfl, Sandbox.Memory.claim?_withoutClaim hname⟩
  | insert createdAt => exact ⟨rfl, Sandbox.Memory.claim?_insert hname⟩
  | refuse | job | release | drop => exact ⟨rfl, rfl⟩
  | answer ha hk | lose ha hk =>
      obtain ⟨past, hconfined⟩ := hc.confined _ (List.mem_append_right _ (.head _))
      obtain ⟨hconcerns, -⟩ := hconfined () trivial
      exact ⟨find_of_ne ha hconcerns hne, hk.claim?_of_ne hconcerns hne⟩

theorem logged_cons {log : List (String × Operation)} {op : Operation}
    (h : ∀ i op, (i, op) ∈ log → op.Concerns i) (hop : op.Concerns id) :
    ∀ i op', (i, op') ∈ (id, op) :: log → op'.Concerns i := by
  intro i op' hmem
  rcases List.mem_cons.mp hmem with he | hmem
  · cases he
    exact hop
  · exact h i op' hmem

theorem sound (h : Step id c d) (hc : c.Sound) : d.Sound := by
  have helse {i : String} (hi : i ≠ id) : d.store.find i = c.store.find i := (h.elsewhere hc hi).1
  obtain ⟨hstored, hconfined, hlogged⟩ := hc
  have hkept (hown : ∀ t, d.store.find id = some t → t.record.BelongsTo id) (i : String) (t : Versioned)
      (ht : d.store.find i = some t) : t.record.BelongsTo i := by
    by_cases hi : i = id
    · subst hi
      exact hown t ht
    · exact hstored i t ((helse hi).symm.trans ht)
  cases h with
  | create ha =>
      refine ⟨hkept fun t ht => ?_, hconfined, hlogged⟩
      obtain ⟨uid, now, hcreate⟩ := ha
      cases creates_of_eq hcreate with
      | taken => exact hstored id t ht
      | added hnone =>
          rw [find_of_stored ((stored_added hnone id).trans (if_pos rfl))] at ht
          cases ht
          exact ⟨rfl, fun _ hsandbox => nomatch hsandbox⟩
  | remove =>
      refine ⟨hkept fun t ht => ?_, hconfined, hlogged⟩
      simp [Memory.find, stored_erase] at ht
  | turn | vanish | insert | refuse => exact ⟨hstored, hconfined, hlogged⟩
  | job j hj => exact ⟨hstored, List.forall_mem_cons.mpr ⟨⟨[], Job.routine_confined j hj⟩, hconfined⟩, hlogged⟩
  | release ht =>
      have hrelease := Reconcile.releaseSandbox_confined (hstored _ _ ht)
      exact ⟨hstored, List.forall_mem_cons.mpr ⟨⟨[], hrelease⟩, hconfined⟩, hlogged⟩
  | drop =>
      obtain ⟨past, hrest⟩ := hconfined _ (List.mem_append_right _ (.head _))
      obtain ⟨hconcerns, -⟩ := hrest () trivial
      refine ⟨hstored, ?_, logged_cons hlogged hconcerns⟩
      exact forall_mem_replace hconfined ⟨past, Job.abandoned_confined hconcerns⟩
  | answer ha hk =>
      obtain ⟨past, hrest⟩ := hconfined _ (List.mem_append_right _ (.head _))
      obtain ⟨hconcerns, hnext⟩ := hrest () trivial
      have htells := tells_of_answers ha hk hconcerns (hstored id)
      refine ⟨hkept (stored_of_answers ha hconcerns (hstored id)), ?_, logged_cons hlogged hconcerns⟩
      exact forall_mem_replace hconfined ⟨_, hnext _ () ⟨fits_of_answers ha, htells⟩⟩
  | lose ha hk =>
      obtain ⟨past, hrest⟩ := hconfined _ (List.mem_append_right _ (.head _))
      obtain ⟨hconcerns, -⟩ := hrest () trivial
      refine ⟨hkept (stored_of_answers ha hconcerns (hstored id)), ?_, logged_cons hlogged hconcerns⟩
      exact forall_mem_replace hconfined ⟨past, Job.abandoned_confined hconcerns⟩

end Step

theorem Run.sound (h : Run c d) (hc : c.Sound) : d.Sound := by
  induction h with
  | refl => exact hc
  | tail _ hs ih =>
      obtain ⟨id, hs⟩ := hs
      exact hs.sound ih

theorem RunOf.run (h : RunOf id c d) : Run c d := by
  induction h with
  | refl => exact .refl
  | tail _ hs ih => exact ih.tail ⟨id, hs⟩

theorem RunOf.elsewhere (h : RunOf id c d) (hc : c.Sound) (hne : i ≠ id) :
    d.store.find i = c.store.find i ∧
      d.claims.claim? (TaskId.claimName i) = c.claims.claim? (TaskId.claimName i) := by
  induction h with
  | refl => exact ⟨rfl, rfl⟩
  | tail hrun hs ih =>
      obtain ⟨hfind, hclaim⟩ := hs.elsewhere ((RunOf.run hrun).sound hc) hne
      exact ⟨hfind.trans ih.1, hclaim.trans ih.2⟩

theorem Sound.concerns (hc : c.Sound) {op : Operation} (h : c.Asked id op) : op.Concerns id := by
  rcases h with hlogged | ⟨w, hw, rfl, next, hnext⟩
  · exact hc.logged id op hlogged
  · obtain ⟨past, hconfined⟩ := hc.confined w hw
    rw [hnext] at hconfined
    exact (hconfined () trivial).1

end TaskSystem

def Operation.Names (id : String) : Operation → Prop
  | .assign _ i _ => i = id
  | .send _ _ event => event.payload.task = id
  | _ => False

theorem Operation.Concerns.eq_of_names {id i : String} {op : Operation} (h : op.Concerns id) (hi : op.Names i) :
    i = id := by
  cases op with
  | assign | send => exact hi.symm.trans h
  | _ => exact hi.elim

/-- Whatever was done so far for any number of tasks, what is done for one of them changes no other, neither its record
nor its version nor its claim, and no worker is asked to take another one on and no receiver told of it. -/
theorem tasks_isolated {c d : TaskSystem} {id i : String} (hc : TaskSystem.Run .empty c)
    (h : TaskSystem.RunOf id c d) (hne : i ≠ id) :
    d.store.find i = c.store.find i ∧
      d.claims.claim? (TaskId.claimName i) = c.claims.claim? (TaskId.claimName i) ∧
      ∀ op, d.Asked id op → ¬ op.Names i := by
  have hsound := hc.sound TaskSystem.sound_empty
  obtain ⟨hfind, hclaim⟩ := h.elsewhere hsound hne
  refine ⟨hfind, hclaim, fun op hasked hnames => ?_⟩
  exact hne (((h.run.sound hsound).concerns hasked).eq_of_names hnames)

namespace TaskSystem

def pair : TaskSystem where
  store := ((Store.Memory.empty.create "a" Store.Memory.sample.spec "" default).2.create "b"
    Store.Memory.sample.spec "" default).2
  claims := (Sandbox.Memory.empty.insert "a" default).insert "b" default
  works := []
  log := []

def task (id : String) : Versioned := ⟨{ Store.Memory.sample with id, uid := some "" }, "1"⟩

theorem run_pair : Run empty pair :=
  .head ⟨"a", .create ⟨"", default, rfl⟩⟩ <| .head ⟨"b", .create ⟨"", default, rfl⟩⟩ <|
    .head ⟨"a", .insert default⟩ <| .single ⟨"b", .insert default⟩

def released : TaskSystem where
  store := pair.store
  claims := (pair.claims.delete (TaskId.claimName "a")).2
  works := [⟨"a", Program.done (Except.ok (ε := Reconcile.Error) ())⟩]
  log := [("a", .deleteClaim (task "a").record.sandbox)]

theorem RunOf.answer {id : String} {d : TaskSystem} {m m' : Store.Memory} {k k' : Sandbox.Memory}
    {log : List (String × Operation)} {op : Operation} {α : Type} {next : op.Answer → Routine α} {a : op.Answer}
    (h : m.Answers op a m') (hk : k.Serves op a k')
    (rest : RunOf id ⟨m', k', [⟨id, next a⟩], (id, op) :: log⟩ d) :
    RunOf id ⟨m, k, [⟨id, .call op next⟩], log⟩ d :=
  .head (@Step.answer id m m' k k' [] [] log op α next a h hk) rest

theorem runOf_released : RunOf "a" pair released :=
  .head (.release (t := task "a") (by decide +kernel)) <| RunOf.answer (a := .ok .deleted) rfl ⟨rfl, rfl⟩ .refl

end TaskSystem

theorem tasks_isolated_released : TaskSystem.Run .empty .pair ∧ TaskSystem.RunOf "a" .pair .released ∧
    TaskSystem.released.claims.claim? (TaskId.claimName "a") = none ∧
    TaskSystem.released.store.find "b" = some (TaskSystem.task "b") ∧
    TaskSystem.released.claims.claim? (TaskId.claimName "b") =
      some ⟨TaskId.claimName "b", "b", .unknown, default⟩ ∧
    ∀ op, TaskSystem.released.Asked "a" op → ¬ op.Names "b" := by
  obtain ⟨hfind, hclaim, hnames⟩ := tasks_isolated (i := "b") TaskSystem.run_pair TaskSystem.runOf_released (by decide)
  refine ⟨TaskSystem.run_pair, TaskSystem.runOf_released, by decide +kernel, hfind.trans ?_, hclaim.trans ?_, hnames⟩
  · decide +kernel
  · decide +kernel

end SandboxTasks
