import SandboxTasks.Proofs.Conduct
import SandboxTasks.Sweep

namespace SandboxTasks

/-- IDs of the tasks that were to be removed, whether they were there or not. -/
def History.erased (past : History) : List String :=
  past.filterMap fun turn => match turn.op with
    | .erase id => some id
    | _ => none

namespace Sweep

/-- The claim was listed, is old enough and carries the ID of no task that needs it, as the tasks were listed. -/
structure Due (s : Settings) (past : History) (sandbox : SandboxRef) (id : String) : Prop where
  claimed : ∃ claims claim, ⟨.claims, .ok claims⟩ ∈ past ∧ claim ∈ claims ∧ claim.sandbox = sandbox ∧
    claim.task = some id ∧ ∃ now, past.head? = some ⟨.now, now⟩ ∧ isOld s.grace now claim
  orphaned : ∃ tasks, ⟨.list, .ok tasks⟩ ∈ past ∧ isOrphaned (tasks.map (·.record)) id

def May (s : Settings) (past : History) : Operation → Prop
  | .list => past = []
  | .claims | .now => True
  | .deleteClaim sandbox => past.erased = [] ∧ ∃ id, Due s past sandbox id
  | .erase id => ∃ done t rest now retention, ⟨.list, .ok (done ++ t :: rest)⟩ ∈ past ∧ t.record.id = id ∧
      s.retention = some retention ∧ isExpired retention now t.record ∧ ∀ i ∈ past.erased, i ∈ done.map (·.record.id)
  | _ => False

variable {s : Settings} {past : History} {α : Type}

theorem sweepClaims_conforms {tasks : List Versioned} {claims : List Sandbox.ClaimSummary}
    (hlist : ⟨.list, .ok tasks⟩ ∈ past) (hclaims : ⟨.claims, .ok claims⟩ ∈ past) (herased : past.erased = [])
    {rest : List Sandbox.ClaimSummary} (hrest : ∀ claim ∈ rest, claim ∈ claims) :
    Conforms (May s) (fun past' _ => ⟨.list, .ok tasks⟩ ∈ past' ∧ past'.erased = []) past
      (sweepClaims s (tasks.map (·.record)) rest) := by
  induction rest generalizing past with
  | nil => exact ⟨hlist, herased⟩
  | cons claim rest ih =>
      obtain ⟨hmem, hrest⟩ := List.forall_mem_cons.mp hrest
      unfold sweepClaims
      split
      · exact ih hlist hclaims herased hrest
      · next id hid =>
          refine .ask trivial fun now _ => ?_
          have hlist' : ⟨.list, .ok tasks⟩ ∈ (⟨.now, now⟩ :: past : History) := .tail _ hlist
          split
          · next hdue =>
              rw [Bool.and_eq_true] at hdue
              have hclaimed : Due s (⟨.now, now⟩ :: past) claim.sandbox id :=
                ⟨⟨claims, claim, .tail _ hclaims, hmem, rfl, hid, now, rfl, hdue.1⟩, tasks, hlist', hdue.2⟩
              refine .ask ⟨herased, id, hclaimed⟩ fun deleted _ => ?_
              have hgo := @ih (⟨.deleteClaim claim.sandbox, deleted⟩ :: ⟨.now, now⟩ :: past) (.tail _ hlist')
                (.tail _ (.tail _ hclaims)) herased hrest
              cases deleted with
              | ok _ => exact .bind (hgo.mono fun _ _ h => h)
              | error _ => exact hgo
          · exact ih hlist' (.tail _ hclaims) herased hrest

theorem sweepTasks_conforms {retention : Duration} {done rest : List Versioned} (hs : s.retention = some retention)
    (hlist : ⟨.list, .ok (done ++ rest)⟩ ∈ past) (herased : ∀ i ∈ past.erased, i ∈ done.map (·.record.id)) :
    Conforms (May s) (fun _ _ => True) past (sweepTasks retention (rest.map (·.record))) := by
  induction rest generalizing past done with
  | nil => exact trivial
  | cons t rest ih =>
      rw [List.map_cons, sweepTasks]
      refine .ask trivial fun now _ => ?_
      have hlist' : ⟨.list, .ok (done ++ [t] ++ rest)⟩ ∈ (⟨.now, now⟩ :: past : History) := by
        rw [List.append_cons] at hlist
        exact .tail _ hlist
      have hdone : ∀ i ∈ past.erased, i ∈ (done ++ [t]).map (·.record.id) := fun i hi => by
        simpa using .inl (List.mem_map.mp (herased i hi))
      split
      · next hdue =>
          refine .ask ⟨done, t, rest, now, retention, .tail _ hlist, rfl, hs, hdue, herased⟩ fun erased _ => ?_
          cases erased with
          | error e => exact trivial
          | ok b =>
              refine .bind ((@ih _ (done ++ [t]) (.tail _ hlist') fun i hi => ?_).mono fun _ _ h => h)
              rcases List.mem_cons.mp hi with rfl | hi
              · simp
              · exact hdone i hi
      · exact ih hlist' hdone

theorem once_conforms (s : Settings) : Conforms (May s) (fun _ _ => True) [] (once s) := by
  refine .ask rfl fun listed _ => ?_
  cases listed with
  | error e => exact trivial
  | ok tasks =>
      refine .ask trivial fun answered _ => ?_
      cases answered with
      | error e => exact trivial
      | ok claims =>
          have hlisted : ⟨.list, .ok tasks⟩ ∈ ([⟨.claims, .ok claims⟩, ⟨.list, .ok tasks⟩] : History) := .tail _ (.head _)
          refine .bind ((sweepClaims_conforms hlisted (.head _) rfl fun _ h => h).mono fun past' n hend => ?_)
          obtain ⟨hlist, herased⟩ := hend
          cases hs : s.retention with
          | none => exact trivial
          | some retention =>
              have hnone : ∀ i ∈ past'.erased, i ∈ ([] : List Versioned).map (·.record.id) := by simp [herased]
              refine .bind ((sweepTasks_conforms hs hlist hnone).mono fun _ result _ => ?_)
              cases result <;> exact trivial

end Sweep

end SandboxTasks
