import SandboxTasks.Proofs.Concurrent.Among

namespace SandboxTasks

open Store Reconcile

def History.Allowed (may : History → Operation → Prop) : History → Prop
  | [] => True
  | turn :: past => may past turn.op ∧ Allowed may past

section Obey

variable {may : Policy → History → Operation → Prop} {ends : Policy → History → Except Error Outcome → Prop}

def Thread.Obeys (may : Policy → History → Operation → Prop) (ends : Policy → History → Except Error Outcome → Prop)
    (t : Thread) : Prop :=
  ∀ p n past mode, t = ⟨.pass p n, past, mode⟩ →
    past.Allowed (may p) ∧ ∀ rest, mode = .running rest → Conforms (may p) (ends p) past rest

variable {id : String} {C : Contract id} {others : C.State → C.State → Prop} {alone : Job → Prop} {c : Pool C}
  {s' : C.State} {u : Thread}

theorem Origin.obeys (h : Origin C others alone c s' u)
    (hpass : ∀ p n, Conforms (may p) (ends p) [] (pass p n id))
    (hc : ∀ t ∈ c.threads, t.job = u.job → t.Obeys may ends) : u.Obeys may ends := by
  cases h with
  | kept h => exact hc u h rfl
  | started j =>
      rintro p n past mode ⟨⟩
      refine ⟨trivial, ?_⟩
      rintro _ ⟨⟩
      exact hpass p n
  | answered h hs =>
      rintro p n past mode ⟨⟩
      obtain ⟨hallowed, hconforms⟩ := hc _ h rfl p n _ _ rfl
      obtain ⟨hmay, hnext⟩ := hconforms _ rfl
      refine ⟨⟨hmay, hallowed⟩, ?_⟩
      rintro _ ⟨⟩
      exact hnext _ (C.fits hs)
  | dropped h =>
      rintro p n past mode ⟨⟩
      exact ⟨(hc _ h rfl p n _ _ rfl).1, fun _ hmode => nomatch hmode⟩
  | lost h hs =>
      rintro p n past mode ⟨⟩
      obtain ⟨hallowed, hconforms⟩ := hc _ h rfl p n _ _ rfl
      exact ⟨⟨(hconforms _ rfl).1, hallowed⟩, fun _ hmode => nomatch hmode⟩

end Obey

variable {id : String} {C : Contract id}

def Thread.Unfailed (C : Contract id) (s : C.State) (t : Thread) : Prop :=
  ∀ turn ∈ t.past, turn.failed → C.current s = none

theorem gone_of_failed {s s' : C.State} {j : Job} {past : History} {op : Operation} {a : op.Answer}
    (hreliable : C.Reliable) (hknows : ∀ r, past.lastSeen? = some r → C.Knows s r) (hmay : j.May id past op)
    (h : C.serves s op a s') (hfailed : (⟨op, a⟩ : Turn).failed) : C.current s' = none := by
  have hrefused := not_refused hknows hmay h
  cases op with
  | find i =>
      obtain rfl : i = id := hmay
      cases a with
      | error e => exact (hreliable.find _ _ _ h).elim
      | ok found =>
          cases found with
          | some t => cases hfailed
          | none => rw [Contract.current, C.elsewhere h (by simp), ← C.find_ok h]
  | swap i version status =>
      obtain ⟨rfl, -⟩ := hmay
      cases a with
      | ok t => cases hfailed
      | error e =>
          obtain hgone | ⟨j, rfl⟩ | ⟨j, p, q, rfl⟩ := hreliable.swap _ _ _ _ _ h
          · rw [Contract.current, C.swap_error h]
            exact hgone
          · cases hfailed
          · exact absurd ⟨_, _, _, _, _, _, rfl⟩ hrefused
  | _ => cases hfailed

theorem Origin.unfailed {others : C.State → C.State → Prop} {alone : Job → Prop} {c : Pool C} {s' : C.State}
    {u : Thread} (h : Origin C others alone c s' u) (hreliable : C.Reliable) (hsound : c.Sound)
    (hothers : ∀ s s', others s s' → Spares (C.current s) (C.current s'))
    (hc : ∀ t ∈ c.threads, t.job = u.job → t.Unfailed C c.state) : u.Unfailed C s' := by
  have hserved {j : Job} {past : History} {op : Operation} {next : op.Answer → Routine j.Result} {a : op.Answer}
      {mode : Mode j.Result} (ht : ⟨j, past, .running (.call op next)⟩ ∈ c.threads) (hs : C.serves c.state op a s')
      (hunfailed : (⟨j, past, .running (.call op next)⟩ : Thread).Unfailed C c.state) :
      (⟨j, ⟨op, a⟩ :: past, mode⟩ : Thread).Unfailed C s' := by
    have hforeign : Foreign C others False c s' := .job ht ⟨next, rfl⟩ False.elim hs
    have hm := hforeign.meanwhile hsound hothers
    have hnew := gone_of_failed hreliable (hsound _ ht).knows ((hsound _ ht).may ⟨next, rfl⟩) hs
    exact List.forall_mem_cons.mpr ⟨hnew, fun turn hturn hfailed => hm.gone (hunfailed turn hturn hfailed)⟩
  cases h with
  | kept h hforeign =>
      have hm := hforeign.meanwhile hsound hothers
      exact fun turn hturn hfailed => hm.gone (hc u h rfl turn hturn hfailed)
  | started j =>
      intro turn hturn
      cases hturn
  | answered h hs => exact hserved h hs (hc _ h rfl)
  | dropped h hs =>
      intro turn hturn hfailed
      rw [hs]
      exact hc _ h rfl turn hturn hfailed
  | lost h hs => exact hserved h hs (hc _ h rfl)

end SandboxTasks
