import SandboxTasks.Operation
import SandboxTasks.Store.Memory

namespace SandboxTasks

/-- Answers that fit their request: what is stored under an ID bears it, and a write is answered with what was
written. -/
def Operation.Fits : (op : Operation) → op.Answer → Prop
  | .find id, .ok (some t) => t.record.id = id
  | .swap id _ status, .ok t => t.record.id = id ∧ t.record.status = status
  | _, _ => True

@[simp] def Operation.WritesTo (id : String) : Operation → Prop
  | .create i _ | .swap i _ _ | .erase i => i = id
  | _ => False

namespace Store

/-- What there is to know of a stored task: its record, if there is one, and the versions it had before. -/
structure View where
  current : Option Versioned
  retired : String → Prop
  fresh : ∀ t, current = some t → ¬ retired t.version

/-- The task was written in between: the version it had is retired, as those before it. -/
def View.Rewritten (v w : View) : Prop :=
  (∀ x, v.retired x → w.retired x) ∧ ∀ t, v.current = some t → w.retired t.version

/-- A store that honours compare-and-swap, as the clients of one task see it. -/
structure Contract (id : String) where
  State : Type
  serves : State → (op : Operation) → op.Answer → State → Prop
  view : State → View
  fits {s op a s'} : serves s op a s' → op.Fits a
  steady {s op a s'} : serves s op a s' → view s' = view s ∨ (view s).Rewritten (view s')
  elsewhere {s op a s'} : serves s op a s' → ¬ op.WritesTo id → view s' = view s
  find_ok {s found s'} : serves s (.find id) (.ok found) s' → found = (view s).current
  find_error {s e s'} : serves s (.find id) (.error e) s' → ∀ i, e ≠ .conflict i
  swap_ok {s version status t s'} : serves s (.swap id version status) (.ok t) s' →
    (view s).Rewritten (view s') ∧ (view s').current = some t ∧
      ∃ r, (view s).current = some r ∧ r.version = version ∧ t.record = { r.record with status }
  swap_error {s version status e s'} : serves s (.swap id version status) (.error e) s' → view s' = view s
  swap_conflict {s version status i s'} : serves s (.swap id version status) (.error (.conflict i)) s' →
    ∀ r, (view s).current = some r → r.version ≠ version
  swap_illegal {s version status i p q s'} :
    serves s (.swap id version status) (.error (.illegalTransition i p q)) s' →
      ∃ r, (view s).current = some r ∧ r.version = version ∧ r.record.status.mayBecome status = false

namespace Contract

variable {id : String} (C : Contract id)

def current (s : C.State) : Option Versioned := (C.view s).current

/-- The record was read of the task, and it is the current one unless its version is retired. -/
def Knows (s : C.State) (t : Versioned) : Prop := (C.view s).retired t.version ∨ C.current s = some t

variable {C} {s s' : C.State} {op : Operation} {a : op.Answer} {t : Versioned}

theorem knows_current (h : C.current s = some t) : C.Knows s t := .inr h

theorem Knows.carry (hk : C.Knows s t) (hs : C.serves s op a s') : C.Knows s' t := by
  rcases C.steady hs with he | hw
  · simpa only [Knows, current, he] using hk
  · rcases hk with hr | hc
    · exact .inl (hw.1 _ hr)
    · exact .inl (hw.2 _ hc)

theorem Knows.eq_of_version {r : Versioned} (hk : C.Knows s t) (hr : C.current s = some r)
    (hv : r.version = t.version) : r = t := by
  rcases hk with hretired | hc
  · exact absurd (hv ▸ hretired) ((C.view s).fresh r hr)
  · exact Option.some.inj (hr.symm.trans hc)

theorem Rewritten.current_ne {v w : View} (h : v.Rewritten w) (ht : v.current = some t) : w.current ≠ some t :=
  fun hw => w.fresh t hw (h.2 t ht)

end Contract

end Store

end SandboxTasks
