import SandboxTasks.Proofs.Store.Contract

namespace SandboxTasks

structure Turn where
  op : Operation
  answer : op.Answer

namespace Turn

def wrote : Turn → Bool
  | ⟨.swap _ _ _, .ok _⟩ => true
  | _ => false

/-- The turn was to write the task, and another writer came first. -/
def lost : Turn → Bool
  | ⟨.swap _ _ _, .error (.conflict _)⟩ => true
  | _ => false

def failed : Turn → Bool
  | ⟨.swap _ _ _, .error (.conflict _)⟩ => false
  | ⟨.swap _ _ _, .error _⟩ | ⟨.find _, .error _⟩ | ⟨.find _, .ok none⟩ => true
  | _ => false

def shows? : Turn → Option Versioned
  | ⟨.find _, .ok found⟩ => found
  | ⟨.swap _ _ _, .ok task⟩ => some task
  | _ => none

theorem wrote_eq_false_of_shows {turn : Turn} (h : turn.shows? = none) : turn.wrote = false := by
  obtain ⟨op, answer⟩ := turn
  cases op with
  | swap => cases answer with
    | ok t => cases h
    | error e => rfl
  | _ => rfl

end Turn

/-- What a client did so far, the latest first. -/
abbrev History := List Turn

namespace History

def writes (past : History) : Nat := past.countP (·.wrote)

def Shows (past : History) (r : Record) : Prop := ∃ turn ∈ past, ∃ t, turn.shows? = some t ∧ t.record = r

def lastSeen? (past : History) : Option Versioned := past.findSome? (·.shows?)

@[simp] theorem writes_nil : writes [] = 0 := rfl

@[simp] theorem writes_cons (turn : Turn) (past : History) :
    writes (turn :: past) = writes past + if turn.wrote then 1 else 0 := List.countP_cons

@[simp] theorem lastSeen?_cons (turn : Turn) (past : History) :
    lastSeen? (turn :: past) = turn.shows?.or (lastSeen? past) := by
  cases h : turn.shows? <;> simp [lastSeen?, h]

theorem Shows.cons {past : History} {r : Record} (h : past.Shows r) (turn : Turn) : History.Shows (turn :: past) r := by
  obtain ⟨shown, hmem, h⟩ := h
  exact ⟨shown, .tail _ hmem, h⟩

theorem Shows.of_suffix {past earlier : History} {r : Record} (h : earlier.Shows r) (hpast : earlier <:+ past) :
    past.Shows r := by
  obtain ⟨shown, hmem, h⟩ := h
  exact ⟨shown, hpast.mem hmem, h⟩

theorem shows_of_lastSeen {past : History} {t : Versioned} (h : past.lastSeen? = some t) : past.Shows t.record := by
  obtain ⟨turn, hmem, hshows⟩ := List.exists_of_findSome?_eq_some h
  exact ⟨turn, hmem, t, hshows, rfl⟩

end History

variable {α β : Type}

/-- The routine only makes requests that may be made at that point, and ends as it may, whatever the answers. -/
def Conforms (may : History → Operation → Prop) (ends : History → α → Prop) : History → Routine α → Prop
  | past, .done a => ends past a
  | past, .call op next =>
      may past op ∧ ∀ answer, op.Fits answer → Conforms may ends (⟨op, answer⟩ :: past) (next answer)

namespace Conforms

variable {may : History → Operation → Prop} {past : History}

theorem mono {ends ends' : History → α → Prop} (h : ∀ past a, ends past a → ends' past a) {p : Routine α}
    (hp : Conforms may ends past p) : Conforms may ends' past p := by
  induction p generalizing past with
  | done a => exact h past a hp
  | call op next ih => exact ⟨hp.1, fun answer hfits => ih answer (hp.2 answer hfits)⟩

theorem weaken {may' : History → Operation → Prop} {ends : History → α → Prop}
    (h : ∀ past op, may past op → may' past op) {p : Routine α} (hp : Conforms may ends past p) :
    Conforms may' ends past p := by
  induction p generalizing past with
  | done a => exact hp
  | call op next ih => exact ⟨h past op hp.1, fun answer hfits => ih answer (hp.2 answer hfits)⟩

theorem and {may' : History → Operation → Prop} {ends ends' : History → α → Prop} {p : Routine α}
    (hp : Conforms may ends past p) (hp' : Conforms may' ends' past p) :
    Conforms (fun past op => may past op ∧ may' past op) (fun past a => ends past a ∧ ends' past a) past p := by
  induction p generalizing past with
  | done a => exact ⟨hp, hp'⟩
  | call op next ih =>
      exact ⟨⟨hp.1, hp'.1⟩, fun answer hfits => ih answer (hp.2 answer hfits) (hp'.2 answer hfits)⟩

theorem of_later {ends : History → α → Prop} (hmay : ∀ past' op, past <:+ past' → may past' op)
    (hends : ∀ past' a, past <:+ past' → ends past' a) (p : Routine α) : Conforms may ends past p := by
  induction p generalizing past with
  | done a => exact hends past a (List.suffix_refl past)
  | call op next ih =>
      refine ⟨hmay past op (List.suffix_refl past), fun answer _ => ih answer ?_ ?_⟩
      · exact fun past' op h => hmay past' op ((List.suffix_cons _ past).trans h)
      · exact fun past' a h => hends past' a ((List.suffix_cons _ past).trans h)

theorem bind {ends : History → β → Prop} {p : Routine α} {f : α → Routine β}
    (hp : Conforms may (fun past a => Conforms may ends past (f a)) past p) : Conforms may ends past (p >>= f) := by
  induction p generalizing past with
  | done a => exact hp
  | call op next ih => exact ⟨hp.1, fun answer hfits => ih answer (hp.2 answer hfits)⟩

theorem ask {ends : History → β → Prop} {op : Operation} {f : op.Answer → Routine β} (hop : may past op)
    (h : ∀ answer, op.Fits answer → Conforms may ends (⟨op, answer⟩ :: past) (f answer)) :
    Conforms may ends past (SandboxTasks.ask op >>= f) :=
  ⟨hop, h⟩

end Conforms

/-- What surrounds a routine: what may happen while it waits, and how its requests may be answered. -/
structure Surroundings (σ : Type) where
  waits : σ → σ → Prop
  answers : History → σ → (op : Operation) → op.Answer → σ → Prop

def Surroundings.fitting : Surroundings Unit := ⟨fun _ _ => True, fun _ _ op a _ => op.Fits a⟩

variable {σ : Type} {E : Surroundings σ}

/-- In its surroundings the routine only makes requests that may be made in the state they find, and ends as it may. -/
def Upholds (E : Surroundings σ) (may : History → σ → Operation → Prop) (ends : History → σ → α → Prop) :
    History → σ → Routine α → Prop
  | past, s, .done a => ends past s a
  | past, s, .call op next => ∀ s₁, E.waits s s₁ → may past s₁ op ∧
      ∀ answer s₂, E.answers past s₁ op answer s₂ → Upholds E may ends (⟨op, answer⟩ :: past) s₂ (next answer)

/-- The request may be made where `pre` holds, whatever happens until then, and once it is answered `post` holds. -/
def Asks (E : Surroundings σ) (may : History → σ → Operation → Prop) (pre : History → σ → Prop) (op : Operation)
    (post : op.Answer → History → σ → Prop) : Prop :=
  ∀ past s, pre past s → ∀ s₁, E.waits s s₁ → may past s₁ op ∧
    ∀ answer s₂, E.answers past s₁ op answer s₂ → post answer (⟨op, answer⟩ :: past) s₂

namespace Upholds

variable {may : History → σ → Operation → Prop} {past : History} {s s' : σ}

theorem mono {ends ends' : History → σ → α → Prop} (h : ∀ past s a, ends past s a → ends' past s a)
    {p : Routine α} (hp : Upholds E may ends past s p) : Upholds E may ends' past s p := by
  induction p generalizing past s with
  | done a => exact h past s a hp
  | call op next ih =>
      intro s₁ h₁
      obtain ⟨hmay, hnext⟩ := hp s₁ h₁
      exact ⟨hmay, fun answer s₂ hs => ih answer (hnext answer s₂ hs)⟩

theorem bind {ends : History → σ → β → Prop} {p : Routine α} {f : α → Routine β}
    (hp : Upholds E may (fun past s a => Upholds E may ends past s (f a)) past s p) :
    Upholds E may ends past s (p >>= f) := by
  induction p generalizing past s with
  | done a => exact hp
  | call op next ih =>
      intro s₁ h₁
      obtain ⟨hmay, hnext⟩ := hp s₁ h₁
      exact ⟨hmay, fun answer s₂ hs => ih answer (hnext answer s₂ hs)⟩

theorem of_later {ends : History → σ → α → Prop} {earlier : History} {p : Routine α} (hpast : earlier <:+ past)
    (hp : Upholds E (fun past' s op => earlier <:+ past' → may past' s op) ends past s p) :
    Upholds E may ends past s p := by
  induction p generalizing past s with
  | done a => exact hp
  | call op next ih =>
      intro s₁ h₁
      obtain ⟨hmay, hnext⟩ := hp s₁ h₁
      exact ⟨hmay hpast, fun answer s₂ hs => ih answer (hpast.trans (List.suffix_cons _ past)) (hnext answer s₂ hs)⟩

theorem carry {ends : History → σ → α → Prop} {p : Routine α} (hp : Upholds E may ends past s p)
    (hends : ∀ a, ends past s a → ends past s' a)
    (hwaits : ∀ op next, p = .call op next → ∀ s₁, E.waits s' s₁ → E.waits s s₁) : Upholds E may ends past s' p := by
  cases p with
  | done a => exact hends a hp
  | call op next => exact fun s₁ h₁ => hp s₁ (hwaits op next rfl s₁ h₁)

theorem suffix {ends : History → σ → α → Prop} {p : Routine α} (hp : Upholds E may ends past s p) :
    Upholds E may (fun past' s a => ends past' s a ∧ past <:+ past') past s p := by
  induction p generalizing past s with
  | done a => exact ⟨hp, List.suffix_refl past⟩
  | call op next ih =>
      intro s₁ h₁
      obtain ⟨hmay, hnext⟩ := hp s₁ h₁
      refine ⟨hmay, fun answer s₂ hs => (ih answer (hnext answer s₂ hs)).mono fun past' _ _ h => ?_⟩
      exact ⟨h.1, (List.suffix_cons _ past).trans h.2⟩

theorem ask {ends : History → σ → β → Prop} {pre : History → σ → Prop} {op : Operation} {f : op.Answer → Routine β}
    (hop : Asks E may pre op fun answer past s => Upholds E may ends past s (f answer)) (h : pre past s) :
    Upholds E may ends past s (SandboxTasks.ask op >>= f) :=
  hop past s h

theorem conforms {may : History → Unit → Operation → Prop} {ends : History → Unit → α → Prop} {p : Routine α}
    (hp : Upholds .fitting may ends past () p) : Conforms (fun past => may past ()) (fun past => ends past ()) past p := by
  induction p generalizing past with
  | done a => exact hp
  | call op next ih =>
      obtain ⟨hmay, hnext⟩ := hp () trivial
      exact ⟨hmay, fun answer hfits => ih answer (hnext answer () hfits)⟩

end Upholds

theorem Conforms.upholds {may : History → Operation → Prop} {ends : History → α → Prop} {past : History}
    {p : Routine α} (hp : Conforms may ends past p) :
    Upholds .fitting (fun past _ => may past) (fun past _ => ends past) past () p := by
  induction p generalizing past with
  | done a => exact hp
  | call op next ih => exact fun _ _ => ⟨hp.1, fun answer _ hfits => ih answer (hp.2 answer hfits)⟩

inductive AnsweredRun (serves : σ → (op : Operation) → op.Answer → σ → Prop) :
    σ → History → Routine α → σ → History → Routine α → Prop
  | refl {s past rest} : AnsweredRun serves s past rest s past rest
  | head {s s' t op next past log rest} {a : op.Answer} (h : serves s op a s')
      (hrest : AnsweredRun serves s' (⟨op, a⟩ :: past) (next a) t log rest) :
      AnsweredRun serves s past (.call op next) t log rest

/-- In these states, the task is stored as the record of a version, and the clock stands still. -/
structure Stores (serves : σ → (op : Operation) → op.Answer → σ → Prop) (instant : Instant)
    (state : Record → Nat → σ) : Prop where
  find : ∀ r n, serves (state r n) (.find r.id) (.ok (some ⟨r, toString n⟩)) (state r n)
  now : ∀ r n, serves (state r n) .now instant (state r n)
  swap : ∀ r n status, r.status.mayBecome status →
    serves (state r n) (.swap r.id (toString n) status) (.ok ⟨{ r with status }, toString (n + 1)⟩)
      (state { r with status } (n + 1))

theorem Stores.and {serves serves' : σ → (op : Operation) → op.Answer → σ → Prop} {instant : Instant}
    {state : Record → Nat → σ} (h : Stores serves instant state) (h' : Stores serves' instant state) :
    Stores (fun s op a s' => serves s op a s' ∧ serves' s op a s') instant state where
  find r n := ⟨h.find r n, h'.find r n⟩
  now r n := ⟨h.now r n, h'.now r n⟩
  swap r n status hstatus := ⟨h.swap r n status hstatus, h'.swap r n status hstatus⟩

namespace AnsweredRun

variable {serves : σ → (op : Operation) → op.Answer → σ → Prop} {instant : Instant} {state : Record → Nat → σ}
  {r : Record} {n : Nat} {t : σ} {past log : History} {rest : Routine α}
  {next : (Operation.find r.id).Answer → Routine α} {next' : Instant → Routine α}

theorem read (h : Stores serves instant state) (hfound : next (.ok (some ⟨r, toString n⟩)) = .call .now next')
    (hrest : AnsweredRun serves (state r n) (⟨.now, instant⟩ :: ⟨.find r.id, .ok (some ⟨r, toString n⟩)⟩ :: past)
      (next' instant) t log rest) :
    AnsweredRun serves (state r n) past (.call (.find r.id) next) t log rest := by
  refine .head (h.find r n) ?_
  rw [hfound]
  exact .head (h.now r n) hrest

/-- A round of a change that nobody beats. -/
theorem round {status : Status} {next'' : Except StoreError Versioned → Routine α} (h : Stores serves instant state)
    (hfound : next (.ok (some ⟨r, toString n⟩)) = .call .now next')
    (hchanged : next' instant = .call (.swap r.id (toString n) status) next'') (hstatus : r.status.mayBecome status)
    (hrest : AnsweredRun serves (state { r with status } (n + 1))
      (⟨.swap r.id (toString n) status, .ok ⟨{ r with status }, toString (n + 1)⟩⟩ :: ⟨.now, instant⟩ ::
        ⟨.find r.id, .ok (some ⟨r, toString n⟩)⟩ :: past) (next'' (.ok ⟨{ r with status }, toString (n + 1)⟩)) t log rest) :
    AnsweredRun serves (state r n) past (.call (.find r.id) next) t log rest := by
  refine .read h hfound ?_
  rw [hchanged]
  exact .head (h.swap r n status hstatus) hrest

end AnsweredRun

theorem forall_mem_replace.{u} {κ : Type u} {P : κ → Prop} {before after : List κ} {a b : κ}
    (h : ∀ x ∈ before ++ a :: after, P x) (hb : P b) : ∀ x ∈ before ++ b :: after, P x := by
  obtain ⟨hbefore, hafter⟩ := List.forall_mem_append.mp h
  exact List.forall_mem_append.mpr ⟨hbefore, List.forall_mem_cons.mpr ⟨hb, (List.forall_mem_cons.mp hafter).2⟩⟩

end SandboxTasks
