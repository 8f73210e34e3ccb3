import SandboxTasks.Proofs.Conduct
import SandboxTasks.Proofs.Store.Memory
import SandboxTasks.Store.Modify

namespace SandboxTasks.Store

variable {id : String} {C : Contract id} {α : Type}

structure Event (C : Contract id) where
  own : Bool
  before : C.State
  turn : Turn
  after : C.State

def Event.Writes (e : Event C) : Prop := C.current e.before ≠ C.current e.after

inductive Path (C : Contract id) : C.State → List (Event C) → C.State → Prop
  | nil (s) : Path C s [] s
  | cons {s s' s''} {op : Operation} {a : op.Answer} {es} (own) (h : C.serves s op a s') (rest : Path C s' es s'') :
      Path C s (⟨own, s, ⟨op, a⟩, s'⟩ :: es) s''

/-- A routine is run to its end, and others make requests before, between and after its own. -/
inductive Amid (C : Contract id) : Routine α → C.State → List (Event C) → C.State → α → Prop
  | done (s a) : Amid C (.done a) s [] s a
  | others {p : Routine α} {s s' s''} {op : Operation} {a : op.Answer} {es result} (h : C.serves s op a s')
      (rest : Amid C p s' es s'' result) : Amid C p s (⟨false, s, ⟨op, a⟩, s'⟩ :: es) s'' result
  | own {op : Operation} {next : op.Answer → Routine α} {s s' s''} {a : op.Answer} {es result}
      (h : C.serves s op a s') (rest : Amid C (next a) s' es s'' result) :
      Amid C (.call op next) s (⟨true, s, ⟨op, a⟩, s'⟩ :: es) s'' result

def Foreign (es : List (Event C)) : Prop := ∀ e ∈ es, e.own = false

def Idle (es : List (Event C)) : Prop := ∀ e ∈ es, e.own = true → ¬ e.Writes

theorem Foreign.idle {es : List (Event C)} (h : Foreign es) : Idle es := fun e he ho => by simp [h e he] at ho

theorem idle_append {es fs : List (Event C)} : Idle (es ++ fs) ↔ Idle es ∧ Idle fs := by
  simp only [Idle, List.mem_append, or_imp, forall_and]

theorem idle_cons {e : Event C} {es : List (Event C)} : Idle (e :: es) ↔ (e.own = true → ¬ e.Writes) ∧ Idle es := by
  simp only [Idle, List.mem_cons, forall_eq_or_imp]

theorem Path.append {s s' s'' : C.State} {es fs : List (Event C)} (h : Path C s es s') (h' : Path C s' fs s'') :
    Path C s (es ++ fs) s'' := by
  induction h with
  | nil => exact h'
  | cons own hs _ ih => exact .cons own hs (ih h')

/-- Either nobody wrote a task on the way and it is still the same, or somebody did and its version is retired. -/
theorem Path.version {s s' : C.State} {es : List (Event C)} {t : Versioned} (h : Path C s es s')
    (ht : C.current s = some t) :
    (∀ e ∈ es, ¬ e.Writes) ∧ C.current s' = some t ∨ (∃ e ∈ es, e.Writes) ∧ (C.view s').retired t.version := by
  have hretired {s s' es} (h : Path C s es s') (hr : (C.view s).retired t.version) :
      (C.view s').retired t.version := by
    induction h with
    | nil => exact hr
    | cons own hs _ ih =>
        rcases C.steady hs with he | hw
        · exact ih (he ▸ hr)
        · exact ih (hw.1 _ hr)
  induction h with
  | nil => exact .inl ⟨by simp, ht⟩
  | @cons s s₁ s₂ op a es own hs rest ih =>
      rcases C.steady hs with he | hw
      · have hsame : C.current s₁ = C.current s := by rw [Contract.current, he, Contract.current]
        rcases ih (hsame.trans ht) with ⟨hnone, hlast⟩ | ⟨⟨e, hmem, hwrites⟩, hlast⟩
        · refine .inl ⟨?_, hlast⟩
          rintro e (_ | ⟨_, hmem⟩)
          · exact fun hwrites => hwrites hsame.symm
          · exact hnone e hmem
        · exact .inr ⟨⟨e, .tail _ hmem, hwrites⟩, hlast⟩
      · refine .inr ⟨⟨_, .head _, fun hsame => ?_⟩, hretired rest (hw.2 t ht)⟩
        exact Contract.Rewritten.current_ne hw ht (hsame.symm.trans ht)

theorem not_writes_of_view {e : Event C} (h : C.view e.after = C.view e.before) : ¬ e.Writes :=
  fun hw => hw (congrArg View.current h).symm

namespace Amid

theorem done_inv {a result : α} {s s' : C.State} {es : List (Event C)} (h : Amid C (.done a) s es s' result) :
    result = a ∧ Foreign es := by
  generalize hp : (Program.done a : Routine α) = p at h
  induction h with
  | done => cases hp; exact ⟨rfl, by simp [Foreign]⟩
  | others hs _ ih => exact ⟨(ih hp).1, by simpa [Foreign] using (ih hp).2⟩
  | own => cases hp

theorem call_inv {op : Operation} {next : op.Answer → Routine α} {s s' : C.State} {es : List (Event C)} {result : α}
    (h : Amid C (.call op next) s es s' result) :
    ∃ lead s₁ a s₂ tail, es = lead ++ ⟨true, s₁, ⟨op, a⟩, s₂⟩ :: tail ∧ Path C s lead s₁ ∧ Foreign lead ∧
      C.serves s₁ op a s₂ ∧ Amid C (next a) s₂ tail s' result := by
  generalize hp : (Program.call op next : Routine α) = p at h
  induction h with
  | done => cases hp
  | others hs _ ih =>
      obtain ⟨lead, s₁, a, s₂, tail, rfl, hpath, hforeign, hserve, hrest⟩ := ih hp
      exact ⟨_ :: lead, s₁, a, s₂, tail, rfl, .cons false hs hpath, by simpa [Foreign] using hforeign, hserve, hrest⟩
  | own hs hrest => cases hp; exact ⟨[], _, _, _, _, rfl, .nil _, by simp [Foreign], hs, hrest⟩

theorem quiet_inv {op : Operation} {next : op.Answer → Routine α} {s s' : C.State} {es : List (Event C)} {result : α}
    (hop : ¬ op.WritesTo id) (h : Amid C (.call op next) s es s' result) :
    ∃ lead s₁ a s₂ tail, es = lead ++ ⟨true, s₁, ⟨op, a⟩, s₂⟩ :: tail ∧ Path C s lead s₁ ∧
      (∀ fs, Idle fs → Idle (lead ++ ⟨true, s₁, ⟨op, a⟩, s₂⟩ :: fs)) ∧ C.serves s₁ op a s₂ ∧
      C.current s₂ = C.current s₁ ∧ Amid C (next a) s₂ tail s' result := by
  obtain ⟨lead, s₁, a, s₂, tail, rfl, hpath, hforeign, hserve, hrest⟩ := h.call_inv
  have hview := C.elsewhere hserve hop
  refine ⟨lead, s₁, a, s₂, tail, rfl, hpath, fun fs hfs => ?_, hserve, congrArg View.current hview, hrest⟩
  exact idle_append.mpr ⟨hforeign.idle, idle_cons.mpr ⟨fun _ => not_writes_of_view hview, hfs⟩⟩

end Amid

structure Event.Reads (e : Event C) (r : Versioned) : Prop where
  own : e.own = true
  turn : e.turn = ⟨.find id, .ok (some r)⟩
  current : C.current e.before = some r

/-- In the course of `es` the change was decided on `r`, at the time the clock then showed. -/
def Decides (change : Change) (r : Versioned) (es : List (Event C)) (next : Option Status) : Prop :=
  ∃ clock ∈ es, ∃ now, clock.own = true ∧ clock.turn = ⟨.now, now⟩ ∧ change now r.record = next

/-- The one write: from the read that found `r` to the write that replaced it nobody wrote the task. -/
def Applies (change : Change) (es : List (Event C)) (t : Versioned) : Prop :=
  ∃ lead get mid put tail r next, es = lead ++ get :: (mid ++ put :: tail) ∧
    get.Reads r ∧ Decides change r mid (some next) ∧ (∀ e ∈ mid, ¬ e.Writes) ∧
    put.own = true ∧ put.turn = ⟨.swap id r.version next, .ok t⟩ ∧ put.Writes ∧
    C.current put.before = some r ∧ C.current put.after = some t ∧ t.record = { r.record with status := next } ∧
    Idle (lead ++ get :: mid) ∧ Idle tail

/-- Nothing was written, and `t` was current when it was read and called for no change. -/
def Declines (change : Change) (es : List (Event C)) (t : Versioned) : Prop :=
  ∃ lead get tail, es = lead ++ get :: tail ∧ get.Reads t ∧ Decides change t tail none ∧ Idle es

/-- So many rounds, one after the other, in each of which another client wrote the task between the read and the
swap that was decided on it. -/
def Beaten (change : Change) : Nat → List (Event C) → Prop
  | 0, _ => True
  | rounds + 1, es => ∃ lead get mid put tail r next i, es = lead ++ get :: (mid ++ put :: tail) ∧
      get.Reads r ∧ Decides change r mid (some next) ∧ (∃ e ∈ mid, e.own = false ∧ e.Writes) ∧
      put.own = true ∧ put.turn = ⟨.swap id r.version next, .error (.conflict i)⟩ ∧ Beaten change rounds tail

/-- Why a change failed: every round was beaten, or the task was not there, or the store failed. -/
def Fails (change : Change) (rounds : Nat) (es : List (Event C)) (e : StoreError) : Prop :=
  e = .conflict id ∧ Beaten change rounds es ∨
  (∀ i, e ≠ .conflict i) ∧ ∃ x ∈ es, x.own = true ∧
    (x.turn = ⟨.find id, .ok none⟩ ∧ C.current x.before = none ∧ e = .notFound id ∨
      x.turn = ⟨.find id, .error e⟩ ∨ ∃ version next, x.turn = ⟨.swap id version next, .error e⟩)

def Settles (change : Change) (rounds : Nat) (es : List (Event C)) : Except StoreError Modified → Prop
  | .ok (.applied t) => Applies change es t
  | .ok (.unchanged t) => Declines change es t
  | .error e => Idle es ∧ Fails change rounds es e

/-- A round has come to its swap: `r` was read and decided on, and the client has written nothing. -/
structure AtSwap (change : Change) (lead : List (Event C)) (get : Event C) (mid : List (Event C)) (r : Versioned)
    (next : Status) (s : C.State) : Prop where
  reads : get.Reads r
  found : C.current get.after = some r
  path : Path C get.after mid s
  decides : Decides change r mid (some next)
  idle_lead : Idle (lead ++ [get])
  idle_mid : Idle mid

namespace AtSwap

variable {change : Change} {lead mid tail : List (Event C)} {get : Event C} {r t : Versioned} {next : Status}
  {s s' : C.State}

theorem idle (h : AtSwap change lead get mid r next s) : Idle (lead ++ get :: mid) := by
  rw [List.append_cons]
  exact idle_append.mpr ⟨h.idle_lead, h.idle_mid⟩

theorem beaten_or_current (h : AtSwap change lead get mid r next s) :
    (∀ e ∈ mid, ¬ e.Writes) ∧ C.current s = some r ∨
      (∃ e ∈ mid, e.own = false ∧ e.Writes) ∧ (C.view s).retired r.version := by
  rcases h.path.version h.found with hcurrent | ⟨⟨e, he, hwrites⟩, hretired⟩
  · exact .inl hcurrent
  · have hforeign : e.own = false := by
      by_contra hown
      exact h.idle_mid e he (by simpa using hown) hwrites
    exact .inr ⟨⟨e, he, hforeign, hwrites⟩, hretired⟩

theorem applies (h : AtSwap change lead get mid r next s)
    (hswap : C.serves s (.swap id r.version next) (.ok t) s') (htail : Foreign tail) :
    Applies change (lead ++ get :: (mid ++ ⟨true, s, ⟨.swap id r.version next, .ok t⟩, s'⟩ :: tail)) t := by
  obtain ⟨hrewritten, hafter, q, hq, hversion, hrecord⟩ := C.swap_ok hswap
  rcases h.beaten_or_current with ⟨hquiet, hcurrent⟩ | ⟨-, hretired⟩
  · cases hq.symm.trans hcurrent
    have hwrites : C.current s ≠ C.current s' := fun hsame =>
      Contract.Rewritten.current_ne hrewritten hcurrent (hsame.symm.trans hcurrent)
    exact ⟨lead, get, mid, _, tail, r, next, rfl, h.reads, h.decides, hquiet, rfl, rfl, hwrites, hcurrent, hafter,
      hrecord, h.idle, htail.idle⟩
  · exact absurd (hversion ▸ hretired) ((C.view s).fresh q hq)

theorem idle_refused {e : StoreError} (h : AtSwap change lead get mid r next s)
    (hswap : C.serves s (.swap id r.version next) (.error e) s') {es : List (Event C)} (hes : Idle es) :
    Idle (lead ++ get :: (mid ++ ⟨true, s, ⟨.swap id r.version next, .error e⟩, s'⟩ :: es)) := by
  rw [← List.cons_append, ← List.append_assoc]
  exact idle_append.mpr ⟨h.idle, idle_cons.mpr ⟨fun _ => not_writes_of_view (C.swap_error hswap), hes⟩⟩

theorem fails {e : StoreError} {rounds : Nat} (h : AtSwap change lead get mid r next s)
    (hswap : C.serves s (.swap id r.version next) (.error e) s') (he : ∀ i, e ≠ .conflict i) (htail : Foreign tail) :
    Settles change rounds (lead ++ get :: (mid ++ ⟨true, s, ⟨.swap id r.version next, .error e⟩, s'⟩ :: tail))
      (.error e) :=
  ⟨h.idle_refused hswap htail.idle, .inr ⟨he, ⟨true, s, ⟨.swap id r.version next, .error e⟩, s'⟩, by simp, rfl,
    .inr (.inr ⟨_, _, rfl⟩)⟩⟩

theorem lost {rounds : Nat} {i : String} {result : Except StoreError Modified}
    (h : AtSwap change lead get mid r next s)
    (hswap : C.serves s (.swap id r.version next) (.error (.conflict i)) s')
    (hrest : Settles change rounds tail result) :
    Settles change (rounds + 1)
      (lead ++ get :: (mid ++ ⟨true, s, ⟨.swap id r.version next, .error (.conflict i)⟩, s'⟩ :: tail)) result := by
  obtain ⟨-, hcurrent⟩ | ⟨hbeaten, -⟩ := h.beaten_or_current
  · exact absurd rfl (C.swap_conflict hswap r hcurrent)
  have hround : Idle (lead ++ get :: (mid ++ [⟨true, s, ⟨.swap id r.version next, .error (.conflict i)⟩, s'⟩])) :=
    h.idle_refused hswap (by simp [Idle])
  generalize hput : (⟨true, s, ⟨.swap id r.version next, .error (.conflict i)⟩, s'⟩ : Event C) = put at *
  have hsplit : lead ++ get :: (mid ++ put :: tail) = (lead ++ get :: (mid ++ [put])) ++ tail := by simp
  match result with
  | .ok (.applied t) =>
      obtain ⟨lead', get', mid', put', tail', r', next', rfl, hreads, hdecides, hquiet, hown, hturn, hwrites, hbefore,
        hafter, hrecord, hidle, hidle'⟩ := hrest
      refine ⟨lead ++ get :: (mid ++ [put]) ++ lead', get', mid', put', tail', r', next', by simp, hreads, hdecides,
        hquiet, hown, hturn, hwrites, hbefore, hafter, hrecord, ?_, hidle'⟩
      rw [List.append_assoc (lead ++ get :: (mid ++ [put]))]
      exact idle_append.mpr ⟨hround, hidle⟩
  | .ok (.unchanged t) =>
      obtain ⟨lead', get', tail', rfl, hreads, hdecides, hidle⟩ := hrest
      refine ⟨lead ++ get :: (mid ++ [put]) ++ lead', get', tail', by simp, hreads, hdecides, ?_⟩
      rw [hsplit]
      exact idle_append.mpr ⟨hround, hidle⟩
  | .error e =>
      obtain ⟨hidle, hfail⟩ := hrest
      refine ⟨by rw [hsplit]; exact idle_append.mpr ⟨hround, hidle⟩, ?_⟩
      rcases hfail with ⟨rfl, hrounds⟩ | ⟨hne, x, hx, hcause⟩
      · exact .inl ⟨rfl, lead, get, mid, put, tail, r, next, i, rfl, h.reads, h.decides, hbeaten, hput ▸ rfl,
          hput ▸ rfl, hrounds⟩
      · exact .inr ⟨hne, x, by rw [hsplit]; exact List.mem_append_right _ hx, hcause⟩

end AtSwap

/-- By induction on the rounds: each one settles the change or is lost to another client. -/
theorem modifyWithin_settles {change : Change} {rounds : Nat} {s s' : C.State} {es : List (Event C)}
    {result : Except StoreError Modified} (h : Amid C (modifyWithin rounds id change) s es s' result) :
    Settles change rounds es result := by
  induction rounds generalizing s es with
  | zero =>
      obtain ⟨rfl, hforeign⟩ := Amid.done_inv h
      exact ⟨hforeign.idle, .inl ⟨rfl, trivial⟩⟩
  | succ rounds ih =>
      obtain ⟨lead, s₁, found, s₂, es₁, rfl, -, hidle₁, hfind, hview, h₁⟩ := Amid.quiet_inv (by simp) h
      match found, hfind, hidle₁, h₁ with
      | .error e, hfind, hidle₁, h₁ =>
          obtain ⟨rfl, htail⟩ := Amid.done_inv h₁
          exact ⟨hidle₁ _ htail.idle, .inr ⟨C.find_error hfind, _, List.mem_append_right _ (.head _), rfl,
            .inr (.inl rfl)⟩⟩
      | .ok none, hfind, hidle₁, h₁ =>
          obtain ⟨rfl, htail⟩ := Amid.done_inv h₁
          have hgone : C.current s₁ = none := (C.find_ok hfind).symm
          exact ⟨hidle₁ _ htail.idle, .inr ⟨by simp, _, List.mem_append_right _ (.head _), rfl,
            .inl ⟨rfl, hgone, rfl⟩⟩⟩
      | .ok (some r), hfind, hidle₁, h₁ =>
          have hreads : (⟨true, s₁, ⟨.find id, .ok (some r)⟩, s₂⟩ : Event C).Reads r :=
            ⟨rfl, rfl, (C.find_ok hfind).symm⟩
          have hfound : C.current s₂ = some r := hview.trans hreads.current
          obtain ⟨mid₁, s₃, now, s₄, es₂, rfl, hpath₁, hidle₂, hnow, -, h₂⟩ := Amid.quiet_inv (by simp) h₁
          have hdecides {next} (hnext : change now r.record = next) (es : List (Event C)) :
              Decides change r (mid₁ ++ ⟨true, s₃, ⟨.now, now⟩, s₄⟩ :: es) next :=
            ⟨_, List.mem_append_right _ (.head _), now, rfl, rfl, hnext⟩
          cases hnext : change now r.record with
          | none =>
              simp only [Program.bind, hnext] at h₂
              obtain ⟨rfl, htail⟩ := Amid.done_inv h₂
              exact ⟨lead, _, _, rfl, hreads, hdecides hnext _, hidle₁ _ (hidle₂ _ htail.idle)⟩
          | some next =>
              simp only [Program.bind, hnext] at h₂
              obtain ⟨mid₂, s₅, swapped, s₆, tail, rfl, hpath₂, hmid₂, hswap, h₃⟩ := Amid.call_inv h₂
              have hat : AtSwap change lead ⟨true, s₁, ⟨.find id, .ok (some r)⟩, s₂⟩
                  (mid₁ ++ ⟨true, s₃, ⟨.now, now⟩, s₄⟩ :: mid₂) r next s₅ :=
                ⟨hreads, hfound, hpath₁.append (.cons true hnow hpath₂), hdecides hnext _, hidle₁ [] (by simp [Idle]),
                  hidle₂ _ hmid₂.idle⟩
              rw [List.append_cons mid₁, ← List.append_assoc, List.append_assoc mid₁]
              cases swapped with
              | ok t =>
                  obtain ⟨rfl, htail⟩ := Amid.done_inv h₃
                  exact hat.applies hswap htail
              | error e =>
                  cases e with
                  | conflict i => exact hat.lost hswap (ih h₃)
                  | notFound | alreadyExists | illegalTransition | malformed | cluster =>
                      obtain ⟨rfl, htail⟩ := Amid.done_inv h₃
                      exact hat.fails hswap (by simp) htail

/-- A change is atomic, whatever other clients do to the store meanwhile. -/
theorem modify_atomic {change : Change} {s s' : C.State} {es : List (Event C)} {result : Except StoreError Modified}
    (h : Amid C (modify id change) s es s' result) :
    match result with
    | .ok (.applied t) => Applies change es t
    | .ok (.unchanged t) => Declines change es t
    | .error e => Idle es ∧ Fails change rounds es e := by
  have hsettles := modifyWithin_settles h
  match result with
  | .ok (.applied _) | .ok (.unchanged _) | .error _ => exact hsettles

/-- A cancel whose first round is beaten by another client. -/
theorem modify_atomic_beaten_once : ∃ es record, Amid (Memory.contract "task") (modify "task" Change.cancel)
      (Memory.holding Memory.sample 1) es (Memory.holding record 3) (.ok (.applied ⟨record, toString 3⟩)) ∧
    (∃ e ∈ es, e.own = false ∧ e.Writes) ∧ Applies Change.cancel es ⟨record, toString 3⟩ := by
  suffices h : ∃ es record, Amid (Memory.contract "task") (modify "task" Change.cancel)
      (Memory.holding Memory.sample 1) es (Memory.holding record 3) (.ok (.applied ⟨record, toString 3⟩)) ∧
        ∃ e ∈ es, e.own = false ∧ e.Writes by
    obtain ⟨es, record, hamid, hbeaten⟩ := h
    exact ⟨es, record, hamid, hbeaten, modify_atomic hamid⟩
  refine ⟨_, _, .own Memory.holding_find <| .others Memory.holding_touch <| .own (Memory.holding_now default) <|
    .own (Memory.holding_conflict (by decide)) <| .own Memory.holding_find <|
    .own (Memory.holding_now default) <| .own (Memory.holding_swap rfl) <| .done _ _, ?_⟩
  refine ⟨_, .tail _ (.head _), rfl, fun hsame => ?_⟩
  have hversion := Memory.current_holding.symm.trans (hsame.trans Memory.current_holding)
  exact absurd (Text.toString_inj (Versioned.mk.inj (Option.some.inj hversion)).2) (by decide)

end SandboxTasks.Store
