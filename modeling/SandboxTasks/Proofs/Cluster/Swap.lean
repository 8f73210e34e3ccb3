import SandboxTasks.Proofs.Cluster.Server
import SandboxTasks.Proofs.Store.Memory

namespace SandboxTasks.Cluster.TaskStore

open Json Store

def found (r : Response) : Routine (Except StoreError (Option Versioned)) :=
  match orAbsent (r.read decodeTask) with
  | .ok none => return .ok none
  | .ok (some o) => return (← ofObject o).map some
  | .error e => return .error (.cluster e)

def decided (space id version : String) (next : Status) :
    Except StoreError (Option Versioned) → Routine (Except StoreError Versioned)
  | .error e => return .error e
  | .ok none => return .error (.notFound id)
  | .ok (some current) =>
    if current.version ≠ version then return .error (.conflict id)
    else if current.record.status.mayBecome next then patchStatus space id version current.record.status next
    else return .error (.illegalTransition id current.record.status.phase next.phase)

def settled (id : String) (r : Response) : Routine (Except StoreError Versioned) :=
  match r.read decodeTask with
  | .ok o => ofObject o
  | .error (.refused 409 _ _) => return .error (.conflict id)
  | .error (.refused 404 _ _) => return .error (.notFound id)
  | .error e => return .error (.cluster e)

theorem swap_eq (a : Address) (version : String) (next : Status) : swap a.space a.id version next =
    .call (.send ⟨.get, a.whole⟩) fun r => (found r).bind (decided a.space a.id version next) := by
  unfold swap find request
  rw [a.whole_eq]
  rfl

theorem patchStatus_eq (a : Address) (version : String) (current next : Status) :
    patchStatus a.space a.id version current next =
      .call (.send ⟨.merge (statusPatch version current next), a.part⟩) (settled a.id) := by
  unfold patchStatus request
  rw [a.part_eq]
  rfl

variable {r : Response} {id : String} {h : Held} {st : Status}

theorem found_missing (hr : r.Refuses 404 "NotFound") : found r = .done (.ok none) := by
  obtain ⟨message, hread⟩ := hr.read decodeTask
  rw [found, hread]
  rfl

theorem found_shown (hr : r.Shows id h) (hst : h.Reads st) : found r = .done (.ok (some (h.task id st))) := by
  obtain ⟨o, hread, htask⟩ := hr.read hst
  rw [found, hread]
  simp only [orAbsent, htask]
  rfl

theorem settled_shown (hr : r.Shows id h) (hst : h.Reads st) : settled id r = .done (.ok (h.task id st)) := by
  obtain ⟨o, hread, htask⟩ := hr.read hst
  rw [settled, hread]
  exact htask

theorem settled_stale {reason : String} (hr : r.Refuses 409 reason) : settled id r = .done (.error (.conflict id)) := by
  obtain ⟨message, hread⟩ := hr.read decodeTask
  rw [settled, hread]
  rfl

theorem settled_gone {reason : String} (hr : r.Refuses 404 reason) : settled id r = .done (.error (.notFound id)) := by
  obtain ⟨message, hread⟩ := hr.read decodeTask
  rw [settled, hread]
  rfl

def Represents (id : String) (s : ServerState) (m : Memory) : Prop :=
  Option.Rel (fun h e => ∃ st, h.Reads st ∧ e.record = (h.task id st).record) s.held (m.stored? id)

/-- The version is to the server what the token is to the memory: the current one or not. -/
def SameToken (id version token : String) (s : ServerState) (m : Memory) : Prop :=
  ∀ h e, s.held = some h → m.stored? id = some e → (h.version = version ↔ toString e.version = token)

/-- At this moment the store in memory would have given the answer, and would hold the same task afterwards. -/
def Matches (o : Moment) (id version : String) (next : Status) (answer : Except StoreError Versioned) : Prop :=
  ∀ m token, Represents id o.before m → SameToken id version token o.before m →
    answer.map (·.record) = (m.swap id token next).1.map (·.record) ∧ Represents id o.after (m.swap id token next).2

theorem exists_represents {s : ServerState} (hs : s.Sound) (id version : String) :
    ∃ m token, Represents id s m ∧ SameToken id version token s m := by
  cases hheld : s.held with
  | none =>
      refine ⟨.empty, "", ?_, fun h e hh => ?_⟩
      · rw [Represents, hheld]
        exact .none
      · rw [hheld] at hh
        cases hh
  | some h =>
      obtain ⟨-, st, hst⟩ := hs h hheld
      have hstored : Memory.stored? ⟨[⟨(h.task id st).record, 1⟩]⟩ id = some ⟨(h.task id st).record, 1⟩ := by
        simp [Memory.stored?, Held.task]
      refine ⟨⟨[⟨(h.task id st).record, 1⟩]⟩, if h.version = version then toString 1 else "", ?_, fun h' e hh he => ?_⟩
      · rw [Represents, hheld, hstored]
        exact .some ⟨st, hst.reads, rfl⟩
      · cases hheld.symm.trans hh
        cases hstored.symm.trans he
        by_cases hv : h.version = version
        · simp [hv]
        · simp only [hv, if_false, false_iff]
          decide

theorem represents_some {s : ServerState} {m : Memory} (hm : Represents id s m) (hs : s.held = some h) (hst : h.Reads st) :
    ∃ e, m.stored? id = some e ∧ e.record = (h.task id st).record := by
  unfold Represents at hm
  rw [hs] at hm
  generalize hstored : m.stored? id = stored at hm
  cases hm with
  | some hrel =>
      obtain ⟨st', hst', hrecord⟩ := hrel
      cases hst.unique hst'
      exact ⟨_, rfl, hrecord⟩

theorem represents_none {s : ServerState} {m : Memory} (hm : Represents id s m) (hs : s.held = none) :
    m.stored? id = none := by
  unfold Represents at hm
  rw [hs] at hm
  generalize m.stored? id = stored at hm
  cases hm
  rfl

variable {request : Option Request} {s s' : ServerState} {version : String} {next : Status}

theorem matches_absent (hs : s.held = none) : Matches ⟨request, s, s⟩ id version next (.error (.notFound id)) := by
  intro m token hm _
  have hstored := represents_none hm hs
  simp only [Memory.swap, hstored]
  exact ⟨trivial, hm⟩

theorem matches_stale (hs : s.held = some h) (hst : h.Reads st) (hv : h.version ≠ version) :
    Matches ⟨request, s, s⟩ id version next (.error (.conflict id)) := by
  intro m token hm htoken
  obtain ⟨e, he, -⟩ := represents_some hm hs hst
  have hne : toString e.version ≠ token := fun heq => hv ((htoken h e hs he).mpr heq)
  simp only [Memory.swap, he, hne, ne_eq, not_false_eq_true, if_true]
  exact ⟨trivial, hm⟩

theorem matches_illegal (hs : s.held = some h) (hst : h.Reads st) (hv : h.version = version)
    (hmay : st.mayBecome next = false) :
    Matches ⟨request, s, s⟩ id version next (.error (.illegalTransition id st.phase next.phase)) := by
  intro m token hm htoken
  obtain ⟨e, he, hrecord⟩ := represents_some hm hs hst
  have heq : toString e.version = token := (htoken h e hs he).mp hv
  have hstatus : e.record.status = st := by rw [hrecord]; rfl
  simp only [Memory.swap, he, heq, ne_eq, not_true_eq_false, if_false, hstatus, hmay, Bool.false_eq_true]
  exact ⟨trivial, hm⟩

theorem matches_written {h' : Held} {given : List String} (hs : s.held = some h) (hst : h.Reads st)
    (hv : h.version = version) (hmay : st.mayBecome next = true) (hnext : h'.Reads next)
    (hsame : (h'.task id next).record = (h.task id next).record) :
    Matches ⟨request, s, ⟨some h', given⟩⟩ id version next (.ok (h'.task id next)) := by
  intro m token hm htoken
  obtain ⟨e, he, hrecord⟩ := represents_some hm hs hst
  have heq : toString e.version = token := (htoken h e hs he).mp hv
  have hstatus : e.record.status = st := by rw [hrecord]; rfl
  have hwritten : (Memory.Entry.write e next).record = (h'.task id next).record := by
    rw [hsame, Memory.Entry.write, hrecord]
    rfl
  generalize hswap : m.swap id token next = result
  obtain ⟨answer, m'⟩ := result
  cases Memory.swaps_of_eq hswap with
  | absent hnone => rw [he] at hnone; cases hnone
  | stale he' hv' => cases he.symm.trans he'; exact absurd heq hv'
  | illegal he' _ hl =>
      cases he.symm.trans he'
      rw [hstatus, hmay] at hl
      cases hl
  | written he' _ hat =>
      cases he.symm.trans he'
      refine ⟨congrArg Except.ok hwritten.symm, ?_⟩
      unfold Represents
      rw [hat id, if_pos rfl]
      exact .some ⟨next, hnext, hwritten⟩

def Kept (log : List Moment) : Prop := ∀ o ∈ log, o.isOwn → o.after = o.before

theorem kept_others {log : List Moment} (h : s.Others log s') : Kept log := fun o ho hown => by
  rw [h.not_own o ho] at hown
  cases hown

theorem kept_append {early late : List Moment} (hearly : s.Others early s') (hlate : Kept late) :
    Kept (early ++ ⟨request, s', s'⟩ :: late) := fun o ho hown => by
  rcases List.mem_append.mp ho with ho | ho
  · exact kept_others hearly o ho hown
  · rcases List.mem_cons.mp ho with rfl | ho
    · rfl
    · exact hlate o ho hown

/-- What a call of compare-and-swap may be said to have done, by its answer and by all that happened meanwhile. -/
structure Refines (a : Address) (version : String) (next : Status) (log : List Moment)
    (answer : Except StoreError Versioned) : Prop where
  matched : ∃ o ∈ log, o.isOwn ∧ (∃ m token, Represents a.id o.before m ∧ SameToken a.id version token o.before m) ∧
    Matches o a.id version next answer
  failed : ∀ e, answer = .error e → Kept log
  succeeded : ∀ task, answer = .ok task → ∃ early read write late h j, log = early ++ read :: write :: late ∧
    (∀ o ∈ early ++ late, o.isOwn = false) ∧ read.request = some ⟨.get, a.whole⟩ ∧
    (∃ patch, write.request = some ⟨.merge patch, a.part⟩) ∧ write.after.held = some h ∧ h.version = task.version ∧
    h.status = some j ∧ Status.decode j = .ok next

theorem refines_failed {a : Address} {log : List Moment} {e : StoreError} {o : Moment} (ho : o ∈ log)
    (hown : o.isOwn) (hsound : o.before.Sound) (hm : Matches o a.id version next (.error e)) (hkept : Kept log) :
    Refines a version next log (.error e) where
  matched := ⟨o, ho, hown, exists_represents hsound a.id version, hm⟩
  failed _ _ := hkept
  succeeded _ h := by cases h

def Waits (a : Address) (log : List Moment) (q : Routine (Except StoreError Versioned)) : Prop :=
  (∃ go, q = .call (.send ⟨.get, a.whole⟩) go ∧ log.countP (·.isOwn) = 0) ∨
    ∃ patch go, q = .call (.send ⟨.merge patch, a.part⟩) go ∧ log.countP (·.isOwn) = 1

theorem countP_others {log : List Moment} (h : s.Others log s') : log.countP (·.isOwn) = 0 :=
  List.countP_eq_zero.mpr fun o ho => by simp [h.not_own o ho]

theorem written_refines {a : Address} {early log : List Moment} {t : ServerState} {q : Routine (Except StoreError Versioned)}
    (hearly : s.Others early s') (hsound : s'.Sound) (hs : s'.held = some h) (hst : h.Encodes st)
    (hv : h.version = version) (hmay : st.mayBecome next = true) (hnext : next.Legible)
    (course : a.Course s' (patchStatus a.space a.id version st next) log t q) :
    (∃ answer, q = .done answer ∧ Refines a version next (early ++ ⟨some ⟨.get, a.whole⟩, s', s'⟩ :: log) answer) ∨
      Waits a (early ++ ⟨some ⟨.get, a.whole⟩, s', s'⟩ :: log) q := by
  rcases course.send (patchStatus_eq a version st next) with
    ⟨hq, hothers⟩ | ⟨between, s₁, r, s₂, late, rfl, hothers, hserves, hrest⟩
  · refine .inr (.inr ⟨_, _, hq, ?_⟩)
    rw [List.countP_append, List.countP_cons_of_pos rfl, countP_others hearly, countP_others hothers]
  have hin : ∀ {o : Moment}, o ∈ early ++ ⟨some ⟨.get, a.whole⟩, s', s'⟩ :: (between ++ o :: late) := by simp
  have hsound₁ := hothers.sound hsound
  refine .inl ?_
  cases hserves with
  | gone held refused =>
      rw [settled_gone refused] at hrest
      obtain ⟨rfl, hlate⟩ := hrest.done rfl
      exact ⟨_, rfl, refines_failed hin rfl hsound₁ (matches_absent held)
        (kept_append hearly (kept_append hothers (kept_others hlate)))⟩
  | @stale h₁ _ reason _ held accepted refused =>
      rw [settled_stale refused] at hrest
      obtain ⟨rfl, hlate⟩ := hrest.done rfl
      obtain ⟨-, st₁, hst₁⟩ := hsound₁ h₁ held
      have hne : h₁.version ≠ version := fun he => accepted (Held.accepts_statusPatch.mpr he.symm)
      exact ⟨_, rfl, refines_failed hin rfl hsound₁ (matches_stale held hst₁.reads hne)
        (kept_append hearly (kept_append hothers (kept_others hlate)))⟩
  | @applied h₁ _ fresh _ held accepted new shows =>
      have hv₁ : h₁.version = h.version := (Held.accepts_statusPatch.mp accepted).symm.trans hv.symm
      obtain ⟨rfl, rfl⟩ := hothers.none_written held (hv₁ ▸ (hsound h hs).1)
      cases hs.symm.trans held
      obtain ⟨j, hj, hdecode⟩ := Held.patched_status hst.2 hnext version fresh
      have hreads : (h.patched (statusPatch version st next) fresh).Reads next := by
        rw [Held.Reads, hj]
        exact hdecode
      rw [settled_shown shows hreads] at hrest
      obtain ⟨rfl, hlate⟩ := hrest.done rfl
      refine ⟨_, rfl, ⟨⟨_, hin, rfl, exists_represents hsound a.id version,
        matches_written hs hst.reads hv hmay hreads rfl⟩, (fun _ he => by cases he), fun task he => ?_⟩⟩
      cases he
      refine ⟨early, _, _, late, _, j, rfl, ?_, rfl, ⟨_, rfl⟩, rfl, rfl, hj, hdecode⟩
      exact List.forall_mem_append.mpr ⟨hearly.not_own, hlate.not_own⟩

theorem swap_course {a : Address} {s t : ServerState} (hs : s.Sound) {version : String} {next : Status}
    (hnext : next.Legible) {log : List Moment} {q : Routine (Except StoreError Versioned)}
    (course : a.Course s (swap a.space a.id version next) log t q) :
    (∃ answer, q = .done answer ∧ Refines a version next log answer) ∨ Waits a log q := by
  rcases course.send (swap_eq a version next) with
    ⟨hq, hothers⟩ | ⟨early, s₁, r, s₂, late, rfl, hearly, hserves, hrest⟩
  · exact .inr (.inl ⟨_, hq, countP_others hothers⟩)
  have hsound := hearly.sound hs
  have hin : ∀ {o : Moment}, o ∈ early ++ o :: late := List.mem_append_cons_self
  cases hserves with
  | missing held refused =>
      rw [found_missing refused] at hrest
      obtain ⟨rfl, hlate⟩ := hrest.done rfl
      exact .inl ⟨_, rfl, refines_failed hin rfl hsound (matches_absent held) (kept_append hearly (kept_others hlate))⟩
  | @shown h _ held shows =>
      obtain ⟨hgiven, st, hst⟩ := hsound h held
      rw [found_shown shows hst.reads] at hrest
      by_cases hv : h.version = version
      · have hgo : decided a.space a.id version next (.ok (some (h.task a.id st))) =
            if st.mayBecome next then patchStatus a.space a.id version st next
            else .done (.error (.illegalTransition a.id st.phase next.phase)) := if_neg (not_not_intro hv)
        cases hmay : st.mayBecome next with
        | false =>
            rw [hmay, if_neg (by decide)] at hgo
            obtain ⟨rfl, hlate⟩ := hrest.done hgo
            exact .inl ⟨_, rfl, refines_failed hin rfl hsound (matches_illegal held hst.reads hv hmay)
              (kept_append hearly (kept_others hlate))⟩
        | true =>
            rw [hmay, if_pos rfl] at hgo
            have hwrites : a.Course s₁ (decided a.space a.id version next (.ok (some (h.task a.id st)))) late t q := hrest
            exact written_refines hearly hsound held hst hv hmay hnext (hgo ▸ hwrites)
      · obtain ⟨rfl, hlate⟩ := hrest.done (if_pos hv)
        exact .inl ⟨_, rfl, refines_failed hin rfl hsound (matches_stale held hst.reads hv)
          (kept_append hearly (kept_others hlate))⟩

/-- Compare-and-swap in the cluster refines compare-and-swap in memory. A patch merged into the value that it was made
for gives the value that it was made of, for statuses as for any other values without null members, and a status that
came about so is read back exactly, whatever its instants: those of years of four digits are among the legible ones.
A call on a server that holds an encoded status then does what the store in memory would have done at one of the
call's own moments, whatever others write before, between and after its requests; it ends once the server has answered
them, and it asks for nothing else. -/
theorem swap_refines_memory :
    (∀ old new : Json, old.isDistinct → new.isDistinct → new.isFull → Same (merge old (mergePatch old new)) new) ∧
    (∀ old new : Status, new.Legible → Status.decode (merge old.encode (mergePatch old.encode new.encode)) = .ok new) ∧
    ∀ (a : Address) (s t : ServerState) (version : String) (next : Status) (log : List Moment)
      (q : Routine (Except StoreError Versioned)), s.Sound → next.Legible →
      a.Course s (swap a.space a.id version next) log t q →
        (∃ answer, q = .done answer ∧ Refines a version next log answer) ∨ Waits a log q := by
  refine ⟨fun old new hold hnew hfull => merge_mergePatch new hnew hfull old old (.refl old) hold, fun old new hnew => ?_,
    fun a s t version next log q hs hnext course => swap_course hs hnext course⟩
  have hstored : old.IsStored (some old.encode) := .refl old.encode
  exact Status.decode_same hnew (Status.merge_stored hstored new)

def refusedTwice : Status :=
  { Status.initial with
    phase := .assigning
    conditions := [⟨.tokenIssued, true, "Reserved", none, .ofNanos 1709200801000000000⟩]
    sandbox := some ⟨"sandbox-t1", some "10.0.0.1"⟩
    attempts := 2
    assignmentError := some "refused"
    readyAt := some (.ofNanos 1709200800500000000) }

def takenOn : Status :=
  { refusedTwice with phase := .running, conditions := [], sandbox := some ⟨"sandbox-t1", none⟩, assignmentError := none }

def waiting : Held where
  uid := some "uid-1"
  spec := ⟨"tracksClaim up", none, none, ⟨"https://example.org/r", "main"⟩, none, none⟩
  createdAt := .ofNanos 1709200800000000000
  version := "7"
  status := some refusedTwice.encode

def running : Held := waiting.patched (statusPatch "7" refusedTwice takenOn) "8"

def shownAs (h : Held) : List (String × Json) := [
  ("kind", .string "AgentTask"),
  ("metadata", ofFields [
    ("name", some (.string "t1")),
    ("uid", h.uid.map .string),
    ("resourceVersion", some (.string h.version)),
    ("creationTimestamp", some (instant h.createdAt))]),
  ("spec", h.spec.encode),
  ("status", h.status.getD .null)]

def response (h : Held) : Response := ⟨200, Json.toText (.object (shownAs h))⟩

def address : Address where
  space := "ns"
  id := "t1"
  whole := ⟨"/apis/agents.platform/v1/namespaces/ns/agenttasks/t1", ""⟩
  part := ⟨"/apis/agents.platform/v1/namespaces/ns/agenttasks/t1/status", ""⟩
  whole_eq := by decide +kernel
  part_eq := by decide +kernel

set_option maxRecDepth 4000 in
theorem read_shownAs : readDocument (Json.print (.object (shownAs waiting))) = ⟨.object (shownAs waiting), true⟩ ∧
    readDocument (Json.print (.object (shownAs running))) = ⟨.object (shownAs running), true⟩ := ⟨rfl, rfl⟩

theorem shows_waiting : (response waiting).Shows address.id waiting := by
  refine ⟨rfl, shownAs waiting, ?_, by decide, by decide, ⟨_, _, rfl, rfl, rfl, rfl, rfl, rfl⟩, ⟨_, rfl, rfl⟩, rfl⟩
  rw [response, Json.toText, String.toList_ofList]
  exact read_shownAs.1

theorem shows_running : (response running).Shows address.id running := by
  refine ⟨rfl, shownAs running, ?_, by decide, by decide, ⟨_, _, rfl, rfl, rfl, rfl, rfl, rfl⟩, ⟨_, rfl, rfl⟩, rfl⟩
  rw [response, Json.toText, String.toList_ofList]
  exact read_shownAs.2

theorem legible_refused : refusedTwice.Legible where
  attempts := by decide
  conditions := by
    simp only [refusedTwice, List.mem_singleton, forall_eq]
    exact ⟨by decide, by decide⟩
  provisioningSince _ ht := by cases ht
  readyAt _ ht := by
    cases ht
    exact ⟨by decide, by decide⟩
  assignedAt _ ht := by cases ht
  completedAt _ ht := by cases ht

theorem legible_taken : takenOn.Legible :=
  { legible_refused with conditions := by simp [takenOn] }

def vacant : ServerState := ⟨none, ["3"]⟩

def offered : ServerState := ⟨some waiting, ["7", "3"]⟩

def taken : ServerState := ⟨some running, ["8", "7", "3"]⟩

def takingOn : List Moment := [
  ⟨none, vacant, offered⟩,
  ⟨some ⟨.get, address.whole⟩, offered, offered⟩,
  ⟨some ⟨.merge (statusPatch "7" refusedTwice takenOn), address.part⟩, offered, taken⟩]

theorem course_taken : address.Course vacant (swap address.space address.id "7" takenOn) takingOn taken
    (.done (.ok (running.task address.id takenOn))) := by
  have hwaiting : waiting.Encodes refusedTwice := ⟨legible_refused, .refl _⟩
  have hrunning : running.Reads takenOn := by
    obtain ⟨j, hj, hdecode⟩ := Held.patched_status hwaiting.2 legible_taken "7" "8"
    rw [Held.Reads, running, hj]
    exact hdecode
  have hend : address.Course taken (settled address.id (response running)) [] taken
      (.done (.ok (running.task address.id takenOn))) := settled_shown shows_running hrunning ▸ .nil
  have hpatch : address.Course offered (patchStatus address.space address.id "7" refusedTwice takenOn) (takingOn.drop 2)
      taken (.done (.ok (running.task address.id takenOn))) := by
    rw [patchStatus_eq]
    exact .answered (.applied rfl (Held.accepts_statusPatch.mpr rfl) (by decide) shows_running) hend
  have hread : address.Course offered ((found (response waiting)).bind (decided address.space address.id "7" takenOn))
      (takingOn.drop 2) taken (.done (.ok (running.task address.id takenOn))) := by
    rw [found_shown shows_waiting hwaiting.reads]
    exact hpatch
  rw [swap_eq]
  exact .other (.put waiting (by decide) ⟨refusedTwice, hwaiting⟩) (.answered (.shown rfl shows_waiting) hread)

theorem swap_refines_memory_taken :
    Same (merge refusedTwice.encode (mergePatch refusedTwice.encode takenOn.encode)) takenOn.encode ∧
      Status.decode (merge refusedTwice.encode (mergePatch refusedTwice.encode takenOn.encode)) = .ok takenOn ∧
      Refines address "7" takenOn takingOn (.ok (running.task address.id takenOn)) := by
  obtain ⟨values, statuses, calls⟩ := swap_refines_memory
  refine ⟨values _ _ (by decide) (by decide) (by decide), statuses _ _ legible_taken, ?_⟩
  have hvacant : vacant.Sound := fun h hh => by cases hh
  rcases calls _ _ _ _ _ _ _ hvacant legible_taken course_taken with ⟨answer, hdone, hrefines⟩ | hwaits
  · cases hdone
    exact hrefines
  · rcases hwaits with ⟨go, hgo, -⟩ | ⟨patch, go, hgo, -⟩ <;> cases hgo

end SandboxTasks.Cluster.TaskStore
