import SandboxTasks.Callback.Notifier
import SandboxTasks.Proofs.Store.Undisturbed

namespace SandboxTasks

/-- Surroundings that answer as given and keep a log of what they were asked, in that order. -/
def Operation.noted (answers : (op : Operation) → op.Answer) (op : Operation) (log : List Operation) :
    op.Answer × List Operation :=
  (answers op, log ++ [op])

namespace Callback

variable {answers : (op : Operation) → op.Answer} {event : Event}

structure Slot where
  channel : Channel
  place : Nat

namespace Slot

def enabledFrom : Nat → List Channel → List Slot
  | _, [] => []
  | place, c :: cs => if c.enabled then ⟨c, place⟩ :: enabledFrom (place + 1) cs else enabledFrom (place + 1) cs

def request (event : Event) (s : Slot) : Operation := .send s.place s.channel.name event

def Accepts (answers : (op : Operation) → op.Answer) (event : Event) (s : Slot) : Prop :=
  answers (.send s.place s.channel.name event) = .ok ()

def failure? (answers : (op : Operation) → op.Answer) (event : Event) (s : Slot) : Option String :=
  match answers (.send s.place s.channel.name event) with
  | .ok () => none
  | .error e => some (s.channel.name ++ ": " ++ e.message)

theorem failure?_eq_none {s : Slot} : s.failure? answers event = none ↔ s.Accepts answers event := by
  unfold failure? Accepts
  cases answers (.send s.place s.channel.name event) <;> simp

theorem failure?_eq_some {s : Slot} {message : String} : s.failure? answers event = some message ↔
    ∃ e, answers (.send s.place s.channel.name event) = .error e ∧ message = s.channel.name ++ ": " ++ e.message := by
  unfold failure?
  cases answers (.send s.place s.channel.name event) <;> simp [eq_comm]

theorem channels_enabledFrom (place : Nat) (cs : List Channel) :
    (enabledFrom place cs).map (·.channel) = cs.filter (·.enabled) := by
  induction cs generalizing place with
  | nil => rfl
  | cons c cs ih =>
      unfold enabledFrom
      split
      · next h => simp [ih, h]
      · next h => simp [ih, h]

end Slot

namespace Notifier

def reached (n : Notifier) : List Slot := if n.disabled then [] else Slot.enabledFrom 0 n.channels

theorem run_sendAll (place : Nat) (cs : List Channel) (log : List Operation) :
    (sendAll event place cs).run (Operation.noted answers) log =
      ((Slot.enabledFrom place cs).findSome? (Slot.failure? answers event),
        log ++ (Slot.enabledFrom place cs).map (Slot.request event)) := by
  induction cs generalizing place log with
  | nil => simp [sendAll, Slot.enabledFrom, Program.run_pure]
  | cons c cs ih =>
      unfold sendAll Slot.enabledFrom
      split
      · rw [Program.run_bind, run_ask (.send place c.name event)]
        dsimp only [Operation.noted]
        cases hanswer : answers (.send place c.name event) with
        | ok => simp [ih, Slot.failure?, Slot.request, hanswer]
        | error e =>
            dsimp only
            rw [Program.run_bind, ih, Program.run_pure]
            simp [Slot.failure?, Slot.request, hanswer]
      · exact ih ..

theorem reached_of_not_hasChannels {n : Notifier} (h : n.hasChannels = false) : n.reached = [] := by
  unfold reached
  cases hdisabled : n.disabled with
  | true => rfl
  | false =>
      have hnone : n.channels = [] := by simpa [hasChannels, hdisabled] using h
      rw [hnone]
      rfl

/-- What is told of a delivery, by the answers of all the channels that the event goes to. -/
def told (n : Notifier) (answers : (op : Operation) → op.Answer) (event : Event) : Delivery :=
  if n.hasChannels then
    match n.reached.findSome? (Slot.failure? answers event) with
    | none => .sent
    | some message => .failed message
  else .failed "no notification channel configured"

theorem run_deliver (n : Notifier) :
    (n.deliver event).run (Operation.noted answers) [] =
      (n.told answers event, n.reached.map (Slot.request event)) := by
  unfold deliver told
  cases h : n.hasChannels with
  | false => simp [reached_of_not_hasChannels h, Program.run_pure]
  | true =>
      have hreached : n.reached = Slot.enabledFrom 0 n.channels := by
        unfold reached
        simp_all [hasChannels]
      simp only [Bool.not_true, Bool.false_eq_true, if_false, if_true]
      rw [hreached, Program.run_bind, run_sendAll]
      dsimp only
      cases (Slot.enabledFrom 0 n.channels).findSome? (Slot.failure? answers event) <;> rfl

theorem channels_reached (n : Notifier) :
    n.reached.map (·.channel) = if n.disabled then [] else n.channels.filter (·.enabled) := by
  unfold reached
  split
  · rfl
  · exact Slot.channels_enabledFrom 0 n.channels

theorem reached_eq_nil {n : Notifier} (h : n.hasChannels) : n.reached = [] ↔ ∀ c ∈ n.channels, c.enabled = false := by
  have hdisabled : n.disabled = false := by
    simp only [hasChannels, Bool.and_eq_true] at h
    simpa using h.1
  rw [← List.map_eq_nil_iff (f := Slot.channel), channels_reached, hdisabled]
  simp

theorem told_eq_sent {n : Notifier} :
    n.told answers event = .sent ↔ n.hasChannels ∧ ∀ s ∈ n.reached, s.Accepts answers event := by
  simp only [← Slot.failure?_eq_none, ← List.findSome?_eq_none_iff]
  unfold told
  cases n.hasChannels with
  | false => simp
  | true => cases n.reached.findSome? (Slot.failure? answers event) <;> simp

theorem told_eq_failed {n : Notifier} {message : String} : n.told answers event = .failed message ↔
    n.hasChannels = false ∧ message = "no notification channel configured" ∨
    ∃ before s after e, n.reached = before ++ s :: after ∧ (∀ t ∈ before, t.Accepts answers event) ∧
      answers (.send s.place s.channel.name event) = .error e ∧ message = s.channel.name ++ ": " ++ e.message := by
  have hfirst : n.reached.findSome? (Slot.failure? answers event) = some message ↔
      ∃ before s after e, n.reached = before ++ s :: after ∧ (∀ t ∈ before, t.Accepts answers event) ∧
        answers (.send s.place s.channel.name event) = .error e ∧ message = s.channel.name ++ ": " ++ e.message := by
    simp only [List.findSome?_eq_some_iff, Slot.failure?_eq_none, Slot.failure?_eq_some]
    constructor
    · rintro ⟨before, s, after, hreached, ⟨e, herror, hmessage⟩, hbefore⟩
      exact ⟨before, s, after, e, hreached, hbefore, herror, hmessage⟩
    · rintro ⟨before, s, after, e, hreached, hbefore, herror, hmessage⟩
      exact ⟨before, s, after, hreached, ⟨e, herror, hmessage⟩, hbefore⟩
  rw [← hfirst]
  unfold told
  cases h : n.hasChannels with
  | false => simp [reached_of_not_hasChannels h, eq_comm]
  | true => cases n.reached.findSome? (Slot.failure? answers event) <;> simp

/-- What a delivery is told as, over every list of channels and every outcome of their sends. The enabled channels are
sent the event once each, in their order, and no other is. That it was sent is told if there are channels, enabled or
not, and all that are enabled have taken it; otherwise the first that failed is named. So it is told of an event that
nobody took if and only if there are channels and none is enabled. -/
theorem deliver_tells (n : Notifier) (event : Event) (answers : (op : Operation) → op.Answer) :
    ∃ d, (n.deliver event).run (Operation.noted answers) [] = (d, n.reached.map (Slot.request event)) ∧
      (n.reached.map (·.channel) = if n.disabled then [] else n.channels.filter (·.enabled)) ∧
      (d = .sent ↔ n.hasChannels ∧ ∀ s ∈ n.reached, s.Accepts answers event) ∧
      (∀ message, d = .failed message ↔
        n.hasChannels = false ∧ message = "no notification channel configured" ∨
        ∃ before s after e, n.reached = before ++ s :: after ∧ (∀ t ∈ before, t.Accepts answers event) ∧
          answers (.send s.place s.channel.name event) = .error e ∧
          message = s.channel.name ++ ": " ++ e.message) ∧
      (d = .sent ∧ (∀ s ∈ n.reached, ¬ s.Accepts answers event) ↔
        n.hasChannels ∧ ∀ c ∈ n.channels, c.enabled = false) := by
  refine ⟨_, run_deliver n, channels_reached n, told_eq_sent, fun message => told_eq_failed, ?_⟩
  rw [told_eq_sent, and_assoc]
  refine and_congr_right fun h => ?_
  rw [← reached_eq_nil h]
  constructor
  · rintro ⟨hall, hnone⟩
    exact List.eq_nil_iff_forall_not_mem.mpr fun s hs => hnone s hs (hall s hs)
  · intro hnil
    simp [hnil]

/-- The only channel is disabled: nothing is sent, and that it was sent is told. -/
theorem sent_to_nobody : ¬ ∀ (n : Notifier) (event : Event) (answers : (op : Operation) → op.Answer),
    ((n.deliver event).run (Operation.noted answers) []).1 = .sent → ∃ c ∈ n.channels, c.enabled := by
  intro h
  obtain ⟨c, hc, henabled⟩ := h (.ofChannels [⟨"alpha", false⟩])
    ⟨"http://origin/hook", ⟨"t1", .completed, "Completed", none, none, default⟩⟩ (·.answerInNewWorld) rfl
  obtain rfl := List.mem_singleton.mp hc
  cases henabled

end Notifier

end Callback

end SandboxTasks
