import SandboxTasks.Proofs.Callback.Attempts
import SandboxTasks.Proofs.Json.Text
import SandboxTasks.Proofs.Task.Wire

namespace SandboxTasks.Callback

open Json

namespace Payload

theorem decode_encode {p : Payload} (h : p.completedAt.Legible) : decode p.encode = .ok p := by
  have htask : taskField.Carries p.task ("taskID", some (.string p.task)) := Field.carries_text
  have houtcome : outcomeField.Carries p.outcome ("outcome", some (.string p.outcome.name)) :=
    Field.carries_required fun _ => decodeName_same p.outcome.ofName?_name
  have hreason : reasonField.Carries p.reason ("reason", some (.string p.reason)) := Field.carries_text
  have hpull : pullRequestField.Carries p.pullRequest ("prURL", p.pullRequest.map .string) := Field.carries_texts
  have hmessage : messageField.Carries p.message ("message", p.message.map .string) := Field.carries_texts
  have hcompleted : completedAtField.Carries p.completedAt ("completedAt", some (instant p.completedAt)) :=
    Field.carries_required fun _ => decodeInstant_same h
  obtain ⟨s, hs, hbring⟩ := slots_written (by simp)
    (.cons htask.fits (.cons houtcome.fits (.cons hreason.fits (.cons hpull.fits (.cons hmessage.fits
      (.cons hcompleted.fits .nil)))))) (.refl p.encode)
  have h₁ := hbring.read (by simp) htask
  have h₂ := hbring.read (by simp) houtcome
  have h₃ := hbring.read (by simp) hreason
  have h₄ := hbring.read (by simp) hpull
  have h₅ := hbring.read (by simp) hmessage
  have h₆ := hbring.read (by simp) hcompleted
  rw [decode, hs]
  simp only [bind, Except.bind, h₁, h₂, h₃, h₄, h₅, h₆]
  rfl

theorem isVerbal_encode (p : Payload) : p.encode.isVerbal := by
  obtain ⟨task, outcome, reason, pullRequest, message, completedAt⟩ := p
  cases pullRequest <;> cases message <;> rfl

theorem decodeText_body {p : Payload} (h : p.completedAt.Legible) :
    decodeText decode (String.ofList p.body) = .ok p := by
  rw [decodeText, String.toList_ofList, body, readDocument_print p.isVerbal_encode]
  simp only [decode_encode h]
  rfl

end Payload

/-- The text that is signed and posted for an event is read back as its payload, whatever characters are in it, if the
time that it tells can be read, as it can in any year of four digits, down to the nanosecond, with leap seconds where they
belong. So events with different payloads never have the same text. -/
theorem text_tells (event : Event) (h : event.payload.completedAt.Legible) :
    decodeText Payload.decode event.text = .ok event.payload ∧
    (∀ other : Event, other.payload.completedAt.Legible → other.payload ≠ event.payload → other.text ≠ event.text) ∧
    ∀ (secret : List UInt8) (policy : RetryPolicy) {σ : Type} (answer : (op : Http.Operation) → σ → op.Answer × σ) (s : σ)
      (request : Http.Request) (reply : Except Http.Silence Http.Response),
      ⟨.send request, reply⟩ ∈ (Poster.send ⟨some secret, policy⟩ event).asked answer s →
      ∀ text, request.body = some text →
        text = event.text ∧ ⟨Signature.header, event.signature secret⟩ ∈ request.headers := by
  have hread : decodeText Payload.decode event.text = .ok event.payload := Payload.decodeText_body h
  refine ⟨hread, ?_, ?_⟩
  · intro other hother hne htext
    have hread' : decodeText Payload.decode other.text = .ok other.payload := Payload.decodeText_body hother
    rw [htext, hread] at hread'
    exact hne (Except.ok.inj hread').symm
  · intro secret policy σ answer s request reply hasked text hbody
    obtain hnone | hposts := Poster.posts_of_asked hasked
    · cases hnone.symm.trans hbody
    · exact ⟨Option.some.inj (hbody.symm.trans hposts.body), hposts.headers (.tail _ (.head _))⟩

def peculiar : Event :=
  ⟨"http://origin/hook", ⟨"t\"1\\", .failed, "\x01\n\x7f\u2028", none, some "😀/é",
    .ofNanos 1700000000123456789⟩⟩

theorem text_tells_peculiar : peculiar.payload.completedAt.Legible ∧
    decodeText Payload.decode peculiar.text = .ok peculiar.payload ∧ completion.text ≠ peculiar.text := by
  have hpeculiar : peculiar.payload.completedAt.Legible := ⟨by decide, nofun⟩
  have hcompletion : completion.payload.completedAt.Legible := ⟨by decide, nofun⟩
  obtain ⟨hread, hdiffer, -⟩ := text_tells peculiar hpeculiar
  exact ⟨hpeculiar, hread, hdiffer completion hcompletion (by decide)⟩

end SandboxTasks.Callback
