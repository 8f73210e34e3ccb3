import SandboxTasks.Callback.Signature
import SandboxTasks.Proofs.Text.Hex

namespace SandboxTasks.Callback.Signature

open Text

theorem digits?_eq_some_iff {name text digits : List Char} : digits? name text = some digits ↔ text = name ++ digits := by
  constructor
  · intro h
    induction name generalizing text with
    | nil => exact Option.some.inj h
    | cons p name ih =>
        cases text with
        | nil => cases h
        | cons c text =>
            unfold digits? at h
            split at h
            · next heq => rw [heq, ih h, List.cons_append]
            · cases h
  · rintro rfl
    exact digits?_append name digits

/-- A body can be signed with any secret, and what signs it is the scheme's name and 64 digits without upper case
letters. A text is taken for a signature of the body exactly if it is that name, written just so, and 64 digits of either
case that are the same in lower case. -/
theorem verify_iff (secret body : List UInt8) (text : List Char) :
    (∃ digest, sign secret body = "sha256=".toList ++ digest ∧ digest.length = 64 ∧
      ∀ c ∈ digest, Hex.IsDigit c ∧ c.toLower = c) ∧
    (verify secret body text = true ↔ ∃ digits, text = "sha256=".toList ++ digits ∧ digits.length = 64 ∧
      (∀ c ∈ digits, Hex.IsDigit c) ∧ "sha256=".toList ++ digits.map Char.toLower = sign secret body) := by
  have hlength : (Hex.encode (Digest.Hmac.tag secret body)).length = 64 := by
    rw [Hex.encode_length, Digest.Hmac.tag_length]
  refine ⟨⟨_, rfl, hlength, fun c => Hex.isDigit_of_mem_encode⟩, ?_⟩
  have hverify : verify secret body text = true ↔
      ∃ digits, text = scheme ++ digits ∧ Hex.decode digits = some (Digest.Hmac.tag secret body) := by
    unfold verify
    simp only [← digits?_eq_some_iff]
    cases digits? scheme text <;> simp
  rw [hverify]
  refine exists_congr fun digits => and_congr_right fun _ => ?_
  rw [Hex.decode_eq_some_iff]
  constructor
  · rintro ⟨hdigits, hlower⟩
    refine ⟨?_, hdigits, congrArg (scheme ++ ·) hlower⟩
    rw [← List.length_map Char.toLower, hlower, hlength]
  · rintro ⟨-, hdigits, hsign⟩
    exact ⟨hdigits, List.append_cancel_left hsign⟩

end SandboxTasks.Callback.Signature
