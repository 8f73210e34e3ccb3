import Mathlib.Data.Bool.AllAny
import Mathlib.Data.String.Basic
import SandboxTasks.Task.Id

namespace SandboxTasks.TaskId

def IsAlphanumeric (c : Char) : Prop := c ∈ "abcdefghijklmnopqrstuvwxyz0123456789".toList

instance : DecidablePred IsAlphanumeric := fun c => inferInstanceAs (Decidable (c ∈ _))

theorem IsAlphanumeric.of_all {c : Char} {P : Char → Prop} [DecidablePred P] (hc : IsAlphanumeric c)
    (h : "abcdefghijklmnopqrstuvwxyz0123456789".toList.all (P ·)) : P c :=
  List.all_iff_forall_prop.mp h c hc

/-- An RFC 1123 label without capitals, of so many bytes at most. -/
structure IsLabelWithin (most : Nat) (s : String) : Prop where
  nonempty : 1 ≤ s.utf8ByteSize
  short : s.utf8ByteSize ≤ most
  chars : ∀ c ∈ s.toList, IsAlphanumeric c ∨ c = '-'
  first : ∃ c ∈ s.toList.head?, IsAlphanumeric c
  last : ∃ c ∈ s.toList.getLast?, IsAlphanumeric c

theorem isLetterOrDigit_iff {c : Char} : isLetterOrDigit c = true ↔ IsAlphanumeric c := by
  have hsmall : ∀ n < 123, isLetterOrDigit (Char.ofNat n) = true ↔ IsAlphanumeric (Char.ofNat n) := by decide +kernel
  by_cases h : c.toNat < 123
  · simpa only [Char.ofNat_toNat] using hsmall c.toNat h
  · constructor
    · intro hc
      simp only [isLetterOrDigit, Bool.or_eq_true, Bool.and_eq_true, decide_eq_true_eq, Char.le_def,
        UInt32.le_iff_toNat_le] at hc
      have hz : ('z'.val).toNat = 122 := rfl
      have h9 : ('9'.val).toNat = 57 := rfl
      have hval : c.val.toNat = c.toNat := rfl
      omega
    · intro hc
      exact absurd (hc.of_all (P := (·.toNat < 123)) (by decide +kernel)) h

theorem isLabelChar_iff {c : Char} : isLabelChar c = true ↔ IsAlphanumeric c ∨ c = '-' := by
  rw [isLabelChar, Bool.or_eq_true, isLetterOrDigit_iff, beq_iff_eq]

theorem isLabel_iff {cs : List Char} : isLabel cs = true ↔ (∀ c ∈ cs, IsAlphanumeric c ∨ c = '-') ∧
    (∃ c ∈ cs.head?, IsAlphanumeric c) ∧ ∃ c ∈ cs.getLast?, IsAlphanumeric c := by
  unfold isLabel
  cases cs.head? <;> cases cs.getLast? <;>
    simp [isLabelChar_iff, isLetterOrDigit_iff, and_assoc]

theorem fault?_eq_none_iff {id : String} : fault? id = none ↔ IsLabelWithin 59 id := by
  have hlimit : limit = 59 := rfl
  have hempty : id = "" ↔ id.utf8ByteSize = 0 := String.utf8ByteSize_eq_zero_iff.symm
  unfold fault?
  rw [hlimit]
  constructor
  · intro h
    split_ifs at h with h₀ h₁ h₂
    obtain ⟨hchars, hfirst, hlast⟩ := isLabel_iff.mp (by simpa using h₂)
    exact ⟨Nat.one_le_iff_ne_zero.mpr (hempty.not.mp h₀), Nat.le_of_not_lt h₁, hchars, hfirst, hlast⟩
  · rintro ⟨hnonempty, hshort, hchars, hfirst, hlast⟩
    have hlabel := isLabel_iff.mpr ⟨hchars, hfirst, hlast⟩
    rw [if_neg (hempty.not.mpr (Nat.one_le_iff_ne_zero.mp hnonempty)), if_neg (Nat.not_lt_of_le hshort), hlabel]
    rfl

theorem isLabelWithin_claimName {id : String} (h : IsLabelWithin 59 id) : IsLabelWithin 63 (claimName id) := by
  obtain ⟨hnonempty, hshort, hchars, hfirst, c, hc, hlast⟩ := h
  have hmark : claimMark.utf8ByteSize = 4 := rfl
  have hsize : (claimName id).utf8ByteSize = 4 + id.utf8ByteSize := by
    rw [claimName, String.utf8ByteSize_append, hmark]
  have hname : (claimName id).toList = 's' :: 'b' :: 'x' :: '-' :: id.toList := String.toList_append
  refine ⟨by omega, by omega, ?_, ?_, ?_⟩
  · rw [hname]
    simp only [List.forall_mem_cons]
    exact ⟨by decide +kernel, by decide +kernel, by decide +kernel, by decide +kernel, hchars⟩
  · rw [hname]
    exact ⟨'s', rfl, by decide +kernel⟩
  · refine ⟨c, ?_, hlast⟩
    rw [hname]
    simp only [List.getLast?_cons, Option.mem_def.mp hc]
    rfl

theorem isAlphanumeric_digitChar {n : Nat} (h : n < 16) : IsAlphanumeric (Nat.digitChar n) := by
  have hall : ∀ n < 16, IsAlphanumeric (Nat.digitChar n) := by decide +kernel
  exact hall n h

theorem hexDigits_length (width n : Nat) : (hexDigits width n).length = width := by
  induction width generalizing n with
  | zero => rfl
  | succ width ih => rw [hexDigits, List.length_append, ih, List.length_singleton]

theorem isAlphanumeric_of_mem_hexDigits {width n : Nat} {c : Char} (h : c ∈ hexDigits width n) : IsAlphanumeric c := by
  induction width generalizing n with
  | zero => cases h
  | succ width ih =>
      rcases List.mem_append.mp h with h | h
      · exact ih h
      · rw [List.mem_singleton.mp h]
        exact isAlphanumeric_digitChar (Nat.mod_lt n (by decide))

theorem utf8ByteSize_eq_length {s : String} (h : ∀ c ∈ s.toList, IsAlphanumeric c ∨ c = '-') :
    s.utf8ByteSize = s.toList.length := by
  rw [← String.utf8Len_toList]
  generalize s.toList = cs at h
  induction cs with
  | nil => rfl
  | cons c cs ih =>
      obtain ⟨hc, hcs⟩ := List.forall_mem_cons.mp h
      have hsize : c.utf8Size = 1 := by
        rcases hc with hc | rfl
        · exact hc.of_all (P := (·.utf8Size = 1)) (by decide +kernel)
        · rfl
      rw [String.utf8Len_cons, ih hcs, hsize, List.length_cons]

theorem exists_ofEntropy (bits : Nat) : ∃ a b c d e f, (ofEntropy bits).toList =
    "task-".toList ++ hexDigits 8 a ++ '-' :: hexDigits 4 b ++ '-' :: '4' :: hexDigits 3 c ++
      '-' :: Nat.digitChar (8 + d % 4) :: hexDigits 3 e ++ '-' :: hexDigits 12 f :=
  ⟨_, _, _, _, _, _, String.toList_ofList⟩

theorem isLabelWithin_ofEntropy (bits : Nat) : IsLabelWithin 59 (ofEntropy bits) := by
  obtain ⟨a, b, c, d, e, f, hlist⟩ := exists_ofEntropy bits
  have hchars : ∀ x ∈ (ofEntropy bits).toList, IsAlphanumeric x ∨ x = '-' := by
    have hhex (width n : Nat) : ∀ x ∈ hexDigits width n, IsAlphanumeric x ∨ x = '-' :=
      fun x hx => .inl (isAlphanumeric_of_mem_hexDigits hx)
    have hvariant : IsAlphanumeric (Nat.digitChar (8 + d % 4)) := isAlphanumeric_digitChar (by omega)
    have htask : ∀ x ∈ "task-".toList, IsAlphanumeric x ∨ x = '-' := List.all_iff_forall_prop.mp (by decide +kernel)
    have hfour : IsAlphanumeric '4' := by decide +kernel
    rw [hlist]
    simp only [List.forall_mem_append, List.forall_mem_cons]
    exact ⟨⟨⟨⟨⟨htask, hhex 8 a⟩, .inr trivial, hhex 4 b⟩, .inr trivial, .inl hfour, hhex 3 c⟩,
      .inr trivial, .inl hvariant, hhex 3 e⟩, .inr trivial, hhex 12 f⟩
  have hlength : (ofEntropy bits).toList.length = 41 := by
    rw [hlist]
    simp [hexDigits_length]
  have hsize := utf8ByteSize_eq_length hchars
  refine ⟨by omega, by omega, hchars, ⟨'t', ?_, by decide +kernel⟩, ?_⟩
  · rw [hlist]
    rfl
  · refine ⟨Nat.digitChar (f % 16), ?_, isAlphanumeric_digitChar (Nat.mod_lt f (by decide))⟩
    rw [hlist, show hexDigits 12 f = hexDigits 11 (f / 16) ++ [Nat.digitChar (f % 16)] from rfl, ← List.cons_append,
      ← List.append_assoc]
    exact List.getLast?_concat

end SandboxTasks.TaskId
