import Mathlib.Tactic.Ring
import SandboxTasks.Text.Blank
import SandboxTasks.Text.Digits

namespace SandboxTasks.Text

theorem isDigit_digitChar (n : Nat) : isDigit (digitChar n) = true := by
  have h : ∀ r < 10, isDigit (Char.ofNat ('0'.toNat + r)) = true := by decide
  exact h (n % 10) (Nat.mod_lt n (by decide))

theorem digitValue_digitChar (n : Nat) : digitValue (digitChar n) = n % 10 := by
  have h : ∀ r < 10, digitValue (Char.ofNat ('0'.toNat + r)) = r := by decide
  exact h (n % 10) (Nat.mod_lt n (by decide))

theorem isDigit_of_mem_padded {width n : Nat} {c : Char} (h : c ∈ padded width n) : isDigit c = true := by
  induction width generalizing n with
  | zero => cases h
  | succ width ih =>
      rcases List.mem_append.mp h with h | h
      · exact ih h
      · rw [List.mem_singleton.mp h]
        exact isDigit_digitChar n

theorem digitsValue_append (ds : List Char) (d : Char) : digitsValue (ds ++ [d]) = digitsValue ds * 10 + digitValue d :=
  List.foldl_append

theorem digitsValue_padded (width n : Nat) : digitsValue (padded width n) = n % 10 ^ width := by
  induction width generalizing n with
  | zero => simp [padded, digitsValue, Nat.mod_one]
  | succ width ih =>
      rw [padded, digitsValue_append, ih, digitValue_digitChar, Nat.pow_succ', Nat.mod_mul]
      ring

theorem isDigit_of_mem_toString {n : Nat} {c : Char} (h : c ∈ (toString n).toList) : isDigit c = true := by
  rw [Nat.toString_eq_repr, Nat.toList_repr] at h
  have hd := Nat.isDigit_of_mem_toDigits (by decide) (by decide) h
  simpa only [isDigit, Bool.and_eq_true, decide_eq_true_eq, Char.isDigit, ge_iff_le, Char.le_def] using hd

theorem digitsValue_toString (n : Nat) : digitsValue (toString n).toList = n := by
  have h := Nat.ofDigitChars_toDigits (b := 10) (n := n) (by decide) (by decide)
  rw [Nat.ofDigitChars_eq_foldl] at h
  rw [Nat.toString_eq_repr, Nat.toList_repr]
  simpa only [digitsValue, digitValue, Nat.mul_comm] using h

theorem toString_inj {n k : Nat} (h : toString n = toString k) : n = k := by
  rw [← digitsValue_toString n, h, digitsValue_toString]

theorem digitsValue_zeros (k : Nat) (ds : List Char) : digitsValue (List.replicate k '0' ++ ds) = digitsValue ds := by
  induction k with
  | zero => rfl
  | succ k ih => exact ih

def Stops (cs : List Char) : Prop := ∀ c ∈ cs.head?, isDigit c = false

theorem spanDigits_append {most : Nat} {ds rest : List Char} (digits : ∀ c ∈ ds, isDigit c = true)
    (few : ds.length ≤ most) (stops : ds.length = most ∨ Stops rest) : spanDigits most (ds ++ rest) = (ds, rest) := by
  induction ds generalizing most with
  | nil =>
      cases most with
      | zero => rfl
      | succ most =>
          cases rest with
          | nil => rfl
          | cons c rest =>
              have hc : isDigit c = false := (stops.resolve_left (by simp)) c rfl
              simp [spanDigits, hc]
  | cons d ds ih =>
      cases most with
      | zero => simp at few
      | succ most =>
          have hrest := ih (fun c hc => digits c (List.mem_cons_of_mem d hc)) (Nat.le_of_succ_le_succ few)
            (stops.imp_left Nat.succ.inj)
          simp [spanDigits, digits d List.mem_cons_self, hrest]

theorem readNumber_append {most : Nat} {ds rest : List Char} (digits : ∀ c ∈ ds, isDigit c = true) (some : ds ≠ [])
    (few : ds.length ≤ most) (stops : ds.length = most ∨ Stops rest) :
    readNumber? most (ds ++ rest) = .some (digitsValue ds, rest) := by
  rw [readNumber?, spanDigits_append digits few stops]
  cases ds with
  | nil => exact absurd rfl some
  | cons d ds => rfl

theorem readNumber_padded {width n : Nat} (hw : 0 < width) (hn : n < 10 ^ width) (rest : List Char) :
    readNumber? width (padded width n ++ rest) = some (n, rest) := by
  have hne : padded width n ≠ [] := List.ne_nil_of_length_pos (by rwa [padded_length])
  rw [readNumber_append (fun c => isDigit_of_mem_padded) hne (padded_length width n).le (.inl (padded_length width n)),
    digitsValue_padded, Nat.mod_eq_of_lt hn]

theorem isBlank_of_isDigit {c : Char} (h : isDigit c = true) : isBlank c = false := by
  simp only [isDigit, Bool.and_eq_true, decide_eq_true_eq, Char.le_def, UInt32.le_iff_toNat_le] at h
  have hlow : 48 ≤ c.toNat := h.1
  have hhigh : c.toNat ≤ 57 := h.2
  simp [isBlank]
  omega

theorem dropBlanks_cons {c : Char} (h : isBlank c = false) (cs : List Char) : dropBlanks (c :: cs) = c :: cs := by
  simp [dropBlanks, h]

theorem dropBlanks_digits {ds : List Char} (digits : ∀ c ∈ ds, isDigit c = true) (some : ds ≠ []) (rest : List Char) :
    dropBlanks (ds ++ rest) = ds ++ rest := by
  cases ds with
  | nil => exact absurd rfl some
  | cons d ds => exact dropBlanks_cons (isBlank_of_isDigit (digits d List.mem_cons_self)) _

end SandboxTasks.Text
