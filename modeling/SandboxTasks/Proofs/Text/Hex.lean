import SandboxTasks.Text.Hex

namespace SandboxTasks.Text.Hex

def IsDigit (c : Char) : Prop := c ∈ "0123456789abcdefABCDEF".toList

instance : DecidablePred IsDigit := fun c => inferInstanceAs (Decidable (c ∈ _))

theorem isDigit_digit {n : Nat} (h : n < 16) : IsDigit (digit n) ∧ (digit n).toLower = digit n := by
  have : ∀ m < 16, IsDigit (digit m) ∧ (digit m).toLower = digit m := by decide +kernel
  exact this n h

theorem value?_eq_none_of_le {c : Char} (h : 103 ≤ c.toNat) : value? c = none := by
  have hdecimal : ¬ (48 ≤ c.toNat ∧ c.toNat ≤ 57) := by omega
  have hlower : ¬ (97 ≤ c.toNat ∧ c.toNat ≤ 102) := by omega
  have hupper : ¬ (65 ≤ c.toNat ∧ c.toNat ≤ 70) := by omega
  simp only [value?, hdecimal, hlower, hupper, if_false]

theorem value?_eq_some {c : Char} {n : Nat} (h : value? c = some n) : n < 16 ∧ digit n = c.toLower ∧ IsDigit c := by
  have hsmall : ∀ k < 103, ∀ n ∈ value? (Char.ofNat k),
      n < 16 ∧ digit n = (Char.ofNat k).toLower ∧ IsDigit (Char.ofNat k) := by decide +kernel
  by_cases hc : c.toNat < 103
  · have hread := hsmall c.toNat hc n
    rw [Char.ofNat_toNat] at hread
    exact hread h
  · rw [value?_eq_none_of_le (Nat.le_of_not_lt hc)] at h
    cases h

theorem exists_value {c : Char} (h : IsDigit c) : ∃ n, value? c = some n := by
  have hall : ("0123456789abcdefABCDEF".toList.all fun c => (value? c).isSome) = true := by decide +kernel
  exact Option.isSome_iff_exists.mp (List.all_eq_true.mp hall c h)

theorem isDigit_of_mem_encode {bs : List UInt8} {c : Char} (h : c ∈ encode bs) : IsDigit c ∧ c.toLower = c := by
  induction bs with
  | nil => cases h
  | cons b bs ih =>
      have hb := b.toNat_lt
      rcases List.mem_cons.mp h with rfl | h
      · exact isDigit_digit (by omega)
      · rcases List.mem_cons.mp h with rfl | h
        · exact isDigit_digit (by omega)
        · exact ih h

theorem encode_of_decode {cs : List Char} {bs : List UInt8} (h : decode cs = some bs) :
    (∀ c ∈ cs, IsDigit c) ∧ cs.map Char.toLower = encode bs := by
  induction cs using decode.induct generalizing bs with
  | case1 =>
      cases h
      exact ⟨nofun, rfl⟩
  | case2 => cases h
  | case3 high low cs ih =>
      simp only [decode, Option.bind_eq_bind, Option.bind_eq_some_iff, Option.pure_def, Option.some.injEq] at h
      obtain ⟨m, hm, n, hn, bs, hbs, rfl⟩ := h
      obtain ⟨hm₁, hm₂, hhigh⟩ := value?_eq_some hm
      obtain ⟨hn₁, hn₂, hlow⟩ := value?_eq_some hn
      obtain ⟨hdigits, hencode⟩ := ih hbs
      have hbyte : (UInt8.ofNat (m * 16 + n)).toNat = m * 16 + n := by
        rw [UInt8.toNat_ofNat']
        omega
      refine ⟨List.forall_mem_cons.mpr ⟨hhigh, List.forall_mem_cons.mpr ⟨hlow, hdigits⟩⟩, ?_⟩
      rw [encode, hbyte, show (m * 16 + n) / 16 = m by omega, show (m * 16 + n) % 16 = n by omega, hm₂, hn₂, ← hencode]
      rfl

theorem decode_of_encode {cs : List Char} {bs : List UInt8} (hdigits : ∀ c ∈ cs, IsDigit c)
    (h : cs.map Char.toLower = encode bs) : decode cs = some bs := by
  have hvalue : ∀ c, IsDigit c → value? c.toLower = value? c := by
    intro c hc
    obtain ⟨n, hn⟩ := exists_value hc
    obtain ⟨hlt, hlower, -⟩ := value?_eq_some hn
    rw [← hlower, value?_digit hlt, hn]
  have hread : ∀ ds : List Char, (∀ c ∈ ds, IsDigit c) → decode (ds.map Char.toLower) = decode ds := by
    intro ds hds
    induction ds using decode.induct with
    | case1 => rfl
    | case2 => rfl
    | case3 high low ds ih =>
        simp only [List.forall_mem_cons] at hds
        obtain ⟨hhigh, hlow, hds⟩ := hds
        simp only [List.map_cons, decode, hvalue high hhigh, hvalue low hlow, ih hds]
  rw [← hread cs hdigits, h, decode_encode]

theorem decode_eq_some_iff {cs : List Char} {bs : List UInt8} :
    decode cs = some bs ↔ (∀ c ∈ cs, IsDigit c) ∧ cs.map Char.toLower = encode bs :=
  ⟨encode_of_decode, fun ⟨hdigits, h⟩ => decode_of_encode hdigits h⟩

end SandboxTasks.Text.Hex
