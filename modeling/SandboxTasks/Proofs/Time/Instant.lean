import SandboxTasks.Proofs.Text.Digits
import SandboxTasks.Proofs.Time.Calendar
import SandboxTasks.Time.Instant

namespace SandboxTasks.Instant

open Text

theorem readNumber_all {ds rest : List Char} (digits : ∀ c ∈ ds, isDigit c = true) (some : ds ≠ [])
    (stops : Stops rest) : readNumber? (ds ++ rest).length (ds ++ rest) = .some (digitsValue ds, rest) :=
  readNumber_append digits some (by simp) (.inr stops)

theorem stops_mark (rest : List Char) : Stops ('-' :: rest) := fun c hc => by
  cases hc
  decide

theorem readYear_digits {ds rest : List Char} (digits : ∀ c ∈ ds, isDigit c = true) (four : ds.length = 4) :
    readYear? (ds ++ '-' :: rest) = some ((digitsValue ds : Int), '-' :: rest) := by
  have hread : readNumber? 4 (ds ++ '-' :: rest) = some (digitsValue ds, '-' :: rest) :=
    readNumber_append digits (List.ne_nil_of_length_pos (by omega)) four.le (.inr (stops_mark rest))
  cases ds with
  | nil => cases four
  | cons d ds =>
      have hd := digits d List.mem_cons_self
      have hminus : d ≠ '-' := by rintro rfl; exact absurd hd (by decide)
      have hplus : d ≠ '+' := by rintro rfl; exact absurd hd (by decide)
      rw [List.cons_append] at hread
      rw [readYear?, List.cons_append, dropBlanks_cons (isBlank_of_isDigit hd)]
      split
      · next h => exact absurd (List.cons.inj h).1 hminus
      · next h => exact absurd (List.cons.inj h).1 hplus
      · rw [hread]
        rfl

theorem readYear_signed {ds : List Char} (digits : ∀ c ∈ ds, isDigit c = true) (some : ds ≠ []) (rest : List Char) :
    readYear? ('-' :: (ds ++ '-' :: rest)) = .some (-(digitsValue ds : Int), '-' :: rest) ∧
      readYear? ('+' :: (ds ++ '-' :: rest)) = .some ((digitsValue ds : Int), '-' :: rest) := by
  have hread := readNumber_all digits some (stops_mark rest)
  constructor
  · rw [readYear?, dropBlanks_cons (by decide)]
    simp only [hread]
    rfl
  · rw [readYear?, dropBlanks_cons (by decide)]
    simp only [hread]
    rfl

theorem readYear_yearText (y : Int) (rest : List Char) : readYear? (yearText y ++ '-' :: rest) = some (y, '-' :: rest) := by
  by_cases hfour : 0 ≤ y ∧ y ≤ 9999
  · rw [yearText, if_pos hfour, readYear_digits (fun c => isDigit_of_mem_padded) (padded_length 4 _),
      digitsValue_padded, Nat.mod_eq_of_lt (by omega), Int.toNat_of_nonneg hfour.1]
  · rw [yearText, if_neg hfour]
    generalize hds : List.replicate (4 - (toString y.natAbs).toList.length) '0' ++ (toString y.natAbs).toList = ds
    have hdigits : ∀ c ∈ ds, isDigit c = true := by
      intro c hc
      rcases List.mem_append.mp (hds ▸ hc) with hc | hc
      · rw [List.eq_of_mem_replicate hc]
        decide
      · exact isDigit_of_mem_toString hc
    have hvalue : digitsValue ds = y.natAbs := by rw [← hds, digitsValue_zeros, digitsValue_toString]
    have hne : ds ≠ [] := by
      rintro rfl
      rw [digitsValue, List.foldl_nil] at hvalue
      omega
    obtain ⟨hminus, hplus⟩ := readYear_signed hdigits hne rest
    by_cases hneg : y < 0
    · simp only [hds, hneg, if_true, List.cons_append, hminus, hvalue]
      congr 2
      omega
    · simp only [hds, hneg, if_false, List.cons_append, hplus, hvalue]
      congr 2
      omega

theorem readMark_cons {mark : Char} (h : isBlank mark = false) (rest : List Char) :
    readMark? mark (mark :: rest) = some rest := by
  rw [readMark?, dropBlanks_cons h]
  exact if_pos rfl

theorem readPart_padded {n : Nat} (hn : n < 100) (rest : List Char) : readPart? 2 (padded 2 n ++ rest) = some (n, rest) := by
  have hne : padded 2 n ≠ [] := List.ne_nil_of_length_pos (by rw [padded_length]; decide)
  rw [readPart?, dropBlanks_digits (fun c => isDigit_of_mem_padded) hne, readNumber_padded (by decide) hn]

theorem readFraction_point {width n : Nat} (hw : 0 < width) (hmost : width ≤ 9) (hn : n < 10 ^ width) (rest : List Char)
    (stops : Stops rest) : readFraction? ('.' :: padded width n ++ rest) = some (n * 10 ^ (9 - width), rest) := by
  have hspan : spanDigits 9 (padded width n ++ rest) = (padded width n, rest) :=
    spanDigits_append (fun c => isDigit_of_mem_padded) (by rwa [padded_length]) (.inr stops)
  have hdrop : rest.dropWhile isDigit = rest := by
    cases rest with
    | nil => rfl
    | cons c rest => simp [stops c rfl]
  have hvalue : digitsValue (padded width n) = n := by rw [digitsValue_padded, Nat.mod_eq_of_lt hn]
  have hlen := padded_length width n
  cases hp : padded width n with
  | nil =>
      rw [hp] at hlen
      exact absurd hlen (by simp; omega)
  | cons d ds =>
      rw [hp] at hspan hvalue hlen
      rw [List.cons_append, readFraction?, hspan]
      simp only [hvalue, hlen, hdrop]
      rfl

theorem readFraction_fractionText {n : Nat} (hn : n < 1000000000) :
    readFraction? (fractionText n ++ ['Z']) = some (n, ['Z']) := by
  have hstops : Stops ['Z'] := fun c hc => by
    cases hc
    decide
  unfold fractionText
  split
  · next h => rw [h]; rfl
  · split
    · next h =>
        rw [readFraction_point (by decide) (by decide) (by omega) _ hstops]
        congr 2
        omega
    · split
      · next h =>
          rw [readFraction_point (by decide) (by decide) (by omega) _ hstops]
          congr 2
          omega
      · rw [readFraction_point (by decide) (by decide) (by omega) _ hstops]
        congr 2
        omega

/-- What a clock shows: a leap second is read as second 60 of the second before. -/
def shown (t : Instant) : Int := if t.leap then t.nanos - nanosPerSecond else t.nanos

/-- The day lies in a year that dates are kept for, and second 60 comes at the end of a minute. -/
structure Legible (t : Instant) : Prop where
  year : yearInRange (Date.ofDays (t.shown / nanosPerDay)).year = true
  leap : t.leap = true → t.shown / nanosPerSecond % 60 = 59

theorem toChars_eq (t : Instant) : t.toChars =
    let date := Date.ofDays (t.shown / nanosPerDay)
    let ofDay := (t.shown % nanosPerDay).toNat
    let second := ofDay / 1000000000
    yearText date.year ++ '-' :: (padded 2 date.month ++ '-' :: (padded 2 date.day ++ 'T' :: (padded 2 (second / 3600) ++
      ':' :: (padded 2 (second / 60 % 60) ++ ':' :: (padded 2 (second % 60 + if t.leap then 1 else 0) ++
        (fractionText (ofDay % 1000000000) ++ ['Z'])))))) := by
  simp only [toChars, shown, List.append_assoc, List.cons_append]

theorem bind_of_some {α β : Type} {o : Option α} {a : α} (h : o = some a) (f : α → Option β) : (o >>= f) = f a := by
  rw [h, Option.bind_eq_bind, Option.bind_some]

theorem ofChars_parts {date : Date} {hour minute second fraction : Nat} (hyear : yearInRange date.year = true)
    (hdate : date.Exists) (hhour : hour ≤ 23) (hminute : minute ≤ 59) (hsecond : second ≤ 60)
    (hfraction : fraction < 1000000000) :
    ofChars? (yearText date.year ++ '-' :: (padded 2 date.month ++ '-' :: (padded 2 date.day ++ 'T' :: (padded 2 hour ++
      ':' :: (padded 2 minute ++ ':' :: (padded 2 second ++ (fractionText fraction ++ ['Z']))))))) =
      some ⟨(date.toDays * 86400 + hour * 3600 + minute * 60 + second) * nanosPerSecond + fraction, second == 60⟩ := by
  obtain ⟨hmonth, hday⟩ := hdate.lt_hundred
  have hend : (guard ((dropBlanks []).isEmpty = true) : Option Unit) = some () := rfl
  have hguard : (guard (yearInRange date.year = true ∧ date.Exists ∧ hour ≤ 23 ∧ minute ≤ 59 ∧ second ≤ 60) :
      Option Unit) = some () := if_pos ⟨hyear, hdate, hhour, hminute, hsecond⟩
  have hoffset : readOffset? (dropBlanks ['Z']) = some (0, []) := rfl
  unfold ofChars?
  rw [bind_of_some (readYear_yearText _ _)]
  dsimp only
  rw [bind_of_some (readMark_cons (by decide) _), bind_of_some (readPart_padded hmonth _)]
  dsimp only
  rw [bind_of_some (readMark_cons (by decide) _), bind_of_some (readPart_padded hday _)]
  dsimp only
  rw [if_pos (.inl rfl), bind_of_some rfl, bind_of_some (readPart_padded (Nat.lt_of_le_of_lt hhour (by decide)) _)]
  dsimp only
  rw [bind_of_some (readMark_cons (by decide) _),
    bind_of_some (readPart_padded (Nat.lt_of_le_of_lt hminute (by decide)) _)]
  dsimp only
  rw [bind_of_some (readMark_cons (by decide) _),
    bind_of_some (readPart_padded (Nat.lt_of_le_of_lt hsecond (by decide)) _)]
  dsimp only
  rw [bind_of_some (readFraction_fractionText hfraction)]
  dsimp only
  rw [bind_of_some hoffset]
  dsimp only
  rw [bind_of_some hend, bind_of_some hguard, Int.sub_zero]
  rfl

theorem ofText_toText {t : Instant} (h : t.Legible) : ofText? t.toText = some t := by
  obtain ⟨hyear, hleap⟩ := h
  have hnanos : t.nanos = t.shown + if t.leap then nanosPerSecond else 0 := by
    unfold shown
    split <;> omega
  have hday := Int.mul_ediv_add_emod t.shown nanosPerDay
  have hdays := Date.toDays_ofDays (t.shown / nanosPerDay)
  obtain ⟨n, hn, hlt⟩ : ∃ n : Nat, t.shown % nanosPerDay = n ∧ n < 86400000000000 :=
    ⟨(t.shown % nanosPerDay).toNat, by unfold nanosPerDay; omega, by unfold nanosPerDay; omega⟩
  -- Second 60 is announced by 59: a marked instant shows the last second of its minute.
  have hminute : t.leap = true → n / 1000000000 % 60 = 59 := by
    intro hl
    have hsecond := hleap hl
    unfold nanosPerDay at hn
    unfold nanosPerSecond at hsecond
    omega
  rw [ofText?, toText, String.toList_ofList, toChars_eq]
  simp only [hn, Int.toNat_natCast]
  rw [ofChars_parts hyear (Date.exists_ofDays _) (by omega) (by omega) (by split <;> omega)
    (Nat.mod_lt n (by decide)), hdays]
  obtain ⟨nanos, leap⟩ := t
  cases leap with
  | false =>
      have hleft : ((n / 1000000000 % 60 + if false = true then 1 else 0) == 60) = false := by
        simp
        omega
      rw [hleft]
      simp only [Bool.false_eq_true, if_false] at hnanos ⊢
      congr 2
      unfold nanosPerDay at hday hn ⊢
      unfold nanosPerSecond
      omega
  | true =>
      have hleft : ((n / 1000000000 % 60 + if true = true then 1 else 0) == 60) = true := by
        simp [hminute rfl]
      rw [hleft]
      simp only [if_true] at hnanos ⊢
      congr 2
      unfold nanosPerDay at hday hn ⊢
      unfold nanosPerSecond at hnanos ⊢
      omega

end SandboxTasks.Instant
