import SandboxTasks.Time.Calendar

namespace SandboxTasks.Date

/-- Where a day of an era lies: the century of the era, the four years of the century, the year of the four, and the
day of that year, all from nought. -/
structure InEra (day century four year dayOfYear : Int) : Prop where
  sum : day = 36524 * century + 1461 * four + 365 * year + dayOfYear
  century_le : 0 ≤ century ∧ century ≤ 3
  four_le : 0 ≤ four ∧ four ≤ 24
  year_le : 0 ≤ year ∧ year ≤ 3
  dayOfYear_le : 0 ≤ dayOfYear ∧ dayOfYear ≤ 365
  leapDay : dayOfYear = 365 → year = 3 ∧ (four = 24 → century = 3)

theorem exists_inEra {day : Int} (h₀ : 0 ≤ day) (h₁ : day ≤ 146096) : ∃ c k y n, InEra day c k y n := by
  obtain ⟨c, r, hc, hr, hsum, hlast⟩ : ∃ c r : Int, (0 ≤ c ∧ c ≤ 3) ∧ (0 ≤ r ∧ r ≤ 36524) ∧ day = 36524 * c + r ∧
      (r = 36524 → c = 3) := by
    by_cases he : day = 146096
    · exact ⟨3, 36524, by omega, by omega, by omega, fun _ => rfl⟩
    · exact ⟨day / 36524, day % 36524, by omega, by omega, by omega, by omega⟩
  obtain ⟨y, n, hy, hn, hyear, hleap⟩ : ∃ y n : Int, (0 ≤ y ∧ y ≤ 3) ∧ (0 ≤ n ∧ n ≤ 365) ∧
      r % 1461 = 365 * y + n ∧ (n = 365 → y = 3) := by
    by_cases he : r % 1461 = 1460
    · exact ⟨3, 365, by omega, by omega, by omega, fun _ => rfl⟩
    · exact ⟨r % 1461 / 365, r % 1461 % 365, by omega, by omega, by omega, by omega⟩
  exact ⟨c, r / 1461, y, n, by omega, hc, by omega, hy, hn, fun h => ⟨hleap h, fun hk => hlast (by omega)⟩⟩

theorem yearOfEra_eq {day c k y n : Int} (h : InEra day c k y n) :
    (day - day / 1460 + day / 36524 - day / 146096) / 365 = 100 * c + 4 * k + y := by
  obtain ⟨hsum, hc, hk, hy, hn, hleap⟩ := h
  -- Every 1460 days count one day too many, and every 36524 one too few; a year is never left by it.
  obtain ⟨e, he, hfour⟩ : ∃ e, day / 1460 = 25 * c + k + e ∧ (e = 0 ∧ n ≤ 364 ∨ e = 1 ∧ 1 ≤ n) := by
    refine ⟨day / 1460 - (25 * c + k), by omega, ?_⟩
    omega
  have hcentury : day / 36524 - day / 146096 = c := by
    by_cases hlast : day = 146096
    · subst hlast
      omega
    · have hrest : 1461 * k + 365 * y + n ≤ 36523 := by
        by_cases hleft : n = 365
        · obtain ⟨rfl, hend⟩ := hleap hleft
          omega
        · omega
      have hc' : day / 36524 = c := by omega
      have hera : day / 146096 = 0 := by omega
      omega
  omega

theorem dayOfYear_eq {day c k y n : Int} (h : InEra day c k y n) :
    day - (365 * (100 * c + 4 * k + y) + (100 * c + 4 * k + y) / 4 - (100 * c + 4 * k + y) / 100) = n := by
  obtain ⟨hsum, hc, hk, hy, hn, hleap⟩ := h
  have hfour : (100 * c + 4 * k + y) / 4 = 25 * c + k := by omega
  have hcentury : (100 * c + 4 * k + y) / 100 = c := by omega
  omega

theorem month_day {n : Int} (h : 0 ≤ n ∧ n ≤ 365) :
    let m := (5 * n + 2) / 153
    let d := n - (153 * m + 2) / 5 + 1
    (0 ≤ m ∧ m ≤ 11) ∧ 1 ≤ d ∧ d ≤ 31 ∧ (m = 1 ∨ m = 3 ∨ m = 6 ∨ m = 8 → d ≤ 30) ∧
      (m = 11 → d ≤ 29 ∧ (d = 29 → n = 365)) := by
  intro m d
  have hm : 0 ≤ m ∧ m ≤ 11 := by omega
  refine ⟨hm, ?_⟩
  omega

theorem Exists.lt_hundred {d : Date} (h : d.Exists) : d.month < 100 ∧ d.day < 100 := by
  obtain ⟨hone, hmost⟩ := h
  have hlength : daysInMonth d.year d.month ≤ 31 ∧ (12 < d.month → daysInMonth d.year d.month = 0) := by
    simp only [daysInMonth]
    repeat' split
    all_goals omega
  omega

theorem ofDays_eq {z c k y n : Int} (h : InEra ((z + 719468) % 146097) c k y n) :
    ofDays z =
      let m := (5 * n + 2) / 153
      let year := 100 * c + 4 * k + y + (z + 719468) / 146097 * 400
      ⟨if m < 10 then year else year + 1, (if m < 10 then m + 3 else m - 9).toNat,
        (n - (153 * m + 2) / 5 + 1).toNat⟩ := by
  have hm := (month_day h.dayOfYear_le).1
  simp only [ofDays, yearOfEra_eq h, dayOfYear_eq h]
  by_cases hten : (5 * n + 2) / 153 < 10
  · have hlate : ¬ (5 * n + 2) / 153 + 3 ≤ 2 := by omega
    simp only [hten, if_true, hlate, if_false]
  · have hearly : (5 * n + 2) / 153 - 9 ≤ 2 := by omega
    simp only [hten, if_false, hearly, if_true]

theorem exists_inEra_of (z : Int) : ∃ c k y n, InEra ((z + 719468) % 146097) c k y n :=
  exists_inEra (Int.emod_nonneg _ (by decide)) (Int.le_of_lt_add_one (Int.emod_lt_of_pos _ (by decide)))

theorem toDays_ofDays (z : Int) : (ofDays z).toDays = z := by
  obtain ⟨c, k, y, n, h⟩ := exists_inEra_of z
  obtain ⟨hm, hday, -⟩ := month_day h.dayOfYear_le
  have hback := dayOfYear_eq h
  rw [ofDays_eq h]
  generalize hmonth : (5 * n + 2) / 153 = m at *
  obtain ⟨-, hc, hk, hy, hn, -⟩ := h
  have hyear : ∀ e : Int, (100 * c + 4 * k + y + e * 400) / 400 = e ∧
      (100 * c + 4 * k + y + e * 400) % 400 = 100 * c + 4 * k + y := by omega
  obtain ⟨hera, hof⟩ := hyear ((z + 719468) / 146097)
  have hzero : (z + 719468) / 146097 * 146097 + (z + 719468) % 146097 = z + 719468 := by omega
  by_cases hten : m < 10
  · have hfrom : (((m + 3).toNat : Int) + 9) % 12 = m := by omega
    have hlate : ¬ (m + 3).toNat ≤ 2 := by omega
    simp only [hten, if_true, toDays, hlate, if_false, hera, hof, hfrom]
    omega
  · have hfrom : (((m - 9).toNat : Int) + 9) % 12 = m := by omega
    have hearly : (m - 9).toNat ≤ 2 := by omega
    simp only [hten, if_false, toDays, hearly, if_true, Int.add_sub_cancel, hera, hof, hfrom]
    omega

theorem exists_ofDays (z : Int) : (ofDays z).Exists := by
  obtain ⟨c, k, y, n, h⟩ := exists_inEra_of z
  obtain ⟨hm, hone, hmost, hthirty, hfebruary⟩ := month_day h.dayOfYear_le
  rw [ofDays_eq h]
  have hleap := h.leapDay
  obtain ⟨-, hc, hk, hy, -, -⟩ := h
  generalize (5 * n + 2) / 153 = m at *
  refine ⟨by simp only; omega, ?_⟩
  by_cases heleven : m = 11
  · subst heleven
    obtain ⟨hmax, hlast⟩ := hfebruary rfl
    simp only [daysInMonth]
    by_cases hfull : n - (153 * 11 + 2) / 5 + 1 = 29
    · obtain ⟨rfl, hcentury⟩ := hleap (hlast hfull)
      have hyear : isLeapYear (100 * c + 4 * k + 3 + (z + 719468) / 146097 * 400 + 1) = true := by
        simp [isLeapYear]
        omega
      simp [hyear]
      omega
    · simp
      split <;> omega
  · obtain ⟨q, hq, hlong⟩ : ∃ q : Nat, (if m < 10 then m + 3 else m - 9).toNat = q ∧
        (q ≠ 2 ∧ 1 ≤ q ∧ q ≤ 12 ∧ (q = 4 ∨ q = 6 ∨ q = 9 ∨ q = 11 → m = 1 ∨ m = 3 ∨ m = 6 ∨ m = 8)) := by
      refine ⟨_, rfl, ?_⟩
      split <;> omega
    simp only [daysInMonth, hq, hlong.1, if_false, hlong.2.1, hlong.2.2.1, and_self, if_true]
    split
    · next hshort =>
        have hle := hthirty (hlong.2.2.2 hshort)
        omega
    · omega

end SandboxTasks.Date
