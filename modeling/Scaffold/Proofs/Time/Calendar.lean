import Scaffold.Time.Moment

/-!
# Days and seconds in their order

Dates are numbered in the order of years, months and days
(`Date.dayNumber_lt`), because the days of a year fit in before the next one
begins. So moments of one clock are in the order of their six numbers
(`Moment.secondNumber_lt_iff`), fractions of a second apart.
-/

namespace Scaffold

namespace Date

def IsValid (d : Date) : Prop := ofNumbers d.year d.month d.day = .ok d

variable {d e : Date}

theorem isValid_iff : d.IsValid ↔ (1 ≤ d.year ∧ d.year ≤ 9999) ∧ (1 ≤ d.month ∧ d.month ≤ 12) ∧
    1 ≤ d.day ∧ d.day ≤ daysIn d.year d.month := by
  unfold IsValid ofNumbers
  split
  · simp only [reduceCtorEq, false_iff]
    omega
  split
  · simp only [reduceCtorEq, false_iff]
    omega
  split
  · simp only [reduceCtorEq, false_iff]
    omega
  · simp only [true_iff]
    omega

/-! ## Days of months and years -/

theorem daysBeforeMonth_succ (year : Nat) {m : Nat} (h : 1 ≤ m) :
    daysBeforeMonth year (m + 1) = daysBeforeMonth year m + daysIn year m := by
  obtain ⟨k, rfl⟩ := Nat.exists_eq_add_of_le' h
  simp [daysBeforeMonth, List.range_succ]

theorem daysBeforeMonth_le (year : Nat) {m m' : Nat} (h : 1 ≤ m) (hlt : m < m') :
    daysBeforeMonth year m + daysIn year m ≤ daysBeforeMonth year m' := by
  induction hlt with
  | refl => exact Nat.le_of_eq (daysBeforeMonth_succ year h).symm
  | @step k hk ih =>
    rw [daysBeforeMonth_succ year (Nat.le_trans h (Nat.le_of_lt hk))]
    exact Nat.le_add_right_of_le ih

theorem daysBeforeMonth_thirteen (year : Nat) : daysBeforeMonth year 13 = if isLeap year then 366 else 365 := by
  cases h : isLeap year <;> simp [daysBeforeMonth, List.range_succ, daysIn, h]

theorem succ_div_eq (n k : Nat) : (n + 1) / k = n / k + if (n + 1) % k = 0 then 1 else 0 := by
  simp only [Nat.succ_div, Nat.dvd_iff_mod_eq_zero]

theorem daysBeforeYear_succ {year : Nat} (h : 1 ≤ year) :
    daysBeforeYear (year + 1) = daysBeforeYear year + daysBeforeMonth year 13 := by
  obtain ⟨n, rfl⟩ := Nat.exists_eq_add_of_le' h
  have hhundred : n / 100 ≤ n / 4 := Nat.div_le_div_left (by decide) (by decide)
  have hfour : (n + 1) % 100 = 0 → (n + 1) % 4 = 0 := by omega
  have hcentury : (n + 1) % 400 = 0 → (n + 1) % 100 = 0 := by omega
  rw [daysBeforeMonth_thirteen]
  simp only [daysBeforeYear, Nat.add_sub_cancel, succ_div_eq, isLeap, Bool.and_eq_true, Bool.or_eq_true,
    bne_iff_ne, decide_eq_true_eq]
  generalize n / 4 = a, n / 100 = b, n / 400 = c at *
  by_cases h4 : (n + 1) % 4 = 0
  · by_cases h100 : (n + 1) % 100 = 0
    · by_cases h400 : (n + 1) % 400 = 0
      · simp only [h4, h100, h400, if_true, ne_eq, not_true_eq_false, false_or, and_self]
        omega
      · simp only [h4, h100, h400, if_true, if_false, ne_eq, not_true_eq_false, false_or, and_false]
        omega
    · have h400 : ¬ (n + 1) % 400 = 0 := fun h => h100 (hcentury h)
      simp only [h4, h100, h400, if_true, if_false, ne_eq, not_false_eq_true, true_or, and_self]
      omega
  · have h100 : ¬ (n + 1) % 100 = 0 := fun h => h4 (hfour h)
    have h400 : ¬ (n + 1) % 400 = 0 := fun h => h100 (hcentury h)
    simp only [h4, h100, h400, if_false, false_and]
    omega

theorem daysBeforeYear_mono {y y' : Nat} (h : 1 ≤ y) (hle : y ≤ y') : daysBeforeYear y ≤ daysBeforeYear y' := by
  induction hle with
  | refl => exact Nat.le_refl _
  | @step k hk ih =>
    rw [daysBeforeYear_succ (Nat.le_trans h hk)]
    exact Nat.le_add_right_of_le ih

/-! ## Day numbers -/

def numeral (d : Date) : Nat := (d.year * 100 + d.month) * 100 + d.day

theorem dayNumber_le (h : d.IsValid) : d.dayNumber ≤ daysBeforeYear (d.year + 1) := by
  obtain ⟨⟨hyear, -⟩, ⟨hmonth, hmonth'⟩, -, hday⟩ := isValid_iff.mp h
  have hmonths : _ ≤ daysBeforeMonth d.year 13 := daysBeforeMonth_le d.year hmonth (Nat.lt_succ_of_le hmonth')
  rw [daysBeforeYear_succ hyear, dayNumber]
  omega

theorem daysIn_le (year month : Nat) : daysIn year month ≤ 31 := by
  unfold daysIn
  split
  · split <;> decide
  all_goals decide

theorem dayNumber_lt (hd : d.IsValid) (he : e.IsValid) (h : d.numeral < e.numeral) : d.dayNumber < e.dayNumber := by
  obtain ⟨⟨hyear, -⟩, ⟨hmonth, hmonth'⟩, -, hday⟩ := isValid_iff.mp hd
  obtain ⟨-, ⟨-, hmonthE⟩, hdayE, -⟩ := isValid_iff.mp he
  have hshort := daysIn_le d.year d.month
  unfold numeral at h
  rcases Nat.lt_trichotomy d.year e.year with hlt | heq | hgt
  · have hbefore : daysBeforeYear (d.year + 1) ≤ daysBeforeYear e.year := daysBeforeYear_mono (Nat.le_add_left 1 _) hlt
    have hend := dayNumber_le hd
    rw [dayNumber.eq_def e]
    omega
  · rcases Nat.lt_or_ge d.month e.month with hlt | hge
    · have hbefore := daysBeforeMonth_le d.year hmonth hlt
      rw [dayNumber, dayNumber, ← heq]
      omega
    · have hsame : d.month = e.month := by
        have := daysIn_le e.year e.month
        have := (isValid_iff.mp he).2.2.2
        omega
      rw [dayNumber, dayNumber, ← heq, ← hsame]
      omega
  · have := daysIn_le e.year e.month
    have := (isValid_iff.mp he).2.2.2
    omega

theorem numeral_injective (hd : d.IsValid) (he : e.IsValid) (h : d.numeral = e.numeral) : d = e := by
  obtain ⟨-, ⟨-, hmonth⟩, -, hday⟩ := isValid_iff.mp hd
  obtain ⟨-, ⟨-, hmonthE⟩, -, hdayE⟩ := isValid_iff.mp he
  have := daysIn_le d.year d.month
  have := daysIn_le e.year e.month
  obtain ⟨y, m, k⟩ := d
  obtain ⟨y', m', k'⟩ := e
  simp only [numeral, Date.mk.injEq] at *
  omega

end Date

namespace Moment

structure IsValid (t : Moment) : Prop where
  date : t.date.IsValid
  hour : t.hour < 24
  minute : t.minute < 60
  second : t.second < 60
  microsecond : t.microsecond < 1000000

/-- Seconds since the beginning of year 1, by the moment's own clock. -/
def secondNumber (t : Moment) : Nat := ((t.date.dayNumber * 24 + t.hour) * 60 + t.minute) * 60 + t.second

def numeral (t : Moment) : Nat := ((t.date.numeral * 100 + t.hour) * 100 + t.minute) * 100 + t.second

/-- Of two moments that both lack an offset, or both have one, the first falls before the second. -/
def Earlier (s t : Moment) : Prop := s.clock - s.offset.getD 0 < t.clock - t.offset.getD 0

instance (s t : Moment) : Decidable (s.Earlier t) := inferInstanceAs (Decidable (_ < _))

variable {s t : Moment}

theorem clock_wholeSeconds (t : Moment) : t.wholeSeconds.clock = t.secondNumber * 1000000 := by
  simp [clock, wholeSeconds, secondNumber]

theorem earlier_wholeSeconds_iff (h : s.offset = t.offset) :
    s.wholeSeconds.Earlier t.wholeSeconds ↔ s.secondNumber < t.secondNumber := by
  rw [Earlier, clock_wholeSeconds, clock_wholeSeconds]
  simp only [wholeSeconds, h]
  omega

theorem equal_wholeSeconds_iff (h : s.offset = t.offset) :
    s.wholeSeconds.equal t.wholeSeconds ↔ s.secondNumber = t.secondNumber := by
  unfold equal
  rw [clock_wholeSeconds, clock_wholeSeconds]
  simp only [wholeSeconds, h]
  cases t.offset with
  | none =>
    simp only [beq_iff_eq]
    omega
  | some x =>
    simp only [beq_iff_eq]
    omega

theorem secondNumber_lt (hs : s.IsValid) (ht : t.IsValid) (h : s.numeral < t.numeral) :
    s.secondNumber < t.secondNumber := by
  obtain ⟨hdate, hhour, hminute, hsecond, -⟩ := hs
  obtain ⟨hdate', hhour', hminute', hsecond', -⟩ := ht
  unfold numeral at h
  unfold secondNumber
  rcases Nat.lt_trichotomy s.date.numeral t.date.numeral with hlt | heq | hgt
  · have := Date.dayNumber_lt hdate hdate' hlt
    omega
  · rw [Date.numeral_injective hdate hdate' heq] at h ⊢
    omega
  · omega

theorem secondNumber_of_numeral (hs : s.IsValid) (ht : t.IsValid) (h : s.numeral = t.numeral) :
    s.secondNumber = t.secondNumber := by
  obtain ⟨hdate, hhour, hminute, hsecond, -⟩ := hs
  obtain ⟨hdate', hhour', hminute', hsecond', -⟩ := ht
  unfold numeral at h
  have heq : s.date = t.date := Date.numeral_injective hdate hdate' (by omega)
  rw [heq] at h
  rw [secondNumber, secondNumber, heq]
  omega

theorem secondNumber_lt_iff (hs : s.IsValid) (ht : t.IsValid) :
    s.secondNumber < t.secondNumber ↔ s.numeral < t.numeral := by
  refine ⟨fun h => ?_, secondNumber_lt hs ht⟩
  rcases Nat.lt_trichotomy s.numeral t.numeral with hlt | heq | hgt
  · exact hlt
  · exact absurd (secondNumber_of_numeral hs ht heq) (Nat.ne_of_lt h)
  · exact absurd (secondNumber_lt ht hs hgt) (Nat.lt_asymm h)

theorem secondNumber_eq_iff (hs : s.IsValid) (ht : t.IsValid) :
    s.secondNumber = t.secondNumber ↔ s.numeral = t.numeral := by
  have hlt := secondNumber_lt_iff hs ht
  have hgt := secondNumber_lt_iff ht hs
  omega

end Moment

end Scaffold
