import Mathlib.Tactic.Ring
import Scaffold.Number.Decimal

/-!
# Decimals that stand for doubles

Rounding a decimal depends on its value only, not on the place of its last
digit (`Decimal.round_of_tenfold`). The shortest decimal of a double is rounded
back to it (`Decimal.round_shortest`).
-/

namespace Scaffold

namespace Binary64

/-! ## Rounding a quotient -/

theorem roundHalfEven_mul (num den : Nat) {k : Nat} (hk : 0 < k) :
    roundHalfEven (num * k) (den * k) = roundHalfEven num den := by
  have htwice : 2 * (num % den * k) = 2 * (num % den) * k := (Nat.mul_assoc 2 _ k).symm
  unfold roundHalfEven
  simp only [Nat.mul_div_mul_right num den hk, Nat.mul_mod_mul_right, htwice, Nat.mul_lt_mul_right hk]

theorem nearestRank_mul (num den : Nat) {k : Nat} (hk : 0 < k) :
    nearestRank (num * k) (den * k) = nearestRank num den := by
  unfold nearestRank
  simp only [Nat.mul_div_mul_right num den hk, Nat.mul_right_comm den k, roundHalfEven_mul _ _ hk]

theorem nearest_mul (negative : Bool) (num den : Nat) {k : Nat} (hk : 0 < k) :
    nearest negative (num * k) (den * k) = nearest negative num den := by
  unfold nearest
  simp only [nearestRank_mul num den hk]

theorem roundHalfEven_of_dvd (n : Nat) {den : Nat} (h : 0 < den) : roundHalfEven (n * den) den = n := by
  unfold roundHalfEven
  simp only [Nat.mul_mod_left, Nat.mul_div_cancel n h, Nat.mul_zero, h, if_true]

/-! ## Ranks -/

/-- A magnitude is a number of at most 53 bits, shifted, and of just 53 bits where it is shifted. -/
theorem units_eq (rank : Nat) : ∃ m, units rank = m * Nat.pow 2 (shift rank) ∧
    rank = shift rank * Nat.pow 2 52 + m ∧ m < Nat.pow 2 53 ∧ (shift rank = 0 ∨ Nat.pow 2 52 ≤ m) := by
  refine ⟨rank - shift rank * Nat.pow 2 52, rfl, ?_⟩
  have hsplit := Nat.div_add_mod rank (Nat.pow 2 52)
  have hmod := Nat.mod_lt rank (show 0 < Nat.pow 2 52 by decide)
  have hpow : Nat.pow 2 52 = 4503599627370496 := rfl
  have hpow' : Nat.pow 2 53 = 9007199254740992 := rfl
  unfold shift
  rw [hpow, hpow'] at *
  omega

theorem log2_units {rank : Nat} (h : shift rank ≠ 0) : Nat.log2 (units rank) = 52 + shift rank := by
  obtain ⟨m, hunits, -, hlt, hm⟩ := units_eq rank
  have hm := hm.resolve_left h
  have hpos : 0 < Nat.pow 2 (shift rank) := Nat.pow_pos (by decide)
  have hne : units rank ≠ 0 := by
    rw [hunits]
    exact Nat.mul_ne_zero (Nat.ne_of_gt (Nat.lt_of_lt_of_le (by decide) hm)) (Nat.ne_of_gt hpos)
  rw [Nat.log2_eq_iff hne, hunits, Nat.pow_add, Nat.add_right_comm, Nat.pow_add]
  exact ⟨Nat.mul_le_mul_right _ hm, Nat.mul_lt_mul_of_pos_right hlt hpos⟩

theorem nearestRank_units {rank : Nat} (h : rank ≤ topRank) : nearestRank (units rank) 1 = rank := by
  obtain ⟨m, hunits, hrank, hlt, hm⟩ := units_eq rank
  have hshift : Nat.log2 (units rank) - 52 = shift rank := by
    by_cases hzero : shift rank = 0
    · have hsmall : units rank < Nat.pow 2 53 := by
        rw [hunits, hzero]
        exact (Nat.mul_one m).symm ▸ hlt
      have hlog := Nat.log2_lt (n := units rank) (k := 53)
      by_cases hnone : units rank = 0
      · rw [hnone, hzero]
        decide
      · have := (hlog hnone).mpr hsmall
        omega
    · rw [log2_units hzero]
      omega
  have hpos : 0 < Nat.pow 2 (shift rank) := Nat.pow_pos (by decide)
  unfold nearestRank
  simp only [Nat.div_one, hshift, Nat.one_mul]
  rw [hunits, roundHalfEven_of_dvd m hpos, ← hrank, Nat.min_eq_right h]

end Binary64

namespace Decimal

/-! ## Digits -/

theorem digitsOf_tenfold {n : Nat} (h : 0 < n) : digitsOf (n * 10) = digitsOf n ++ ['0'] := by
  rw [digitsOf, Nat.toDigits_of_base_le (by decide) (by omega), Nat.mul_div_cancel n (by decide),
    Nat.mul_mod_left]
  rfl

/-! ## The place of the last digit -/

def tenfold (d : Decimal) : Decimal := ⟨d.digits * 10, d.exponent - 1⟩

def nearest (negative : Bool) (n : Nat) (e : Int) : Binary64 :=
  if 0 ≤ e then .nearest negative (n * Nat.pow 10 e.toNat * Binary64.unit) 1
  else .nearest negative (n * Binary64.unit) (Nat.pow 10 (-e).toNat)

theorem nearest_tenfold (negative : Bool) (n : Nat) (e : Int) :
    nearest negative (n * 10) (e - 1) = nearest negative n e := by
  have hten (m k : Nat) : Binary64.nearest negative (m * 10) (k * 10) = Binary64.nearest negative m k :=
    Binary64.nearest_mul negative m k (by decide)
  unfold nearest
  generalize Binary64.unit = u
  rcases Int.lt_trichotomy e 0 with he | rfl | he
  · have hk : (-(e - 1)).toNat = (-e).toNat + 1 := by omega
    have hpow (k : Nat) : Nat.pow 10 (k + 1) = Nat.pow 10 k * 10 := Nat.pow_succ 10 k
    rw [if_neg (by omega), if_neg (by omega), hk, hpow, Nat.mul_right_comm n 10, hten]
  · have hone : Nat.pow 10 (Int.toNat 0) = 1 := rfl
    have hten' : Nat.pow 10 (-(0 - 1 : Int)).toNat = 1 * 10 := rfl
    rw [if_neg (by decide), if_pos (by decide), hone, hten', Nat.mul_right_comm n 10, hten, Nat.mul_one]
  · have hk : e.toNat = (e - 1).toNat + 1 := by omega
    have hpow (k : Nat) : Nat.pow 10 (k + 1) = Nat.pow 10 k * 10 := Nat.pow_succ 10 k
    rw [if_pos (by omega), if_pos (by omega), hk, hpow, Nat.mul_assoc n 10, Nat.mul_comm 10]

theorem round_eq (negative : Bool) (d : Decimal) : round negative d =
    if d.digits = 0 then .signedZero negative
    else if 400 < ((digitsOf d.digits).length : Int) + d.exponent then
      .signed negative (Fin.last Binary64.topRank)
    else if ((digitsOf d.digits).length : Int) + d.exponent < -400 then .signedZero negative
    else nearest negative d.digits d.exponent := by
  unfold round nearest
  rfl

theorem round_tenfold (negative : Bool) (d : Decimal) : round negative d.tenfold = round negative d := by
  obtain ⟨n, e⟩ := d
  rw [round_eq, round_eq, tenfold]
  by_cases hn : n = 0
  · simp only [hn, Nat.zero_mul, if_true]
  have htop : ((digitsOf (n * 10)).length : Int) + (e - 1) = (digitsOf n).length + e := by
    rw [digitsOf_tenfold (Nat.pos_of_ne_zero hn), List.length_append, List.length_singleton]
    omega
  simp only [htop, hn, Nat.mul_eq_zero, or_self, if_false, OfNat.ofNat_ne_zero, nearest_tenfold]

theorem round_mul_pow (negative : Bool) (n : Nat) (e : Int) (k : Nat) :
    round negative ⟨n * Nat.pow 10 k, e - k⟩ = round negative ⟨n, e⟩ := by
  induction k with
  | zero => exact congrArg₂ (fun n e => round negative ⟨n, e⟩) (Nat.mul_one n) (Int.sub_zero e)
  | succ k ih =>
    have htenfold : (⟨n * Nat.pow 10 (k + 1), e - (k + 1 : Nat)⟩ : Decimal) =
        tenfold ⟨n * Nat.pow 10 k, e - k⟩ := by
      rw [tenfold, Decimal.mk.injEq]
      exact ⟨(Nat.mul_assoc n _ 10).symm, (Int.sub_sub e k 1).symm⟩
    rw [htenfold, round_tenfold, ih]

theorem round_normalize (negative : Bool) : ∀ (fuel : Nat) (d : Decimal),
    round negative (normalize fuel d) = round negative d
  | 0, _ => rfl
  | fuel + 1, d => by
    rw [normalize]
    split
    · rename_i h
      have htenfold : d = tenfold ⟨d.digits / 10, d.exponent + 1⟩ := by
        rw [tenfold, Nat.div_mul_cancel (Nat.dvd_of_mod_eq_zero h.2), Int.add_sub_cancel]
      rw [round_normalize negative fuel, ← round_tenfold, ← htenfold]
    · rfl

theorem round_sign (d : Decimal) : ∃ rank, ∀ negative, round negative d = .signed negative rank := by
  simp only [round_eq, nearest, Binary64.nearest, Binary64.signedZero]
  split
  · exact ⟨_, fun _ => rfl⟩
  split
  · exact ⟨_, fun _ => rfl⟩
  split
  · exact ⟨_, fun _ => rfl⟩
  split <;> exact ⟨_, fun _ => rfl⟩

/-! ## The shortest decimal of a double -/

theorem round_of_candidate {rank count : Nat} {d : Decimal} (h : candidate rank count = some d)
    (negative : Bool) : ∃ r, r.val = rank ∧ round negative d = .signed negative r := by
  obtain ⟨found, hfound, rfl⟩ := Option.map_eq_some_iff.mp h
  obtain ⟨r, hr⟩ := round_sign found
  have hback := List.find?_some hfound
  simp only [hr, beq_iff_eq] at hback
  exact ⟨r, hback, by rw [round_normalize, hr]⟩

theorem shift_le {rank : Nat} (h : rank < Binary64.topRank) : Binary64.shift rank ≤ 2045 := by
  have hquotient : rank / Nat.pow 2 52 < 2047 := (Nat.div_lt_iff_lt_mul (by decide)).mpr h
  unfold Binary64.shift
  omega

theorem units_lt {rank b : Nat} (h : Binary64.shift rank ≤ b) : Binary64.units rank < 2 ^ (53 + b) := by
  obtain ⟨m, hunits, -, hlt, -⟩ := Binary64.units_eq rank
  calc Binary64.units rank = m * 2 ^ Binary64.shift rank := hunits
    _ < 2 ^ 53 * 2 ^ Binary64.shift rank := Nat.mul_lt_mul_of_pos_right hlt (Nat.two_pow_pos _)
    _ ≤ 2 ^ 53 * 2 ^ b := Nat.mul_le_mul_left _ (Nat.pow_le_pow_right (by decide) h)
    _ = 2 ^ (53 + b) := (Nat.pow_add 2 53 b).symm

theorem units_pos {rank : Nat} (h : 0 < rank) : 0 < Binary64.units rank := by
  obtain ⟨m, hunits, hrank, -, hm⟩ := Binary64.units_eq rank
  rw [hunits]
  refine Nat.mul_pos (Nat.pos_of_ne_zero fun hzero => ?_) (Nat.pow_pos (by decide))
  rcases hm with hshift | hm
  · rw [hshift, hzero] at hrank
    omega
  · exact absurd (hzero ▸ hm) (by decide)

theorem le_length {n k : Nat} (h : 10 ^ k ≤ n) : k < (digitsOf n).length := by
  rw [← Nat.not_le]
  intro hle
  rcases Nat.eq_zero_or_pos k with rfl | hpos
  · exact absurd (List.eq_nil_of_length_eq_zero (Nat.le_zero.mp hle)) Nat.toDigits_ne_nil
  · exact absurd h (Nat.not_le.mpr ((Nat.length_toDigits_le_iff (by decide) hpos).mp hle))

/-- The first digit stands at most so many places behind the point. -/
theorem lt_length {n j k : Nat} (hn : 0 < n) (hk : k ≤ 2 * j) : k < (digitsOf (n * 5 ^ (j + k))).length := by
  refine le_length ?_
  calc 10 ^ k = 2 ^ k * 5 ^ k := Nat.mul_pow 2 5 k
    _ ≤ 2 ^ (2 * j) * 5 ^ k := Nat.mul_le_mul_right _ (Nat.pow_le_pow_right (by decide) hk)
    _ = 4 ^ j * 5 ^ k := by rw [Nat.pow_mul]
    _ ≤ 5 ^ j * 5 ^ k := Nat.mul_le_mul_right _ (Nat.pow_le_pow_left (by decide) j)
    _ = 5 ^ (j + k) := (Nat.pow_add 5 j k).symm
    _ ≤ n * 5 ^ (j + k) := Nat.le_mul_of_pos_left _ hn

theorem length_le {n b j k : Nat} (hn : n < 2 ^ b) (hb : b ≤ 3 * j + k) (hpos : 0 < j) :
    (digitsOf (n * 5 ^ k)).length ≤ j + k := by
  refine (Nat.length_toDigits_le_iff (by decide) (by omega)).mpr ?_
  calc n * 5 ^ k < 2 ^ b * 5 ^ k := Nat.mul_lt_mul_of_pos_right hn (Nat.pow_pos (by decide))
    _ ≤ 2 ^ (3 * j + k) * 5 ^ k := Nat.mul_le_mul_right _ (Nat.pow_le_pow_right (by decide) hb)
    _ = 8 ^ j * 10 ^ k := by rw [Nat.pow_add, Nat.pow_mul, Nat.mul_assoc, ← Nat.mul_pow]
    _ ≤ 10 ^ j * 10 ^ k := Nat.mul_le_mul_right _ (Nat.pow_le_pow_left (by decide) j)
    _ = 10 ^ (j + k) := (Nat.pow_add 10 j k).symm

theorem nearest_exact (negative : Bool) (n k : Nat) (hk : 0 < k) (hunit : Binary64.unit = Nat.pow 2 k) :
    nearest negative (n * Nat.pow 5 k) (-k) = Binary64.nearest negative n 1 := by
  have hten : n * Nat.pow 5 k * Nat.pow 2 k = n * Nat.pow 10 k := by
    rw [Nat.mul_assoc]
    exact congrArg (n * ·) (Nat.mul_pow 5 2 k).symm
  have hneg : (-(-(k : Int))).toNat = k := by omega
  rw [nearest, if_neg (by omega), hunit, hten, hneg]
  have hscaled := Binary64.nearest_mul negative n 1 (k := Nat.pow 10 k) (Nat.pow_pos (by decide))
  rwa [Nat.one_mul] at hscaled

/-- Written with all its digits, a double is nowhere near the bounds beyond which powers of ten are
not looked at. -/
theorem round_all {n b k : Nat} (hn : 0 < n) (hlow : 401 ≤ k) (hhigh : k ≤ 1203)
    (hunit : Binary64.unit = Nat.pow 2 k) (hb : n < 2 ^ b) (hbound : b ≤ 1200 + k) (negative : Bool) :
    round negative ⟨n * Nat.pow 5 k, -k⟩ = Binary64.nearest negative n 1 := by
  have hne : n * Nat.pow 5 k ≠ 0 := Nat.ne_of_gt (Nat.mul_pos hn (Nat.pow_pos (by decide)))
  have hlength : k - 401 < (digitsOf (n * Nat.pow 5 (401 + (k - 401)))).length := lt_length hn (by omega)
  have hlength' : (digitsOf (n * Nat.pow 5 k)).length ≤ 400 + k := length_le hb hbound (by decide)
  rw [Nat.add_sub_cancel' hlow] at hlength
  rw [round_eq, if_neg hne, if_neg (by simp only []; omega), if_neg (by simp only []; omega),
    nearest_exact negative n k (by omega) hunit]

theorem unit_eq : Binary64.unit = Nat.pow 2 1074 := by
  delta Binary64.unit
  exact Eq.refl _

/-- All digits of a finite double together are rounded back to it. -/
theorem round_exact {rank : Nat} (h : 0 < rank) (hfinite : rank < Binary64.topRank) (negative : Bool) :
    ∃ r, r.val = rank ∧ round negative (exact rank) = .signed negative r := by
  refine ⟨⟨rank, Nat.lt_succ_of_lt hfinite⟩, rfl, ?_⟩
  rw [exact, round_normalize]
  refine (round_all (units_pos h) (by decide) (by decide) unit_eq (units_lt (shift_le hfinite))
    (by decide) negative).trans ?_
  rw [Binary64.nearest]
  exact congrArg _ (Fin.ext (Binary64.nearestRank_units (Nat.le_of_lt hfinite)))

theorem round_shortest {rank : Nat} (h : 0 < rank) (hfinite : rank < Binary64.topRank) (negative : Bool) :
    ∃ r, r.val = rank ∧ round negative (shortest rank) = .signed negative r := by
  unfold shortest
  cases hfound : (List.range 17).findSome? fun n => candidate rank (n + 1) with
  | none =>
    rw [Option.getD_none]
    exact round_exact h hfinite negative
  | some d =>
    obtain ⟨n, -, hn⟩ := List.exists_of_findSome?_eq_some hfound
    exact round_of_candidate hn negative

theorem digits_shortest_pos {rank : Nat} (h : 0 < rank) (hfinite : rank < Binary64.topRank) :
    0 < (shortest rank).digits := by
  obtain ⟨r, hr, hround⟩ := round_shortest h hfinite false
  refine Nat.pos_of_ne_zero fun hzero => ?_
  rw [round_eq, if_pos hzero] at hround
  cases hround
  exact absurd hr (Nat.ne_of_lt h)

end Decimal

end Scaffold
