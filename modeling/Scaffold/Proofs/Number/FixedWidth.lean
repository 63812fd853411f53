import Mathlib.Data.List.Induction
import Scaffold.Proofs.Number.Numerals
import Scaffold.Time.Moment

/-!
# Numbers of a fixed width

Digits of the same count are in the order of the numbers they write
(`Decimal.digits_lt_iff`), and numbers that are filled up with zeros can be put
behind one another (`WritesNumber.append`).
-/

namespace Scaffold

namespace Decimal

/-! ## Digits in order -/

theorem ofDigits_cons (c : Char) (cs : List Char) :
    ofDigits 10 (c :: cs) = digitValue c * 10 ^ cs.length + ofDigits 10 cs := by
  induction cs using List.reverseRecOn with
  | nil => simp [ofDigits]
  | append_singleton cs d ih =>
    rw [← List.cons_append, ofDigits_append, ofDigits_append, ih, List.length_append, List.length_singleton]
    simp only [List.foldl_cons, List.foldl_nil, Nat.pow_succ]
    rw [Nat.add_mul, Nat.mul_assoc, Nat.add_assoc]

theorem digitValue_eq {c : Char} (h : isDigit c) : digitValue c = c.toNat - '0'.toNat := by
  have hrange : '0' ≤ c ∧ c ≤ '9' := by simpa [isDigit] using h
  rw [digitValue, if_pos hrange]

theorem toNat_of_isDigit {c : Char} (h : isDigit c) : '0'.toNat ≤ c.toNat ∧ c.toNat ≤ '9'.toNat := by
  have hrange : '0' ≤ c ∧ c ≤ '9' := by simpa [isDigit] using h
  rwa [Char.le_def, Char.le_def, UInt32.le_iff_toNat_le, UInt32.le_iff_toNat_le] at hrange

theorem digitValue_lt_ten {c : Char} (h : isDigit c) : digitValue c < 10 := by
  have hrange := toNat_of_isDigit h
  have hzero : '0'.toNat = 48 := rfl
  have hnine : '9'.toNat = 57 := rfl
  rw [digitValue_eq h]
  omega

theorem digitValue_lt_iff {c d : Char} (hc : isDigit c) (hd : isDigit d) : digitValue c < digitValue d ↔ c < d := by
  have := toNat_of_isDigit hc
  have := toNat_of_isDigit hd
  rw [digitValue_eq hc, digitValue_eq hd, Char.lt_def, UInt32.lt_iff_toNat_lt]
  change _ ↔ c.toNat < d.toNat
  omega

theorem ofDigits_lt {cs : List Char} (h : cs.all isDigit) : ofDigits 10 cs < 10 ^ cs.length := by
  induction cs with
  | nil => decide
  | cons c cs ih =>
    rw [List.all_cons, Bool.and_eq_true] at h
    have hrest := ih h.2
    have hfirst : digitValue c + 1 ≤ 10 := digitValue_lt_ten h.1
    rw [ofDigits_cons, List.length_cons, Nat.pow_succ]
    calc digitValue c * 10 ^ cs.length + ofDigits 10 cs
        < digitValue c * 10 ^ cs.length + 10 ^ cs.length := Nat.add_lt_add_left hrest _
      _ = (digitValue c + 1) * 10 ^ cs.length := (Nat.succ_mul _ _).symm
      _ ≤ 10 * 10 ^ cs.length := Nat.mul_le_mul_right _ hfirst
      _ = 10 ^ cs.length * 10 := Nat.mul_comm _ _

theorem digits_lt_iff : ∀ {cs ds : List Char}, cs.length = ds.length → cs.all isDigit → ds.all isDigit →
    (cs < ds ↔ ofDigits 10 cs < ofDigits 10 ds)
  | [], [], _, _, _ => by simp
  | c :: cs, d :: ds, hlength, hcs, hds => by
    rw [List.all_cons, Bool.and_eq_true] at hcs hds
    have hlength' : cs.length = ds.length := Nat.succ.inj hlength
    have ih := digits_lt_iff hlength' hcs.2 hds.2
    have hc := ofDigits_lt hcs.2
    have hd := ofDigits_lt hds.2
    rw [List.cons_lt_cons_iff, ih, ← digitValue_lt_iff hcs.1 hds.1, ofDigits_cons, ofDigits_cons, ← hlength']
    rw [← hlength'] at hd
    generalize 10 ^ cs.length = unit at *
    -- a greater first digit outweighs all that stand behind it
    have hgap {a b x : Nat} (hab : a < b) (hx : x < unit) : a * unit + x < b * unit := by
      calc a * unit + x < a * unit + unit := Nat.add_lt_add_left hx _
        _ = (a + 1) * unit := (Nat.succ_mul _ _).symm
        _ ≤ b * unit := Nat.mul_le_mul_right _ hab
    rcases Nat.lt_trichotomy (digitValue c) (digitValue d) with hlt | heq | hgt
    · have := hgap hlt hc
      exact iff_of_true (Or.inl hlt) (by omega)
    · have hcd : c = d := by
        have hn : c.toNat = d.toNat := by
          have := toNat_of_isDigit hcs.1
          have := toNat_of_isDigit hds.1
          rw [digitValue_eq hcs.1, digitValue_eq hds.1] at heq
          omega
        exact Char.toNat_inj.mp hn
      rw [hcd]
      simp
    · have := hgap hgt hd
      refine iff_of_false ?_ (by omega)
      rintro (hlt | ⟨rfl, -⟩)
      · omega
      · exact Nat.lt_irrefl _ hgt

theorem ofDigits_append_eq (cs ds : List Char) :
    ofDigits 10 (cs ++ ds) = ofDigits 10 cs * 10 ^ ds.length + ofDigits 10 ds := by
  induction cs with
  | nil => simp [ofDigits]
  | cons c cs ih =>
    rw [List.cons_append, ofDigits_cons, ih, ofDigits_cons, List.length_append, Nat.pow_add]
    rw [Nat.add_mul, Nat.mul_assoc, Nat.add_assoc]

end Decimal

/-! ## Numbers filled with zeros -/

structure WritesNumber (s : String) (width n : Nat) : Prop where
  length : s.length = width
  digits : s.toList.all Decimal.isDigit
  value : Decimal.ofDigits 10 s.toList = n

namespace WritesNumber

theorem padded {width n : Nat} (hwidth : 0 < width) (h : n < 10 ^ width) : WritesNumber (padded width n) width n := by
  have hle : (Decimal.digitsOf n).length ≤ width := (Nat.length_toDigits_le_iff (by decide) hwidth).mpr h
  refine ⟨?_, ?_, ?_⟩
  · simp [Scaffold.padded]
    omega
  · have hzeros := Decimal.all_isDigit_zeros (width - (Decimal.digitsOf n).length)
    rw [Scaffold.padded, String.toList_ofList, List.all_append, Decimal.all_isDigit_digitsOf, Bool.and_true]
    exact hzeros
  · rw [Scaffold.padded, String.toList_ofList]
    exact (Decimal.ofDigits_zeros _ _).trans (Decimal.ofDigits_digitsOf n)

theorem year {n : Nat} (h : 1000 ≤ n) (h' : n ≤ 9999) : WritesNumber (toString n) 4 n := by
  have htext : toString n = Scaffold.padded 4 n := by
    have hlength : 3 < (Decimal.digitsOf n).length := Decimal.le_length h
    rw [Scaffold.padded, Nat.sub_eq_zero_of_le hlength]
    rfl
  rw [htext]
  exact padded (by decide) (by omega)

theorem append {s s' : String} {width width' n n' : Nat} (h : WritesNumber s width n) (h' : WritesNumber s' width' n') :
    WritesNumber (s ++ s') (width + width') (n * 10 ^ width' + n') := by
  refine ⟨?_, ?_, ?_⟩
  · rw [String.length_append, h.length, h'.length]
  · rw [String.toList_append, List.all_append, h.digits, h'.digits]
    rfl
  · rw [String.toList_append, Decimal.ofDigits_append_eq, h.value, h'.value, String.length_toList, h'.length]

theorem lt_iff {s s' : String} {width n n' : Nat} (h : WritesNumber s width n) (h' : WritesNumber s' width n') :
    s < s' ↔ n < n' := by
  rw [String.lt_iff, Decimal.digits_lt_iff _ h.digits h'.digits, h.value, h'.value]
  rw [String.length_toList, String.length_toList, h.length, h'.length]

theorem eq_iff {s s' : String} {width n n' : Nat} (h : WritesNumber s width n) (h' : WritesNumber s' width n') :
    s = s' ↔ n = n' := by
  have hlt := h.lt_iff h'
  have hgt := h'.lt_iff h
  constructor
  · rintro rfl
    exact h.value.symm.trans h'.value
  · rintro rfl
    exact String.le_antisymm (fun hlt => Nat.lt_irrefl _ (hgt.mp hlt)) (fun hlt' => Nat.lt_irrefl _ (hlt.mp hlt'))

end WritesNumber

end Scaffold
