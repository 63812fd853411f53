import Scaffold.Json.Token
import Scaffold.Proofs.Number.Rounding
import Scaffold.Value.Literal

/-!
# Numbers read back from their numerals
-/

namespace Scaffold

namespace Text

/-! ## Spans of characters -/

section
variable {kind : Char → Bool} {cs rest : List Char} (hcs : cs.all kind) (hrest : ∀ c ∈ rest.head?, ¬ kind c)
include hcs hrest

theorem takeWhile_append : (cs ++ rest).takeWhile kind = cs := by
  have hstop : rest.takeWhile kind = [] := by
    cases rest with
    | nil => rfl
    | cons c rest => exact List.takeWhile_cons_of_neg (hrest c rfl)
  rw [List.takeWhile_append_of_pos (fun c hc => List.all_eq_true.mp hcs c hc), hstop, List.append_nil]

theorem dropWhile_append : (cs ++ rest).dropWhile kind = rest := by
  have hsplit := List.takeWhile_append_dropWhile (p := kind) (l := cs ++ rest)
  rw [takeWhile_append hcs hrest] at hsplit
  exact List.append_cancel_left hsplit

end

end Text

namespace Decimal

/-! ## Digits -/

theorem digitValue_digitChar : ∀ d < 10, digitValue (Nat.digitChar d) = d := by decide

theorem isDigit_digitChar : ∀ d < 10, isDigit (Nat.digitChar d) := by decide

theorem digitsOf_of_le {n : Nat} (h : 10 ≤ n) :
    digitsOf n = digitsOf (n / 10) ++ [Nat.digitChar (n % 10)] := Nat.toDigits_of_base_le (by decide) h

theorem digitsOf_of_lt {n : Nat} (h : n < 10) : digitsOf n = [Nat.digitChar n] :=
  Nat.toDigits_of_lt_base h

theorem ofDigits_append (base : Nat) (ds ds' : List Char) : ofDigits base (ds ++ ds') =
    ds'.foldl (fun n c => n * base + digitValue c) (ofDigits base ds) := List.foldl_append

theorem ofDigits_digitsOf (n : Nat) : ofDigits 10 (digitsOf n) = n := by
  induction n using Nat.strongRecOn with
  | ind n ih =>
    rcases Nat.lt_or_ge n 10 with h | h
    · rw [digitsOf_of_lt h, ofDigits, List.foldl_cons, List.foldl_nil, digitValue_digitChar n h]
      omega
    · rw [digitsOf_of_le h, ofDigits_append, ih (n / 10) (by omega), List.foldl_cons, List.foldl_nil,
        digitValue_digitChar _ (Nat.mod_lt n (by decide))]
      omega

theorem all_isDigit_digitsOf (n : Nat) : (digitsOf n).all isDigit := by
  induction n using Nat.strongRecOn with
  | ind n ih =>
    rcases Nat.lt_or_ge n 10 with h | h
    · rw [digitsOf_of_lt h, List.all_cons, isDigit_digitChar n h]
      rfl
    · rw [digitsOf_of_le h, List.all_append, ih (n / 10) (by omega), List.all_cons,
        isDigit_digitChar _ (Nat.mod_lt n (by decide))]
      rfl

theorem feed_notMem_digitsOf (n : Nat) : '\n' ∉ digitsOf n :=
  fun h => absurd (List.all_eq_true.mp (all_isDigit_digitsOf n) _ h) (by decide)

theorem digitsOf_eq_cons {n : Nat} (h : 0 < n) : ∃ c cs, digitsOf n = c :: cs ∧ c ≠ '0' := by
  induction n using Nat.strongRecOn with
  | ind n ih =>
    rcases Nat.lt_or_ge n 10 with hlt | hge
    · have hne : ∀ d < 10, 0 < d → Nat.digitChar d ≠ '0' := by decide
      exact ⟨_, _, digitsOf_of_lt hlt, hne n hlt h⟩
    · obtain ⟨c, cs, hcs, hc⟩ := ih (n / 10) (by omega) (by omega)
      exact ⟨c, _, by rw [digitsOf_of_le hge, hcs, List.cons_append], hc⟩

/-! ## Zeros -/

theorem ofDigits_zeros (k : Nat) (ds : List Char) :
    ofDigits 10 (NumberStyle.zeros k ++ ds) = ofDigits 10 ds := by
  induction k with
  | zero => rfl
  | succ k ih => exact ih

theorem ofDigits_append_zeros (ds : List Char) (k : Nat) :
    ofDigits 10 (ds ++ NumberStyle.zeros k) = ofDigits 10 ds * Nat.pow 10 k := by
  induction k with
  | zero => rw [NumberStyle.zeros, List.replicate_zero, List.append_nil]; exact (Nat.mul_one _).symm
  | succ k ih =>
    have hzeros : NumberStyle.zeros (k + 1) = NumberStyle.zeros k ++ ['0'] := List.replicate_succ'
    rw [hzeros, ← List.append_assoc, ofDigits_append, ih]
    exact Nat.mul_assoc _ _ 10

theorem all_isDigit_zeros (k : Nat) : (NumberStyle.zeros k).all isDigit := by
  simp [NumberStyle.zeros, isDigit]

/-! ## Spans of digits -/

theorem spanSign_digit {d : Char} (h : isDigit d) (cs : List Char) : spanSign (d :: cs) = (false, d :: cs) := by
  unfold spanSign
  split
  · rename_i heq
    obtain ⟨rfl, -⟩ := List.cons.inj heq
    exact absurd h (by decide)
  · rename_i heq
    obtain ⟨rfl, -⟩ := List.cons.inj heq
    exact absurd h (by decide)
  · rfl

theorem spanGrouped_of_digits {rest : List Char} (hrest : ∀ c ∈ rest.head?, ¬ isDigit c ∧ c ≠ '_') :
    ∀ {ds : List Char}, ds.all isDigit → spanGrouped (ds ++ rest) = (ds, rest)
  | [], _ => by
    rw [List.nil_append]
    unfold spanGrouped
    split
    · exact absurd rfl (hrest '_' rfl).2
    · rename_i c r _
      rw [if_neg (hrest c rfl).1]
    · rfl
  | c :: ds, h => by
    rw [List.all_cons, Bool.and_eq_true] at h
    have hc : c ≠ '_' := by
      rintro rfl
      exact absurd h.1 (by decide)
    rw [List.cons_append]
    unfold spanGrouped
    split
    · rename_i heq
      exact absurd (List.cons.inj heq).1 hc
    · rename_i heq
      obtain ⟨rfl, rfl⟩ := List.cons.inj heq
      rw [if_pos h.1, spanGrouped_of_digits hrest h.2]
    · rename_i heq
      cases heq

end Decimal

namespace Json

/-! ## Numerals -/

/-- The digits before a point: zero alone, or digits that do not begin with zero. -/
def IsWhole (ds : List Char) : Prop :=
  ds = ['0'] ∨ ∃ c cs, ds = c :: cs ∧ c ≠ '0' ∧ ds.all Decimal.isDigit

theorem isWhole_digitsOf (n : Nat) : IsWhole (Decimal.digitsOf n) := by
  rcases Nat.eq_zero_or_pos n with rfl | h
  · exact Or.inl (Decimal.digitsOf_of_lt (by decide))
  · obtain ⟨c, cs, hcs, hc⟩ := Decimal.digitsOf_eq_cons h
    exact Or.inr ⟨c, cs, hcs, hc, Decimal.all_isDigit_digitsOf n⟩

theorem takeWhole_eq {whole tail : List Char} (h : IsWhole whole) (htail : ∀ c ∈ tail.head?, ¬ Decimal.isDigit c) :
    (match whole ++ tail with
      | '0' :: _ => ['0']
      | r => r.takeWhile Decimal.isDigit) = whole := by
  rcases h with rfl | ⟨c, cs, rfl, hc, hall⟩
  · rfl
  · split
    · rename_i heq
      exact absurd (List.cons.inj heq).1 hc
    · exact Text.takeWhile_append hall htail

def signed (negative : Bool) (cs : List Char) : List Char := if negative then '-' :: cs else cs

theorem signed_append (negative : Bool) (cs rest : List Char) :
    signed negative cs ++ rest = signed negative (cs ++ rest) := by
  cases negative <;> rfl

theorem exists_cons_of_whole {ds : List Char} (h : IsWhole ds) (tail : List Char) :
    ∃ c cs, ds ++ tail = c :: cs ∧ c ≠ '-' := by
  rcases h with rfl | ⟨c, cs, rfl, -, hall⟩
  · exact ⟨_, _, rfl, by decide⟩
  · refine ⟨c, _, rfl, ?_⟩
    rintro rfl
    exact absurd (List.all_eq_true.mp hall _ List.mem_cons_self) (by decide)

theorem sign_eq {negative : Bool} {ds : List Char} (h : ∃ c cs, ds = c :: cs ∧ c ≠ '-') :
    (match signed negative ds with
      | '-' :: r => (true, r)
      | r => (false, r)) = (negative, ds) := by
  obtain ⟨c, cs, rfl, hc⟩ := h
  cases negative with
  | true => rfl
  | false =>
    simp only [signed]
    split
    · rename_i heq
      exact absurd (List.cons.inj heq).1 hc
    · rfl

/-- No numeral goes on with what stands here. -/
def EndsNumeral (behind : List Char) : Prop :=
  ∀ c ∈ behind.head?, ¬ Decimal.isDigit c ∧ c ∉ ['.', 'e', 'E', '_']

theorem endsNumeral_nil : EndsNumeral [] := by simp [EndsNumeral]

section
variable {behind : List Char} (hbehind : EndsNumeral behind)
include hbehind

theorem head?_not_digit {tail : List Char} (htail : ∀ c ∈ tail.head?, ¬ Decimal.isDigit c) :
    ∀ c ∈ (tail ++ behind).head?, ¬ Decimal.isDigit c := by
  cases tail with
  | nil => exact fun c hc => (hbehind c hc).1
  | cons t tail => exact htail

theorem scanFraction_end : scanFraction behind = ([], behind) := by
  unfold scanFraction
  split
  · exact absurd (by decide) (hbehind '.' rfl).2
  · rfl

theorem spanExponent_end : Decimal.spanExponent behind = (0, behind) := by
  unfold Decimal.spanExponent
  split
  · rename_i c r
    rw [if_neg]
    rintro (rfl | rfl)
    · exact (hbehind 'e' rfl).2 (by decide)
    · exact (hbehind 'E' rfl).2 (by decide)
  · rfl

/-- A numeral is a whole number where nothing follows its first digits, and a double otherwise. -/
theorem scanNumber_eq {negative : Bool} {whole tail fraction after : List Char} {e : Int} (hwhole : IsWhole whole)
    (htail : ∀ c ∈ tail.head?, ¬ Decimal.isDigit c) (hfraction : scanFraction (tail ++ behind) = (fraction, after))
    (hexponent : Decimal.spanExponent after = (e, behind)) :
    scanNumber (signed negative (whole ++ tail) ++ behind) =
      if fraction.isEmpty && decide (0 = tail.length) then
        if Decimal.digitLimit < whole.length then
          some (.broken (.tooLong whole.length), (signed negative (whole ++ tail)).length)
        else some (.scalar (.int (if negative then -(Decimal.ofDigits 10 whole : Int)
          else Decimal.ofDigits 10 whole)), (signed negative (whole ++ tail)).length)
      else some (.scalar (.real (Decimal.round negative (Decimal.assemble whole fraction e))),
        (signed negative (whole ++ tail)).length) := by
  have hne : whole.isEmpty = false := by
    rcases hwhole with rfl | ⟨c, cs, rfl, -⟩ <;> rfl
  have hcount : (signed negative (whole ++ (tail ++ behind))).length - behind.length =
      (signed negative (whole ++ tail)).length := by
    rw [← List.append_assoc, ← signed_append, List.length_append, Nat.add_sub_cancel]
  have hwithin : (behind.length = (tail ++ behind).length) = (0 = tail.length) := by
    rw [List.length_append, eq_iff_iff]
    omega
  rw [signed_append, List.append_assoc]
  unfold scanNumber
  split
  rename_i negative' r hsplit
  obtain ⟨rfl, rfl⟩ := Prod.mk.inj ((sign_eq (exists_cons_of_whole hwhole (tail ++ behind))).symm.trans hsplit)
  -- what the scan takes for digits is the whole part, and the tail is left
  extract_lets digits rest n
  have hdigits : digits = whole := takeWhole_eq hwhole (head?_not_digit hbehind htail)
  have hrest : rest = tail ++ behind := by
    simp only [rest, hdigits]
    exact List.drop_left
  clear_value digits rest
  subst hdigits hrest
  rw [hne, if_neg (by decide)]
  simp only [hfraction, hexponent, hcount, hwithin]
  rfl

/-! ## Whole numbers -/

theorem scanNumber_intText (n : Int) : scanNumber ((Value.intText n).toList ++ behind) =
    if Decimal.digitLimit < (Decimal.digitsOf n.natAbs).length then
      some (.broken (.tooLong (Decimal.digitsOf n.natAbs).length), (Value.intText n).toList.length)
    else some (.scalar (.int n), (Value.intText n).toList.length) := by
  have htext : (Value.intText n).toList = signed (decide (n < 0)) (Decimal.digitsOf n.natAbs ++ []) := by
    rw [Value.intText, String.toList_ofList, List.append_nil]
    by_cases h : n < 0 <;> simp [h, signed]
  have hvalue : (if decide (n < 0) then -(n.natAbs : Int) else n.natAbs) = n := by
    by_cases h : n < 0 <;> simp only [h, decide_true, decide_false, if_true, if_false, Bool.false_eq_true] <;> omega
  have hscan : scanFraction ([] ++ behind) = ([], behind) := scanFraction_end hbehind
  rw [htext, scanNumber_eq hbehind (isWhole_digitsOf _) (by simp) hscan (spanExponent_end hbehind),
    Decimal.ofDigits_digitsOf, hvalue]
  rfl

/-! ## Doubles -/

omit hbehind in
theorem scanFraction_digits {ds rest : List Char} (hne : ds ≠ []) (hds : ds.all Decimal.isDigit)
    (hrest : ∀ c ∈ rest.head?, ¬ Decimal.isDigit c) : scanFraction ('.' :: (ds ++ rest)) = (ds, rest) := by
  simp only [scanFraction, Text.takeWhile_append hds hrest, List.isEmpty_eq_false_iff.mpr hne, Bool.false_eq_true,
    if_false, List.drop_left]

theorem scanNumber_point (negative : Bool) {whole fraction : List Char} (hwhole : IsWhole whole)
    (hne : fraction ≠ []) (hfraction : fraction.all Decimal.isDigit) :
    scanNumber (signed negative (whole ++ '.' :: fraction) ++ behind) =
      some (.scalar (.real (Decimal.round negative (Decimal.assemble whole fraction 0))),
        (signed negative (whole ++ '.' :: fraction)).length) := by
  have hscan : scanFraction ('.' :: fraction ++ behind) = (fraction, behind) :=
    scanFraction_digits hne hfraction fun c hc => (hbehind c hc).1
  rw [scanNumber_eq hbehind hwhole (by simp [Decimal.isDigit]) hscan (spanExponent_end hbehind), if_neg]
  simp

omit hbehind in
theorem exponentText_eq (style : NumberStyle) (e : Int) : ∃ sign ds : List Char,
    style.exponentText e = 'e' :: (sign ++ ds) ∧
      (sign = ['-'] ∧ e < 0 ∨ (sign = ['+'] ∨ sign = []) ∧ 0 ≤ e) ∧
      ds ≠ [] ∧ ds.all Decimal.isDigit ∧ Decimal.ofDigits 10 ds = e.natAbs := by
  refine ⟨if e < 0 then ['-'] else if style.plusSign then ['+'] else [],
    NumberStyle.zeros (style.exponentWidth - (Decimal.digitsOf e.natAbs).length) ++ Decimal.digitsOf e.natAbs,
    ?_, ?_, ?_, ?_, ?_⟩
  · simp [NumberStyle.exponentText]
  · by_cases h : e < 0
    · simp [h]
    · cases style.plusSign <;> simp [h] <;> omega
  · exact List.append_ne_nil_of_right_ne_nil _ Nat.toDigits_ne_nil
  · rw [List.all_append, Decimal.all_isDigit_zeros, Decimal.all_isDigit_digitsOf]
    rfl
  · rw [Decimal.ofDigits_zeros, Decimal.ofDigits_digitsOf]

theorem spanExponent_exponentText (style : NumberStyle) (e : Int) :
    Decimal.spanExponent (style.exponentText e ++ behind) = (e, behind) := by
  obtain ⟨sign, ds, htext, hsign, hne, hds, hvalue⟩ := exponentText_eq style e
  obtain ⟨d, ds', rfl⟩ := List.exists_cons_of_ne_nil hne
  have hd : Decimal.isDigit d := List.all_eq_true.mp hds d List.mem_cons_self
  have hspan : Decimal.spanSign (sign ++ (d :: ds' ++ behind)) = (decide (e < 0), d :: ds' ++ behind) := by
    rcases hsign with ⟨rfl, h⟩ | ⟨rfl | rfl, h⟩
    · simp [h, Decimal.spanSign]
    · simp [Int.not_lt.mpr h, Decimal.spanSign]
    · rw [List.nil_append, List.cons_append, Decimal.spanSign_digit hd]
      simp [Int.not_lt.mpr h]
  have hgrouped : Decimal.spanGrouped (d :: ds' ++ behind) = (d :: ds', behind) :=
    Decimal.spanGrouped_of_digits (fun c hc => ⟨(hbehind c hc).1, fun h => (hbehind c hc).2 (by simp [h])⟩) hds
  rw [htext, List.cons_append, List.append_assoc]
  simp only [Decimal.spanExponent, hspan, true_or, if_true, hgrouped]
  simp only [List.cons_append, List.head?_cons, Option.map_some, hd, hvalue, Prod.mk.injEq, and_true]
  by_cases h : e < 0 <;> simp only [h, decide_true, decide_false, if_true, if_false, Bool.false_eq_true] <;> omega

theorem scanNumber_exponent (negative : Bool) {whole fraction : List Char} (hwhole : IsWhole whole)
    (hfraction : fraction.all Decimal.isDigit) (style : NumberStyle) (e : Int) :
    scanNumber (signed negative (whole ++ (if fraction.isEmpty then [] else '.' :: fraction) ++
        style.exponentText e) ++ behind) =
      some (.scalar (.real (Decimal.round negative (Decimal.assemble whole fraction e))),
        (signed negative (whole ++ (if fraction.isEmpty then [] else '.' :: fraction) ++
          style.exponentText e)).length) := by
  obtain ⟨sign, ds, htext, -⟩ := exponentText_eq style e
  have hexponent := spanExponent_exponentText hbehind style e
  have hstop : ∀ c ∈ (style.exponentText e).head?, ¬ Decimal.isDigit c := by
    rw [htext]
    simp [Decimal.isDigit]
  rw [List.append_assoc whole]
  cases hempty : fraction.isEmpty with
  | true =>
    have hnone : scanFraction (style.exponentText e ++ behind) = ([], style.exponentText e ++ behind) := by
      rw [htext]
      rfl
    rw [if_pos rfl, List.nil_append, scanNumber_eq hbehind hwhole hstop hnone hexponent, if_neg (by simp [htext]),
      List.isEmpty_iff.mp hempty]
  | false =>
    have hne := List.isEmpty_eq_false_iff.mp hempty
    have hstop' : ∀ c ∈ (style.exponentText e ++ behind).head?, ¬ Decimal.isDigit c :=
      head?_not_digit hbehind hstop
    have hscan := scanFraction_digits hne hfraction hstop'
    rw [← List.append_assoc, ← List.cons_append, ← List.cons_append] at hscan
    rw [if_neg (by decide), scanNumber_eq hbehind hwhole (by simp [Decimal.isDigit]) hscan hexponent,
      if_neg (by simp)]

end

/-! ## Numerals of decimals -/

section
variable {n : Nat} {c : Char} {cs : List Char} (negative : Bool)

theorem isWhole_cons (hc : c ≠ '0') (h : (c :: cs).all Decimal.isDigit) : IsWhole (c :: cs) :=
  Or.inr ⟨c, cs, rfl, hc, h⟩

/-- A numeral is read as the double nearest to a decimal, whatever ends it. -/
def ReadsNumeral (negative : Bool) (cs : List Char) (d : Decimal) : Prop :=
  ∀ behind, EndsNumeral behind → scanNumber (signed negative cs ++ behind) =
    some (.scalar (.real (Decimal.round negative d)), (signed negative cs).length)

theorem reads_behind_point (hds : (c :: cs).all Decimal.isDigit) (hvalue : Decimal.ofDigits 10 (c :: cs) = n)
    (k : Nat) : ReadsNumeral negative ('0' :: '.' :: NumberStyle.zeros k ++ c :: cs)
      ⟨n, -(k + (c :: cs).length : Nat)⟩ := by
  have hdigits : (NumberStyle.zeros k ++ c :: cs).all Decimal.isDigit := by
    rw [List.all_append, Decimal.all_isDigit_zeros, hds]
    rfl
  have hassemble : Decimal.assemble ['0'] (NumberStyle.zeros k ++ c :: cs) 0 =
      ⟨n, -(k + (c :: cs).length : Nat)⟩ := by
    rw [Decimal.assemble, Decimal.mk.injEq, List.length_append, NumberStyle.zeros, List.length_replicate]
    exact ⟨(Decimal.ofDigits_zeros 1 _).trans ((Decimal.ofDigits_zeros _ _).trans hvalue), by omega⟩
  intro behind hbehind
  have hscan := scanNumber_point hbehind negative (Or.inl rfl : IsWhole ['0'])
    (List.append_ne_nil_of_right_ne_nil _ (List.cons_ne_nil c cs)) hdigits
  rwa [hassemble] at hscan

theorem reads_zeros (hc : c ≠ '0') (hds : (c :: cs).all Decimal.isDigit)
    (hvalue : Decimal.ofDigits 10 (c :: cs) = n) (k : Nat) :
    ReadsNumeral negative (c :: cs ++ NumberStyle.zeros k ++ ['.', '0']) ⟨n, k⟩ := by
  have hdigits : (c :: (cs ++ NumberStyle.zeros k)).all Decimal.isDigit := by
    rw [← List.cons_append, List.all_append, Decimal.all_isDigit_zeros, hds]
    rfl
  have hassemble : Decimal.assemble (c :: (cs ++ NumberStyle.zeros k)) ['0'] 0 =
      ⟨n * Nat.pow 10 (k + 1), k - (k + 1 : Nat)⟩ := by
    have hzeros : c :: (cs ++ NumberStyle.zeros k) ++ ['0'] = c :: cs ++ NumberStyle.zeros (k + 1) := by
      simp [NumberStyle.zeros, List.replicate_succ']
    rw [Decimal.assemble, Decimal.mk.injEq, hzeros, Decimal.ofDigits_append_zeros, hvalue]
    exact ⟨rfl, by rw [List.length_singleton]; omega⟩
  intro behind hbehind
  have hscan := scanNumber_point hbehind negative (isWhole_cons hc hdigits) (List.cons_ne_nil '0' [])
    (by decide)
  rw [hassemble, Decimal.round_mul_pow] at hscan
  exact hscan

theorem reads_around_point (hc : c ≠ '0') (hds : (c :: cs).all Decimal.isDigit)
    (hvalue : Decimal.ofDigits 10 (c :: cs) = n) {k : Nat} (hk : k < cs.length) :
    ReadsNumeral negative ((c :: cs).take (k + 1) ++ '.' :: (c :: cs).drop (k + 1))
      ⟨n, -(cs.length - k : Nat)⟩ := by
  have hsplit : c :: cs.take k ++ cs.drop k = c :: cs := by
    rw [List.cons_append, List.take_append_drop]
  have hdigits := hds
  rw [← hsplit, List.all_append, Bool.and_eq_true] at hdigits
  have hne : cs.drop k ≠ [] := by
    intro hnil
    have := List.drop_eq_nil_iff.mp hnil
    omega
  have hassemble : Decimal.assemble (c :: cs.take k) (cs.drop k) 0 = ⟨n, -(cs.length - k : Nat)⟩ := by
    rw [Decimal.assemble, Decimal.mk.injEq, hsplit, List.length_drop]
    exact ⟨hvalue, by omega⟩
  intro behind hbehind
  have hscan := scanNumber_point hbehind negative (isWhole_cons hc hdigits.1) hne hdigits.2
  rwa [hassemble] at hscan

theorem reads_exponent (hc : c ≠ '0') (hds : (c :: cs).all Decimal.isDigit)
    (hvalue : Decimal.ofDigits 10 (c :: cs) = n) (style : NumberStyle) (p : Int) :
    ReadsNumeral negative ([c] ++ (if cs.isEmpty then [] else '.' :: cs) ++ style.exponentText p)
      ⟨n, p - cs.length⟩ := by
  rw [List.all_cons, Bool.and_eq_true] at hds
  have hassemble : Decimal.assemble [c] cs p = ⟨n, p - cs.length⟩ := by
    rw [Decimal.assemble, List.singleton_append, hvalue]
  intro behind hbehind
  have hscan := scanNumber_exponent hbehind negative (isWhole_cons hc (by simp [hds.1]) : IsWhole [c]) hds.2 style p
  rwa [hassemble] at hscan

/-- A decimal is read back from its numeral, in positional notation and with an exponent. -/
theorem reads_layout (style : NumberStyle) {d : Decimal} (hd : 0 < d.digits) :
    ReadsNumeral negative (style.layout d) d := by
  obtain ⟨n, e⟩ := d
  obtain ⟨c, cs, hcs, hc⟩ := Decimal.digitsOf_eq_cons hd
  have hds := Decimal.all_isDigit_digitsOf n
  have hvalue := Decimal.ofDigits_digitsOf n
  simp only [] at hcs
  rw [hcs] at hds hvalue
  have hlength : ((c :: cs).length : Int) = cs.length + 1 := rfl
  unfold NumberStyle.layout
  simp only [hcs]
  split
  · split
    · rename_i hpoint
      have hreads := reads_behind_point negative hds hvalue (-(e + (c :: cs).length)).toNat
      have he : (-((-(e + (c :: cs).length)).toNat + (c :: cs).length : Nat) : Int) = e := by omega
      rwa [he] at hreads
    · rename_i hpoint
      split
      · rename_i hzeros
        have hreads := reads_zeros negative hc hds hvalue
          ((e + (c :: cs).length).toNat - (c :: cs).length)
        have he : (((e + (c :: cs).length).toNat - (c :: cs).length : Nat) : Int) = e := by omega
        rwa [he] at hreads
      · rename_i hwithin
        obtain ⟨k, hk⟩ : ∃ k, (e + (c :: cs).length).toNat = k + 1 := ⟨_, (Nat.succ_pred (by omega)).symm⟩
        have hreads := reads_around_point negative hc hds hvalue (show k < cs.length by omega)
        have he : (-(cs.length - k : Nat) : Int) = e := by omega
        rw [he] at hreads
        rwa [hk]
  · have hreads := reads_exponent negative hc hds hvalue style (e + (c :: cs).length - 1)
    have he : e + ((c :: cs).length : Int) - 1 - cs.length = e := by omega
    rw [he] at hreads
    cases cs with
    | nil => exact hreads
    | cons c' cs => exact hreads

end

/-- A finite double is read back from its numeral. -/
theorem scanNumber_render (style : NumberStyle) {x : Binary64} (h : x.isFinite) {behind : List Char}
    (hbehind : EndsNumeral behind) : scanNumber ((style.render x).toList ++ behind) =
      some (.scalar (.real x), (style.render x).toList.length) := by
  cases x with
  | nan => cases h
  | signed negative rank =>
    have hfinite : rank.val < Binary64.topRank := by simpa [Binary64.isFinite] using h
    rw [NumberStyle.render, if_neg (Nat.ne_of_lt hfinite), String.toList_ofList]
    by_cases hzero : rank.val = 0
    · have hscan := scanNumber_point hbehind negative (Or.inl rfl : IsWhole ['0']) (List.cons_ne_nil '0' []) (by decide)
      have hassemble : Decimal.assemble ['0'] ['0'] 0 = ⟨0, -1⟩ := by decide
      have hrank : Binary64.signedZero negative = .signed negative rank := by
        rw [Binary64.signedZero, Binary64.signed.injEq]
        exact ⟨rfl, Fin.ext hzero.symm⟩
      rw [hassemble, Decimal.round_eq, if_pos rfl, hrank] at hscan
      rw [if_pos hzero]
      exact hscan
    · have hpos := Nat.pos_of_ne_zero hzero
      -- the shortest decimal of a number rounds back to it
      obtain ⟨r, hr, hround⟩ := Decimal.round_shortest hpos hfinite negative
      obtain rfl : r = rank := Fin.ext hr
      have hreads := reads_layout negative style (Decimal.digits_shortest_pos hpos hfinite) behind hbehind
      rw [hround] at hreads
      rw [if_neg hzero]
      exact hreads

end Json

end Scaffold
