import Scaffold.Proofs.Number.Numerals

/-!
# The form of numerals

A numeral is made of digits, with a sign before them and a fraction and an
exponent behind them where there are any. Whole numbers and finite doubles are
written as numerals (`Decimal.numeral_intText`, `Decimal.numeral_render`).
-/

namespace Scaffold.Decimal

def IsDigits (ds : List Char) : Prop := ds ≠ [] ∧ ds.all isDigit

inductive Sign : List Char → Prop
  | none : Sign []
  | plus : Sign ['+']
  | minus : Sign ['-']

inductive Fraction : List Char → Prop
  | none : Fraction []
  | digits {ds : List Char} (h : IsDigits ds) : Fraction ('.' :: ds)

inductive Exponent : List Char → Prop
  | none : Exponent []
  | digits {sign ds : List Char} (hsign : Sign sign) (h : IsDigits ds) : Exponent ('e' :: (sign ++ ds))

inductive Unsigned : List Char → Prop
  | mk {whole fraction exponent : List Char} (hwhole : IsDigits whole) (hfraction : Fraction fraction)
    (hexponent : Exponent exponent) : Unsigned (whole ++ (fraction ++ exponent))

inductive Numeral : List Char → Prop
  | mk {sign cs : List Char} (hsign : Sign sign) (h : Unsigned cs) : Numeral (sign ++ cs)

/-! ## The first digit -/

theorem IsDigits.exists_cons {ds : List Char} (h : IsDigits ds) : ∃ d rest, ds = d :: rest ∧ isDigit d := by
  obtain ⟨d, rest, rfl⟩ := List.exists_cons_of_ne_nil h.1
  exact ⟨d, rest, rfl, List.all_eq_true.mp h.2 d List.mem_cons_self⟩

theorem Numeral.begins {cs : List Char} (h : Numeral cs) : (spanSign cs).2.head?.any isDigit := by
  obtain ⟨hsign, ⟨hwhole, -, -⟩⟩ := h
  obtain ⟨d, rest, rfl, hd⟩ := hwhole.exists_cons
  cases hsign with
  | none =>
    rw [List.nil_append, List.cons_append, spanSign_digit hd]
    exact hd
  | plus | minus => exact hd

/-! ## The characters of numerals -/

theorem IsDigits.chars {ds : List Char} (h : IsDigits ds) : ∀ c ∈ ds, isDigit c ∨ c ∈ ['-', '+', '.', 'e'] :=
  fun c hc => Or.inl (List.all_eq_true.mp h.2 c hc)

theorem Sign.chars {cs : List Char} (h : Sign cs) : ∀ c ∈ cs, isDigit c ∨ c ∈ ['-', '+', '.', 'e'] := by
  cases h <;> simp

theorem Numeral.chars {cs : List Char} (h : Numeral cs) : ∀ c ∈ cs, isDigit c ∨ c ∈ ['-', '+', '.', 'e'] := by
  obtain ⟨hsign, ⟨hwhole, hfraction, hexponent⟩⟩ := h
  refine List.forall_mem_append.mpr ⟨hsign.chars, List.forall_mem_append.mpr ⟨hwhole.chars, ?_⟩⟩
  refine List.forall_mem_append.mpr ⟨?_, ?_⟩
  · cases hfraction with
    | none => exact List.forall_mem_nil _
    | digits hds => exact List.forall_mem_cons.mpr ⟨Or.inr (by decide), hds.chars⟩
  · cases hexponent with
    | none => exact List.forall_mem_nil _
    | digits hsign hds =>
      exact List.forall_mem_cons.mpr ⟨Or.inr (by decide), List.forall_mem_append.mpr ⟨hsign.chars, hds.chars⟩⟩

/-! ## Whole numbers -/

theorem isDigits_digitsOf (n : Nat) : IsDigits (digitsOf n) := ⟨Nat.toDigits_ne_nil, all_isDigit_digitsOf n⟩

theorem IsDigits.unsigned {ds : List Char} (h : IsDigits ds) : Unsigned ds := by
  have hunsigned := Unsigned.mk h .none .none
  rwa [List.append_nil, List.append_nil] at hunsigned

theorem numeral_intText (n : Int) : Numeral (Value.intText n).toList := by
  have hdigits := (isDigits_digitsOf n.natAbs).unsigned
  rw [Value.intText, String.toList_ofList]
  split
  · exact .mk .minus hdigits
  · exact .mk .none hdigits

/-! ## Doubles -/

section
variable {ds ds' : List Char}

theorem IsDigits.append (h : IsDigits ds) (hall : ds'.all isDigit) : IsDigits (ds ++ ds') :=
  ⟨List.append_ne_nil_of_left_ne_nil h.1 ds', by rw [List.all_append, h.2, hall]; rfl⟩

theorem IsDigits.zeros_append (h : IsDigits ds) (k : Nat) : IsDigits (NumberStyle.zeros k ++ ds) :=
  ⟨List.append_ne_nil_of_right_ne_nil _ h.1, by rw [List.all_append, all_isDigit_zeros, h.2]; rfl⟩

theorem IsDigits.point (h : IsDigits ds) (h' : IsDigits ds') : Unsigned (ds ++ '.' :: ds') := by
  have hunsigned := Unsigned.mk h (.digits h') .none
  rwa [List.append_nil] at hunsigned

end

theorem exponent_exponentText (style : NumberStyle) (e : Int) : Exponent (style.exponentText e) := by
  obtain ⟨sign, ds, htext, hsign, hne, hds, -⟩ := Json.exponentText_eq style e
  rw [htext]
  rcases hsign with ⟨rfl, -⟩ | ⟨rfl | rfl, -⟩
  · exact .digits .minus ⟨hne, hds⟩
  · exact .digits .plus ⟨hne, hds⟩
  · exact .digits .none ⟨hne, hds⟩

/-- The digits of a decimal stand before, behind or around a point, or the first of them before it
and an exponent behind them. -/
theorem unsigned_layout (style : NumberStyle) (d : Decimal) : Unsigned (style.layout d) := by
  have hzero : IsDigits ['0'] := ⟨by decide, by decide⟩
  have hds := isDigits_digitsOf d.digits
  unfold NumberStyle.layout
  generalize digitsOf d.digits = ds at hds
  have hexponent := exponent_exponentText style (d.exponent + ds.length - 1)
  dsimp only
  split
  · -- the point stands before the digits, behind them, or among them with digits on both sides
    split
    · exact hzero.point (hds.zeros_append _)
    · split
      · exact (hds.append (all_isDigit_zeros _)).point hzero
      · rename_i hpositive hwithin
        have hall := hds.2
        rw [← List.take_append_drop (d.exponent + ds.length).toNat ds, List.all_append, Bool.and_eq_true] at hall
        refine IsDigits.point ⟨?_, hall.1⟩ ⟨?_, hall.2⟩
        · rw [Ne, List.take_eq_nil_iff, not_or]
          exact ⟨by omega, hds.1⟩
        · rw [Ne, List.drop_eq_nil_iff]
          exact hwithin
  -- one digit stands before the point, and the exponent behind the others
  · obtain ⟨c, cs, rfl, hc⟩ := hds.exists_cons
    have hfirst : IsDigits [c] := ⟨by simp, by simp [hc]⟩
    cases cs with
    | nil =>
      have hunsigned := Unsigned.mk hfirst .none hexponent
      exact hunsigned
    | cons c' cs =>
      have hrest := hds.2
      rw [List.all_cons, Bool.and_eq_true] at hrest
      have hunsigned := Unsigned.mk hfirst (.digits ⟨List.cons_ne_nil c' cs, hrest.2⟩) hexponent
      exact hunsigned

theorem numeral_render (style : NumberStyle) {x : Binary64} (h : x.isFinite) : Numeral (style.render x).toList := by
  cases x with
  | nan => cases h
  | signed negative rank =>
    have hfinite : rank.val < Binary64.topRank := by simpa [Binary64.isFinite] using h
    have hzero : IsDigits ['0'] := ⟨by decide, by decide⟩
    have hbody : Unsigned (if rank.val = 0 then ['0', '.', '0'] else
        style.layout (shortest rank.val)) := by
      split
      · exact hzero.point hzero
      · exact unsigned_layout style _
    rw [NumberStyle.render, if_neg (Nat.ne_of_lt hfinite), String.toList_ofList]
    split
    · exact .mk .minus hbody
    · exact .mk .none hbody

end Scaffold.Decimal
