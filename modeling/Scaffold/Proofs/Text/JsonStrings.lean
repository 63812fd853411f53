import Scaffold.Proofs.Text.Literals

/-!
# JSON strings read back

A JSON string is read back by the reader of JSON texts as the text that it was
written for, whatever stands behind it. So a text and the end of its string
can be told from any longer text that begins with the string
(`Text.jsonString_append_injective`).
-/

namespace Scaffold

namespace Text

inductive JsonBlock (c : Char) : List Char → Prop
  | itself (hquote : c ≠ '"') (hback : c ≠ '\\') (hcontrol : ¬ c.toNat < 32) : JsonBlock c [c]
  | escape {letter : Char} (hletter : letter ≠ 'u') (hsimple : Json.simpleEscape letter = some c) :
    JsonBlock c ['\\', letter]
  | code (hcontrol : c.toNat < 32) : JsonBlock c ('\\' :: 'u' :: hex 4 c.toNat)

theorem jsonBlock (c : Char) : JsonBlock c (jsonChar c) := by
  unfold jsonChar
  by_cases hquote : c = '"'
  · rw [if_pos hquote, hquote]
    exact .escape (by decide) rfl
  rw [if_neg hquote]
  by_cases hback : c = '\\'
  · rw [if_pos hback, hback]
    exact .escape (by decide) rfl
  rw [if_neg hback]
  by_cases hfeed : c = '\n'
  · rw [if_pos hfeed, hfeed]
    exact .escape (by decide) rfl
  rw [if_neg hfeed]
  by_cases hreturn : c = '\r'
  · rw [if_pos hreturn, hreturn]
    exact .escape (by decide) rfl
  rw [if_neg hreturn]
  by_cases htab : c = '\t'
  · rw [if_pos htab, htab]
    exact .escape (by decide) rfl
  rw [if_neg htab]
  by_cases hbackspace : c.toNat = 8
  · rw [if_pos hbackspace]
    refine .escape (by decide) ?_
    rw [← Char.ofNat_toNat c, hbackspace]
    rfl
  rw [if_neg hbackspace]
  by_cases hform : c.toNat = 12
  · rw [if_pos hform]
    refine .escape (by decide) ?_
    rw [← Char.ofNat_toNat c, hform]
    rfl
  rw [if_neg hform]
  by_cases hcontrol : c.toNat < 32
  · rw [if_pos hcontrol]
    exact .code hcontrol
  · rw [if_neg hcontrol]
    exact .itself hquote hback hcontrol

theorem simpleEscape_of_control {control : Char} (h : control.toNat < 32) : Json.simpleEscape control = none := by
  unfold Json.simpleEscape
  split
  all_goals first
    | exact absurd h (by decide)
    | rfl

theorem not_le_of_control {control c : Char} (h : control.toNat < 32) (hc : 32 ≤ c.toNat) : ¬ c ≤ control :=
  fun hle => absurd (Nat.lt_of_le_of_lt (Char.le_def.mp hle) h) (Nat.not_lt.mpr hc)

theorem isDigit_of_control {control : Char} (h : control.toNat < 32) : Decimal.isDigit control = false := by
  have hzero : ¬ '0' ≤ control := not_le_of_control h (by decide)
  simp [Decimal.isDigit, hzero]

theorem hexValue_of_control {control : Char} (h : control.toNat < 32) : Json.hexValue control = none := by
  have hlower : ¬ 'a' ≤ control := not_le_of_control h (by decide)
  have hupper : ¬ 'A' ≤ control := not_le_of_control h (by decide)
  simp [Json.hexValue, isDigit_of_control h, hlower, hupper]

theorem control_notMem_jsonChar {control : Char} (h : control.toNat < 32) (c : Char) : control ∉ jsonChar c := by
  have hback : control ≠ '\\' := by
    rintro rfl
    exact absurd h (by decide)
  have hblock := jsonBlock c
  generalize jsonChar c = block at hblock
  cases hblock with
  | itself _ _ hcontrol =>
    intro hmem
    obtain rfl := List.mem_singleton.mp hmem
    exact hcontrol h
  | @escape letter _ hsimple =>
    have hletter : control ≠ letter := by
      rintro rfl
      rw [simpleEscape_of_control h] at hsimple
      cases hsimple
    simp [hback, hletter]
  | code =>
    have hu : control ≠ 'u' := by
      rintro rfl
      exact absurd h (by decide)
    simp [hback, hu, notMem_hex (hexValue_of_control h)]

/-- A JSON string is written on one line, without tabulators. -/
theorem control_notMem_jsonString {control : Char} (h : control.toNat < 32) (s : String) :
    control ∉ (jsonString s).toList := by
  have hquote : control ≠ '"' := by
    rintro rfl
    exact absurd h (by decide)
  have hblocks : control ∉ s.toList.flatMap jsonChar := by
    intro hmem
    obtain ⟨c, -, hc⟩ := List.mem_flatMap.mp hmem
    exact control_notMem_jsonChar h c hc
  simp [jsonString, jsonStringChars, hquote, hblocks]

end Text

namespace Json

open Text

variable {start position : Nat} {read rest : List Char}

theorem hex4_eq_codeFrom {ds : List Char} (h : ds.length = 4) : hex4 ds = codeFrom 0 ds := by
  match ds, h with
  | [a, b, c, d], _ =>
    simp only [hex4, codeFrom, List.foldlM_cons, List.foldlM_nil]
    cases hexValue a <;> cases hexValue b <;> cases hexValue c <;> cases hexValue d <;> simp

theorem scanString_skip : ∀ (block : List Char) (position : Nat),
    scanString start block.length position read (block ++ rest) =
      scanString start 0 (position + block.length) read rest
  | [], _ => rfl
  | c :: block, position => by
    rw [List.cons_append, List.length_cons, scanString, scanString_skip block]
    congr 1
    omega

theorem scanString_jsonChar (c : Char) (hrest : rest ≠ []) :
    scanString start 0 position read (jsonChar c ++ rest) =
      scanString start 0 (position + (jsonChar c).length) (c :: read) rest := by
  have hblock := jsonBlock c
  generalize jsonChar c = block at hblock
  cases hblock with
  | itself hquote hback hcontrol =>
    rw [List.singleton_append, scanString, if_neg hquote, if_neg hback, if_neg hcontrol]
    rfl
  | @escape letter hletter hsimple =>
    have hescape : scanEscape start position (letter :: rest) = .ok (c, 1) := by
      unfold scanEscape
      split
      · rename_i heq
        cases heq
      · rename_i heq
        exact absurd (List.cons.inj heq).1 hletter
      · rename_i heq
        obtain ⟨rfl, rfl⟩ := List.cons.inj heq
        rw [hsimple]
    rw [List.cons_append, List.singleton_append, scanString, if_neg (by decide), if_pos rfl, hescape]
    exact scanString_skip [letter] (position + 1)
  | code hcontrol =>
    have hlen : (hex 4 c.toNat).length = 4 := length_hex (by decide) (Nat.lt_trans hcontrol (by decide))
    have hescape : scanEscape start position ('u' :: (hex 4 c.toNat ++ rest)) = .ok (c, 5) := by
      obtain ⟨r, rest, rfl⟩ := List.exists_cons_of_ne_nil hrest
      have htake : (hex 4 c.toNat ++ r :: rest).take 4 = hex 4 c.toNat := List.take_left' hlen
      have hdrop : (hex 4 c.toNat ++ r :: rest).drop 4 = r :: rest := List.drop_left' hlen
      have hhigh : isHighSurrogate c.toNat = false := by simp [isHighSurrogate]; omega
      have hlow : isLowSurrogate c.toNat = false := by simp [isLowSurrogate]; omega
      simp only [scanEscape, htake, hdrop, hex4_eq_codeFrom hlen, codeFrom_hex, hhigh, hlow, unitChar,
        Bool.false_and, Bool.false_or, Bool.false_eq_true, if_false, Char.ofNat_toNat]
    have hskip := @scanString_skip start (c :: read) rest ('u' :: hex 4 c.toNat) (position + 1)
    rw [List.length_cons, hlen] at hskip
    rw [List.cons_append, List.cons_append, scanString, if_neg (by decide), if_pos rfl, hescape]
    simp only [List.length_cons, hlen]
    exact hskip

/-- A JSON string is read to its closing quote, as the text it was written for. -/
theorem scanString_flatMap_jsonChar : ∀ (cs read : List Char) (position : Nat),
    scanString start 0 position read (cs.flatMap jsonChar ++ '"' :: rest) =
      .ok (cs.reverse ++ read, position + (cs.flatMap jsonChar).length + 1)
  | [], _, _ => rfl
  | c :: cs, read, position => by
    rw [List.flatMap_cons, List.append_assoc, scanString_jsonChar c (by simp),
      scanString_flatMap_jsonChar cs, List.reverse_cons, List.append_assoc, List.length_append,
      Nat.add_assoc position]
    rfl

end Json

namespace Text

/-- A text and the end of its JSON string are determined by any text that begins with the string. -/
theorem jsonString_append_injective {s t : String} {rest rest' : List Char}
    (h : (jsonString s).toList ++ rest = (jsonString t).toList ++ rest') : s = t ∧ rest = rest' := by
  simp only [jsonString, String.toList_ofList, jsonStringChars, List.cons_append, List.append_assoc,
    List.nil_append, List.cons.injEq, true_and] at h
  have hs := @Json.scanString_flatMap_jsonChar 0 rest s.toList [] 0
  have ht := @Json.scanString_flatMap_jsonChar 0 rest' t.toList [] 0
  rw [h, ht, Except.ok.injEq, Prod.mk.injEq, List.append_nil, List.append_nil, List.reverse_inj] at hs
  obtain rfl := String.toList_injective hs.1
  exact ⟨rfl, (List.cons.inj (List.append_cancel_left h)).2⟩

end Text

end Scaffold
