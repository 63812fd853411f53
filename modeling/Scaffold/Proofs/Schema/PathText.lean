import Mathlib.Data.List.Forall2
import Scaffold.Proofs.Number.Numerals
import Scaffold.Proofs.Text.JsonStrings
import Scaffold.Schema.Report

/-!
# Places told apart

The text of a path is the root and the texts of its keys, with nothing in
between. A key is written bare in brackets, behind a dot, or as a JSON string
in brackets, and its text ends where a dot, a bracket or nothing follows. So
the path can be read off its text, up to positions that are written like the
texts of their digits (`Report.pathText_eq_iff`).
-/

namespace Scaffold

/-- What schemas put into the path of an issue: a key of a mapping or a position. -/
def Value.isPathKey : Value → Bool
  | .text _ => true
  | .int _ => true
  | _ => false

/-- Two keys are the same, or one is a position and the other one the text of its digits. -/
inductive Value.SameKey : Value → Value → Prop
  | refl (k : Value) : SameKey k k
  | position (n : Nat) : SameKey (.int n) (.text (toString n))
  | digits (n : Nat) : SameKey (.text (toString n)) (.int n)

namespace Text

theorem append_injective_of_all {kind : Char → Bool} {cs ds rest rest' : List Char} (hcs : cs.all kind)
    (hds : ds.all kind) (hrest : ∀ c ∈ rest.head?, ¬ kind c) (hrest' : ∀ c ∈ rest'.head?, ¬ kind c)
    (h : cs ++ rest = ds ++ rest') : cs = ds ∧ rest = rest' := by
  have heq : cs = ds := by rw [← takeWhile_append hcs hrest, h, takeWhile_append hds hrest']
  exact ⟨heq, List.append_cancel_left (heq ▸ h)⟩

theorem isDecimalDigit_of_isDigit {c : Char} (h : Decimal.isDigit c) : isDecimalDigit c := by
  have hall : ∀ n < 58, 48 ≤ n → decimalDigits.countP (· ≤ n) % 2 = 1 := by decide +kernel
  rw [Decimal.isDigit, Bool.and_eq_true, decide_eq_true_eq, decide_eq_true_eq] at h
  have hlow : 48 ≤ c.toNat := h.1
  have hhigh : c.toNat ≤ 57 := h.2
  simpa [isDecimalDigit, CodeSet.contains] using hall c.toNat (by omega) hlow

end Text

namespace Report

/-! ## Texts of keys -/

def isBareChar (c : Char) : Bool := Text.isDecimalDigit c || c = '-' || c = '\n'

def isDottedChar (c : Char) : Bool := isIdentifierChar c || c = '\n'

theorem mem_withoutFinalLineFeed {cs : List Char} {c : Char} (h : c ∈ cs) :
    c ∈ withoutFinalLineFeed cs ∨ c = '\n' := by
  unfold withoutFinalLineFeed
  split
  · rename_i hlast
    obtain ⟨rest, rfl⟩ := List.getLast?_eq_some_iff.mp hlast
    simpa using h
  · exact Or.inl h

theorem isBareChar_of_isNumeral {cs : List Char} (h : isNumeral cs) : cs.all isBareChar := by
  rw [isNumeral, Bool.and_eq_true] at h
  rw [List.all_eq_true]
  intro c hc
  rcases mem_withoutFinalLineFeed hc with hc | rfl
  · simp [isBareChar, List.all_eq_true.mp h.2 c hc]
  · rfl

theorem isDottedChar_of_isIdentifier {cs : List Char} (h : isIdentifier cs) : cs.all isDottedChar := by
  rw [List.all_eq_true]
  intro c hc
  rcases mem_withoutFinalLineFeed hc with hc | rfl
  · unfold isIdentifier at h
    cases hbody : withoutFinalLineFeed cs with
    | nil =>
      rw [hbody] at hc
      cases hc
    | cons d rest =>
      rw [hbody] at h hc
      simp only [Bool.and_eq_true] at h
      rcases List.mem_cons.mp hc with rfl | hc
      · simp [isDottedChar, isIdentifierChar, h.1]
      · simp [isDottedChar, List.all_eq_true.mp h.2 c hc]
  · rfl

theorem intText_natCast (n : Nat) : Value.intText n = toString n := rfl

theorem toList_intText (n : Int) :
    (Value.intText n).toList = if n < 0 then '-' :: Decimal.digitsOf n.natAbs else Decimal.digitsOf n.natAbs := by
  rw [Value.intText, String.toList_ofList]

theorem isDecimalDigit_of_mem_digitsOf {n : Nat} {c : Char} (h : c ∈ Decimal.digitsOf n) : Text.isDecimalDigit c :=
  Text.isDecimalDigit_of_isDigit (List.all_eq_true.mp (Decimal.all_isDigit_digitsOf n) c h)

theorem isBareChar_intText (n : Int) : (Value.intText n).toList.all isBareChar := by
  have hdigits : (Decimal.digitsOf n.natAbs).all isBareChar := by
    rw [List.all_eq_true]
    intro c hc
    simp [isBareChar, isDecimalDigit_of_mem_digitsOf hc]
  rw [toList_intText]
  split
  · rw [List.all_cons, hdigits]
    rfl
  · exact hdigits

theorem isNumeral_digitsOf (n : Nat) : isNumeral (Decimal.digitsOf n) := by
  have hlast : ¬ (Decimal.digitsOf n).getLast? = some '\n' := by
    intro hlast
    have hfeed := isDecimalDigit_of_mem_digitsOf (List.mem_of_getLast? hlast)
    exact absurd hfeed (by decide)
  have hne : Decimal.digitsOf n ≠ [] := by
    intro hnil
    have hlen := Decimal.ofDigits_digitsOf n
    rw [hnil] at hlen
    obtain rfl : n = 0 := hlen.symm
    cases hnil
  rw [isNumeral, withoutFinalLineFeed, if_neg hlast, Bool.and_eq_true]
  refine ⟨by simpa using hne, List.all_eq_true.mpr fun c hc => isDecimalDigit_of_mem_digitsOf hc⟩

/-! ## Keys that are written bare -/

inductive Bare : Value → List Char → Prop
  | position (n : Int) : Bare (.int n) (Value.intText n).toList
  | numeral {s : String} (h : isNumeral s.toList) : Bare (.text s) s.toList

theorem Bare.all {k : Value} {cs : List Char} (h : Bare k cs) : cs.all isBareChar := by
  cases h with
  | position n => exact isBareChar_intText n
  | numeral h => exact isBareChar_of_isNumeral h

theorem digitsOf_injective {m n : Nat} (h : Decimal.digitsOf m = Decimal.digitsOf n) : m = n := by
  rw [← Decimal.ofDigits_digitsOf m, h, Decimal.ofDigits_digitsOf]

theorem dash_notMem_digitsOf (n : Nat) : '-' ∉ Decimal.digitsOf n :=
  fun h => absurd (isDecimalDigit_of_mem_digitsOf h) (by decide)

theorem intText_injective {m n : Int} (h : (Value.intText m).toList = (Value.intText n).toList) : m = n := by
  have hdash {d e : Nat} : '-' :: Decimal.digitsOf d ≠ Decimal.digitsOf e := fun heq =>
    dash_notMem_digitsOf e (heq ▸ List.mem_cons_self)
  rw [toList_intText, toList_intText] at h
  split at h
  · split at h
    · have := digitsOf_injective (List.cons.inj h).2
      omega
    · exact absurd h hdash
  · split at h
    · exact absurd h.symm hdash
    · have := digitsOf_injective h
      omega

/-- A key made of digits is the text of a position only if it has that position's digits, as no
digit is a sign. -/
theorem eq_natCast_of_isNumeral {s : String} {n : Int} (hs : isNumeral s.toList)
    (h : (Value.intText n).toList = s.toList) : ∃ m : Nat, n = m ∧ s = toString m := by
  obtain rfl := String.toList_injective h
  by_cases hneg : n < 0
  · exfalso
    rw [toList_intText, if_pos hneg, isNumeral, Bool.and_eq_true] at hs
    have hdash : '-' ∈ withoutFinalLineFeed ('-' :: Decimal.digitsOf n.natAbs) :=
      (mem_withoutFinalLineFeed List.mem_cons_self).resolve_right (by decide)
    exact absurd (List.all_eq_true.mp hs.2 _ hdash) (by decide)
  · obtain ⟨m, rfl⟩ := Int.eq_ofNat_of_zero_le (Int.not_lt.mp hneg)
    exact ⟨m, rfl, intText_natCast m⟩

theorem Bare.sameKey {k k' : Value} {cs : List Char} (h : Bare k cs) (h' : Bare k' cs) : k.SameKey k' := by
  generalize hds : cs = ds at h'
  cases h with
  | position n =>
    cases h' with
    | position n' =>
      obtain rfl := intText_injective hds
      exact .refl _
    | numeral hs =>
      obtain ⟨m, rfl, rfl⟩ := eq_natCast_of_isNumeral hs hds
      exact .position m
  | numeral hs =>
    cases h' with
    | position n =>
      obtain ⟨m, rfl, rfl⟩ := eq_natCast_of_isNumeral hs hds.symm
      exact .digits m
    | numeral =>
      obtain rfl := String.toList_injective hds
      exact .refl _

/-! ## One key -/

inductive Segment (k : Value) : List Char → Prop
  | bare {cs : List Char} (h : Bare k cs) : Segment k ('[' :: (cs ++ [']']))
  | dotted {s : String} (hk : k = .text s) (h : isIdentifier s.toList) : Segment k ('.' :: s.toList)
  | quoted {s : String} (hk : k = .text s) : Segment k ('[' :: ((Text.jsonString s).toList ++ [']']))

theorem segment_keyText {k : Value} (h : k.isPathKey) : Segment k (keyText k).toList := by
  have hbracket (s : String) : ("[" ++ s ++ "]").toList = '[' :: (s.toList ++ [']']) := by
    simp [String.toList_append]
  cases k with
  | int n =>
    rw [keyText, hbracket]
    exact .bare (.position n)
  | text s =>
    rw [keyText]
    by_cases hnumeral : isNumeral s.toList
    · rw [if_pos hnumeral, hbracket]
      exact .bare (.numeral hnumeral)
    rw [if_neg hnumeral]
    by_cases hidentifier : isIdentifier s.toList
    · rw [if_pos hidentifier, String.toList_append]
      exact .dotted rfl hidentifier
    · rw [if_neg hidentifier, quotedKey, hbracket]
      exact .quoted rfl
  | _ => cases h

def AtKey (rest : List Char) : Prop := ∀ c ∈ rest.head?, c = '.' ∨ c = '['

theorem atKey_keyText {k : Value} (h : k.isPathKey) (rest : List Char) : AtKey ((keyText k).toList ++ rest) := by
  have hsegment := segment_keyText h
  generalize (keyText k).toList = cs at hsegment
  intro c hc
  cases hsegment with
  | bare | quoted =>
    cases hc
    exact Or.inr rfl
  | dotted =>
    cases hc
    exact Or.inl rfl

theorem AtKey.not_isDottedChar {rest : List Char} (h : AtKey rest) : ∀ c ∈ rest.head?, ¬ isDottedChar c := by
  intro c hc
  rcases h c hc with rfl | rfl <;> decide

theorem head_closing (rest : List Char) : ∀ c ∈ (']' :: rest).head?, ¬ isBareChar c := by
  intro c hc
  cases hc
  decide +kernel

theorem Bare.ne_quoted {k : Value} {cs : List Char} (h : Bare k cs) (s : String) (rest rest' : List Char) :
    cs ++ ']' :: rest ≠ (Text.jsonString s).toList ++ rest' := by
  intro heq
  rw [Text.jsonString, String.toList_ofList, Text.jsonStringChars, List.append_assoc, List.cons_append] at heq
  have hall := h.all
  cases cs with
  | nil => exact absurd (List.cons.inj heq).1 (by decide)
  | cons c cs =>
    obtain ⟨rfl, -⟩ := List.cons.inj heq
    exact absurd (List.all_eq_true.mp hall _ List.mem_cons_self) (by decide +kernel)

/-- A key and the end of its text are determined by any text that begins with it and goes on with
other keys. -/
theorem Segment.append_injective {k k' : Value} {cs ds rest rest' : List Char} (h : Segment k cs)
    (h' : Segment k' ds) (hrest : AtKey rest) (hrest' : AtKey rest') (heq : cs ++ rest = ds ++ rest') :
    k.SameKey k' ∧ rest = rest' := by
  -- the first character tells dotted keys from bracketed ones, a quote tells the bracketed ones apart
  cases h with
  | bare h =>
    cases h' with
    | bare h' =>
      simp only [List.cons_append, List.append_assoc, List.nil_append, List.cons.injEq, true_and] at heq
      obtain ⟨rfl, hend⟩ := Text.append_injective_of_all h.all h'.all (head_closing rest) (head_closing rest') heq
      exact ⟨h.sameKey h', (List.cons.inj hend).2⟩
    | dotted => cases heq
    | quoted =>
      simp only [List.cons_append, List.append_assoc, List.nil_append, List.cons.injEq, true_and] at heq
      exact absurd heq (h.ne_quoted _ _ _)
  | dotted hk hid =>
    cases h' with
    | dotted hk' hid' =>
      obtain ⟨hs, rfl⟩ := Text.append_injective_of_all (isDottedChar_of_isIdentifier hid)
        (isDottedChar_of_isIdentifier hid') hrest.not_isDottedChar hrest'.not_isDottedChar (List.cons.inj heq).2
      obtain rfl := String.toList_injective hs
      rw [hk, hk']
      exact ⟨.refl _, rfl⟩
    | bare | quoted => cases heq
  | quoted hk =>
    cases h' with
    | bare h' =>
      simp only [List.cons_append, List.append_assoc, List.nil_append, List.cons.injEq, true_and] at heq
      exact absurd heq.symm (h'.ne_quoted _ _ _)
    | dotted => cases heq
    | quoted hk' =>
      simp only [List.cons_append, List.append_assoc, List.nil_append, List.cons.injEq, true_and] at heq
      obtain ⟨rfl, hend⟩ := Text.jsonString_append_injective heq
      rw [hk, hk']
      exact ⟨.refl _, (List.cons.inj hend).2⟩

theorem keyText_natCast (n : Nat) : keyText (.text (toString n)) = keyText (.int n) := by
  have hnumeral : isNumeral (toString n).toList := by
    rw [← intText_natCast, toList_intText, if_neg (by omega)]
    exact isNumeral_digitsOf _
  simp only [keyText, hnumeral, if_true, intText_natCast]

theorem keyText_eq_of_sameKey {k k' : Value} (h : k.SameKey k') : keyText k = keyText k' := by
  cases h with
  | refl => rfl
  | position n => exact (keyText_natCast n).symm
  | digits n => exact keyText_natCast n

/-! ## Whole paths -/

theorem toList_pathText (p : Path) : (pathText p).toList = '$' :: p.flatMap fun k => (keyText k).toList := by
  have hfold (start : String) : (p.foldl (fun s k => s ++ keyText k) start).toList =
      start.toList ++ p.flatMap fun k => (keyText k).toList := by
    induction p generalizing start with
    | nil => simp
    | cons k p ih => rw [List.foldl_cons, ih, String.toList_append, List.append_assoc, List.flatMap_cons]
  exact hfold "$"

theorem atKey_flatMap {p : Path} (hp : ∀ k ∈ p, k.isPathKey) : AtKey (p.flatMap fun k => (keyText k).toList) := by
  cases p with
  | nil =>
    intro c hc
    cases hc
  | cons k p => exact atKey_keyText (hp k List.mem_cons_self) _

theorem keyText_ne_nil {k : Value} (h : k.isPathKey) : (keyText k).toList ≠ [] := by
  intro hnil
  have hsegment := segment_keyText h
  rw [hnil] at hsegment
  cases hsegment

theorem forall₂_sameKey_of_flatMap_eq : ∀ {p q : Path}, (∀ k ∈ p, k.isPathKey) → (∀ k ∈ q, k.isPathKey) →
    (p.flatMap fun k => (keyText k).toList) = (q.flatMap fun k => (keyText k).toList) →
      List.Forall₂ Value.SameKey p q
  | [], [], _, _, _ => .nil
  | [], k :: q, _, hq, h => by
    rw [List.flatMap_cons, List.flatMap_nil, eq_comm, List.append_eq_nil_iff] at h
    exact absurd h.1 (keyText_ne_nil (hq k List.mem_cons_self))
  | k :: p, [], hp, _, h => by
    rw [List.flatMap_cons, List.flatMap_nil, List.append_eq_nil_iff] at h
    exact absurd h.1 (keyText_ne_nil (hp k List.mem_cons_self))
  | k :: p, k' :: q, hp, hq, h => by
    obtain ⟨hk, hp⟩ := List.forall_mem_cons.mp hp
    obtain ⟨hk', hq⟩ := List.forall_mem_cons.mp hq
    rw [List.flatMap_cons, List.flatMap_cons] at h
    obtain ⟨hsame, hrest⟩ := (segment_keyText hk).append_injective (segment_keyText hk') (atKey_flatMap hp)
      (atKey_flatMap hq) h
    exact .cons hsame (forall₂_sameKey_of_flatMap_eq hp hq hrest)

/-- **Places.** Two paths have the same text exactly when they have the same keys one by one, where a
position and the text of its digits count as the same key. -/
theorem pathText_eq_iff {p q : Path} (hp : ∀ k ∈ p, k.isPathKey) (hq : ∀ k ∈ q, k.isPathKey) :
    pathText p = pathText q ↔ List.Forall₂ Value.SameKey p q := by
  constructor
  · intro h
    have hlist := congrArg String.toList h
    rw [toList_pathText, toList_pathText] at hlist
    exact forall₂_sameKey_of_flatMap_eq hp hq (List.cons.inj hlist).2
  · intro h
    unfold pathText
    generalize "$" = start
    induction h generalizing start with
    | nil => rfl
    | cons hk _ ih =>
      rw [List.foldl_cons, List.foldl_cons, keyText_eq_of_sameKey hk]
      exact ih (List.forall_mem_cons.mp hp).2 (List.forall_mem_cons.mp hq).2 _

/-- Brackets, a quote and a line feed in keys, a position written as a text, and a key that looks like two. -/
theorem pathText_eq_quoted :
    let p : Path := [.text "fields", .int 10, .text "a\"]\n", .text "x\n"]
    let q : Path := [.text "fields", .text "10", .text "a\"]\n", .text "x\n"]
    let r : Path := [.text "fields[10]", .text "a\"]\n", .text "x\n"]
    (∀ k ∈ p, k.isPathKey) ∧ (∀ k ∈ q, k.isPathKey) ∧ (∀ k ∈ r, k.isPathKey) ∧
      pathText p = pathText q ∧ pathText p ≠ pathText r := by
  intro p q r
  have hp : ∀ k ∈ p, k.isPathKey := by simp [p, Value.isPathKey]
  have hq : ∀ k ∈ q, k.isPathKey := by simp [q, Value.isPathKey]
  have hr : ∀ k ∈ r, k.isPathKey := by simp [r, Value.isPathKey]
  have hsame : List.Forall₂ Value.SameKey p q :=
    .cons (.refl _) (.cons (.position 10) (.cons (.refl _) (.cons (.refl _) .nil)))
  refine ⟨hp, hq, hr, (pathText_eq_iff hp hq).mpr hsame, fun h => ?_⟩
  have hlength := ((pathText_eq_iff hp hr).mp h).length_eq
  exact absurd hlength (by decide)

end Report

end Scaffold
