import Mathlib.Data.List.Infix
import Scaffold.Proofs.Text.Literals

/-!
# Docstrings

A docstring ends behind the first three double quotes in a row that stand
behind no backslash. Which text closes one is a matter of its parts, as long as
they are kept apart by characters that are neither quote nor backslash
(`Docstring.closes_append_plain`); a literal closes one just where its text has
three double quotes in a row (`Docstring.closes_literalChars`).
-/

namespace Scaffold.Docstring

/-- Where a reader of a docstring stands: in its text, behind one or two quotes in a row, or behind a
backslash. -/
inductive Place where
  | text | quote | quotes | escape
  deriving DecidableEq

def Place.step : Place → Char → Option Place
  | .escape, _ => some .text
  | p, c =>
    if c = '\\' then some .escape
    else if c = '"' then
      match p with
      | .text => some .quote
      | .quote => some .quotes
      | _ => none
    else some .text

def Place.after (p : Place) (cs : List Char) : Option Place := cs.foldlM step p

/-- What stands behind the quotes that end a docstring. -/
def behind : Place → List Char → Option (List Char)
  | _, [] => none
  | p, c :: cs =>
    match p.step c with
    | some q => behind q cs
    | none => some cs

def Closes (cs : List Char) : Prop := Place.text.after cs = none

instance (cs : List Char) : Decidable (Closes cs) := inferInstanceAs (Decidable (_ = none))

def Plain (cs : List Char) : Prop := ∀ c ∈ cs, c ≠ '\\' ∧ c ≠ '"'

instance (cs : List Char) : Decidable (Plain cs) := inferInstanceAs (Decidable (∀ c ∈ cs, _))

/-! ## Texts in parts -/

theorem after_append (p : Place) (xs ys : List Char) :
    p.after (xs ++ ys) = (p.after xs).bind (Place.after · ys) := List.foldlM_append

theorem behind_append_of_some {ys : List Char} : ∀ {xs : List Char} {p q : Place}, p.after xs = some q →
    behind p (xs ++ ys) = behind q ys
  | [], p, q, h => by cases h; rfl
  | c :: xs, p, q, h => by
    rw [Place.after, List.foldlM_cons] at h
    obtain ⟨p', hp', h⟩ := Option.bind_eq_some_iff.mp h
    rw [List.cons_append, behind, hp']
    exact behind_append_of_some h

theorem behind_append_of_none (ys : List Char) : ∀ {xs : List Char} {p : Place}, p.after xs = none →
    ∃ zs, behind p (xs ++ ys) = some (zs ++ ys)
  | [], p, h => by cases h
  | c :: xs, p, h => by
    rw [Place.after, List.foldlM_cons] at h
    rw [List.cons_append, behind]
    cases hp : p.step c with
    | none => exact ⟨xs, rfl⟩
    | some q =>
      rw [hp] at h
      exact behind_append_of_none ys h

theorem step_plain (p : Place) {c : Char} (hback : c ≠ '\\') (hquote : c ≠ '"') : p.step c = some .text := by
  cases p <;> simp [Place.step, hback, hquote]

theorem after_plain {cs : List Char} (hne : cs ≠ []) (h : Plain cs) (p : Place) : p.after cs = some .text := by
  induction cs generalizing p with
  | nil => exact absurd rfl hne
  | cons c cs ih =>
    obtain ⟨hc, hcs⟩ := List.forall_mem_cons.mp h
    rw [Place.after, List.foldlM_cons, step_plain p hc.1 hc.2]
    by_cases hnil : cs = []
    · subst hnil; rfl
    · exact ih hnil hcs .text

/-- The quotes at the end of one part do not count for the next. -/
theorem closes_append_plain {cs : List Char} (hne : cs ≠ []) (h : Plain cs) (xs ys : List Char) :
    Closes (xs ++ cs ++ ys) ↔ Closes xs ∨ Closes ys := by
  unfold Closes
  rw [after_append, after_append]
  cases Place.text.after xs with
  | none => simp
  | some p => simp [after_plain hne h p]

theorem not_closes_of_after {cs : List Char} {p : Place} (h : Place.text.after cs = some p) : ¬ Closes cs := by
  unfold Closes
  rw [h]
  exact nofun

theorem not_closes_nil : ¬ Closes [] := not_closes_of_after rfl

theorem closes_plain_append {cs : List Char} (hne : cs ≠ []) (h : Plain cs) (ys : List Char) :
    Closes (cs ++ ys) ↔ Closes ys := by
  simpa [not_closes_nil] using closes_append_plain hne h [] ys

theorem closes_append_of_plain {cs : List Char} (hne : cs ≠ []) (h : Plain cs) (xs : List Char) :
    Closes (xs ++ cs) ↔ Closes xs := by
  simpa [not_closes_nil] using closes_append_plain hne h xs []

theorem behind_closing_iff (xs rest : List Char) :
    behind .text (xs ++ '\n' :: '"' :: '"' :: '"' :: rest) = some rest ↔ ¬ Closes xs := by
  cases h : Place.text.after xs with
  | none =>
    obtain ⟨zs, hzs⟩ := behind_append_of_none ('\n' :: '"' :: '"' :: '"' :: rest) h
    rw [hzs]
    refine iff_of_false (fun heq => ?_) (not_not.mpr h)
    have hlength := congrArg List.length (Option.some.inj heq)
    simp only [List.length_append, List.length_cons] at hlength
    omega
  | some p =>
    rw [behind_append_of_some h, behind, step_plain p (by decide) (by decide)]
    exact iff_of_true rfl (not_closes_of_after h)

/-! ## Literals -/

def closing : List Char := ['"', '"', '"']

def Place.missing : Place → List Char
  | .quote => ['"', '"']
  | .quotes => ['"']
  | _ => closing

theorem step_backslash {p : Place} (hp : p ≠ .escape) : p.step '\\' = some .escape := by
  cases p with
  | escape => exact absurd rfl hp
  | _ => rfl

theorem after_escape {p : Place} (hp : p ≠ .escape) (c : Char) {ds : List Char} (hds : Plain ds) :
    p.after ('\\' :: c :: ds) = some .text := by
  rw [Place.after, List.foldlM_cons, step_backslash hp]
  show Place.text.after ds = some .text
  by_cases hnil : ds = []
  · subst hnil; rfl
  · exact after_plain hnil hds .text

theorem plain_hex (width n : Nat) : Plain (Text.hex width n) := by
  intro c hc
  constructor
  · rintro rfl; exact Text.notMem_hex (by decide) width n hc
  · rintro rfl; exact Text.notMem_hex (by decide) width n hc

section
variable {quote : Char} (hquote : quote = '\'' ∨ quote = '"')
include hquote

theorem after_literalChar_of_ne {c : Char} {p : Place} (hp : p ≠ .escape) (hc : c ≠ '"') :
    p.after (Text.literalChar quote c) = some .text := by
  have hblock := Text.block_literalChar hquote c
  generalize Text.literalChar quote c = block at hblock
  cases hblock with
  | itself _ hback _ _ hchar =>
    obtain rfl := Option.some.inj hchar
    exact after_plain (by simp) (by simp [Plain, hback, hc]) p
  | escape => exact after_escape hp _ (by decide)
  | code => exact after_escape hp _ (plain_hex _ _)

theorem after_flatMap_of_notMem : ∀ {cs : List Char} {p : Place}, cs ≠ [] → '"' ∉ cs → p ≠ .escape →
    p.after (cs.flatMap (Text.literalChar quote)) = some .text
  | c :: cs, p, _, h, hp => by
    rw [List.mem_cons, not_or] at h
    rw [List.flatMap_cons, after_append, after_literalChar_of_ne hquote hp (Ne.symm h.1)]
    by_cases hnil : cs = []
    · subst hnil; rfl
    · exact after_flatMap_of_notMem hnil h.2 (by decide)

end

theorem closing_infix_cons_iff {c : Char} {cs : List Char} :
    closing <:+: c :: cs ↔ c = '"' ∧ ['"', '"'] <+: cs ∨ closing <:+: cs := by
  rw [List.infix_cons_iff, closing, List.cons_prefix_cons, eq_comm]

/-- What has been read of a row of quotes and what begins the text make up one row. -/
theorem after_flatMap_eq_none_iff {cs : List Char} {p : Place} (hp : p ≠ .escape) :
    p.after (cs.flatMap (Text.literalChar '\'')) = none ↔ p.missing <+: cs ∨ closing <:+: cs := by
  induction cs generalizing p with
  | nil => cases p <;> simp [Place.after, Place.missing, closing]
  | cons c cs ih =>
    rw [List.flatMap_cons, after_append, closing_infix_cons_iff]
    -- a double quote brings the end nearer, any other character starts over
    by_cases hc : c = '"'
    · subst hc
      have hself : Text.literalChar '\'' '"' = ['"'] := by decide
      have hpair : ['"', '"'] <+: cs → ['"'] <+: cs := fun h => .trans ⟨['"'], rfl⟩ h
      rw [hself]
      cases p with
      | text =>
        show Place.quote.after _ = none ↔ _
        rw [ih (by decide)]
        simp [Place.missing, closing]
      | quote =>
        show Place.quotes.after _ = none ↔ _
        rw [ih (by decide)]
        simp only [Place.missing, List.cons_prefix_cons, true_and]
        tauto
      | quotes =>
        show none = none ↔ _
        simp [Place.missing]
      | escape => exact absurd rfl hp
    · have hnot : ¬ p.missing <+: c :: cs := by
        cases p <;> simp [Place.missing, closing, Ne.symm hc]
      have hrow : closing <+: cs → closing <:+: cs := List.IsPrefix.isInfix
      rw [after_literalChar_of_ne (Or.inl rfl) hp hc]
      show Place.text.after _ = none ↔ _
      rw [ih (by decide)]
      show closing <+: cs ∨ _ ↔ _
      tauto

theorem literalQuote_eq_double {cs : List Char} (h : Text.literalQuote cs = '"') : '\'' ∈ cs ∧ '"' ∉ cs := by
  unfold Text.literalQuote at h
  split at h
  · simp_all
  · cases h

theorem closes_literalChars (cs : List Char) : Closes (Text.literalChars cs) ↔ closing <:+: cs := by
  unfold Text.literalChars
  rcases Text.literalQuote_eq cs with h | h
  · have hflat : Closes (cs.flatMap (Text.literalChar '\'')) ↔ closing <:+: cs :=
      (after_flatMap_eq_none_iff (p := .text) (by decide)).trans (or_iff_right_of_imp List.IsPrefix.isInfix)
    rw [h]
    show Closes (['\''] ++ cs.flatMap (Text.literalChar '\'') ++ ['\'']) ↔ _
    rw [closes_append_of_plain (by simp) (by decide), closes_plain_append (by simp) (by decide), hflat]
  · obtain ⟨hsingle, hdouble⟩ := literalQuote_eq_double h
    have hread := after_flatMap_of_notMem (Or.inr rfl) (p := .quote) (List.ne_nil_of_mem hsingle) hdouble (by decide)
    have hopen : Place.text.after ('"' :: cs.flatMap (Text.literalChar '"') ++ ['"']) = some .quote := by
      rw [after_append]
      show (Place.quote.after _).bind _ = _
      rw [hread]; rfl
    rw [h]
    refine iff_of_false (not_closes_of_after hopen) fun hrow => hdouble (hrow.subset ?_)
    simp [closing]

end Scaffold.Docstring
