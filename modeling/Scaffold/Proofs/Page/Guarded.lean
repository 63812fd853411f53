import Scaffold.Proofs.Page.Written
import Scaffold.Proofs.Text.Literals

/-!
# Values that cannot end what they stand in

A text as entities has no character with a meaning in HTML, and JSON for a
script element has none that opens a tag. A JSON string keeps them all, so it
ends a script element that it stands in just where its text does
(`Put.guarded_inScript_iff`).
-/

namespace Scaffold

namespace Text

/-! ## Characters written one by one -/

section
variable {f : Char → List Char} {x : Char}

theorem count_flatMap_of_keeps (h : ∀ c, (f c).count x = [c].count x) (cs : List Char) :
    (cs.flatMap f).count x = cs.count x := by
  induction cs with
  | nil => rfl
  | cons c cs ih =>
    rw [List.flatMap_cons, List.count_append, h, ih, ← List.count_append]
    rfl

theorem count_flatMap_of_drops (h : ∀ c, x ∉ f c) (cs : List Char) : (cs.flatMap f).count x = 0 := by
  rw [List.count_eq_zero, List.mem_flatMap]
  rintro ⟨c, -, hx⟩
  exact h c hx

end

theorem pair_infix_append {x y : Char} {block rest : List Char} (h : x ∉ block) :
    [x, y] <:+: block ++ rest ↔ [x, y] <:+: rest := by
  induction block with
  | nil => rfl
  | cons c block ih =>
    rw [List.mem_cons, not_or] at h
    rw [List.cons_append, List.infix_cons_iff, List.cons_prefix_cons, ih h.2, or_iff_right]
    exact fun hx => h.1 hx.1

theorem pair_infix_append_right {x y : Char} {block rest : List Char} (h : y ∉ block) :
    [x, y] <:+: rest ++ block ↔ [x, y] <:+: rest := by
  have hreverse : [x, y].reverse <:+: rest.reverse ↔ [x, y] <:+: rest := List.reverse_infix
  rw [← List.reverse_infix, List.reverse_append, ← hreverse]
  exact pair_infix_append (by simpa using h)

/-- Characters that are not part of a pair may be written in any way that adds none of it. -/
theorem pair_infix_flatMap {f : Char → List Char} {x y : Char}
    (h : ∀ c, f c = [c] ∨ c ≠ x ∧ c ≠ y ∧ x ∉ f c ∧ ∃ b bs, f c = b :: bs ∧ b ≠ y) (cs : List Char) :
    [x, y] <:+: cs.flatMap f ↔ [x, y] <:+: cs := by
  have hhead : ∀ cs : List Char, [y] <+: cs.flatMap f ↔ [y] <+: cs
    | [] => Iff.rfl
    | c :: cs => by
      rcases h c with hc | ⟨-, hy, -, b, bs, hc, hb⟩
      · simp [hc]
      · simp [hc, Ne.symm hb, Ne.symm hy]
  induction cs with
  | nil => exact Iff.rfl
  | cons c cs ih =>
    rw [List.flatMap_cons]
    rcases h c with hc | ⟨hx, -, hnot, -⟩
    · rw [hc, List.singleton_append, List.infix_cons_iff, List.infix_cons_iff, List.cons_prefix_cons,
        List.cons_prefix_cons, hhead]
      exact or_congr_right ih
    · rw [pair_infix_append hnot, List.infix_cons_iff, List.cons_prefix_cons, or_iff_right]
      · exact ih
      · exact fun hpair => hx hpair.1.symm

/-! ## Entities -/

def markupChars : List Char := ['<', '>', '&', '\'', '"']

theorem escapeChar_of_notMem {c : Char} (h : c ∉ markupChars) : escapeChar c = [c] := by
  simp only [markupChars, List.mem_cons, List.not_mem_nil, or_false, not_or] at h
  unfold escapeChar
  split <;> simp_all

/-- Of the characters with a meaning only the one that an entity begins with is left. -/
theorem eq_amp_of_mem_escapeChar {c d : Char} (hc : c ∈ escapeChar d) (h : c ∈ markupChars) : c = '&' := by
  by_cases hd : d ∈ markupChars
  · have hall : ∀ d ∈ markupChars, ∀ c ∈ escapeChar d, c ∈ markupChars → c = '&' := by decide
    exact hall d hd c hc h
  · rw [escapeChar_of_notMem hd, List.mem_singleton] at hc
    exact absurd (hc ▸ h) hd

theorem openings_escape (s : String) : openings (escape s) = 0 := by
  rw [openings, escape, String.toList_ofList]
  exact count_flatMap_of_drops (fun c hc => absurd (eq_amp_of_mem_escapeChar hc (by decide)) (by decide)) _

/-! ## Scripts -/

theorem lt_notMem_scriptChar (c : Char) : '<' ∉ scriptChar c := by
  unfold scriptChar
  split <;> simp_all [eq_comm]

/-- A character of a JSON string stands for itself or is an escape, which opens and closes nothing. -/
theorem jsonChar_cases (c : Char) : jsonChar c = [c] ∨ c ≠ '<' ∧ c ≠ '/' ∧ '<' ∉ jsonChar c ∧
    ∃ b bs, jsonChar c = b :: bs ∧ b ≠ '/' := by
  have hescape {es : List Char} (hne : c ≠ '<') (hne' : c ≠ '/') (hes : '<' ∉ es) :
      c ≠ '<' ∧ c ≠ '/' ∧ '<' ∉ '\\' :: es ∧ ∃ b bs, '\\' :: es = b :: bs ∧ b ≠ '/' :=
    ⟨hne, hne', by simp [hes], _, _, rfl, by decide⟩
  have hcontrol (h : c.toNat < 32) : c ≠ '<' ∧ c ≠ '/' := by
    constructor <;> rintro rfl <;> exact absurd h (by decide)
  have hhex : '<' ∉ 'u' :: hex 4 c.toNat :=
    fun h => (List.mem_cons.mp h).elim (by decide) (notMem_hex (by decide) 4 c.toNat)
  unfold jsonChar
  repeat' split
  case isFalse.isFalse.isFalse.isFalse.isFalse.isFalse.isFalse.isFalse => exact Or.inl rfl
  case isFalse.isFalse.isFalse.isFalse.isFalse.isFalse.isFalse.isTrue h =>
    exact Or.inr (hescape (hcontrol h).1 (hcontrol h).2 hhex)
  all_goals
    obtain ⟨hne, hne'⟩ : c ≠ '<' ∧ c ≠ '/' := by
      constructor <;> rintro rfl <;> contradiction
    exact Or.inr (hescape hne hne' (by decide))

theorem openings_jsonString (s : String) : openings (jsonString s) = openings s := by
  have hkeeps (c : Char) : (jsonChar c).count '<' = [c].count '<' := by
    rcases jsonChar_cases c with hc | ⟨hne, -, hnot, -⟩
    · rw [hc]
    · rw [List.count_eq_zero.mpr hnot, List.count_eq_zero.mpr (by simpa [eq_comm] using hne)]
  have hjson := count_flatMap_of_keeps hkeeps s.toList
  simpa [openings, jsonString, jsonStringChars] using hjson

theorem closing_infix_jsonString (s : String) :
    ['<', '/'] <:+: (jsonString s).toList ↔ ['<', '/'] <:+: s.toList := by
  rw [jsonString, String.toList_ofList, jsonStringChars, pair_infix_append_right (by decide)]
  have hquote : ['<', '/'] <:+: ['"'] ++ s.toList.flatMap jsonChar ↔ _ := pair_infix_append (by decide)
  exact hquote.trans (pair_infix_flatMap jsonChar_cases s.toList)

end Text

/-! ## Values in their places -/

namespace Put

def escaped (s : String) : Put := ⟨some .escape, .text s⟩

def inScript (s : String) : Put := ⟨some .scriptString, .text s⟩

def asData (ss : List String) : Put := ⟨some .script, .ofTexts ss⟩

def asIs (s : String) : Put := ⟨none, .text s⟩

/-- What is shown adds no markup where it stands: entities hold no other character with a meaning but
the one they begin with, nothing in a script closes an element, and what is shown as it is has no
character with a meaning. -/
def Guarded (p : Put) : Prop :=
  match p.filter with
  | some .escape => ∀ c ∈ p.shown.toList, c ∈ Text.markupChars → c = '&'
  | some .script | some .scriptString => ¬ ['<', '/'] <:+: p.shown.toList
  | none => ∀ c ∈ p.shown.toList, c ∉ Text.markupChars
  | _ => False

theorem shown_escaped (s : String) : (escaped s).shown = Text.escape s := rfl

theorem lt_notMem_asData (ss : List String) : '<' ∉ (asData ss).shown.toList := by
  unfold Put.shown asData
  simp only [Filter.apply]
  cases (Value.ofTexts ss).writeJson .script 0 with
  | error fault => simp
  | ok t =>
    simp only [Value.plain, String.toList_ofList, List.mem_flatMap]
    rintro ⟨c, -, hc⟩
    exact Text.lt_notMem_scriptChar c hc

@[simp] theorem openings_escaped (s : String) : Text.openings (escaped s).shown = 0 := Text.openings_escape s

@[simp] theorem openings_inScript (s : String) : Text.openings (inScript s).shown = Text.openings s :=
  Text.openings_jsonString s

@[simp] theorem openings_asIs (s : String) : Text.openings (asIs s).shown = Text.openings s := rfl

@[simp] theorem openings_asData (ss : List String) : Text.openings (asData ss).shown = 0 :=
  List.count_eq_zero.mpr (lt_notMem_asData ss)

theorem openings_map_escaped (ss : List String) : openings (ss.map .escaped) = 0 := by
  induction ss with
  | nil => rfl
  | cons s ss ih => rw [List.map_cons, openings_cons, openings_escaped, ih]

theorem guarded_escaped (s : String) : (escaped s).Guarded := by
  intro c hc hmarkup
  rw [shown_escaped, Text.escape, String.toList_ofList, List.mem_flatMap] at hc
  obtain ⟨d, -, hc⟩ := hc
  exact Text.eq_amp_of_mem_escapeChar hc hmarkup

theorem guarded_asData (ss : List String) : (asData ss).Guarded := by
  intro h
  exact lt_notMem_asData ss (h.subset List.mem_cons_self)

theorem guarded_inScript_iff {s : String} : (inScript s).Guarded ↔ ¬ ['<', '/'] <:+: s.toList :=
  not_congr (Text.closing_infix_jsonString s)

theorem guarded_inScript_before {before s : String} (h : '<' ∉ before.toList) :
    (inScript (before ++ s)).Guarded ↔ ¬ ['<', '/'] <:+: s.toList := by
  rw [guarded_inScript_iff, String.toList_append, Text.pair_infix_append h]

theorem guarded_inScript_after {s behind : String} (h : '/' ∉ behind.toList) :
    (inScript (s ++ behind)).Guarded ↔ ¬ ['<', '/'] <:+: s.toList := by
  rw [guarded_inScript_iff, String.toList_append, Text.pair_infix_append_right h]

theorem guarded_inScript_around {before s behind : String} (hbefore : '<' ∉ before.toList)
    (hbehind : '/' ∉ behind.toList) :
    (inScript (before ++ s ++ behind)).Guarded ↔ ¬ ['<', '/'] <:+: s.toList := by
  rw [guarded_inScript_after hbehind, ← guarded_inScript_iff, guarded_inScript_before hbefore]

theorem guarded_asIs_iff {s : String} : (asIs s).Guarded ↔ ∀ c ∈ s.toList, c ∉ Text.markupChars := Iff.rfl

end Put

end Scaffold
