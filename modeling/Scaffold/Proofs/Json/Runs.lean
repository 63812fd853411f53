import Scaffold.Json.Reader
import Scaffold.Proofs.Number.Numerals
import Scaffold.Proofs.Text.JsonStrings

/-!
# Runs of the reader over pieces of a text

A piece of a JSON text takes the reader from one state to another, or stops it,
wherever the piece stands (`Json.Runs`). Pieces that follow each other are read
one after the other, blanks change nothing, and a token makes one step.
-/

namespace Scaffold.Json

variable {s s' : State} {cs cs' : List Char} {next : Option State}

/-- The piece takes the reader to the next state, or stops it if there is none, as long as no numeral
goes on behind the piece. -/
def Runs (s : State) (cs : List Char) (next : Option State) : Prop :=
  ∀ position behind, EndsNumeral behind → (s.run (tokens 0 position (cs ++ behind))).toOption =
    next.bind fun s' => (s'.run (tokens 0 (position + cs.length) behind)).toOption

theorem EndsNumeral.append {behind : List Char} (h : EndsNumeral cs) (hbehind : EndsNumeral behind) :
    EndsNumeral (cs ++ behind) := by
  cases cs with
  | nil => exact hbehind
  | cons c cs => exact h

theorem Runs.nil (s : State) : Runs s [] (some s) := fun _ _ _ => rfl

theorem Runs.append (h : Runs s cs (some s')) (h' : Runs s' cs' next) (hends : EndsNumeral cs') :
    Runs s (cs ++ cs') next := by
  intro position behind hbehind
  rw [List.append_assoc, h _ _ (hends.append hbehind), Option.bind_some, h' _ _ hbehind, List.length_append,
    Nat.add_assoc]

/-- A piece that stops the reader does so with any piece behind it. -/
theorem Runs.append_if {goesOn : Bool} (h : Runs s cs (if goesOn then some s' else none)) (h' : Runs s' cs' next)
    (hends : EndsNumeral cs') : Runs s (cs ++ cs') (if goesOn then next else none) := by
  cases goesOn with
  | true => exact h.append h' hends
  | false =>
    intro position behind hbehind
    rw [List.append_assoc, h _ _ (hends.append hbehind)]
    rfl

theorem Runs.spaces (h : Runs s cs next) : ∀ {blanks : List Char}, blanks.all isSpace → Runs s (blanks ++ cs) next
  | [], _ => h
  | c :: blanks, hblanks => by
    rw [List.all_cons, Bool.and_eq_true] at hblanks
    intro position behind hbehind
    have hrest := Runs.spaces h hblanks.2 (position + 1) behind hbehind
    rw [List.cons_append, List.cons_append, tokens, if_pos hblanks.1, hrest, List.length_cons, Nat.add_assoc,
      Nat.add_comm 1]

theorem endsNumeral_cons {c : Char} (h : ¬ Decimal.isDigit c ∧ c ∉ ['.', 'e', 'E', '_']) (cs : List Char) :
    EndsNumeral (c :: cs) := by
  intro d hd
  obtain rfl := Option.some.inj hd
  exact h

theorem endsNumeral_spaces (h : EndsNumeral cs) : ∀ {blanks : List Char}, blanks.all isSpace →
    EndsNumeral (blanks ++ cs)
  | [], _ => h
  | c :: blanks, hblanks => by
    rw [List.all_cons, Bool.and_eq_true] at hblanks
    simp only [isSpace, Bool.or_eq_true, decide_eq_true_eq] at hblanks
    rcases hblanks.1 with ((rfl | rfl) | rfl) | rfl <;> exact endsNumeral_cons (by decide) _

def IsMark (c : Char) (t : Token) : Prop :=
  isSpace c = false ∧ ∀ position behind, scanToken position (c :: behind) = (t, 1)

theorem Runs.mark {c : Char} {t : Token} (hmark : IsMark c t) (hstep : ∀ position, s.step position t = .ok s')
    (h : Runs s' cs next) : Runs s (c :: cs) next := by
  intro position behind hbehind
  rw [List.cons_append, tokens, hmark.1, if_neg (by decide), hmark.2]
  simp only [State.run, hstep]
  rw [h _ _ hbehind, List.length_cons, Nat.add_assoc, Nat.add_comm 1]

theorem isMark_openObject : IsMark '{' .openObject := ⟨rfl, fun _ _ => rfl⟩

theorem isMark_closeObject : IsMark '}' .closeObject := ⟨rfl, fun _ _ => rfl⟩

theorem isMark_openArray : IsMark '[' .openArray := ⟨rfl, fun _ _ => rfl⟩

theorem isMark_closeArray : IsMark ']' .closeArray := ⟨rfl, fun _ _ => rfl⟩

theorem isMark_colon : IsMark ':' .colon := ⟨rfl, fun _ _ => rfl⟩

theorem isMark_comma : IsMark ',' .comma := ⟨rfl, fun _ _ => rfl⟩

/-! ## Tokens -/

theorem tokens_skip : ∀ (cs : List Char) (position : Nat) (behind : List Char),
    tokens cs.length position (cs ++ behind) = tokens 0 (position + cs.length) behind
  | [], _, _ => rfl
  | c :: cs, position, behind => by
    rw [List.cons_append, List.length_cons, tokens, tokens_skip cs, Nat.add_assoc, Nat.add_comm 1]

/-- The piece is one token, if no numeral goes on behind it. -/
structure IsToken (cs : List Char) (t : Token) : Prop where
  begins : ∃ c rest, cs = c :: rest ∧ isSpace c = false
  scan : ∀ position behind, EndsNumeral behind → scanToken position (cs ++ behind) = (t, cs.length)

theorem IsToken.runs {t : Token} (h : IsToken cs t) (hstep : ∀ position, (s.step position t).toOption = next) :
    Runs s cs next := by
  obtain ⟨c, rest, rfl, hspace⟩ := h.begins
  intro position behind hbehind
  have hscan := h.scan position behind hbehind
  rw [List.cons_append] at hscan ⊢
  rw [tokens, hspace, if_neg (by decide), hscan, ← hstep position, State.run]
  cases s.step position t with
  | error fault => rfl
  | ok s' =>
    simp only [List.length_cons, Nat.add_sub_cancel, Except.toOption, Option.bind_some]
    rw [tokens_skip, Nat.add_assoc, Nat.add_comm 1]

theorem isToken_null : IsToken "null".toList (.scalar .null) := ⟨⟨_, _, rfl, rfl⟩, fun _ _ _ => rfl⟩

theorem isToken_true : IsToken "true".toList (.scalar (.bool true)) := ⟨⟨_, _, rfl, rfl⟩, fun _ _ _ => rfl⟩

theorem isToken_false : IsToken "false".toList (.scalar (.bool false)) := ⟨⟨_, _, rfl, rfl⟩, fun _ _ _ => rfl⟩

theorem isToken_string (text : String) : IsToken (Text.jsonString text).toList (.text text) := by
  have hchars : (Text.jsonString text).toList = '"' :: (text.toList.flatMap Text.jsonChar ++ ['"']) := by
    simp [Text.jsonString, Text.jsonStringChars]
  refine ⟨⟨_, _, hchars, rfl⟩, fun position behind _ => ?_⟩
  have hscan := @scanString_flatMap_jsonChar position behind text.toList [] (position + 1)
  rw [hchars, List.cons_append, List.append_assoc, List.singleton_append, scanToken, hscan]
  simp
  omega

/-! ## Numerals -/

theorem begins_of_takeWhole {r : List Char}
    (h : (match r with
      | '0' :: _ => ['0']
      | r => r.takeWhile Decimal.isDigit).isEmpty = false) : ∃ c rest, r = c :: rest ∧ Decimal.isDigit c := by
  cases r with
  | nil => cases h
  | cons c rest =>
    refine ⟨c, rest, rfl, ?_⟩
    by_contra hc
    have hzero : c ≠ '0' := by
      rintro rfl
      exact hc (by decide)
    split at h
    · rename_i heq
      exact hzero (List.cons.inj heq).1
    · rw [List.takeWhile_cons_of_neg hc] at h
      cases h

theorem begins_of_scanNumber {r : Token × Nat} (h : scanNumber cs = some r) :
    ∃ c rest, Decimal.isDigit c ∧ (cs = c :: rest ∨ cs = '-' :: c :: rest) := by
  unfold scanNumber at h
  split at h
  rename_i negative tail hsign
  extract_lets whole at h
  cases hwhole : whole.isEmpty with
  | true =>
    rw [hwhole] at h
    cases h
  | false =>
    obtain ⟨c, rest, rfl, hc⟩ := begins_of_takeWhole hwhole
    refine ⟨c, rest, hc, ?_⟩
    split at hsign
    · cases hsign
      exact Or.inr rfl
    · cases hsign
      exact Or.inl rfl

theorem scanToken_of_scanNumber {r : Token × Nat} (h : scanNumber cs = some r) (position : Nat) :
    scanToken position cs = r := by
  obtain ⟨c, rest, hc, hcs⟩ := begins_of_scanNumber h
  have hne {d : Char} (hd : Decimal.isDigit d = false) : c ≠ d := by
    rintro rfl
    exact absurd hc (by simp [hd])
  have hwords : words.find? (fun w => w.1.isPrefixOf cs) = none := by
    rcases hcs with rfl | rfl <;>
      simp [words, List.isPrefixOf, Ne.symm (hne (d := 'n') rfl), Ne.symm (hne (d := 't') rfl),
        Ne.symm (hne (d := 'f') rfl), Ne.symm (hne (d := 'N') rfl), Ne.symm (hne (d := 'I') rfl),
        Ne.symm (hne (d := '-') rfl)]
  unfold scanToken
  split
  case h_8 =>
    rw [hwords, h]
    rfl
  all_goals
    rcases hcs with hcs | hcs
    · exact absurd (List.cons.inj hcs).1.symm (hne rfl)
    · exact absurd (List.cons.inj hcs).1 (by decide)

theorem isToken_numeral {t : Token}
    (h : ∀ behind, EndsNumeral behind → scanNumber (cs ++ behind) = some (t, cs.length)) : IsToken cs t := by
  refine ⟨?_, fun position behind hbehind => scanToken_of_scanNumber (h behind hbehind) position⟩
  have hscan := h [] endsNumeral_nil
  rw [List.append_nil] at hscan
  obtain ⟨c, rest, hc, hcs⟩ := begins_of_scanNumber hscan
  rcases hcs with rfl | rfl
  · refine ⟨c, rest, rfl, ?_⟩
    by_contra hspace
    simp only [isSpace, Bool.not_eq_false, Bool.or_eq_true, decide_eq_true_eq] at hspace
    rcases hspace with ((rfl | rfl) | rfl) | rfl <;> exact absurd hc (by decide)
  · exact ⟨_, _, rfl, rfl⟩

theorem isToken_int (n : Int) : IsToken (Value.intText n).toList
    (if Decimal.digitLimit < (Decimal.digitsOf n.natAbs).length then
      .broken (.tooLong (Decimal.digitsOf n.natAbs).length) else .scalar (.int n)) := by
  refine isToken_numeral fun behind hbehind => ?_
  rw [scanNumber_intText hbehind]
  split <;> rfl

theorem isToken_real (style : NumberStyle) {x : Binary64} (h : x.isFinite) :
    IsToken (style.render x).toList (.scalar (.real x)) :=
  isToken_numeral fun _ hbehind => scanNumber_render style h hbehind

end Scaffold.Json
