import Scaffold.Proofs.Number.Layout
import Scaffold.Proofs.Value.Writable
import Scaffold.Sql.Statement

/-!
# Reading SQL literals

A quoted text reads back with anything behind it that does not begin with a
quote (`Sql.readText_quoted_iff`), and every literal is one constant, unless it is
that of a double which has no digits (`Sql.constant_literal_iff`).
-/

namespace Scaffold.Sql

/-! ## String literals -/

/-- Reads a string literal behind its opening quote, a doubled quote as one, up to the first quote that is
not doubled. Gives the text and what stands behind the literal. -/
def readQuoted : List Char → Option (List Char × List Char)
  | [] => none
  | '\'' :: '\'' :: cs => (readQuoted cs).map (Prod.map ('\'' :: ·) id)
  | '\'' :: cs => some ([], cs)
  | c :: cs => (readQuoted cs).map (Prod.map (c :: ·) id)

def readText : List Char → Option (List Char × List Char)
  | '\'' :: cs => readQuoted cs
  | _ => none

theorem readQuoted_doubled (cs : List Char) :
    readQuoted ('\'' :: '\'' :: cs) = (readQuoted cs).map (Prod.map ('\'' :: ·) id) := by
  rw [readQuoted]

theorem readQuoted_cons {c : Char} (h : c ≠ '\'') (cs : List Char) :
    readQuoted (c :: cs) = (readQuoted cs).map (Prod.map (c :: ·) id) := by
  rw [readQuoted]
  · rintro _ rfl
    exact absurd rfl h
  · rintro rfl
    exact absurd rfl h

theorem readQuoted_closing {rest : List Char} (h : rest.head? ≠ some '\'') :
    readQuoted ('\'' :: rest) = some ([], rest) := by
  rw [readQuoted]
  rintro cs rfl
  exact h rfl

/-- A quoted text is read character by character, whatever stands behind it. -/
theorem readQuoted_quotedChars (cs tail : List Char) :
    readQuoted (quotedChars cs ++ tail) = (readQuoted tail).map (Prod.map (cs ++ ·) id) := by
  induction cs with
  | nil =>
    rw [quotedChars, List.nil_append]
    cases readQuoted tail <;> rfl
  | cons c cs ih =>
    rw [quotedChars]
    split
    · subst c
      rw [List.cons_append, List.cons_append, readQuoted_doubled, ih, Option.map_map, Prod.map_comp_map]
      rfl
    · rename_i hc
      rw [List.cons_append, readQuoted_cons hc, ih, Option.map_map, Prod.map_comp_map]
      rfl

theorem readText_quoted (s : String) (rest : List Char) :
    readText ((quoted s).toList ++ rest) =
      (readQuoted ('\'' :: rest)).map (Prod.map (s.toList ++ ·) id) := by
  rw [quoted, String.toList_ofList, List.cons_append, List.cons_append, List.append_assoc, readText,
    readQuoted_quotedChars]
  rfl

theorem readText_quoted_iff (s : String) (rest : List Char) :
    readText ((quoted s).toList ++ rest) = some (s.toList, rest) ↔ rest.head? ≠ some '\'' := by
  rw [readText_quoted]
  constructor
  · -- behind a quote the literal goes on, and so does the text that is read
    intro h hquote
    obtain ⟨cs, rfl⟩ := List.head?_eq_some_iff.mp hquote
    rw [readQuoted_doubled, Option.map_map, Option.map_eq_some_iff] at h
    obtain ⟨⟨content, behind⟩, -, heq⟩ := h
    have hlength := congrArg (fun p => p.1.length) heq
    simp at hlength
  · intro h
    rw [readQuoted_closing h]
    simp

/-! ## Quoted values -/

def isQuoted : Value → Bool
  | .text _ | .list _ | .tuple _ | .map _ => true
  | _ => false

/-- What stands between the quotes: a text itself, or JSON. -/
def content : Value → Except JsonFault String
  | .text s => .ok s
  | v => v.json

theorem exists_quoted {v : Value} {d : String} (hd : literal v = .ok d) (h : isQuoted v) :
    ∃ s, content v = .ok s ∧ d = quoted s := by
  cases v with
  | text s =>
    cases hd
    exact ⟨s, rfl, rfl⟩
  | list | tuple | map =>
    obtain ⟨s, hjson, hs⟩ := map_eq_ok.mp hd
    exact ⟨s, hjson, hs.symm⟩
  | _ => cases h

/-! ## Constants -/

/-- Whether a value is written as a constant: not so a double without digits. -/
def hasConstant : Value → Bool
  | .real x => x.isFinite
  | _ => true

inductive Constant : List Char → Prop
  | null : Constant "NULL".toList
  | number {cs : List Char} (h : Decimal.Numeral cs) : Constant cs
  | text {cs content : List Char} (h : readText cs = some (content, [])) : Constant cs

theorem constant_quoted (s : String) : Constant (quoted s).toList := by
  have hread := (readText_quoted_iff s []).mpr nofun
  rw [List.append_nil] at hread
  exact .text hread

def words : List String := ["nan", "inf", "-inf"]

theorem not_constant_of_word {s : String} (h : s ∈ words) : ¬ Constant s.toList := by
  have hnull : ∀ s ∈ words, s.toList ≠ "NULL".toList := by decide
  have hdigit : ∀ s ∈ words, (Decimal.spanSign s.toList).2.head?.any Decimal.isDigit = false := by decide
  have htext : ∀ s ∈ words, readText s.toList = none := by decide
  intro hconstant
  generalize hcs : s.toList = cs at hconstant
  cases hconstant with
  | null => exact hnull s h hcs
  | number hnumeral =>
    have hbegins := hnumeral.begins
    rw [← hcs, hdigit s h] at hbegins
    cases hbegins
  | text hread =>
    rw [← hcs, htext s h] at hread
    cases hread

theorem render_mem_words {x : Binary64} (h : x.isFinite = false) : NumberStyle.literal.render x ∈ words := by
  cases x with
  | nan => decide
  | signed negative rank =>
    have hnot : ¬ rank.val < Binary64.topRank := by simpa [Binary64.isFinite] using h
    have htop : rank.val = Binary64.topRank :=
      Nat.le_antisymm (Nat.le_of_lt_succ rank.isLt) (Nat.le_of_not_lt hnot)
    rw [NumberStyle.render, if_pos htop]
    cases negative <;> decide

theorem constant_literal {v : Value} {d : String} (hd : literal v = .ok d) (h : hasConstant v) :
    Constant d.toList := by
  cases v with
  | null =>
    cases hd
    exact .null
  | bool b =>
    cases hd
    have hdigit : Constant (Decimal.digitsOf b.toNat) := .number (.mk .none (Decimal.isDigits_digitsOf _).unsigned)
    cases b <;> exact hdigit
  | int n =>
    cases hd
    exact .number (Decimal.numeral_intText n)
  | real x =>
    cases hd
    exact .number (Decimal.numeral_render .literal h)
  | text | list | tuple | map =>
    obtain ⟨s, -, rfl⟩ := exists_quoted hd rfl
    exact constant_quoted s
  | missing | bytes | date | moment | set => cases hd

theorem literal_mem_words {v : Value} {d : String} (hd : literal v = .ok d) (h : hasConstant v = false) :
    d ∈ words := by
  cases v with
  | real x =>
    cases hd
    exact render_mem_words h
  | _ => cases h

theorem constant_literal_iff {v : Value} {d : String} (hd : literal v = .ok d) :
    Constant d.toList ↔ hasConstant v := by
  refine ⟨fun hconstant => ?_, constant_literal hd⟩
  by_contra h
  exact not_constant_of_word (literal_mem_words hd (Bool.eq_false_of_not_eq_true h)) hconstant

end Scaffold.Sql
