import Scaffold.Json.Token
import Scaffold.Text.Quoted

/-!
# Literals read back

A reader of the literals of a generated module goes through one character by
character. A literal of a text holds characters and one of bytes holds bytes;
the reader is the same. A literal is read back as the text that it was written
for (`readLiteral_literal`), so two texts never share one.
-/

namespace Scaffold.Text

/-- Go through the characters of a list, not through all characters there are. -/
instance (priority := high) decidableForallMem {p : Char → Prop} [DecidablePred p] (cs : List Char) :
    Decidable (∀ c ∈ cs, p c) := List.decidableBAll p cs

/-- Where a reader of a literal stands: in its text, behind a backslash, or in a code of which
some more digits follow the next one. -/
inductive LiteralPlace where
  | text
  | escape
  | code (more value : Nat)

def escapedChar? : Char → Option Char
  | '\\' => some '\\'
  | '\'' => some '\''
  | '"' => some '"'
  | 'n' => some '\n'
  | 'r' => some '\r'
  | 't' => some '\t'
  | _ => none

/-- What the literals of one kind hold. -/
structure LiteralKind (α : Type) where
  char? : Char → Option α
  code? : Nat → Option α
  /-- How many digits follow the first one of a code, by the letter before it. -/
  width? : Char → Option Nat
  escapedChar_of_width : ∀ {letter width}, width? letter = some width → escapedChar? letter = none

namespace LiteralKind

def chars : LiteralKind Char where
  char? := some
  code? n := if n.isValidChar then some (Char.ofNat n) else none
  width? c := if c = 'x' then some 1 else if c = 'u' then some 3 else if c = 'U' then some 7 else none
  escapedChar_of_width h := by
    repeat' split at h
    · subst_vars; rfl
    · subst_vars; rfl
    · subst_vars; rfl
    · cases h

/-- A character beyond ASCII has no place among bytes, and all codes have two digits. -/
def bytes : LiteralKind UInt8 where
  char? c := if c.toNat < 128 then some (UInt8.ofNat c.toNat) else none
  code? n := some (UInt8.ofNat n)
  width? c := if c = 'x' then some 1 else none
  escapedChar_of_width h := by
    split at h
    · subst_vars; rfl
    · cases h

section
variable {α : Type} (k : LiteralKind α) (quote c : Char) (cs : List Char)

def put (x : Option α) (r : Option (List α × List Char)) : Option (List α × List Char) :=
  x.bind fun a => r.map (Prod.map (a :: ·) id)

/-- What a literal holds up to the closing quote, and what stands behind the quote. -/
def readFrom (quote : Char) : LiteralPlace → List Char → Option (List α × List Char)
  | _, [] => none
  | .text, c :: cs =>
    if c = quote then some ([], cs)
    else if c = '\\' then readFrom quote .escape cs
    else if c = '\n' ∨ c = '\r' then none
    else put (k.char? c) (readFrom quote .text cs)
  | .escape, c :: cs =>
    match escapedChar? c, k.width? c with
    | some d, _ => put (k.char? d) (readFrom quote .text cs)
    | none, some more => readFrom quote (.code more 0) cs
    | none, none => none
  | .code more value, c :: cs =>
    match Json.hexValue c, more with
    | none, _ => none
    | some d, 0 => put (k.code? (value * 16 + d)) (readFrom quote .text cs)
    | some d, more + 1 => readFrom quote (.code more (value * 16 + d)) cs

theorem readFrom_text : k.readFrom quote .text (c :: cs) =
    if c = quote then some ([], cs)
    else if c = '\\' then k.readFrom quote .escape cs
    else if c = '\n' ∨ c = '\r' then none
    else put (k.char? c) (k.readFrom quote .text cs) := rfl

theorem readFrom_escape : k.readFrom quote .escape (c :: cs) =
    match escapedChar? c, k.width? c with
    | some d, _ => put (k.char? d) (k.readFrom quote .text cs)
    | none, some more => k.readFrom quote (.code more 0) cs
    | none, none => none := rfl

theorem readFrom_digit (more value : Nat) : k.readFrom quote (.code more value) (c :: cs) =
    match Json.hexValue c, more with
    | none, _ => none
    | some d, 0 => put (k.code? (value * 16 + d)) (k.readFrom quote .text cs)
    | some d, more + 1 => k.readFrom quote (.code more (value * 16 + d)) cs := rfl

end

/-! ## What is left is less -/

theorem length_of_readFrom {α : Type} {k : LiteralKind α} {quote : Char} :
    ∀ {cs : List Char} {place : LiteralPlace} {r : List α × List Char},
      k.readFrom quote place cs = some r → r.2.length < cs.length
  | [], place, r, h => by cases place <;> cases h
  | c :: cs, place, r, h => by
    have hstep {place : LiteralPlace} {r : List α × List Char} (hr : k.readFrom quote place cs = some r) :
        r.2.length < (c :: cs).length := Nat.lt_succ_of_lt (length_of_readFrom hr)
    -- what is put in front of the rest leaves what stands behind the quote
    have hput {x : Option α} {r : List α × List Char} (hr : put x (k.readFrom quote .text cs) = some r) :
        r.2.length < (c :: cs).length := by
      obtain ⟨a, -, hr⟩ := Option.bind_eq_some_iff.mp hr
      obtain ⟨r', hr', rfl⟩ := Option.map_eq_some_iff.mp hr
      exact (hstep hr' : r'.2.length < _)
    cases place with
    | text =>
      rw [readFrom_text] at h
      repeat' split at h
      · cases h
        exact Nat.lt_succ_self _
      · exact hstep h
      · cases h
      · exact hput h
    | escape =>
      rw [readFrom_escape] at h
      split at h
      · exact hput h
      · exact hstep h
      · cases h
    | code more value =>
      rw [readFrom_digit] at h
      split at h
      · cases h
      · exact hput h
      · exact hstep h

end LiteralKind

def readLiteral (s : String) : Option String :=
  match s.toList with
  | [] => none
  | quote :: cs =>
    if quote = '\'' ∨ quote = '"' then
      match LiteralKind.chars.readFrom quote .text cs with
      | some (text, []) => some (String.ofList text)
      | _ => none
    else none

/-! ## Codes -/

/-- The number that hexadecimal digits write behind those of a value. -/
def codeFrom (value : Nat) (ds : List Char) : Option Nat :=
  ds.foldlM (fun v c => (Json.hexValue c).map (v * 16 + ·)) value

theorem codeFrom_append (value : Nat) (ds ds' : List Char) :
    codeFrom value (ds ++ ds') = (codeFrom value ds).bind (codeFrom · ds') :=
  List.foldlM_append

theorem codeFrom_cons_eq_some {value n : Nat} {d : Char} {ds : List Char} (h : codeFrom value (d :: ds) = some n) :
    ∃ v, Json.hexValue d = some v ∧ codeFrom (value * 16 + v) ds = some n := by
  rw [codeFrom, List.foldlM_cons] at h
  obtain ⟨_, hd, h⟩ := Option.bind_eq_some_iff.mp h
  obtain ⟨v, hv, rfl⟩ := Option.map_eq_some_iff.mp hd
  exact ⟨v, hv, h⟩

theorem hexValue_digitChar : ∀ d < 16, Json.hexValue (Nat.digitChar d) = some d := by decide

theorem codeFrom_toDigits (n : Nat) : codeFrom 0 (Nat.toDigits 16 n) = some n := by
  induction n using Nat.strongRecOn with
  | ind n ih =>
    rcases Nat.lt_or_ge n 16 with h | h
    · rw [Nat.toDigits_of_lt_base h]
      simp [codeFrom, hexValue_digitChar n h]
    · have hlast := hexValue_digitChar (n % 16) (Nat.mod_lt n (by decide))
      rw [Nat.toDigits_of_base_le (by decide) h, codeFrom_append, ih (n / 16) (by omega)]
      simp only [codeFrom, Option.bind_some, List.foldlM_cons, List.foldlM_nil, hlast, Option.map_some]
      exact congrArg some (by omega)

theorem codeFrom_zeros (k : Nat) (ds : List Char) : codeFrom 0 (List.replicate k '0' ++ ds) = codeFrom 0 ds := by
  induction k with
  | zero => rfl
  | succ k ih => rw [List.replicate_succ]; exact ih

theorem codeFrom_hex (width n : Nat) : codeFrom 0 (hex width n) = some n := by
  rw [hex, codeFrom_zeros, codeFrom_toDigits]

theorem length_hex {width n : Nat} (hw : 0 < width) (h : n < Nat.pow 16 width) : (hex width n).length = width := by
  have := (Nat.length_toDigits_le_iff (by decide) hw).mpr h
  simp only [hex, List.length_append, List.length_replicate]
  omega

theorem hexValue_isSome_of_codeFrom : ∀ {ds : List Char} {v n : Nat}, codeFrom v ds = some n →
    ∀ d ∈ ds, (Json.hexValue d).isSome
  | [], _, _, _, _, hd => by cases hd
  | d :: ds, v, n, h, d', hd => by
    obtain ⟨x, hx, h⟩ := codeFrom_cons_eq_some h
    rcases List.mem_cons.mp hd with rfl | hd
    · exact Option.isSome_of_eq_some hx
    · exact hexValue_isSome_of_codeFrom h d' hd

theorem notMem_hex {c : Char} (hc : Json.hexValue c = none) (width n : Nat) : c ∉ hex width n := by
  intro hmem
  have h := hexValue_isSome_of_codeFrom (codeFrom_hex width n) c hmem
  rw [hc] at h
  cases h

/-! ## What is written for a character or a byte -/

/-- A character itself, or a backslash and the letter that stands for it, or one with its code. -/
inductive LiteralBlock {α : Type} (k : LiteralKind α) (quote : Char) (x : α) : List Char → Prop
  | itself {c : Char} (hquote : c ≠ quote) (hback : c ≠ '\\') (hline : ¬ (c = '\n' ∨ c = '\r'))
    (hprint : isPrintable c) (hchar : k.char? c = some x) : LiteralBlock k quote x [c]
  | escape {letter c : Char} (hletter : escapedChar? letter = some c) (hchar : k.char? c = some x) :
    LiteralBlock k quote x ['\\', letter]
  | code {letter : Char} {width n : Nat} (hletter : k.width? letter = some width) (hn : n < Nat.pow 16 (width + 1))
    (hcode : k.code? n = some x) : LiteralBlock k quote x ('\\' :: letter :: hex (width + 1) n)

theorem toNat_lt (c : Char) : c.toNat < Nat.pow 16 8 := Nat.lt_of_lt_of_le c.val.toNat_lt (by decide)

theorem isValidChar_toNat (c : Char) : c.toNat.isValidChar := c.valid

theorem toNat_ofNat_byte (b : UInt8) : (Char.ofNat b.toNat).toNat = b.toNat := by
  have hvalid : b.toNat.isValidChar := Or.inl (Nat.lt_of_lt_of_le b.toNat_lt (by decide))
  rw [Char.ofNat, dif_pos hvalid]
  rfl

section
variable {quote : Char}

theorem escapedChar_of_escapeLetter {c letter : Char} (hquote : quote = '\'' ∨ quote = '"')
    (h : escapeLetter? quote c = some letter) : escapedChar? letter = some c := by
  unfold escapeLetter? at h
  repeat' split at h
  case isTrue hself =>
    cases h
    rcases hself with rfl | rfl
    · rcases hquote with rfl | rfl <;> rfl
    · rfl
  case isFalse.isFalse.isFalse.isFalse => cases h
  all_goals
    subst_vars
    cases h
    rfl

theorem lt_of_escapedChar {letter c : Char} (h : escapedChar? letter = some c) : c.toNat < 128 := by
  unfold escapedChar? at h
  split at h
  case h_7 => cases h
  all_goals
    cases h
    decide

theorem ne_of_escapeLetter_eq_none {c : Char} (h : escapeLetter? quote c = none) :
    c ≠ quote ∧ c ≠ '\\' ∧ ¬ (c = '\n' ∨ c = '\r') := by
  unfold escapeLetter? at h
  repeat' split at h
  case isFalse.isFalse.isFalse.isFalse hself hfeed hreturn _ =>
    exact ⟨fun hc => hself (.inl hc), fun hc => hself (.inr hc), not_or.mpr ⟨hfeed, hreturn⟩⟩
  all_goals cases h

variable (hquote : quote = '\'' ∨ quote = '"')
include hquote

theorem block_literalChar (c : Char) : LiteralBlock .chars quote c (literalChar quote c) := by
  have hcode : LiteralKind.chars.code? c.toNat = some c := by
    simp only [LiteralKind.chars, if_pos (isValidChar_toNat c), Char.ofNat_toNat]
  unfold literalChar
  split
  next letter h => exact .escape (escapedChar_of_escapeLetter hquote h) rfl
  next h =>
    obtain ⟨hself, hback, hline⟩ := ne_of_escapeLetter_eq_none h
    repeat' split
    case isTrue hprint => exact .itself hself hback hline hprint rfl
    case isFalse.isTrue hn => exact .code rfl hn hcode
    case isFalse.isFalse.isTrue hn => exact .code rfl hn hcode
    case isFalse.isFalse.isFalse => exact .code rfl (toNat_lt c) hcode

theorem block_literalByte (b : UInt8) : LiteralBlock .bytes quote b (literalByte quote b) := by
  have hall : ∀ n < 127, 32 ≤ n → isPrintable (Char.ofNat n) := by decide
  have hchar (h : b.toNat < 128) : LiteralKind.bytes.char? (Char.ofNat b.toNat) = some b := by
    simp only [LiteralKind.bytes, toNat_ofNat_byte, if_pos h, UInt8.ofNat_toNat]
  unfold literalByte
  split
  next letter h =>
    have hletter := escapedChar_of_escapeLetter hquote h
    have hlt := lt_of_escapedChar hletter
    rw [toNat_ofNat_byte] at hlt
    exact .escape hletter (hchar hlt)
  next h =>
    obtain ⟨hself, hback, hline⟩ := ne_of_escapeLetter_eq_none h
    split
    next hprint =>
      exact .itself hself hback hline (hall _ hprint.2 hprint.1) (hchar (Nat.lt_succ_of_lt hprint.2))
    next => exact .code rfl b.toNat_lt (congrArg some UInt8.ofNat_toNat)

end

/-! ## Reading back -/

namespace LiteralKind

variable {α : Type} {k : LiteralKind α} {quote : Char} {rest : List Char}

theorem readFrom_code {ds : List Char} {more value n : Nat} (hlen : ds.length = more + 1)
    (h : codeFrom value ds = some n) :
    k.readFrom quote (.code more value) (ds ++ rest) = put (k.code? n) (k.readFrom quote .text rest) := by
  induction ds generalizing more value with
  | nil => cases hlen
  | cons d ds ih =>
    obtain ⟨v, hd, h⟩ := codeFrom_cons_eq_some h
    cases more with
    | zero =>
      obtain rfl : ds = [] := by simpa using hlen
      cases h
      simp only [List.singleton_append, readFrom_digit, hd]
    | succ more =>
      simp only [List.cons_append, readFrom_digit, hd]
      exact ih (by simpa using hlen) h

/-- What is written for one part is read back as that part. -/
theorem readFrom_block {block : List Char} {x : α} (hback : quote ≠ '\\') (h : LiteralBlock k quote x block) :
    k.readFrom quote .text (block ++ rest) = (k.readFrom quote .text rest).map (Prod.map (x :: ·) id) := by
  cases h with
  | itself hself hnot hline _ hchar =>
    rw [List.singleton_append, readFrom_text, if_neg hself, if_neg hnot, if_neg hline, hchar]
    rfl
  | escape hletter hchar =>
    simp only [List.cons_append, List.nil_append, readFrom_text, readFrom_escape, hletter, hchar]
    rw [if_neg (Ne.symm hback), if_pos trivial]
    rfl
  | @code letter width n hletter hn hcode =>
    have hdigits : k.readFrom quote (.code width 0) (hex (width + 1) n ++ rest) =
        put (k.code? n) (k.readFrom quote .text rest) :=
      readFrom_code (length_hex (Nat.succ_pos width) hn) (codeFrom_hex _ n)
    simp only [List.cons_append, readFrom_text, readFrom_escape, k.escapedChar_of_width hletter, hletter]
    rw [if_neg (Ne.symm hback), if_pos trivial, hdigits, hcode]
    rfl

theorem readFrom_flatMap {write : α → List Char} (hback : quote ≠ '\\')
    (h : ∀ x, LiteralBlock k quote x (write x)) (xs : List α) :
    k.readFrom quote .text (xs.flatMap write ++ quote :: rest) = some (xs, rest) := by
  induction xs with
  | nil => rw [List.flatMap_nil, List.nil_append, readFrom_text, if_pos rfl]
  | cons x xs ih =>
    rw [List.flatMap_cons, List.append_assoc, readFrom_block hback (h x), ih]
    rfl

end LiteralKind

section
variable {quote : Char} {rest : List Char} (hquote : quote = '\'' ∨ quote = '"')
include hquote

theorem ne_backslash : quote ≠ '\\' := by
  rcases hquote with rfl | rfl <;> decide

theorem readFrom_flatMap_literalChar (cs : List Char) :
    LiteralKind.chars.readFrom quote .text (cs.flatMap (literalChar quote) ++ quote :: rest) = some (cs, rest) :=
  LiteralKind.readFrom_flatMap (ne_backslash hquote) (block_literalChar hquote) cs

theorem readFrom_flatMap_literalByte (bs : List UInt8) :
    LiteralKind.bytes.readFrom quote .text (bs.flatMap (literalByte quote) ++ quote :: rest) = some (bs, rest) :=
  LiteralKind.readFrom_flatMap (ne_backslash hquote) (block_literalByte hquote) bs

end

theorem literalQuote_eq (cs : List Char) : literalQuote cs = '\'' ∨ literalQuote cs = '"' := by
  unfold literalQuote
  split
  · exact Or.inr rfl
  · exact Or.inl rfl

/-- A literal is read back as its text. -/
theorem readLiteral_literal (s : String) : readLiteral (literal s) = some s := by
  have hquote := literalQuote_eq s.toList
  simp only [readLiteral, literal, String.toList_ofList, literalChars, List.cons_append]
  rw [if_pos hquote, readFrom_flatMap_literalChar hquote]
  exact congrArg some (String.ofList_toList)

end Scaffold.Text
