import Scaffold.Proofs.Number.Numerals
import Scaffold.Proofs.Text.Literals
import Scaffold.Proofs.Value.Data

/-!
# Expressions of generated modules

The value of an expression that is made of constants, numerals, literals of
texts and bytes and of what stands in brackets. Literals that follow each other
are one. Of names only those of constants have a value here, and the empty set
is the call of its type.
-/

namespace Scaffold

namespace Expression

/-! ## Tokens -/

inductive Token where
  | mark (c : Char)
  | text (cs : List Char)
  | bytes (bs : List UInt8)
  | word (cs : List Char)

def isSpace (c : Char) : Bool := c = ' ' || c = '\n'

def isQuote (c : Char) : Bool := c = '\'' || c = '"'

def isMark (c : Char) : Bool := ['[', ']', '(', ')', '\x7b', '\x7d', ',', ':'].contains c

def endsWord (c : Char) : Bool := isSpace c || isQuote c || isMark c

def scan (c : Char) (cs : List Char) : Option (Token × List Char) :=
  if isQuote c then (Text.LiteralKind.chars.readFrom c .text cs).map (Prod.map .text id)
  else
    match c, cs with
    | 'b', '\'' :: cs => (Text.LiteralKind.bytes.readFrom '\'' .text cs).map (Prod.map .bytes id)
    | 'b', '"' :: cs => (Text.LiteralKind.bytes.readFrom '"' .text cs).map (Prod.map .bytes id)
    | c, cs =>
      if isMark c then some (.mark c, cs)
      else some (.word (c :: cs.takeWhile (!endsWord ·)), cs.dropWhile (!endsWord ·))

theorem length_of_scan {c : Char} {cs rest : List Char} {t : Token} (h : scan c cs = some (t, rest)) :
    rest.length ≤ cs.length := by
  unfold scan at h
  split at h
  · obtain ⟨r, hr, hmap⟩ := Option.map_eq_some_iff.mp h
    cases hmap
    exact Nat.le_of_lt (Text.LiteralKind.length_of_readFrom hr)
  · split at h
    · obtain ⟨r, hr, hmap⟩ := Option.map_eq_some_iff.mp h
      cases hmap
      exact Nat.le_succ_of_le (Nat.le_of_lt (Text.LiteralKind.length_of_readFrom hr))
    · obtain ⟨r, hr, hmap⟩ := Option.map_eq_some_iff.mp h
      cases hmap
      exact Nat.le_succ_of_le (Nat.le_of_lt (Text.LiteralKind.length_of_readFrom hr))
    · split at h <;> cases h
      · exact Nat.le_refl _
      · exact (List.dropWhile_sublist _).length_le

def tokens : List Char → Option (List Token)
  | [] => some []
  | c :: cs =>
    if isSpace c then tokens cs
    else
      match _h : scan c cs with
      | none => none
      | some (t, rest) => (tokens rest).map (t :: ·)
termination_by cs => cs.length
decreasing_by
  · exact Nat.lt_succ_self _
  · exact Nat.lt_succ_of_le (length_of_scan _h)

theorem tokens_space {c : Char} (h : isSpace c) (cs : List Char) : tokens (c :: cs) = tokens cs := by
  rw [tokens, if_pos h]

theorem tokens_scan {c : Char} {cs rest : List Char} {t : Token} (hspace : isSpace c = false)
    (h : scan c cs = some (t, rest)) : tokens (c :: cs) = (tokens rest).map (t :: ·) := by
  rw [tokens, if_neg (by simp [hspace])]
  split
  · rename_i hnone
    rw [h] at hnone
    cases hnone
  · rename_i t' rest' hsome
    rw [h] at hsome
    cases hsome
    rfl

/-! ## What is open around a place -/

inductive Hole where
  | list (before : List Value)
  /-- A round bracket with nothing behind it yet. -/
  | round
  | tuple (before : List Value)
  /-- A brace with nothing behind it yet. -/
  | braces
  | set (before : List Value)
  /-- Before a key of a mapping. -/
  | key (before : Entries)
  /-- Before the value under a key. -/
  | value (before : Entries) (key : Value)
  /-- The arguments of the type of sets. -/
  | call

def setOf (xs : List Value) : Option Value :=
  if xs.all Value.canBeKey then some (.set (Value.ofSetItems xs)) else none

def mapOf (es : Entries) : Option Value :=
  if es.all (·.1.canBeKey) then some (.map (Entries.ofList es)) else none

namespace Hole

def comma : Hole → Value → Option Hole
  | .list xs, v => some (.list (xs ++ [v]))
  | .round, v => some (.tuple [v])
  | .tuple xs, v => some (.tuple (xs ++ [v]))
  | .braces, v => some (.set [v])
  | .set xs, v => some (.set (xs ++ [v]))
  | .value es k, v => some (.key (es ++ [(k, v)]))
  | .key _, _ | .call, _ => none

def colon : Hole → Value → Option Hole
  | .braces, v => some (.value [] v)
  | .key es, v => some (.value es v)
  | _, _ => none

/-- The value of what a bracket closes, with the last part if there is one behind the last comma. -/
def close : Hole → Char → Option Value → Option Value
  | .list xs, ']', v => some (.list (xs ++ v.toList))
  | .round, ')', none => some (.tuple [])
  | .round, ')', some v => some v
  | .tuple xs, ')', v => some (.tuple (xs ++ v.toList))
  | .braces, '\x7d', none => mapOf []
  | .braces, '\x7d', some v => setOf [v]
  | .set xs, '\x7d', v => setOf (xs ++ v.toList)
  | .key es, '\x7d', none => mapOf es
  | .value es k, '\x7d', some v => mapOf (es ++ [(k, v)])
  | .call, ')', none => some (.set [])
  | _, _, _ => none

end Hole

/-! ## Evaluation -/

/-- What has been read since the last bracket, comma or colon. Literals of texts and of bytes go on
in the literals that follow them. -/
inductive Mode where
  | start
  | text (cs : List Char)
  | bytes (bs : List UInt8)
  | setName
  | done (v : Value)

def Mode.value? : Mode → Option Value
  | .text cs => some (.text (String.ofList cs))
  | .bytes bs => some (.bytes bs)
  | .done v => some v
  | .start | .setName => none

def Mode.last? : Mode → Option (Option Value)
  | .start => some none
  | .setName => none
  | m => m.value?.map some

structure State where
  holes : List Hole
  mode : Mode

def wordValue? (cs : List Char) : Option Value :=
  if cs = "None".toList then some .null
  else if cs = "True".toList then some (.bool true)
  else if cs = "False".toList then some (.bool false)
  else
    match Json.scanNumber cs with
    | some (.scalar v, n) => if n = cs.length then some v else none
    | _ => none

namespace State

def opened : Mode → Char → Option Hole
  | .start, '[' => some (.list [])
  | .start, '(' => some .round
  | .setName, '(' => some .call
  | .start, '\x7b' => some .braces
  | _, _ => none

def mark (s : State) (c : Char) : Option State :=
  match opened s.mode c with
  | some hole => some ⟨hole :: s.holes, .start⟩
  | none =>
    match s.holes with
    | [] => none
    | hole :: holes =>
      if c = ',' then do return ⟨(← hole.comma (← s.mode.value?)) :: holes, .start⟩
      else if c = ':' then do return ⟨(← hole.colon (← s.mode.value?)) :: holes, .start⟩
      else do return ⟨holes, .done (← hole.close c (← s.mode.last?))⟩

def step (s : State) : Token → Option State
  | .mark c => s.mark c
  | .text cs =>
    match s.mode with
    | .start => some ⟨s.holes, .text cs⟩
    | .text before => some ⟨s.holes, .text (before ++ cs)⟩
    | _ => none
  | .bytes bs =>
    match s.mode with
    | .start => some ⟨s.holes, .bytes bs⟩
    | .bytes before => some ⟨s.holes, .bytes (before ++ bs)⟩
    | _ => none
  | .word cs =>
    match s.mode with
    | .start =>
      if cs = "set".toList then some ⟨s.holes, .setName⟩
      else (wordValue? cs).map fun v => ⟨s.holes, .done v⟩
    | _ => none

def finish (s : State) : Option Value := if s.holes.isEmpty then s.mode.value? else none

def run (s : State) : List Token → Option Value
  | [] => s.finish
  | t :: ts => (s.step t).bind (run · ts)

def eval (s : State) (cs : List Char) : Option Value := (tokens cs).bind s.run

end State

/-- The value of an expression in brackets, which may go over several lines. -/
def evaluate (s : String) : Option Value := State.eval ⟨[], .start⟩ s.toList

/-! ## Evaluation by tokens -/

namespace State
variable (s : State)

theorem eval_space {c : Char} (h : isSpace c) (cs : List Char) : s.eval (c :: cs) = s.eval cs := by
  rw [eval, tokens_space h]
  rfl

theorem eval_scan {c : Char} {cs rest : List Char} {t : Token} (hspace : isSpace c = false)
    (h : scan c cs = some (t, rest)) : s.eval (c :: cs) = (s.step t).bind (eval · rest) := by
  simp only [eval, tokens_scan hspace h]
  cases tokens rest with
  | none => exact (Option.bind_fun_none _).symm
  | some ts => rfl

theorem scan_mark {c : Char} (h : isMark c) (cs : List Char) : scan c cs = some (.mark c, cs) := by
  have hmarks : ∀ c ∈ ['[', ']', '(', ')', '\x7b', '\x7d', ',', ':'], isQuote c = false ∧ c ≠ 'b' := by decide
  obtain ⟨hquote, hb⟩ := hmarks c (List.contains_iff_mem.mp h)
  unfold scan
  rw [if_neg (by simp [hquote])]
  split
  · exact absurd rfl hb
  · exact absurd rfl hb
  · rw [if_pos h]

theorem eval_mark {c : Char} (h : isMark c) (cs : List Char) :
    s.eval (c :: cs) = (s.mark c).bind (eval · cs) := by
  have hmarks : ∀ c ∈ ['[', ']', '(', ')', '\x7b', '\x7d', ',', ':'], isSpace c = false := by decide
  exact s.eval_scan (hmarks c (List.contains_iff_mem.mp h)) (scan_mark h cs)

theorem eval_text {quote : Char} {cs text rest : List Char} (hquote : quote = '\'' ∨ quote = '"')
    (h : Text.LiteralKind.chars.readFrom quote .text cs = some (text, rest)) :
    s.eval (quote :: cs) = (s.step (.text text)).bind (eval · rest) := by
  have hscan : scan quote cs = some (.text text, rest) := by
    rcases hquote with rfl | rfl <;> simp [scan, isQuote, h]
  refine s.eval_scan ?_ hscan
  rcases hquote with rfl | rfl <;> rfl

theorem eval_bytes {quote : Char} {cs rest : List Char} {bs : List UInt8} (hquote : quote = '\'' ∨ quote = '"')
    (h : Text.LiteralKind.bytes.readFrom quote .text cs = some (bs, rest)) :
    s.eval ('b' :: quote :: cs) = (s.step (.bytes bs)).bind (eval · rest) := by
  refine s.eval_scan rfl ?_
  rcases hquote with rfl | rfl <;> simp [scan, isQuote, h]

theorem eval_word {c : Char} {cs rest : List Char} (hword : (c :: cs).all (!endsWord ·)) (hbytes : c ≠ 'b')
    (hrest : ∀ d ∈ rest.head?, endsWord d) :
    s.eval (c :: cs ++ rest) = (s.step (.word (c :: cs))).bind (eval · rest) := by
  rw [List.all_cons, Bool.and_eq_true, Bool.not_eq_true'] at hword
  obtain ⟨hc, hcs⟩ := hword
  have hstop : ∀ d ∈ rest.head?, ¬ (!endsWord d) = true := fun d hd => by simp [hrest d hd]
  have htake := Text.takeWhile_append hcs hstop
  have hdrop := Text.dropWhile_append hcs hstop
  simp only [endsWord, Bool.or_eq_false_iff] at hc
  rw [List.cons_append]
  generalize cs ++ rest = behind at htake hdrop ⊢
  refine s.eval_scan hc.1.1 ?_
  unfold scan
  rw [if_neg (by simp [hc.1.2])]
  split
  · exact absurd rfl hbytes
  · exact absurd rfl hbytes
  · rw [if_neg (by simp [hc.2]), htake, hdrop]

end State

end Expression

end Scaffold
