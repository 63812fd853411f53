import Scaffold.Proofs.Text.Joined
import Scaffold.Proofs.Value.Expression

/-!
# Texts that evaluate to values

A text reads as a value when evaluation goes on behind it with that value at
hand, whatever is open around it, and fails when evaluation has no result
whatever follows. Items and entries in brackets read as the collection of what
each of them reads as, and fail when one of them does.
-/

namespace Scaffold.Expression

/-- What can follow a word. -/
def Ends (rest : List Char) : Prop := ∀ c ∈ rest.head?, endsWord c

def Mode.of : Value → Mode
  | .text s => .text s.toList
  | .bytes bs => .bytes bs
  | v => .done v

@[simp] theorem Mode.value?_of (v : Value) : (Mode.of v).value? = some v := by
  cases v <;> simp [Mode.of, Mode.value?]

@[simp] theorem Mode.last?_of (v : Value) : (Mode.of v).last? = some (some v) := by
  cases v <;> simp [Mode.of, Mode.last?, Mode.value?]

@[simp] theorem State.opened_of (v : Value) (c : Char) : State.opened (Mode.of v) c = none := by
  cases v <;> rfl

def Reads (cs : List Char) (v : Value) : Prop := ∀ holes rest, Ends rest →
  State.eval ⟨holes, .start⟩ (cs ++ rest) = State.eval ⟨holes, .of v⟩ rest

def Fails (cs : List Char) : Prop := ∀ holes rest, Ends rest →
  State.eval ⟨holes, .start⟩ (cs ++ rest) = none

/-- A value is equal to another one, and the same as it where it can be a key. -/
def Agrees (w v : Value) : Prop := w.equal v ∧ (v.canBeKey → w = v)

/-- A text reads as a value if the value needs no names, and else fails. -/
def Evaluates (cs : List Char) (v : Value) : Prop :=
  (v.selfContained = true ∧ ∃ w, Agrees w v ∧ Reads cs w) ∨ (v.selfContained = false ∧ Fails cs)

theorem eval_nil (v : Value) : State.eval ⟨[], .of v⟩ [] = some v := by
  rw [State.eval, tokens]
  exact Mode.value?_of v

/-! ## Marks -/

theorem ends_nil : Ends [] := nofun

theorem ends_cons {c : Char} (h : endsWord c) (cs : List Char) : Ends (c :: cs) := by
  intro d hd
  cases hd
  exact h

section
variable {hole hole' : Hole} {holes : List Hole} {v w : Value} {cs : List Char}

theorem eval_comma (h : hole.comma v = some hole') :
    State.eval ⟨hole :: holes, .of v⟩ (',' :: cs) = State.eval ⟨hole' :: holes, .start⟩ cs := by
  rw [State.eval_mark _ rfl, State.mark, State.opened_of]
  simp [h]

theorem eval_colon (h : hole.colon v = some hole') :
    State.eval ⟨hole :: holes, .of v⟩ (':' :: cs) = State.eval ⟨hole' :: holes, .start⟩ cs := by
  rw [State.eval_mark _ rfl, State.mark, State.opened_of]
  simp [h]

theorem eval_close {c : Char} (hc : c ∈ [']', ')', '\x7d']) :
    State.eval ⟨hole :: holes, .of v⟩ (c :: cs) =
      (hole.close c (some v)).bind fun w => State.eval ⟨holes, .done w⟩ cs := by
  have hmarks : ∀ c ∈ [']', ')', '\x7d'], isMark c ∧ c ≠ ',' ∧ c ≠ ':' := by decide
  obtain ⟨hmark, hcomma, hcolon⟩ := hmarks c hc
  rw [State.eval_mark _ hmark, State.mark, State.opened_of]
  simp only [hcomma, hcolon, if_false, Mode.last?_of]
  cases hclosed : hole.close c (some v) <;> simp [hclosed]

theorem eval_close_start {c : Char} (hc : c ∈ [']', ')', '\x7d']) :
    State.eval ⟨hole :: holes, .start⟩ (c :: cs) =
      (hole.close c none).bind fun w => State.eval ⟨holes, .done w⟩ cs := by
  have hmarks : ∀ c ∈ [']', ')', '\x7d'], isMark c ∧ c ≠ ',' ∧ c ≠ ':' ∧ State.opened .start c = none := by decide
  obtain ⟨hmark, hcomma, hcolon, hopened⟩ := hmarks c hc
  rw [State.eval_mark _ hmark, State.mark, hopened]
  simp only [hcomma, hcolon, if_false, Mode.last?]
  cases hclosed : hole.close c none <;> simp [hclosed]

theorem eval_open {c : Char} (h : State.opened .start c = some hole) :
    State.eval ⟨holes, .start⟩ (c :: cs) = State.eval ⟨hole :: holes, .start⟩ cs := by
  have hmark : isMark c := by
    unfold State.opened at h
    split at h
    · rfl
    · rfl
    · rfl
    · rfl
    · cases h
  rw [State.eval_mark _ hmark, State.mark, h]
  rfl

end

/-! ## Blanks and words -/

theorem eval_spaces (s : State) {blanks : List Char} (h : blanks.all isSpace) (cs : List Char) :
    s.eval (blanks ++ cs) = s.eval cs := by
  induction blanks with
  | nil => rfl
  | cons c blanks ih =>
    rw [List.all_cons, Bool.and_eq_true] at h
    rw [List.cons_append, State.eval_space s h.1, ih h.2]

theorem ends_append {behind rest : List Char} (h : Ends behind) (hrest : Ends rest) : Ends (behind ++ rest) := by
  cases behind with
  | nil => exact hrest
  | cons c behind => exact ends_cons (h c rfl) _

section
variable {c : Char} {cs behind : List Char}

theorem eval_value (hword : (c :: cs).all (!endsWord ·)) (hbytes : c ≠ 'b') (hset : c ≠ 's') (holes : List Hole)
    (hbehind : Ends behind) : State.eval ⟨holes, .start⟩ (c :: cs ++ behind) =
      (wordValue? (c :: cs)).bind fun v => State.eval ⟨holes, .done v⟩ behind := by
  have hname : c :: cs ≠ "set".toList := fun h => hset (List.cons.inj h).1
  rw [State.eval_word _ hword hbytes hbehind, State.step]
  simp only [hname, if_false]
  cases wordValue? (c :: cs) <;> rfl

theorem reads_word {v : Value} (hword : (c :: cs).all (!endsWord ·)) (hbytes : c ≠ 'b') (hset : c ≠ 's')
    (hvalue : wordValue? (c :: cs) = some v) (hmode : Mode.of v = .done v) : Reads (c :: cs) v := by
  intro holes rest hrest
  rw [eval_value hword hbytes hset holes hrest, hvalue, hmode]
  rfl

theorem fails_word (hword : (c :: cs).all (!endsWord ·)) (hbytes : c ≠ 'b') (hset : c ≠ 's')
    (hvalue : wordValue? (c :: cs) = none) (hbehind : Ends behind) : Fails (c :: cs ++ behind) := by
  intro holes rest hrest
  rw [List.append_assoc, eval_value hword hbytes hset holes (ends_append hbehind hrest), hvalue]
  rfl

end

/-! ## Literals that follow each other -/

theorem eval_literalChars (s : State) (cs rest : List Char) :
    s.eval (Text.literalChars cs ++ rest) = (s.step (.text cs)).bind (State.eval · rest) := by
  have hquote := Text.literalQuote_eq cs
  rw [Text.literalChars, List.append_assoc]
  exact State.eval_text s hquote (Text.readFrom_flatMap_literalChar hquote cs)

theorem eval_bytesLiteral (s : State) (bs : List UInt8) (rest : List Char) :
    s.eval ((Text.bytesLiteral bs).toList ++ rest) = (s.step (.bytes bs)).bind (State.eval · rest) := by
  have hquote := Text.literalQuote_eq (bs.map fun b => Char.ofNat b.toNat)
  rw [Text.bytesLiteral, String.toList_ofList, List.append_assoc]
  exact State.eval_bytes s hquote (Text.readFrom_flatMap_literalByte hquote bs)

theorem reads_literal (s : String) : Reads (Text.literal s).toList (.text s) := by
  intro holes rest _
  rw [Text.literal, String.toList_ofList, eval_literalChars]
  rfl

theorem reads_bytesLiteral (bs : List UInt8) : Reads (Text.bytesLiteral bs).toList (.bytes bs) := by
  intro holes rest _
  rw [eval_bytesLiteral]
  rfl

section
variable {α : Type} {write : List α → List Char} (mode : List α → Mode) {sep : List Char} {holes : List Hole}

/-- Literals between blanks are read as one. -/
theorem eval_adjacent (hsep : sep.all isSpace)
    (hnext : ∀ before xs rest, State.eval ⟨holes, mode before⟩ (write xs ++ rest) =
      State.eval ⟨holes, mode (before ++ xs)⟩ rest) (rest : List Char) :
    ∀ (before : List α) (chunks : List (List α)),
      State.eval ⟨holes, mode before⟩ ((chunks.flatMap fun xs => sep ++ write xs) ++ rest) =
        State.eval ⟨holes, mode (before ++ chunks.flatten)⟩ rest
  | before, [] => by rw [List.flatten_nil, List.append_nil]; rfl
  | before, xs :: chunks => by
    rw [List.flatMap_cons, List.append_assoc, List.append_assoc, eval_spaces _ hsep, hnext,
      eval_adjacent hsep hnext rest, List.flatten_cons, List.append_assoc]

theorem eval_chunks (hsep : sep.all isSpace)
    (hfirst : ∀ xs rest, State.eval ⟨holes, .start⟩ (write xs ++ rest) = State.eval ⟨holes, mode xs⟩ rest)
    (hnext : ∀ before xs rest, State.eval ⟨holes, mode before⟩ (write xs ++ rest) =
      State.eval ⟨holes, mode (before ++ xs)⟩ rest) {chunks : List (List α)} (hne : chunks ≠ []) (rest : List Char) :
    State.eval ⟨holes, .start⟩ (sep.intercalate (chunks.map write) ++ rest) =
      State.eval ⟨holes, mode chunks.flatten⟩ rest := by
  obtain ⟨first, chunks, rfl⟩ := List.exists_cons_of_ne_nil hne
  rw [List.map_cons, Text.intercalate_cons_eq, List.append_assoc, hfirst, List.flatMap_map,
    eval_adjacent mode hsep hnext, List.flatten_cons]

end

theorem reads_texts {sep : List Char} (hsep : sep.all isSpace) {chunks : List (List Char)} (hne : chunks ≠ []) :
    Reads (sep.intercalate (chunks.map Text.literalChars)) (.text (String.ofList chunks.flatten)) := by
  intro holes rest _
  rw [eval_chunks .text hsep (fun cs rest => by rw [eval_literalChars]; rfl)
    (fun before cs rest => by rw [eval_literalChars]; rfl) hne, Mode.of, String.toList_ofList]

theorem reads_bytes {sep : List Char} (hsep : sep.all isSpace) {chunks : List (List UInt8)} (hne : chunks ≠ []) :
    Reads (sep.intercalate (chunks.map fun bs => (Text.bytesLiteral bs).toList)) (.bytes chunks.flatten) := by
  intro holes rest _
  rw [eval_chunks .bytes hsep (fun bs rest => by rw [eval_bytesLiteral]; rfl)
    (fun before bs rest => by rw [eval_bytesLiteral]; rfl) hne, Mode.of]

end Scaffold.Expression
