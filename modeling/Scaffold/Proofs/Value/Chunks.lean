import Scaffold.Proofs.Text.Split
import Scaffold.Value.Layout

/-!
# Texts and bytes cut into chunks

Wherever a text is cut, at line ends, behind blanks and where a chunk is full,
the chunks joined are the text, and so for bytes.
-/

namespace Scaffold.Value

/-! ## Texts -/

theorem flatten_wordParts_go (part cs : List Char) (inBlanks : Bool) :
    (wordParts.go part inBlanks cs).flatten = part.reverse ++ cs := by
  fun_induction wordParts.go part inBlanks cs with
  | case1 part _ hempty => simp [List.isEmpty_iff.mp hempty]
  | case2 part _ hempty => simp
  | case3 part _ c rest _ ih => simp [ih]
  | case4 part c rest _ ih => simp [ih]
  | case5 part _ c rest _ _ ih => simp [ih]

theorem flatten_wordParts (cs : List Char) : (wordParts cs).flatten = cs := flatten_wordParts_go [] cs false

theorem flatten_fillParts (width lastWidth : Int) (current : List Char) (parts : List (List Char)) :
    (fillParts width lastWidth current parts).flatten = current ++ parts.flatten := by
  induction parts generalizing current with
  | nil =>
    unfold fillParts
    split
    · rename_i hempty
      rw [List.isEmpty_iff.mp hempty]
      rfl
    · simp
  | cons part rest ih =>
    unfold fillParts
    dsimp only
    generalize (if rest.isEmpty then lastWidth else width) = limit
    split
    · split
      · rename_i hempty
        rw [ih, List.isEmpty_iff.mp hempty]
        rfl
      · rw [List.flatten_cons, ih, List.flatten_cons]
    · rw [ih, List.flatten_cons, List.append_assoc]

theorem flatten_textChunks (width lastWidth : Int) : ∀ lines : List String,
    (textChunks width lastWidth lines).flatten = lines.flatMap String.toList
  | [] => rfl
  | [line] => by
    unfold textChunks
    split
    · simp
    · rw [flatten_fillParts, flatten_wordParts]
      simp
  | line :: line' :: rest => by
    have hline : (if literalLength line.toList ≤ width then [line.toList]
        else fillParts width width [] (wordParts line.toList)).flatten = line.toList := by
      split
      · exact List.flatten_singleton
      · rw [flatten_fillParts, flatten_wordParts]
        rfl
    rw [textChunks, List.flatten_append, hline, List.flatMap_cons, flatten_textChunks width lastWidth (line' :: rest)]
    exact List.cons_ne_nil line' rest

/-! ## Bytes -/

theorem flatten_byteGroups (bs : List UInt8) : (byteGroups bs).flatten = bs := by
  fun_induction byteGroups bs with
  | case1 a b c d e rest ih => simp [ih]
  | case2 => rfl
  | case3 => simp

theorem flatten_fillBytes (width lastWidth : Int) (current : List UInt8) (parts : List (List UInt8)) :
    (fillBytes width lastWidth current parts).flatten = current ++ parts.flatten := by
  induction parts generalizing current with
  | nil =>
    unfold fillBytes
    split
    · rename_i hempty
      rw [List.isEmpty_iff.mp hempty]
      rfl
    · simp
  | cons part rest ih =>
    unfold fillBytes
    dsimp only
    generalize (if (rest.isEmpty && decide (part.length < 4)) = true then lastWidth else width) = limit
    split
    · split
      · rename_i hempty
        rw [ih, List.isEmpty_iff.mp hempty]
        rfl
      · rw [List.flatten_cons, ih, List.flatten_cons]
    · rw [ih, List.flatten_cons, List.append_assoc]

end Scaffold.Value
