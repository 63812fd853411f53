import Scaffold.Proofs.Value.Chunks
import Scaffold.Proofs.Value.Evaluation

/-!
# Laid-out literals evaluate to their values

Line breaks stand where blanks may stand, and texts broken into several
literals are read as one, so a literal laid out in lines evaluates as the one
on one line does (`evaluates_layout`).
-/

namespace Scaffold.Expression

/-! ## Texts and bytes in lines -/

theorem newline_all_isSpace (indent : Nat) : (Value.newline indent).toList.all isSpace := by
  rw [Value.newline, String.toList_ofList, List.all_cons, List.all_eq_true.mpr]
  · rfl
  · intro c hc
    rw [List.eq_of_mem_replicate hc]
    rfl

theorem reads_layoutText (s : String) (indent allowance : Nat) :
    Reads (Value.layoutText s indent allowance).toList (.text s) := by
  unfold Value.layoutText
  split
  · exact reads_literal s
  · rename_i hempty
    extract_lets width chunks
    have hflatten : chunks.flatten = s.toList := by
      rw [Value.flatten_textChunks, Text.flatten_linesWithBreaks]
    have hne : chunks ≠ [] := by
      intro hnil
      rw [hnil, List.flatten_nil, eq_comm, String.toList_eq_nil_iff] at hflatten
      rw [hflatten] at hempty
      exact hempty rfl
    have hreads := reads_texts (newline_all_isSpace indent) hne
    rw [hflatten, String.ofList_toList] at hreads
    rw [String.toList_intercalate, List.map_map]
    simpa [Function.comp_def] using hreads

theorem reads_layoutBytes (bs : List UInt8) (indent allowance : Nat) :
    Reads (Value.layoutBytes bs indent allowance).toList (.bytes bs) := by
  unfold Value.layoutBytes
  split
  · exact reads_bytesLiteral bs
  · rename_i hmany
    extract_lets width
    have hflatten : (Value.fillBytes width (width - allowance) [] (Value.byteGroups bs)).flatten = bs := by
      rw [Value.flatten_fillBytes, Value.flatten_byteGroups]
      rfl
    generalize Value.fillBytes width (width - allowance) [] (Value.byteGroups bs) = chunks at hflatten ⊢
    have hne : chunks ≠ [] := by
      rintro rfl
      rw [← hflatten] at hmany
      exact hmany (Nat.zero_le 4)
    have hreads := reads_bytes (newline_all_isSpace indent) hne
    rw [hflatten] at hreads
    rw [String.toList_intercalate, List.map_map]
    exact hreads

/-! ## Members in lines -/

theorem forall₂_last {α β γ : Type} {R : β → γ → Prop} {inner last : α → β} {key : α → γ} :
    ∀ {xs : List α}, xs ≠ [] → (∀ x ∈ xs, R (inner x) (key x) ∧ R (last x) (key x)) →
      List.Forall₂ R (xs.dropLast.map inner ++ (xs.getLast?.map last).toList) (xs.map key)
  | [], hne, _ => absurd rfl hne
  | [x], _, h => .cons (h x List.mem_cons_self).2 .nil
  | x :: y :: xs, _, h => by
    obtain ⟨hx, hxs⟩ := List.forall_mem_cons.mp h
    exact .cons hx.1 (forall₂_last (List.cons_ne_nil y xs) hxs)

theorem map_fst_layoutMembers (indent allowance : Nat) (xs : List Value) :
    (Value.layoutMembers xs indent allowance).map Prod.fst = xs := by
  induction xs with
  | nil => rfl
  | cons x xs ih => exact congrArg (x :: ·) ih

theorem evaluates_layoutSet {xs : List Value} {members : List (Value × String × String)} {indent : Nat}
    (hmembers : members.map Prod.fst = xs)
    (h : ∀ m ∈ members, Evaluates m.2.1.toList m.1 ∧ Evaluates m.2.2.toList m.1) (hne : xs ≠ [])
    (hkeys : ∀ x ∈ xs, x.canBeKey) (hunlike : Value.Unlike xs) :
    Evaluates (Value.inBraces (("," ++ Value.newline indent).intercalate
      (((Value.arrange Prod.fst members).dropLast.map fun m => m.2.1) ++
        ((Value.arrange Prod.fst members).getLast?.map fun m => m.2.2).toList))).toList (.set xs) := by
  have hperm : (Value.arrange Prod.fst members).Perm members := List.mergeSort_perm members _
  generalize Value.arrange Prod.fst members = written at hperm ⊢
  have hmembers' : (written.map Prod.fst).Perm xs := hmembers ▸ hperm.map Prod.fst
  have hnonempty : written.map Prod.fst ≠ [] := by
    intro hnil
    rw [hnil] at hmembers'
    exact hne hmembers'.nil_eq.symm
  have hwritten := forall₂_last (R := fun (s : String) v => Evaluates s.toList v)
    (fun hnil => hnonempty (congrArg _ hnil)) fun m hm => h m (hperm.subset hm)
  rw [Value.inBraces, toList_joined, String.toList_append]
  exact evaluates_set (newline_all_isSpace indent) (List.forall₂_map_left_iff.mpr hwritten) hnonempty hmembers'
    hkeys hunlike

/-! ## Parts in lines -/

theorem toList_next {first newline rest : String} {parts : List (List Char)} (hne : parts ≠ [])
    (h : rest.toList = (',' :: newline.toList).intercalate parts) :
    (first ++ "," ++ newline ++ rest).toList = (',' :: newline.toList).intercalate (first.toList :: parts) := by
  rw [String.toList_append, String.toList_append, String.toList_append, h, List.intercalate_cons_of_ne_nil hne]
  simp

theorem evaluatesPart_layoutEntry {k v : Value} {written : String} (hk : k.IsData) (hkey : k.canBeKey)
    (h : Evaluates written.toList v) : Bracket.ofMap.EvaluatesPart (k.literal ++ ": " ++ written).toList (k, v) := by
  rw [String.toList_append, String.toList_append, List.append_assoc]
  exact evaluatesPart_entry (evaluates_literal hk) hkey h

theorem evaluates_layoutTuple {xs : List Value} {parts : List (List Char)} {blanks : List Char} {body : String}
    (hblanks : blanks.all isSpace) (hbody : body.toList = (',' :: blanks).intercalate parts)
    (h : List.Forall₂ Evaluates parts xs) :
    Evaluates ("(" ++ body ++ (if xs.length = 1 then ",)" else ")")).toList (.tuple xs) := by
  rw [String.toList_append, String.toList_append, hbody, List.append_assoc]
  split
  · rename_i hone
    obtain ⟨x, rfl⟩ := List.length_eq_one_iff.mp hone
    obtain ⟨part, rfl⟩ := List.length_eq_one_iff.mp (h.length_eq.trans hone)
    rw [List.intercalate_singleton]
    exact evaluates_single (List.forall₂_cons.mp h).1
  · rename_i hother
    exact evaluates_tuple hblanks h hother

/-! ## All values -/

mutual

theorem evaluates_layout : ∀ {v : Value}, v.IsData → ∀ indent allowance : Nat,
    Evaluates (v.layout indent allowance).toList v
  | .text s, _, indent, allowance => by
    rw [Value.layout]
    split
    · exact evaluates_of_reads rfl rfl (reads_literal s)
    · exact evaluates_of_reads rfl rfl (reads_layoutText s indent allowance)
  | .bytes bs, _, indent, allowance => by
    rw [Value.layout]
    split
    · exact evaluates_of_reads rfl rfl (reads_bytesLiteral bs)
    · exact evaluates_of_reads rfl rfl (reads_layoutBytes bs indent allowance)
  | .list xs, h, indent, allowance => by
    obtain ⟨parts, hwritten, hparts⟩ := evaluates_layoutItems h (indent + 1) (allowance + 1)
    rw [Value.layout]
    split
    · exact evaluates_literal h
    · rw [String.toList_append, String.toList_append, List.append_assoc, hwritten]
      exact evaluates_list (newline_all_isSpace _) hparts
  | .tuple xs, h, indent, allowance => by
    rw [Value.layout]
    split
    · exact evaluates_literal h
    · extract_lets close
      obtain ⟨parts, hwritten, hparts⟩ := evaluates_layoutItems h (indent + 1) (allowance + close.length)
      exact evaluates_layoutTuple (newline_all_isSpace _) hwritten hparts
  | .set xs, h, indent, allowance => by
    rw [Value.layout]
    split
    · exact evaluates_literal h
    · rename_i hwide
      -- an empty set stays on one line
      have hne : xs ≠ [] := by
        rintro rfl
        exact hwide (Bool.or_true _)
      exact evaluates_layoutSet (map_fst_layoutMembers _ _ xs)
        (evaluates_layoutMembers h.2.2 (indent + 1) (allowance + 1)) hne h.1 h.2.1
  | .map es, h, indent, allowance => by
    obtain ⟨parts, hwritten, hparts⟩ := evaluates_layoutEntries h.2.2 h.1 (indent + 1) (allowance + 1)
    rw [Value.layout]
    split
    · exact evaluates_literal h
    · rw [Value.inBraces, String.toList_append, String.toList_append, List.append_assoc, hwritten]
      exact evaluates_map (newline_all_isSpace _) hparts h.1 h.2.1
  | .null, h, _, _ | .missing, h, _, _ | .bool _, h, _, _ | .int _, h, _, _ | .real _, h, _, _ | .date _, h, _, _
  | .moment _, h, _, _ => evaluates_literal h

theorem evaluates_layoutItems : ∀ {xs : List Value}, Value.AreData xs → ∀ indent allowance : Nat, ∃ parts,
    (Value.layoutItems xs indent allowance).toList = (',' :: (Value.newline indent).toList).intercalate parts ∧
      List.Forall₂ Evaluates parts xs
  | [], _, _, _ => ⟨[], rfl, .nil⟩
  | [x], h, indent, allowance => by
    refine ⟨[(x.layout indent allowance).toList], ?_, .cons (evaluates_layout h.1 indent allowance) .nil⟩
    rw [Value.layoutItems, List.intercalate_singleton]
  | x :: y :: xs, h, indent, allowance => by
    obtain ⟨parts, hwritten, hparts⟩ := evaluates_layoutItems h.2 indent allowance
    have hne : parts ≠ [] := by
      rintro rfl
      cases hparts
    exact ⟨(x.layout indent 1).toList :: parts, toList_next hne hwritten, .cons (evaluates_layout h.1 indent 1) hparts⟩

theorem evaluates_layoutMembers : ∀ {xs : List Value}, Value.AreData xs → ∀ indent allowance : Nat,
    ∀ m ∈ Value.layoutMembers xs indent allowance, Evaluates m.2.1.toList m.1 ∧ Evaluates m.2.2.toList m.1
  | [], _, _, _ => fun _ hm => nomatch hm
  | _ :: _, h, indent, allowance =>
    List.forall_mem_cons.mpr ⟨⟨evaluates_layout h.1 indent 1, evaluates_layout h.1 indent allowance⟩,
      evaluates_layoutMembers h.2 indent allowance⟩

theorem evaluates_layoutEntries : ∀ {es : Entries}, Value.EntriesAreData es → (∀ e ∈ es, e.1.canBeKey) →
    ∀ indent allowance : Nat, ∃ parts,
      (Value.layoutEntries es indent allowance).toList = (',' :: (Value.newline indent).toList).intercalate parts ∧
        List.Forall₂ Bracket.ofMap.EvaluatesPart parts es
  | [], _, _, _, _ => ⟨[], rfl, .nil⟩
  | [(k, v)], h, hkeys, indent, allowance => by
    have hvalue := evaluates_layout h.2.1 (indent + (k.literal ++ ": ").length) allowance
    refine ⟨_, List.intercalate_singleton.symm, .cons ?_ .nil⟩
    exact evaluatesPart_layoutEntry h.1 (hkeys _ List.mem_cons_self) hvalue
  | (k, v) :: e :: es, h, hkeys, indent, allowance => by
    obtain ⟨hkey, hkeys⟩ := List.forall_mem_cons.mp hkeys
    obtain ⟨parts, hwritten, hparts⟩ := evaluates_layoutEntries h.2.2 hkeys indent allowance
    have hvalue := evaluates_layout h.2.1 (indent + (k.literal ++ ": ").length) 1
    have hne : parts ≠ [] := by
      rintro rfl
      cases hparts
    exact ⟨_, toList_next hne hwritten, .cons (evaluatesPart_layoutEntry h.1 hkey hvalue) hparts⟩

end

end Scaffold.Expression
