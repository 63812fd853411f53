import Scaffold.Proofs.Schema.PathText
import Scaffold.Proofs.Text.Split

/-!
# Lines of reports

A report has a line for its header and one for each issue, unless a path brings
a line feed of its own. JSON strings have none, but the patterns of numerals and
identifiers look past a final line feed, and such a key is written as it is
(`Report.split_render_iff`).
-/

namespace Scaffold.Report

/-- A numeral or an identifier with one line feed behind it. -/
def keepsLineFeed : Value → Bool
  | .text s => s.toList.getLast? == some '\n' && (isNumeral s.toList || isIdentifier s.toList)
  | _ => false

/-! ## Line feeds of keys -/

theorem count_feed_of_body {cs : List Char} (h : '\n' ∉ withoutFinalLineFeed cs) :
    cs.count '\n' = if cs.getLast? == some '\n' then 1 else 0 := by
  unfold withoutFinalLineFeed at h
  by_cases hlast : cs.getLast? = some '\n'
  · obtain ⟨rest, rfl⟩ := List.getLast?_eq_some_iff.mp hlast
    rw [if_pos hlast, List.dropLast_concat] at h
    simp [List.count_eq_zero_of_not_mem h]
  · rw [if_neg hlast] at h
    simp [hlast, List.count_eq_zero_of_not_mem h]

theorem feed_notMem_numeral {cs : List Char} (h : isNumeral cs) : '\n' ∉ withoutFinalLineFeed cs := by
  rw [isNumeral, Bool.and_eq_true] at h
  intro hfeed
  exact absurd (List.all_eq_true.mp h.2 _ hfeed) (by decide +kernel)

theorem feed_notMem_identifier {cs : List Char} (h : isIdentifier cs) : '\n' ∉ withoutFinalLineFeed cs := by
  unfold isIdentifier at h
  cases hbody : withoutFinalLineFeed cs with
  | nil => exact List.not_mem_nil
  | cons c rest =>
    rw [hbody] at h
    simp only [Bool.and_eq_true] at h
    have hrest : '\n' ∉ rest := fun hfeed => absurd (List.all_eq_true.mp h.2 _ hfeed) (by decide)
    have hc : '\n' ≠ c := by
      rintro rfl
      exact absurd h.1 (by decide)
    simp [hc, hrest]

theorem feed_notMem_intText (n : Int) : '\n' ∉ (Value.intText n).toList := by
  rw [toList_intText]
  split <;> simp [Decimal.feed_notMem_digitsOf]

theorem count_quotedKey (s : String) : (quotedKey s).toList.count '\n' = 0 := by
  refine List.count_eq_zero_of_not_mem ?_
  have hstring : '\n' ∉ (Text.jsonString s).toList := Text.control_notMem_jsonString (by decide) s
  simp [quotedKey, hstring]

/-- Of all keys, only numerals and identifiers are written with a line feed, and with no more than one. -/
theorem count_keyText (k : Value) : (keyText k).toList.count '\n' = if keepsLineFeed k then 1 else 0 := by
  cases k with
  | int n =>
    refine List.count_eq_zero_of_not_mem ?_
    simp [keyText, feed_notMem_intText]
  | bool b => cases b <;> decide
  | text s =>
    rw [keyText, keepsLineFeed]
    by_cases hnumeral : isNumeral s.toList
    · rw [if_pos hnumeral, hnumeral, Bool.true_or, Bool.and_true, ← count_feed_of_body (feed_notMem_numeral hnumeral)]
      simp
    rw [if_neg hnumeral, Bool.eq_false_of_not_eq_true hnumeral, Bool.false_or]
    by_cases hidentifier : isIdentifier s.toList
    · rw [if_pos hidentifier, hidentifier, Bool.and_true, ← count_feed_of_body (feed_notMem_identifier hidentifier)]
      simp
    · rw [if_neg hidentifier, Bool.eq_false_of_not_eq_true hidentifier, Bool.and_false, count_quotedKey]
      rfl
  | _ => exact count_quotedKey _

theorem count_pathText (p : Path) : (pathText p).toList.count '\n' = p.countP keepsLineFeed := by
  have hkeys : (p.flatMap fun k => (keyText k).toList).count '\n' = p.countP keepsLineFeed := by
    induction p with
    | nil => rfl
    | cons k p ih =>
      rw [List.flatMap_cons, List.count_append, count_keyText, ih, List.countP_cons, Nat.add_comm]
  rw [toList_pathText, List.count_cons_of_ne (by decide), hkeys]

/-! ## Lines of issues -/

theorem count_issueLine {message : String} (h : '\n' ∉ message.toList) (p : Path) :
    (issueLine (some message) p).toList.count '\n' = p.countP keepsLineFeed := by
  unfold issueLine
  simp [count_pathText, List.count_eq_zero_of_not_mem h]

theorem toList_render (issues : List Issue) : (render issues).toList = ['\n'].intercalate
    (header.toList :: issues.map fun i => (issueLine (some i.message) i.path).toList) := by
  rw [render, renderLines, String.toList_intercalate, List.map_cons, List.map_map]
  rfl

/-- **Lines of reports.** Where no message has a line feed, a report is cut at its line feeds into the
header and one line for each issue exactly when no key of a path is a numeral or an identifier with a line feed
behind it. In any case each such key makes one line more. -/
theorem split_render_iff {issues : List Issue} (hmessages : ∀ i ∈ issues, '\n' ∉ i.message.toList) :
    (Text.split '\n' (render issues).toList =
        header.toList :: issues.map (fun i => ("- " ++ pathText i.path ++ ": " ++ i.message).toList) ↔
      ∀ i ∈ issues, ∀ k ∈ i.path, keepsLineFeed k = false) ∧
    (Text.split '\n' (render issues).toList).length =
      1 + (issues.map fun i => 1 + i.path.countP keepsLineFeed).sum := by
  have hheader : '\n' ∉ header.toList := by decide
  have hcount : ∀ i ∈ issues, (issueLine (some i.message) i.path).toList.count '\n' = i.path.countP keepsLineFeed :=
    fun i hi => count_issueLine (hmessages i hi) i.path
  rw [toList_render]
  constructor
  · refine (Text.split_intercalate_iff (List.cons_ne_nil _ _)).trans ?_
    rw [List.forall_mem_cons, and_iff_right hheader, List.forall_mem_map]
    refine forall₂_congr fun i hi => ?_
    rw [← List.count_eq_zero, hcount i hi, List.countP_eq_zero]
    simp only [Bool.not_eq_true]
  · rw [Text.split_intercalate (List.cons_ne_nil _ _), List.flatMap_cons, Text.split_of_notMem hheader,
      List.flatMap_map, List.length_append, List.length_flatMap, List.length_singleton]
    refine congrArg (fun lines => 1 + lines.sum) (List.map_congr_left fun i hi => ?_)
    rw [Text.length_split, hcount i hi, Nat.add_comm]

/-- Line feeds, quotes and a numeral in keys, none of which breaks a line. -/
theorem split_render_quoted :
    let issues : List Issue := [⟨"Expected a string", [.text "entities", .int 0, .text "a\nb"]⟩,
      ⟨"", [.text "\n", .text "٣", .null, .tuple [.text "c\n"]]⟩]
    (∀ i ∈ issues, '\n' ∉ i.message.toList) ∧
      Text.split '\n' (render issues).toList =
        header.toList :: issues.map fun i => ("- " ++ pathText i.path ++ ": " ++ i.message).toList := by
  intro issues
  have hmessages : ∀ i ∈ issues, '\n' ∉ i.message.toList := by simp [issues]
  refine ⟨hmessages, (split_render_iff hmessages).1.mpr ?_⟩
  decide +kernel

/-- A key that is an identifier but for its last character breaks the line of its issue. -/
theorem identifier_breaks_line :
    let issue : Issue := ⟨"Expected a string", [.text "generators", .text "cache\n"]⟩
    '\n' ∉ issue.message.toList ∧
      Text.split '\n' (render [issue]).toList =
        [header.toList, "- $.generators.cache".toList, ": Expected a string".toList] ∧
      Text.split '\n' (render [issue]).toList ≠
        [header.toList, ("- " ++ pathText issue.path ++ ": " ++ issue.message).toList] := by
  decide +kernel

end Scaffold.Report
