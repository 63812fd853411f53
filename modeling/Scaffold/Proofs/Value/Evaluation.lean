import Scaffold.Proofs.Number.Layout
import Scaffold.Proofs.Value.Brackets

/-!
# Literals evaluate to their values

The literal of a value evaluates to an equal value if the value needs no names,
and to none otherwise (`evaluates_literal`).
-/

namespace Scaffold.Expression

/-! ## Numerals are words -/

def inNumeral (c : Char) : Bool := Decimal.isDigit c || ['-', '+', '.', 'e'].contains c

theorem not_endsWord_of_inNumeral {c : Char} (h : inNumeral c) : endsWord c = false := by
  have hends : ∀ c ∈ [' ', '\n', '\'', '"', '[', ']', '(', ')', '\x7b', '\x7d', ',', ':'],
      inNumeral c = false := by decide
  rw [← Bool.not_eq_true]
  intro hc
  rw [hends c (by simpa [endsWord, isSpace, isQuote, isMark, or_assoc] using hc)] at h
  cases h

theorem all_inNumeral_of_numeral {cs : List Char} (h : Decimal.Numeral cs) : cs.all inNumeral := by
  refine List.all_eq_true.mpr fun c hc => ?_
  simpa [inNumeral] using h.chars c hc

section
variable {c : Char} {cs : List Char}

theorem word_of_inNumeral (h : (c :: cs).all inNumeral) : (c :: cs).all (!endsWord ·) ∧ c ≠ 'b' ∧ c ≠ 's' := by
  have hall := List.all_eq_true.mp h
  have hc : inNumeral c := hall c List.mem_cons_self
  refine ⟨List.all_eq_true.mpr fun d hd => by rw [not_endsWord_of_inNumeral (hall d hd)]; rfl, ?_, ?_⟩
  all_goals
    rintro rfl
    exact absurd hc (by decide)

theorem wordValue?_of_inNumeral (h : (c :: cs).all inNumeral) : wordValue? (c :: cs) =
    match Json.scanNumber (c :: cs) with
    | some (.scalar v, n) => if n = (c :: cs).length then some v else none
    | _ => none := by
  have hc : inNumeral c := List.all_eq_true.mp h c List.mem_cons_self
  have hother {name : String} {d : Char} {ds : List Char} (hname : name.toList = d :: ds) (hd : inNumeral d = false) :
      c :: cs ≠ name.toList := by
    intro heq
    rw [hname] at heq
    rw [← (List.cons.inj heq).1, hc] at hd
    cases hd
  rw [wordValue?]
  exact (if_neg (hother rfl rfl)).trans <| (if_neg (hother rfl rfl)).trans <| if_neg (hother rfl rfl)

end

/-! ## Values without parts -/

theorem evaluates_of_reads {v : Value} {cs : List Char} (hkey : v.canBeKey) (hcontained : v.selfContained)
    (h : Reads cs v) : Evaluates cs v :=
  Or.inl ⟨hcontained, v, ⟨Value.equal_self_of_key hkey hcontained, fun _ => rfl⟩, h⟩

theorem evaluates_numeral {v : Value} {cs : List Char} (hchars : cs.all inNumeral)
    (hscan : Json.scanNumber cs = some (.scalar v, cs.length)) (hmode : Mode.of v = .done v)
    (hkey : v.canBeKey) (hcontained : v.selfContained) : Evaluates cs v := by
  match cs with
  | [] => cases hscan
  | c :: cs =>
    obtain ⟨hword, hbytes, hset⟩ := word_of_inNumeral hchars
    refine evaluates_of_reads hkey hcontained (reads_word hword hbytes hset ?_ hmode)
    rw [wordValue?_of_inNumeral hchars, hscan]
    exact if_pos rfl

theorem evaluates_int (n : Int) : Evaluates (Value.int n).literal.toList (.int n) := by
  have hscan := Json.scanNumber_intText Json.endsNumeral_nil n
  rw [List.append_nil] at hscan
  have hchars := all_inNumeral_of_numeral (Decimal.numeral_intText n)
  change Evaluates (Value.intText n).toList (.int n)
  by_cases hlong : Decimal.digitLimit < (Decimal.digitsOf n.natAbs).length
  · rw [if_pos hlong] at hscan
    refine Or.inr ⟨decide_eq_false (Nat.not_le.mpr hlong), ?_⟩
    generalize (Value.intText n).toList = cs at hscan hchars
    match cs with
    | [] => cases hscan
    | c :: cs =>
      obtain ⟨hword, hbytes, hset⟩ := word_of_inNumeral hchars
      have hvalue : wordValue? (c :: cs) = none := by rw [wordValue?_of_inNumeral hchars, hscan]
      have hfails := fails_word hword hbytes hset hvalue ends_nil
      rwa [List.append_nil] at hfails
  · rw [if_neg hlong] at hscan
    exact evaluates_numeral hchars hscan rfl rfl (decide_eq_true (Nat.not_lt.mp hlong))

/-! ## Names -/

def isUnknown : List Char → Bool
  | [] => false
  | c :: cs => (c :: cs).all (!endsWord ·) && c != 'b' && c != 's' && (wordValue? (c :: cs)).isNone

theorem isUnknown_of_mem : ∀ name ∈ ["nan", "inf", "-inf", "MISSING", "datetime.date", "datetime.datetime"],
    isUnknown name.toList := by decide +kernel

theorem evaluates_name {v : Value} {name behind : List Char} (hcontained : v.selfContained = false)
    (hname : isUnknown name) (hbehind : Ends behind) : Evaluates (name ++ behind) v := by
  match name with
  | c :: cs =>
    simp only [isUnknown, Bool.and_eq_true, bne_iff_ne, Option.isNone_iff_eq_none] at hname
    obtain ⟨⟨⟨hword, hbytes⟩, hset⟩, hvalue⟩ := hname
    exact Or.inr ⟨hcontained, fails_word hword hbytes hset hvalue hbehind⟩

theorem evaluates_word {v : Value} {name : String} (hcontained : v.selfContained = false)
    (hname : isUnknown name.toList) : Evaluates name.toList v := by
  have h := evaluates_name hcontained hname ends_nil
  rwa [List.append_nil] at h

theorem evaluates_call {v : Value} {name opening call : String} (hcontained : v.selfContained = false)
    (hname : isUnknown name.toList) (hopening : opening = name ++ "(")
    (hcall : ∃ arguments, call = opening ++ arguments) : Evaluates call.toList v := by
  obtain ⟨arguments, rfl⟩ := hcall
  rw [hopening, String.toList_append, String.toList_append, List.append_assoc]
  exact evaluates_name hcontained hname (ends_cons rfl _)

theorem evaluates_missing : Evaluates Value.missing.literal.toList .missing :=
  evaluates_word rfl (isUnknown_of_mem "MISSING" (by decide))

theorem evaluates_date (d : Date) : Evaluates (Value.date d).literal.toList (.date d) := by
  have hopening : "datetime.date(" = "datetime.date" ++ "(" := by decide +kernel
  refine evaluates_call rfl (isUnknown_of_mem "datetime.date" (by decide)) hopening ?_
  change ∃ arguments, Moment.dateCall d = _
  unfold Moment.dateCall
  generalize toString d.year = year, toString d.month = month, toString d.day = day
  simp only [String.append_assoc]
  exact ⟨_, rfl⟩

theorem evaluates_moment (t : Moment) : Evaluates (Value.moment t).literal.toList (.moment t) := by
  have hopening : "datetime.datetime(" = "datetime.datetime" ++ "(" := by decide +kernel
  refine evaluates_call rfl (isUnknown_of_mem "datetime.datetime" (by decide)) hopening ?_
  change ∃ arguments, t.call = _
  unfold Moment.call
  simp only []
  generalize String.intercalate _ _ = numbers
  rw [String.append_assoc, String.append_assoc]
  exact ⟨_, rfl⟩

/-! ## Doubles -/

theorem evaluates_real (x : Binary64) : Evaluates (Value.real x).literal.toList (.real x) := by
  cases x with
  | nan => exact evaluates_word rfl (isUnknown_of_mem "nan" (by decide))
  | signed negative rank =>
    by_cases htop : rank.val = Binary64.topRank
    · have hinfinite : (Value.real (.signed negative rank)).selfContained = false :=
        decide_eq_false (Nat.not_lt.mpr (Nat.le_of_eq htop.symm))
      have hwritten : (Value.real (.signed negative rank)).literal = if negative then "-inf" else "inf" := by
        rw [Value.literal, NumberStyle.render, if_pos htop]
        rfl
      rw [hwritten]
      cases negative with
      | true => exact evaluates_word hinfinite (isUnknown_of_mem "-inf" (by decide))
      | false => exact evaluates_word hinfinite (isUnknown_of_mem "inf" (by decide))
    · have hfinite : (Binary64.signed negative rank).isFinite :=
        decide_eq_true (Nat.lt_of_le_of_ne rank.is_le htop)
      have hscan := Json.scanNumber_render .literal hfinite Json.endsNumeral_nil
      rw [List.append_nil] at hscan
      have hchars := all_inNumeral_of_numeral (Decimal.numeral_render .literal hfinite)
      exact evaluates_numeral hchars hscan rfl rfl hfinite

/-! ## Constants -/

theorem evaluates_null : Evaluates Value.null.literal.toList .null := by
  have hword : wordValue? "None".toList = some .null := by simp [wordValue?]
  exact evaluates_of_reads rfl rfl (reads_word (by decide) (by decide) (by decide) hword rfl)

theorem evaluates_bool (b : Bool) : Evaluates (Value.bool b).literal.toList (.bool b) := by
  cases b with
  | true =>
    have hword : wordValue? "True".toList = some (.bool true) := by simp [wordValue?]
    exact evaluates_of_reads rfl rfl (reads_word (by decide) (by decide) (by decide) hword rfl)
  | false =>
    have hword : wordValue? "False".toList = some (.bool false) := by simp [wordValue?]
    exact evaluates_of_reads rfl rfl (reads_word (by decide) (by decide) (by decide) hword rfl)

/-- No bracket stands for the empty set, but the call of its type. -/
theorem evaluates_empty_set : Evaluates "set()".toList (.set []) := by
  refine Or.inl ⟨rfl, .set [], ⟨rfl, fun _ => rfl⟩, fun holes rest _ => ?_⟩
  have hword : ['s', 'e', 't'].all (!endsWord ·) := by decide
  have hname (behind : List Char) : State.eval ⟨holes, .start⟩ (['s', 'e', 't'] ++ '(' :: behind) =
      State.eval ⟨holes, .setName⟩ ('(' :: behind) :=
    State.eval_word _ hword (by decide) (ends_cons rfl behind)
  have hcall (behind : List Char) : State.eval ⟨holes, .setName⟩ ('(' :: behind) =
      State.eval ⟨.call :: holes, .start⟩ behind :=
    State.eval_mark _ rfl behind
  exact (hname _).trans ((hcall _).trans (eval_close_start (by decide)))

/-! ## Literals on one line -/

theorem toList_joined (opening sep closing : String) (parts : List String) :
    (opening ++ sep.intercalate parts ++ closing).toList =
      opening.toList ++ (sep.toList.intercalate (parts.map String.toList) ++ closing.toList) := by
  rw [String.toList_append, String.toList_append, String.toList_intercalate, List.append_assoc]

theorem setOrder_perm {α : Type} (key : α → Value) (xs : List α) : (Value.setOrder key xs).Perm xs := by
  unfold Value.setOrder
  split
  · exact List.mergeSort_perm xs _
  · exact List.Perm.refl xs

theorem evaluates_members {xs : List Value} {parts : List String}
    (h : List.Forall₂ Evaluates (parts.map String.toList) xs) (hne : xs ≠ []) (hkeys : ∀ x ∈ xs, x.canBeKey)
    (hunlike : Value.Unlike xs) :
    Evaluates (Value.inBraces (", ".intercalate ((Value.setOrder Prod.fst (xs.zip parts)).map Prod.snd))).toList
      (.set xs) := by
  obtain ⟨hlength, hzip⟩ := List.forall₂_iff_zip.mp (List.forall₂_map_left_iff.mp h).flip
  have hperm := setOrder_perm Prod.fst (xs.zip parts)
  generalize Value.setOrder Prod.fst (xs.zip parts) = written at hperm ⊢
  have hwritten : List.Forall₂ Evaluates ((written.map Prod.snd).map String.toList) (written.map Prod.fst) := by
    rw [List.map_map, List.forall₂_map_left_iff, List.forall₂_map_right_iff, List.forall₂_same]
    exact fun p hp => hzip (hperm.subset hp)
  have hmembers : (written.map Prod.fst).Perm xs := by
    have := hperm.map Prod.fst
    rwa [List.map_fst_zip (Nat.le_of_eq hlength)] at this
  have hnonempty : written.map Prod.fst ≠ [] := by
    intro hnil
    rw [hnil] at hmembers
    exact hne hmembers.nil_eq.symm
  rw [Value.inBraces, toList_joined]
  exact evaluates_set rfl hwritten hnonempty hmembers hkeys hunlike

mutual

theorem evaluates_literal : ∀ {v : Value}, v.IsData → Evaluates v.literal.toList v
  | .null, _ => evaluates_null
  | .missing, _ => evaluates_missing
  | .bool b, _ => evaluates_bool b
  | .int n, _ => evaluates_int n
  | .real x, _ => evaluates_real x
  | .text s, _ => evaluates_of_reads rfl rfl (reads_literal s)
  | .bytes bs, _ => evaluates_of_reads rfl rfl (reads_bytesLiteral bs)
  | .date d, _ => evaluates_date d
  | .moment t, _ => evaluates_moment t
  | .list xs, h => by
    rw [Value.literal, toList_joined]
    exact evaluates_list (show [' '].all isSpace from rfl) (evaluates_literalItems h)
  | .tuple [], _ => evaluates_tuple (show [' '].all isSpace from rfl) .nil (by decide)
  | .tuple [x], h => by
    have hx := evaluates_literal h.1
    rw [Value.literal, String.toList_append, String.toList_append, List.append_assoc]
    exact evaluates_single hx
  | .tuple (x :: y :: xs), h => by
    rw [Value.literal, toList_joined]
    · exact evaluates_tuple (show [' '].all isSpace from rfl) (evaluates_literalItems h) (by simp)
    · exact fun _ hone => nomatch hone
  | .set [], _ => evaluates_empty_set
  | .set (x :: xs), h => by
    rw [Value.literal]
    · exact evaluates_members (evaluates_literalItems h.2.2) (List.cons_ne_nil x xs) h.1 h.2.1
    · exact List.cons_ne_nil x xs
  | .map es, h => by
    rw [Value.literal, Value.inBraces, toList_joined]
    exact evaluates_map (show [' '].all isSpace from rfl) (evaluates_literalEntries h.2.2 h.1) h.1 h.2.1

theorem evaluates_literalItems : ∀ {xs : List Value}, Value.AreData xs →
    List.Forall₂ Evaluates ((Value.literalItems xs).map String.toList) xs
  | [], _ => .nil
  | _ :: _, h => .cons (evaluates_literal h.1) (evaluates_literalItems h.2)

theorem evaluates_literalEntries : ∀ {es : Entries}, Value.EntriesAreData es → (∀ e ∈ es, e.1.canBeKey) →
    List.Forall₂ Bracket.ofMap.EvaluatesPart ((Value.literalEntries es).map String.toList) es
  | [], _, _ => .nil
  | (k, v) :: es, h, hkeys => by
    obtain ⟨hkey, hkeys⟩ := List.forall_mem_cons.mp hkeys
    have hentry := evaluatesPart_entry (evaluates_literal h.1) hkey (evaluates_literal h.2.1)
    refine .cons ?_ (evaluates_literalEntries h.2.2 hkeys)
    rw [String.toList_append, String.toList_append, List.append_assoc]
    exact hentry

end

end Scaffold.Expression
