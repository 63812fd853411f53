import Scaffold.Proofs.Value.Evaluated

/-!
# Brackets that evaluate to collections

The parts between two brackets are items or entries, with commas and blanks
between them. What is open around a part holds the parts before it, so the
parts are read one after the other, and a bracket evaluates to the collection
of what its parts read as (`Bracket.evaluates`).
-/

namespace Scaffold.Expression

/-- How the parts of a bracket are collected. -/
structure Bracket (α : Type) where
  opening : Char
  closing : Char
  /-- What is open before a part. -/
  before : List α → Hole
  /-- What is open behind a part. -/
  behind : List α → α → Hole
  last : α → Value
  result : List α → Option Value
  contained : α → Bool
  agrees : α → α → Prop
  opens : State.opened .start opening = some (before [])
  closes : closing ∈ [']', ')', '\x7d']
  comma : ∀ xs x, (behind xs x).comma (last x) = some (before (xs ++ [x]))
  close : ∀ xs x, (behind xs x).close closing (some (last x)) = result (xs ++ [x])

namespace Bracket
variable {α : Type} (b : Bracket α)

def ReadsPart (cs : List Char) (x : α) : Prop := ∀ xs holes rest, Ends rest →
  State.eval ⟨b.before xs :: holes, .start⟩ (cs ++ rest) = State.eval ⟨b.behind xs x :: holes, .of (b.last x)⟩ rest

def FailsPart (cs : List Char) : Prop := ∀ xs holes rest, Ends rest →
  State.eval ⟨b.before xs :: holes, .start⟩ (cs ++ rest) = none

/-- A text reads as a part if the part needs no names, and else fails. -/
def EvaluatesPart (cs : List Char) (x : α) : Prop :=
  (b.contained x = true ∧ ∃ y, b.agrees y x ∧ b.ReadsPart cs y) ∨ (b.contained x = false ∧ b.FailsPart cs)

def written (blanks : List Char) (parts : List (List Char)) : List Char :=
  b.opening :: ((',' :: blanks).intercalate parts ++ [b.closing])

def terminated (blanks : List Char) (parts : List (List Char)) (last : List Char) : List Char :=
  b.opening :: (parts.flatMap (fun cs => blanks ++ (cs ++ [','])) ++ (last ++ [b.closing]))

/-! ## Parts one after the other -/

variable {b} {blanks : List Char} {parts : List (List Char)}

theorem ends_closing (rest : List Char) : Ends (b.closing :: rest) := by
  have hends : ∀ c ∈ [']', ')', '\x7d'], endsWord c := by decide
  exact ends_cons (hends _ b.closes) rest

theorem ends_comma (cs : List Char) : Ends (',' :: cs) := ends_cons rfl cs

theorem eval_parts (hblanks : blanks.all isSpace) {xs : List α} (h : List.Forall₂ b.ReadsPart parts xs) :
    xs ≠ [] → ∀ (before : List α) (holes : List Hole) (rest : List Char),
      State.eval ⟨b.before before :: holes, .start⟩ ((',' :: blanks).intercalate parts ++ b.closing :: rest) =
        (b.result (before ++ xs)).bind fun w => State.eval ⟨holes, .done w⟩ rest := by
  induction h with
  | nil => exact fun hne => absurd rfl hne
  | @cons cs x parts xs hx hxs ih =>
    intro _ before holes rest
    cases hxs with
    | nil => rw [List.intercalate_singleton, hx _ _ _ (ends_closing rest), eval_close b.closes, b.close]
    | @cons cs' x' parts xs hx' hxs =>
      rw [List.intercalate_cons_cons, List.append_assoc, List.append_assoc,
        List.cons_append, hx _ _ _ (ends_comma _), eval_comma (b.comma before x), eval_spaces _ hblanks,
        ih (List.cons_ne_nil _ _), List.append_assoc]
      rfl

theorem eval_failing_parts (hblanks : blanks.all isSpace) :
    ∀ {parts : List (List Char)}, (∀ cs ∈ parts, (∃ x, b.ReadsPart cs x) ∨ b.FailsPart cs) →
      (∃ cs ∈ parts, b.FailsPart cs) → ∀ (before : List α) (holes : List Hole) (rest : List Char),
        State.eval ⟨b.before before :: holes, .start⟩
          ((',' :: blanks).intercalate parts ++ b.closing :: rest) = none
  | [], _, hfails => by
    obtain ⟨cs, hcs, -⟩ := hfails
    cases hcs
  | [cs], _, hfails => by
    intro before holes rest
    obtain ⟨cs', hcs', hfails⟩ := hfails
    obtain rfl := List.mem_singleton.mp hcs'
    rw [List.intercalate_singleton, hfails _ _ _ (ends_closing rest)]
  | cs :: cs' :: parts, hparts, hfails => by
    intro before holes rest
    obtain ⟨hcs, hparts⟩ := List.forall_mem_cons.mp hparts
    rw [List.intercalate_cons_cons, List.append_assoc, List.append_assoc, List.cons_append]
    rcases hcs with ⟨x, hx⟩ | hcs
    · by_cases hbehind : ∃ cs ∈ cs' :: parts, b.FailsPart cs
      · rw [hx _ _ _ (ends_comma _), eval_comma (b.comma before x), eval_spaces _ hblanks]
        exact eval_failing_parts hblanks hparts hbehind _ _ _
      · -- the first part is the one that fails
        obtain ⟨d, hd, hfails⟩ := hfails
        rcases List.mem_cons.mp hd with rfl | hd
        · exact hfails _ _ _ (ends_comma _)
        · exact absurd ⟨d, hd, hfails⟩ hbehind
    · exact hcs _ _ _ (ends_comma _)

/-! ## Whole brackets -/

theorem eval_written (holes : List Hole) (rest : List Char) :
    State.eval ⟨holes, .start⟩ (b.written blanks parts ++ rest) =
      State.eval ⟨b.before [] :: holes, .start⟩ ((',' :: blanks).intercalate parts ++ b.closing :: rest) := by
  rw [written, List.cons_append, eval_open b.opens, List.append_assoc]
  rfl

theorem exists_of_evaluatesPart {xs : List α} (h : List.Forall₂ b.EvaluatesPart parts xs)
    (hcontained : xs.all b.contained) :
    ∃ ys, List.Forall₂ b.agrees ys xs ∧ List.Forall₂ b.ReadsPart parts ys := by
  induction h with
  | nil => exact ⟨[], .nil, .nil⟩
  | @cons cs x parts xs hx _ ih =>
    rw [List.all_cons, Bool.and_eq_true] at hcontained
    obtain ⟨ys, hys, hparts⟩ := ih hcontained.2
    rcases hx with ⟨-, y, hy, hcs⟩ | ⟨hfalse, -⟩
    · exact ⟨y :: ys, .cons hy hys, .cons hcs hparts⟩
    · rw [hcontained.1] at hfalse
      cases hfalse

theorem fails_of_evaluatesPart {xs : List α} (h : List.Forall₂ b.EvaluatesPart parts xs)
    (hcontained : xs.all b.contained = false) : ∃ cs ∈ parts, b.FailsPart cs := by
  induction h with
  | nil => cases hcontained
  | @cons cs x parts xs hx _ ih =>
    rcases hx with ⟨hx, -⟩ | ⟨-, hfails⟩
    · rw [List.all_cons, hx, Bool.true_and] at hcontained
      obtain ⟨d, hd, hfails⟩ := ih hcontained
      exact ⟨d, List.mem_cons_of_mem _ hd, hfails⟩
    · exact ⟨cs, List.mem_cons_self, hfails⟩

theorem reads_or_fails {xs : List α} (h : List.Forall₂ b.EvaluatesPart parts xs) :
    ∀ cs ∈ parts, (∃ x, b.ReadsPart cs x) ∨ b.FailsPart cs := by
  induction h with
  | nil => exact fun cs hcs => nomatch hcs
  | cons hx _ ih =>
    refine List.forall_mem_cons.mpr ⟨?_, ih⟩
    rcases hx with ⟨-, y, -, hcs⟩ | ⟨-, hfails⟩
    · exact Or.inl ⟨y, hcs⟩
    · exact Or.inr hfails

theorem reads_empty {w : Value} (hclose : (b.before []).close b.closing none = some w) (hmode : Mode.of w = .done w) :
    Reads (b.written blanks []) w := by
  intro holes rest _
  rw [eval_written]
  exact (eval_close_start b.closes).trans (by rw [hclose, hmode]; rfl)

theorem eval_terminated (hblanks : blanks.all isSpace) {xs : List α} (h : List.Forall₂ b.ReadsPart parts xs) :
    ∀ (before : List α) (holes : List Hole) (rest : List Char),
      State.eval ⟨b.before before :: holes, .start⟩ (parts.flatMap (fun cs => blanks ++ (cs ++ [','])) ++ rest) =
        State.eval ⟨b.before (before ++ xs) :: holes, .start⟩ rest := by
  induction h with
  | nil => simp
  | @cons cs x parts xs hx _ ih =>
    intro before holes rest
    rw [List.flatMap_cons, List.append_assoc, List.append_assoc, eval_spaces _ hblanks, List.append_assoc,
      List.singleton_append, hx _ _ _ (ends_comma _), eval_comma (b.comma before x), ih, List.append_assoc]
    rfl

theorem reads_terminated (hblanks : blanks.all isSpace) {last : List Char} (hlast : last.all isSpace) {xs : List α}
    (h : List.Forall₂ b.ReadsPart parts xs) {w : Value} (hclose : (b.before xs).close b.closing none = some w)
    (hmode : Mode.of w = .done w) : Reads (b.terminated blanks parts last) w := by
  intro holes rest _
  rw [terminated, List.cons_append, eval_open b.opens, List.append_assoc, eval_terminated hblanks h,
    List.append_assoc, eval_spaces _ hlast, List.nil_append, List.singleton_append, eval_close_start b.closes,
    hclose, hmode]
  rfl

/-- A bracket evaluates to a value if its parts evaluate to the parts of the value. -/
theorem evaluates (hblanks : blanks.all isSpace) {v : Value} {xs : List α}
    (h : List.Forall₂ b.EvaluatesPart parts xs) (hne : xs ≠ []) (hcontained : v.selfContained = xs.all b.contained)
    (hresult : xs.all b.contained → ∀ ys, List.Forall₂ b.agrees ys xs →
      ∃ w, b.result ys = some w ∧ Mode.of w = .done w ∧ Agrees w v) : Evaluates (b.written blanks parts) v := by
  rw [Evaluates, hcontained]
  cases hall : xs.all b.contained with
  | true =>
    obtain ⟨ys, hys, hparts⟩ := exists_of_evaluatesPart h hall
    obtain ⟨w, hw, hmode, hagrees⟩ := hresult hall ys hys
    have hnonempty : ys ≠ [] := by
      rintro rfl
      cases hys
      exact hne rfl
    refine Or.inl ⟨rfl, w, hagrees, fun holes rest _ => ?_⟩
    rw [eval_written, eval_parts hblanks hparts hnonempty, List.nil_append, hw, hmode]
    rfl
  | false =>
    refine Or.inr ⟨rfl, fun holes rest _ => ?_⟩
    rw [eval_written]
    exact eval_failing_parts hblanks (reads_or_fails h) (fails_of_evaluatesPart h hall) _ _ _

end Bracket

/-! ## The kinds of brackets -/

def Hole.tupleOf : List Value → Hole
  | [] => .round
  | xs => .tuple xs

def Hole.membersOf : List Value → Hole
  | [] => .braces
  | xs => .set xs

def Hole.entriesOf : Entries → Hole
  | [] => .braces
  | es => .key es

namespace Bracket

def ofItems (opening closing : Char) (before : List Value → Hole) (result : List Value → Option Value)
    (opens : State.opened .start opening = some (before [])) (closes : closing ∈ [']', ')', '\x7d'])
    (comma : ∀ xs x, (before xs).comma x = some (before (xs ++ [x])))
    (close : ∀ xs x, (before xs).close closing (some x) = result (xs ++ [x])) : Bracket Value :=
  { opening, closing, before, result, opens, closes, comma, close
    behind := fun xs _ => before xs
    last := id
    contained := Value.selfContained
    agrees := Agrees }

def ofList : Bracket Value :=
  ofItems '[' ']' .list (some ∘ .list) rfl (by decide) (fun _ _ => rfl) (fun _ _ => rfl)

/-- Round brackets around one part only group it. -/
def tupleOf : List Value → Option Value
  | [x] => some x
  | xs => some (.tuple xs)

def ofTuple : Bracket Value :=
  ofItems '(' ')' Hole.tupleOf tupleOf rfl (by decide) (fun xs _ => by cases xs <;> rfl) fun xs _ =>
    match xs with
    | [] | [_] | _ :: _ :: _ => rfl

def ofSet : Bracket Value :=
  ofItems '\x7b' '\x7d' Hole.membersOf setOf rfl (by decide) (fun xs _ => by cases xs <;> rfl)
    (fun xs _ => by cases xs <;> rfl)

def ofMap : Bracket (Value × Value) where
  opening := '\x7b'
  closing := '\x7d'
  before := Hole.entriesOf
  behind es e := .value es e.1
  last := Prod.snd
  result := mapOf
  contained e := e.1.selfContained && e.2.selfContained
  agrees e f := e.1 = f.1 ∧ e.2.equal f.2
  opens := rfl
  closes := by decide
  comma es _ := by cases es <;> rfl
  close _ _ := rfl

end Bracket

/-! ## Items -/

section
variable {cs blanks : List Char} {parts : List (List Char)} {v : Value} {xs ws : List Value}

theorem evaluatesPart_item {opening closing : Char} {before : List Value → Hole} {result : List Value → Option Value}
    {opens : State.opened .start opening = some (before [])} {closes : closing ∈ [']', ')', '\x7d']}
    {comma : ∀ xs x, (before xs).comma x = some (before (xs ++ [x]))}
    {close : ∀ xs x, (before xs).close closing (some x) = result (xs ++ [x])} (h : Evaluates cs v) :
    (Bracket.ofItems opening closing before result opens closes comma close).EvaluatesPart cs v := by
  rcases h with ⟨hcontained, w, hagrees, hreads⟩ | ⟨hcontained, hfails⟩
  · exact Or.inl ⟨hcontained, w, hagrees, fun _ holes => hreads (_ :: holes)⟩
  · exact Or.inr ⟨hcontained, fun _ holes => hfails (_ :: holes)⟩

theorem equalItems_of_agree (h : List.Forall₂ Agrees ws xs) : Value.equalItems ws xs :=
  Value.equalItems_of_forall₂ (h.imp fun _ _ => And.left)

theorem eq_of_agree (h : List.Forall₂ Agrees ws xs) : (∀ x ∈ xs, x.canBeKey) → ws = xs := by
  induction h with
  | nil => exact fun _ => rfl
  | cons hx _ ih =>
    intro hkeys
    obtain ⟨hkey, hkeys⟩ := List.forall_mem_cons.mp hkeys
    rw [hx.2 hkey, ih hkeys]

theorem evaluates_list (hblanks : blanks.all isSpace) (h : List.Forall₂ Evaluates parts xs) :
    Evaluates (Bracket.ofList.written blanks parts) (.list xs) := by
  rcases eq_or_ne xs [] with rfl | hne
  · cases h
    exact Or.inl ⟨rfl, .list [], ⟨rfl, fun _ => rfl⟩, Bracket.reads_empty rfl rfl⟩
  refine Bracket.evaluates hblanks (h.imp fun _ _ => evaluatesPart_item) hne (Value.areSelfContained_eq_all xs) ?_
  intro _ ws hws
  exact ⟨.list ws, rfl, rfl, equalItems_of_agree hws, fun hkey => nomatch hkey⟩

theorem agrees_tuple (h : List.Forall₂ Agrees ws xs) : Agrees (.tuple ws) (.tuple xs) := by
  refine ⟨equalItems_of_agree h, fun hkeys => congrArg Value.tuple (eq_of_agree h ?_)⟩
  rw [Value.canBeKey, Value.canBeKeys_eq_all] at hkeys
  exact List.all_eq_true.mp hkeys

theorem evaluates_tuple (hblanks : blanks.all isSpace) (h : List.Forall₂ Evaluates parts xs) (hmany : xs.length ≠ 1) :
    Evaluates (Bracket.ofTuple.written blanks parts) (.tuple xs) := by
  rcases eq_or_ne xs [] with rfl | hne
  · cases h
    exact Or.inl ⟨rfl, .tuple [], ⟨rfl, fun _ => rfl⟩, Bracket.reads_empty rfl rfl⟩
  refine Bracket.evaluates hblanks (h.imp fun _ _ => evaluatesPart_item) hne (Value.areSelfContained_eq_all xs) ?_
  intro _ ws hws
  refine ⟨.tuple ws, ?_, rfl, agrees_tuple hws⟩
  match ws, hws.length_eq with
  | [], _ => rfl
  | [_], hlength => exact absurd hlength.symm hmany
  | _ :: _ :: _, _ => rfl

theorem evaluates_single (h : Evaluates cs v) : Evaluates ('(' :: (cs ++ [',', ')'])) (.tuple [v]) := by
  have hcontained : (Value.tuple [v]).selfContained = v.selfContained := Bool.and_true _
  have hopen (holes : List Hole) (rest : List Char) :
      State.eval ⟨holes, .start⟩ ('(' :: (cs ++ [',', ')']) ++ rest) =
        State.eval ⟨.round :: holes, .start⟩ (cs ++ ',' :: ')' :: rest) := by
    rw [List.cons_append, eval_open rfl, List.append_assoc]
    rfl
  rw [Evaluates, hcontained]
  rcases h with ⟨hv, w, hagrees, hreads⟩ | ⟨hv, hfails⟩
  · refine Or.inl ⟨hv, .tuple [w], agrees_tuple (.cons hagrees .nil), fun holes rest _ => ?_⟩
    rw [hopen, hreads _ _ (ends_cons rfl _), eval_comma rfl, eval_close_start (by decide)]
    rfl
  · refine Or.inr ⟨hv, fun holes rest _ => ?_⟩
    rw [hopen, hfails _ _ (ends_cons rfl _)]

/-! ## Members of sets -/

theorem setOf_of_unlike (hkeys : ∀ x ∈ xs, x.canBeKey) (h : Value.Unlike xs) : setOf xs = some (.set xs) := by
  rw [setOf, if_pos (List.all_eq_true.mpr hkeys), Value.ofSetItems_of_unlike h]

/-- The members of a set may be written in any order. -/
theorem evaluates_set (hblanks : blanks.all isSpace) (h : List.Forall₂ Evaluates parts xs) (hne : xs ≠ [])
    (hperm : xs.Perm ws) (hkeys : ∀ x ∈ ws, x.canBeKey) (hunlike : Value.Unlike ws) :
    Evaluates (Bracket.ofSet.written blanks parts) (.set ws) := by
  have hcontained : (Value.set ws).selfContained = xs.all Value.selfContained := by
    rw [hperm.all_eq]
    exact Value.areSelfContained_eq_all ws
  refine Bracket.evaluates hblanks (h.imp fun _ _ => evaluatesPart_item) hne hcontained ?_
  intro hall ys hys
  have hkeys' : ∀ x ∈ xs, x.canBeKey := fun x hx => hkeys x (hperm.subset hx)
  obtain rfl := eq_of_agree hys hkeys'
  have hset := setOf_of_unlike hkeys' (Value.unlike_of_perm hperm.symm hkeys hunlike)
  refine ⟨.set ys, hset, rfl, ?_, fun hkey => nomatch hkey⟩
  exact Value.equal_set_of_perm hperm fun x hx =>
    Value.equal_self_of_key (hkeys' x hx) (List.all_eq_true.mp hall x hx)

end

/-! ## Entries of mappings -/

section
variable {key value blanks : List Char} {parts : List (List Char)} {k v : Value} {es : Entries}

theorem eval_key {w : Value} (h : Reads key w) (before : Entries) (holes : List Hole) (rest : List Char) :
    State.eval ⟨Hole.entriesOf before :: holes, .start⟩ (key ++ ':' :: ' ' :: rest) =
      State.eval ⟨.value before w :: holes, .start⟩ rest := by
  have hcolon : (Hole.entriesOf before).colon w = some (.value before w) := by
    cases before <;> rfl
  rw [h _ _ (ends_cons rfl _), eval_colon hcolon, State.eval_space _ rfl]

theorem readsPart_entry (hkey : Reads key k) (hvalue : Reads value v) :
    Bracket.ofMap.ReadsPart (key ++ ':' :: ' ' :: value) (k, v) := by
  intro before holes rest hrest
  rw [List.append_assoc]
  exact (eval_key hkey before holes _).trans (hvalue _ rest hrest)

theorem evaluatesPart_entry (hkey : Evaluates key k) (hcan : k.canBeKey) (hvalue : Evaluates value v) :
    Bracket.ofMap.EvaluatesPart (key ++ ':' :: ' ' :: value) (k, v) := by
  have hassoc (rest : List Char) : key ++ ':' :: ' ' :: value ++ rest = key ++ ':' :: ' ' :: (value ++ rest) :=
    List.append_assoc _ _ _
  rcases hkey with ⟨hk, k', hagrees, hreads⟩ | ⟨hk, hfails⟩
  · obtain rfl := hagrees.2 hcan
    have hcontained : Bracket.ofMap.contained (k', v) = v.selfContained := by
      simp [Bracket.ofMap, hk]
    rw [Bracket.EvaluatesPart, hcontained]
    rcases hvalue with ⟨hv, w, hw, hreads'⟩ | ⟨hv, hfails⟩
    · exact Or.inl ⟨hv, (k', w), ⟨rfl, hw.1⟩, readsPart_entry hreads hreads'⟩
    · refine Or.inr ⟨hv, fun before holes rest hrest => ?_⟩
      rw [hassoc]
      exact (eval_key hreads before holes _).trans (hfails _ rest hrest)
  · refine Or.inr ⟨?_, fun before holes rest _ => ?_⟩
    · simp [Bracket.ofMap, hk]
    · rw [hassoc]
      exact hfails _ _ (ends_cons rfl _)

theorem mapOf_of_distinct (hkeys : ∀ e ∈ es, e.1.canBeKey) (h : Entries.Distinct es) : mapOf es = some (.map es) := by
  rw [mapOf, if_pos (List.all_eq_true.mpr hkeys)]
  exact congrArg (fun es => some (Value.map es)) (Entries.foldl_put_of_distinct h)

theorem reads_fields {α : Type} {xs : List α} {key : α → String} {value : α → List Char} {result : α → Value}
    {last : List Char} (hblanks : blanks.all isSpace) (hlast : last.all isSpace) (hkeys : (xs.map key).Nodup)
    (hvalues : ∀ x ∈ xs, Reads (value x) (result x)) :
    Reads (Bracket.ofMap.terminated blanks
      (xs.map fun x => (Text.literal (key x)).toList ++ ':' :: ' ' :: value x) last)
      (.ofFields (xs.map fun x => (key x, result x))) := by
  have hparts : List.Forall₂ Bracket.ofMap.ReadsPart
      (xs.map fun x => (Text.literal (key x)).toList ++ ':' :: ' ' :: value x)
      (xs.map fun x => (.text (key x), result x)) := by
    rw [List.forall₂_map_left_iff, List.forall₂_map_right_iff, List.forall₂_same]
    exact fun x hx => readsPart_entry (reads_literal _) (hvalues x hx)
  have hclose (es : Entries) : (Hole.entriesOf es).close '\x7d' none = mapOf es := by
    cases es <;> rfl
  rw [Value.ofFields, List.map_map]
  refine Bracket.reads_terminated hblanks hlast hparts ((hclose _).trans ?_) rfl
  refine mapOf_of_distinct ?_ (Entries.distinct_of_nodup hkeys)
  exact List.forall_mem_map.mpr fun _ _ => rfl

theorem keys_of_agree {fs : Entries} (h : List.Forall₂ Bracket.ofMap.agrees es fs) :
    es.map Prod.fst = fs.map Prod.fst := by
  induction h with
  | nil => rfl
  | cons h _ ih => rw [List.map_cons, List.map_cons, h.1, ih]

theorem evaluates_map (hblanks : blanks.all isSpace) (h : List.Forall₂ Bracket.ofMap.EvaluatesPart parts es)
    (hkeys : ∀ e ∈ es, e.1.canBeKey) (hdistinct : Entries.Distinct es) :
    Evaluates (Bracket.ofMap.written blanks parts) (.map es) := by
  rcases eq_or_ne es [] with rfl | hne
  · cases h
    exact Or.inl ⟨rfl, .map [], ⟨rfl, fun _ => rfl⟩, Bracket.reads_empty rfl rfl⟩
  refine Bracket.evaluates hblanks h hne (Value.entriesAreSelfContained_eq_all es) ?_
  intro hall fs hfs
  have hsame := keys_of_agree hfs
  have hkeys' : ∀ k ∈ es.map Prod.fst, k.canBeKey := List.forall_mem_map.mpr hkeys
  have hdistinct' : (es.map Prod.fst).Pairwise fun k k' => k.equal k' = false := List.pairwise_map.mpr hdistinct
  rw [← hsame] at hkeys' hdistinct'
  refine ⟨.map fs, ?_, rfl, ?_, fun hkey => nomatch hkey⟩
  · exact mapOf_of_distinct (List.forall_mem_map.mp hkeys') (List.pairwise_map.mp hdistinct')
  · refine Value.equal_map_of_forall₂ hdistinct (fun e he => ?_) hfs
    have hcontained : e.1.selfContained && e.2.selfContained := List.all_eq_true.mp hall e he
    rw [Bool.and_eq_true] at hcontained
    exact ⟨hkeys e he, Value.equal_self_of_key (hkeys e he) hcontained.1⟩

end

end Scaffold.Expression
