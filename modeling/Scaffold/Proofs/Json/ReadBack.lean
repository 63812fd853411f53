import Scaffold.Proofs.Json.Runs
import Scaffold.Proofs.Text.Joined
import Scaffold.Proofs.Value.JsonValues
import Scaffold.Proofs.Value.Writable

/-!
# JSON texts read back

A JSON value is read from its text as it is, keys in their order, unless a
number in it is too long to be read (`Json.read_writeJson`).
-/

namespace Scaffold.Json

/-- The text is read as the value wherever a value may come, but stops the reader if a number in the
value is too long. -/
def ReadsAs (cs : List Char) (v : Value) : Prop :=
  ∀ stack e, e = Expect.value ∨ e = Expect.valueOrClose →
    Runs ⟨stack, e⟩ cs (if v.selfContained then some (State.deliver stack v) else none)

theorem IsToken.readsAs {cs : List Char} {v : Value} (h : IsToken cs (.scalar v)) (hv : v.selfContained) :
    ReadsAs cs v := by
  rintro stack _ (rfl | rfl)
  · exact h.runs fun _ => (if_pos hv).symm
  · exact h.runs fun _ => (if_pos hv).symm

theorem readsAs_int (n : Int) : ReadsAs (Value.intText n).toList (.int n) := by
  have htoken := isToken_int n
  by_cases hlong : Decimal.digitLimit < (Decimal.digitsOf n.natAbs).length
  · have hcontained : (Value.int n).selfContained = false := by simpa [Value.selfContained] using hlong
    rw [if_pos hlong] at htoken
    rintro stack _ (rfl | rfl) <;> rw [hcontained]
    · exact htoken.runs fun _ => rfl
    · exact htoken.runs fun _ => rfl
  · rw [if_neg hlong] at htoken
    exact htoken.readsAs (by simpa [Value.selfContained] using hlong)

theorem readsAs_string (s : String) : ReadsAs (Text.jsonString s).toList (.text s) := by
  rintro stack _ (rfl | rfl)
  · exact (isToken_string s).runs fun _ => rfl
  · exact (isToken_string s).runs fun _ => rfl

/-! ## Items and entries -/

variable {blanks : List Char} {stack : List Frame} {parts : List (List Char)}

/-- Items with commas between them are gathered one by one, until one of them stops the reader. -/
theorem runs_items (hblanks : blanks.all isSpace) {xs : List Value} (h : List.Forall₂ ReadsAs parts xs) (hne : xs ≠ [])
    (items : List Value) {e : Expect} (he : e = .value ∨ e = .valueOrClose) :
    Runs ⟨.array items :: stack, e⟩ ((',' :: blanks).intercalate parts)
      (if xs.all Value.selfContained then some ⟨.array (xs.reverse ++ items) :: stack, .commaOrClose⟩ else none) := by
  induction h generalizing items e with
  | nil => exact absurd rfl hne
  | @cons part x parts xs hx hxs ih =>
    have hfirst := hx (.array items :: stack) e he
    cases hxs with
    | nil =>
      rw [List.intercalate_singleton, List.all_cons, List.all_nil, Bool.and_true]
      exact hfirst
    | @cons part' x' parts xs hx' hxs =>
      have hrest := ih (List.cons_ne_nil x' xs) (x :: items) (Or.inl rfl)
      rw [List.intercalate_cons_cons, List.append_assoc, List.cons_append, List.all_cons, List.reverse_cons,
        List.append_assoc]
      simp only [Bool.and_eq_true, ite_and]
      refine hfirst.append_if ?_ (endsNumeral_cons (by decide) _)
      exact Runs.mark isMark_comma (fun _ => rfl) (hrest.spaces hblanks)

def WritesEntry (cs : List Char) (e : Value × Value) : Prop :=
  ∃ key written, e.1 = .text key ∧ cs = (Text.jsonString key).toList ++ ':' :: ' ' :: written ∧ ReadsAs written e.2

/-- Where a key may come, to be put behind the entries read so far. -/
def TakesKey (s : State) (es : Entries) (stack : List Frame) : Prop :=
  ∀ key position, s.step position (.text key) = .ok ⟨.object es key :: stack, .colon⟩

theorem runs_entry {cs : List Char} {key : String} {v : Value} (h : WritesEntry cs (.text key, v)) {read : Entries}
    {s : State} (hs : TakesKey s read stack) : Runs s cs
      (if v.selfContained then some ⟨.object (read.put (.text key) v) key :: stack, .commaOrClose⟩ else none) := by
  obtain ⟨_, written, hkey, rfl, hwritten⟩ := h
  cases hkey
  have hvalue := hwritten (.object read key :: stack) .value (Or.inl rfl)
  have hstring : Runs s (Text.jsonString key).toList (some ⟨.object read key :: stack, .colon⟩) :=
    (isToken_string key).runs fun position => by rw [hs key position, Except.toOption]
  refine hstring.append ?_ (endsNumeral_cons (by decide) _)
  exact Runs.mark isMark_colon (fun _ => rfl) (hvalue.spaces (by decide : [' '].all isSpace))

theorem runs_entries (hblanks : blanks.all isSpace) {es : Entries} (h : List.Forall₂ WritesEntry parts es)
    (hne : es ≠ []) (read : Entries) {s : State} (hs : TakesKey s read stack) :
    ∃ key, Runs s ((',' :: blanks).intercalate parts) (if es.all fun e => e.1.selfContained && e.2.selfContained then
      some ⟨.object (read.putAll es) key :: stack, .commaOrClose⟩ else none) := by
  induction h generalizing read s with
  | nil => exact absurd rfl hne
  | @cons part e parts es he hes ih =>
    have hentry := he
    obtain ⟨key, -, hkey, -⟩ := hentry
    obtain ⟨k, v⟩ := e
    obtain rfl : k = .text key := hkey
    have hfirst := runs_entry he hs
    have hcontained : ((Value.text key).selfContained && v.selfContained) = v.selfContained := Bool.true_and _
    -- the last entry has no comma behind it
    cases hes with
    | nil =>
      rw [List.intercalate_singleton, List.all_cons, List.all_nil, Bool.and_true, hcontained]
      exact ⟨key, hfirst⟩
    | @cons part' e' parts es he' hes =>
      have hnext : TakesKey ⟨stack, .name (read.put (.text key) v)⟩ (read.put (.text key) v) stack := fun _ _ => rfl
      obtain ⟨last, hrest⟩ := ih (List.cons_ne_nil e' es) (read.put (.text key) v) hnext
      refine ⟨last, ?_⟩
      rw [List.intercalate_cons_cons, List.append_assoc, List.cons_append, List.all_cons, hcontained]
      simp only [Bool.and_eq_true, ite_and]
      refine hfirst.append_if ?_ (endsNumeral_cons (by decide) _)
      exact Runs.mark isMark_comma (fun _ => rfl) (hrest.spaces hblanks)

/-! ## Brackets -/

section
variable (st : JsonStyle) (depth : Nat)

theorem isSpace_lineBreak : (st.lineBreak depth).toList.all isSpace := by
  unfold JsonStyle.lineBreak
  split
  · simp [isSpace]
  · rfl

theorem separator_eq : ∃ blanks, (st.separator depth).toList = ',' :: blanks ∧ blanks.all isSpace := by
  unfold JsonStyle.separator
  split
  · exact ⟨_, String.toList_append, isSpace_lineBreak st depth⟩
  · exact ⟨[' '], rfl, rfl⟩

theorem toList_enclose_nil {opening closing : String} {a b : Char} (ha : opening.toList = [a])
    (hb : closing.toList = [b]) : (st.enclose depth opening closing []).toList = [a, b] := by
  rw [JsonStyle.enclose, List.isEmpty_nil, if_pos rfl, String.toList_append, ha, hb]
  rfl

theorem toList_enclose {opening closing : String} {a b : Char} (ha : opening.toList = [a]) (hb : closing.toList = [b])
    {items : List String} (h : items ≠ []) : (st.enclose depth opening closing items).toList =
      a :: ((st.lineBreak (depth + 1)).toList ++
        ((st.separator (depth + 1)).toList.intercalate (items.map String.toList) ++
          ((st.lineBreak depth).toList ++ [b]))) := by
  rw [JsonStyle.enclose, List.isEmpty_eq_false_iff.mpr h, if_neg (by decide)]
  simp only [String.toList_append, String.toList_intercalate, List.append_assoc, ha, hb]
  rfl

variable {st depth} {texts : List String}

theorem readsAs_list {xs : List Value} (h : List.Forall₂ ReadsAs (texts.map String.toList) xs) :
    ReadsAs (st.enclose depth "[" "]" texts).toList (.list xs) := by
  intro stack e he
  have hopen : ∀ position, State.step ⟨stack, e⟩ position .openArray = .ok ⟨.array [] :: stack, .valueOrClose⟩ := by
    rcases he with rfl | rfl <;> exact fun _ => rfl
  by_cases hne : texts = []
  · subst hne
    cases h
    rw [toList_enclose_nil st depth rfl rfl]
    exact Runs.mark isMark_openArray hopen (Runs.mark isMark_closeArray (fun _ => rfl) (Runs.nil _))
  · obtain ⟨blanks, hseparator, hblanks⟩ := separator_eq st (depth + 1)
    have hxs : xs ≠ [] := by
      rintro rfl
      exact hne (List.map_eq_nil_iff.mp (List.forall₂_nil_right_iff.mp h))
    have hclose : ∀ position, State.step ⟨.array (xs.reverse ++ []) :: stack, .commaOrClose⟩ position .closeArray =
        .ok (State.deliver stack (.list xs)) := by
      rw [List.append_nil]
      exact fun _ => congrArg (fun xs => Except.ok (State.deliver stack (.list xs))) xs.reverse_reverse
    rw [toList_enclose st depth rfl rfl hne, hseparator, Value.selfContained, Value.areSelfContained_eq_all]
    refine Runs.mark isMark_openArray hopen (Runs.spaces ?_ (isSpace_lineBreak st _))
    refine (runs_items hblanks h hxs [] (Or.inr rfl)).append_if ?_
      (endsNumeral_spaces (endsNumeral_cons (by decide) _) (isSpace_lineBreak st _))
    exact Runs.spaces (Runs.mark isMark_closeArray hclose (Runs.nil _)) (isSpace_lineBreak st _)

theorem readsAs_map {es : Entries} (h : List.Forall₂ WritesEntry (texts.map String.toList) es) (hes : es.Distinct) :
    ReadsAs (st.enclose depth "\x7b" "\x7d" texts).toList (.map es) := by
  intro stack e he
  have hopen : ∀ position, State.step ⟨stack, e⟩ position .openObject = .ok ⟨stack, .nameOrClose⟩ := by
    rcases he with rfl | rfl <;> exact fun _ => rfl
  by_cases hne : texts = []
  · subst hne
    cases h
    rw [toList_enclose_nil st depth rfl rfl]
    exact Runs.mark isMark_openObject hopen (Runs.mark isMark_closeObject (fun _ => rfl) (Runs.nil _))
  · obtain ⟨blanks, hseparator, hblanks⟩ := separator_eq st (depth + 1)
    have hne' : es ≠ [] := by
      rintro rfl
      exact hne (List.map_eq_nil_iff.mp (List.forall₂_nil_right_iff.mp h))
    have hes : Entries.Distinct ([] ++ es) := hes
    have hread : Entries.putAll [] es = es := Entries.foldl_put_of_distinct hes
    have hkey : TakesKey ⟨stack, .nameOrClose⟩ [] stack := fun _ _ => rfl
    obtain ⟨key, hentries⟩ := runs_entries hblanks h hne' [] hkey
    rw [hread] at hentries
    rw [toList_enclose st depth rfl rfl hne, hseparator, Value.selfContained, Value.entriesAreSelfContained_eq_all]
    refine Runs.mark isMark_openObject hopen (Runs.spaces ?_ (isSpace_lineBreak st _))
    refine hentries.append_if ?_ (endsNumeral_spaces (endsNumeral_cons (by decide) _) (isSpace_lineBreak st _))
    exact Runs.spaces (Runs.mark isMark_closeObject (fun _ => rfl) (Runs.nil _)) (isSpace_lineBreak st _)

end

/-! ## Values -/

section
variable {st : JsonStyle} {depth : Nat}

theorem writeJson_list_eq_ok {xs : List Value} {text : String} (h : (Value.list xs).writeJson st depth = .ok text) :
    ∃ texts, Value.writeJsonItems st (depth + 1) xs = .ok texts ∧ text = st.enclose depth "[" "]" texts := by
  rw [Value.writeJson] at h
  obtain ⟨texts, htexts, rfl⟩ := bind_pure_eq_ok.mp h
  exact ⟨texts, htexts, rfl⟩

theorem writeJson_map_eq_ok (hst : st.sortKeys = false) {es : Entries} {text : String}
    (h : (Value.map es).writeJson st depth = .ok text) : ∃ texts,
      (Value.writeJsonEntries st (depth + 1) es).mapM id = .ok texts ∧ text = st.enclose depth "\x7b" "\x7d" texts := by
  have hlength : (Value.writeJsonEntries st (depth + 1) es).length ≤ (es.map Prod.fst).length :=
    Nat.le_of_eq (by rw [Value.length_writeJsonEntries, List.length_map])
  unfold Value.writeJson at h
  simp only [hst, Bool.false_eq_true, if_false, pure_bind, List.map_snd_zip hlength] at h
  obtain ⟨texts, htexts, rfl⟩ := bind_pure_eq_ok.mp h
  exact ⟨texts, htexts, rfl⟩

structure Keeps (st : JsonStyle) : Prop where
  ascii : st.ascii = false
  sortKeys : st.sortKeys = false

theorem Keeps.string (hst : Keeps st) (s : String) : st.string s = Text.jsonString s := by
  rw [JsonStyle.string, hst.ascii]
  rfl

theorem forall₂_writeJsonItems : ∀ {xs : List Value} {texts : List String},
    Value.writeJsonItems st depth xs = .ok texts →
      List.Forall₂ (fun x text => x.writeJson st depth = .ok text) xs texts
  | [], _, h => by
    cases h
    exact .nil
  | x :: xs, _, h => by
    rw [Value.writeJsonItems] at h
    obtain ⟨text, htext, h⟩ := bind_eq_ok.mp h
    obtain ⟨texts, htexts, rfl⟩ := bind_pure_eq_ok.mp h
    exact .cons htext (forall₂_writeJsonItems htexts)

def IsEntryText (st : JsonStyle) (depth : Nat) (e : Value × Value) (text : String) : Prop :=
  ∃ key written, e.1 = .text key ∧ e.2.writeJson st depth = .ok written ∧ text = Text.jsonString key ++ ": " ++ written

theorem forall₂_writeJsonEntries (hst : Keeps st) : ∀ {es : Entries} {texts : List String}, (∀ e ∈ es, e.1.isText) →
    (Value.writeJsonEntries st depth es).mapM id = .ok texts → List.Forall₂ (IsEntryText st depth) es texts
  | [], _, _, h => by
    cases h
    exact .nil
  | (k, v) :: es, _, hkeys, h => by
    rw [List.forall_mem_cons] at hkeys
    obtain ⟨key, rfl⟩ := Entries.eq_text_of_isText hkeys.1
    rw [Value.writeJsonEntries, List.mapM_cons] at h
    obtain ⟨text, htext, h⟩ := bind_eq_ok.mp h
    obtain ⟨texts, htexts, rfl⟩ := bind_pure_eq_ok.mp h
    obtain ⟨_, hkey, htext⟩ := bind_eq_ok.mp htext
    obtain ⟨written, hwritten, htext⟩ := bind_eq_ok.mp htext
    cases hkey
    cases htext
    exact .cons ⟨key, written, rfl, hwritten, by rw [hst.string]⟩ (forall₂_writeJsonEntries hst hkeys.2 htexts)

theorem readsAs_writeJson (hst : Keeps st) {v : Value} (hv : v.IsJson) {text : String}
    (h : v.writeJson st depth = .ok text) : ReadsAs text.toList v := by
  induction hv generalizing depth text with
  | null =>
    cases h
    exact isToken_null.readsAs rfl
  | bool b =>
    cases h
    cases b with
    | true => exact isToken_true.readsAs rfl
    | false => exact isToken_false.readsAs rfl
  | int n =>
    cases h
    exact readsAs_int n
  | real hfinite =>
    cases h
    exact (isToken_real st.numbers hfinite).readsAs hfinite
  | text s =>
    cases h
    rw [hst.string]
    exact readsAs_string s
  | list hxs ih =>
    obtain ⟨texts, htexts, rfl⟩ := writeJson_list_eq_ok h
    refine readsAs_list (List.forall₂_map_left_iff.mpr (List.Forall₂.flip ?_))
    exact forall₂_imp_of_mem (forall₂_writeJsonItems htexts) fun x hx text => ih x hx
  | map hkeys hparts ih =>
    obtain ⟨texts, htexts, rfl⟩ := writeJson_map_eq_ok hst.sortKeys h
    refine readsAs_map (List.forall₂_map_left_iff.mpr (List.Forall₂.flip ?_)) hkeys.distinct
    refine forall₂_imp_of_mem (forall₂_writeJsonEntries hst hkeys.isText htexts) fun e he text htext => ?_
    obtain ⟨key, written, hkey, hwritten, rfl⟩ := htext
    refine ⟨key, written.toList, hkey, ?_, ih e he hwritten⟩
    rw [String.toList_append, String.toList_append, List.append_assoc]
    rfl

theorem hasJson_of_isJson (lenient : Bool) {v : Value} (hv : v.IsJson) : v.hasJson lenient := by
  induction hv with
  | null | bool _ | int _ | real _ | text _ => rfl
  | list hxs ih =>
    rw [Value.hasJson, Value.haveJson_eq_all, List.all_eq_true]
    exact ih
  | map hkeys hparts ih =>
    rw [Value.hasJson, Value.entriesHaveJson_eq_all, List.all_eq_true]
    intro e he
    obtain ⟨key, hkey⟩ := Entries.eq_text_of_isText (hkeys.isText e he)
    rw [hkey, ih e he]
    rfl

theorem run_byteOrderMark {cs : List Char} (h : cs.head?.any (·.toNat = 0xFEFF)) :
    State.start.run (tokens 0 0 cs) = .error (.at .value 0) := by
  cases cs with
  | nil => cases h
  | cons c cs =>
    have hc : c = Char.ofNat 0xFEFF := by
      rw [← Char.ofNat_toNat c]
      exact congrArg Char.ofNat (of_decide_eq_true h)
    rw [hc]
    rfl

/-- Reading a text is running the reader over its tokens and taking the value it ends with. -/
theorem toOption_read (cs : List Char) : (read cs).toOption = (State.start.run (tokens 0 0 cs)).toOption.bind fun s =>
    match s.expect with
    | .nothing v => some v
    | _ => none := by
  rw [read]
  split
  · rename_i hmark
    rw [run_byteOrderMark hmark]
    rfl
  · cases State.start.run (tokens 0 0 cs) with
    | error fault => rfl
    | ok s =>
      simp only [Except.toOption, Option.bind_some]
      cases s.expect <;> rfl

theorem read_of_readsAs {cs : List Char} {v : Value} (h : ReadsAs cs v) :
    (read cs).toOption = if v.selfContained then some v else none := by
  have hrun := h [] .value (Or.inl rfl) 0 [] endsNumeral_nil
  rw [List.append_nil] at hrun
  rw [toOption_read]
  change (State.start.run (tokens 0 0 cs)).toOption = _ at hrun
  rw [hrun]
  cases v.selfContained <;> rfl

theorem exists_writeJson (hsort : st.sortKeys = false) {v : Value} (hv : v.IsJson) :
    ∃ text, v.writeJson st depth = .ok text := by
  refine isOk_iff.mp ?_
  rw [Value.isOk_writeJson hsort]
  exact hasJson_of_isJson _ hv

/-- **Read back.** The text of a JSON value is read as the value, unless a number in it is too long. -/
theorem read_writeJson (hst : Keeps st) {v : Value} (hv : v.IsJson) {text : String}
    (h : v.writeJson st depth = .ok text) : (read text.toList).toOption = if v.selfContained then some v else none :=
  read_of_readsAs (readsAs_writeJson hst hv h)

end

end Scaffold.Json
