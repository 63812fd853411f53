import Scaffold.Proofs.Page.Parts
import Scaffold.Proofs.Text.Split

/-!
# What a page is written from

A page consists of the text of its template and of the values put into it, each
through a filter or as it is. A page can be filled so that these are kept
apart, and what opens a tag in it is counted from the two
(`Node.fillAll_of_write`).
-/

namespace Scaffold

namespace Text

/-- How often a text has the character that opens a tag. -/
def openings (s : String) : Nat := s.toList.count '<'

@[simp] theorem openings_empty : openings "" = 0 := rfl

@[simp] theorem openings_append (a b : String) : openings (a ++ b) = openings a + openings b := by
  simp [openings]

theorem openings_intercalate {sep : String} (hsep : openings sep = 0) : ∀ ss : List String,
    openings (sep.intercalate ss) = (ss.map openings).sum
  | [] => by simp
  | [s] => by simp
  | s :: s' :: ss => by
    rw [String.intercalate_cons_of_ne_nil (List.cons_ne_nil _ _), openings_append, openings_append, hsep,
      openings_intercalate hsep (s' :: ss), List.map_cons (l := s' :: ss), List.sum_cons, Nat.add_zero]

/-! ## Lines -/

theorem openings_lines (s : String) : ((lines s).map openings).sum = openings s := by
  have h := count_lineSpans (d := '<') rfl [] s.toList
  rw [lines, List.map_map]
  simpa [openings, Function.comp_def] using h

end Text

theorem openings_indentLines (width : Nat) (s : String) :
    Text.openings (indentLines width s) = Text.openings s := by
  have hmargin : Text.openings (String.ofList (List.replicate width ' ')) = 0 := by
    simp [Text.openings, List.count_replicate]
  have hbreak : Text.openings "\n" = 0 := by decide
  have hlines := Text.openings_lines (s ++ "\n")
  rw [Text.openings_append, hbreak, Nat.add_zero] at hlines
  unfold indentLines
  split
  · rename_i hnone
    rw [← hlines, hnone, hmargin]
    rfl
  · rename_i first rest hcons
    have hrest : ∀ l ∈ rest, Text.openings (if l.isEmpty then l else
        String.ofList (List.replicate width ' ') ++ l) = Text.openings l := by
      intro l _
      split
      · rfl
      · rw [Text.openings_append, hmargin, Nat.zero_add]
    rw [Text.openings_intercalate hbreak, List.map_cons, List.map_map, ← hlines, hcons, List.map_cons,
      List.sum_cons, List.sum_cons, Text.openings_append, hmargin, Nat.zero_add]
    exact congrArg (_ + List.sum ·) (List.map_congr_left hrest)

/-! ## Values put into a page -/

/-- A value put into a page, with the filter that it passes through if there is one. -/
structure Put where
  filter : Option Filter
  value : Value

def Put.shown (p : Put) : String :=
  match p.filter with
  | none => p.value.plain
  | some f =>
    match f.apply p.value with
    | .ok v => v.plain
    | .error _ => ""

def Put.openings (ps : List Put) : Nat := (ps.map fun p => Text.openings p.shown).sum

@[simp] theorem Put.openings_nil : Put.openings [] = 0 := rfl

@[simp] theorem Put.openings_cons (p : Put) (ps : List Put) :
    Put.openings (p :: ps) = Text.openings p.shown + Put.openings ps := rfl

@[simp] theorem Put.openings_append (ps ps' : List Put) :
    Put.openings (ps ++ ps') = Put.openings ps + Put.openings ps' := by
  simp [Put.openings]

namespace Expr

def put (s : Scope) : Expr → Except FillFault Put
  | .filtered f e => do
    let v ← e.value s
    let _ ← f.apply v
    return ⟨some f, v⟩
  | e => do return ⟨none, ← e.value s⟩

theorem value_of_put {s : Scope} {e : Expr} {p : Put} (h : e.put s = .ok p) :
    ∃ v, e.value s = .ok v ∧ v.plain = p.shown := by
  cases e with
  | filtered f e =>
    obtain ⟨v, hv, h⟩ := bind_eq_ok.mp h
    obtain ⟨w, hw, rfl⟩ := bind_pure_eq_ok.mp h
    obtain ⟨found, hfound, hv⟩ := bind_eq_ok.mp hv
    cases found with
    | undefined fault => cases hv
    | value v' =>
      cases hv
      refine ⟨w, ?_, by simp only [Put.shown, hw]⟩
      rw [value, eval, hfound]
      simp [hw, Found.get, bind, Except.bind, pure, Except.pure]
  | name | attr | constant | concat | choose =>
    obtain ⟨v, hv, rfl⟩ := bind_pure_eq_ok.mp h
    exact ⟨v, hv, rfl⟩

end Expr

/-! ## Filling with the values kept apart -/

/-- A text, the values that were put into it in their order, and how many tags are opened by what the
template says itself. -/
structure Written where
  text : String
  puts : List Put
  own : Nat

namespace Written

def empty : Written := ⟨"", [], 0⟩

def append (w w' : Written) : Written := ⟨w.text ++ w'.text, w.puts ++ w'.puts, w.own + w'.own⟩

def Counted (w : Written) : Prop :=
  Text.openings w.text = w.own + Put.openings w.puts

theorem Counted.append {w w' : Written} (h : w.Counted) (h' : w'.Counted) : (w.append w').Counted := by
  unfold Counted at h h' ⊢
  simp only [Written.append, Text.openings_append, h, h', Put.openings_append]
  omega

end Written

namespace Node

def writeEach (writeBody : Scope → Except FillFault Written) (s : Scope) (item : String) :
    List Value → Except FillFault Written
  | [] => .ok .empty
  | x :: xs => do
    let first ← writeBody (s.bind item x xs.isEmpty)
    return first.append (← writeEach writeBody s item xs)

mutual

/-- A part filled, with the values that are put into it kept apart. -/
def write (s : Scope) : Node → Except FillFault Written
  | .text t => .ok ⟨t, [], Text.openings t⟩
  | .put e => do
    let p ← e.put s
    return ⟨p.shown, [p], 0⟩
  | .each item of body => do
    let v ← of.value s
    match v.elements? with
    | some xs => writeEach (fun s' => writeAll s' body) s item xs
    | none => throw (.notIterable v.typeName)
  | .branch condition yes no => do
    if ← condition.eval s then writeAll s yes else writeAll s no
  | .indented width body => do
    let w ← writeAll s body
    return { w with text := indentLines width w.text }

def writeAll (s : Scope) : List Node → Except FillFault Written
  | [] => .ok .empty
  | n :: ns => do
    let first ← write s n
    return first.append (← writeAll s ns)

end

theorem fillEach_of_writeEach {writeBody : Scope → Except FillFault Written}
    {fillBody : Scope → Except FillFault String}
    (h : ∀ s w, writeBody s = .ok w → fillBody s = .ok w.text ∧ w.Counted) {s : Scope} {item : String} :
    ∀ {xs : List Value} {w : Written}, writeEach writeBody s item xs = .ok w →
      fillEach fillBody s item xs = .ok w.text ∧ w.Counted
  | [], _, hw => by
    cases hw
    exact ⟨rfl, rfl⟩
  | x :: xs, _, hw => by
    obtain ⟨first, hfirst, hw⟩ := bind_eq_ok.mp hw
    obtain ⟨rest, hrest, rfl⟩ := bind_pure_eq_ok.mp hw
    obtain ⟨hfill, hcount⟩ := h _ _ hfirst
    obtain ⟨hfills, hcounts⟩ := fillEach_of_writeEach h hrest
    exact ⟨by rw [fillEach, hfill, hfills]; rfl, hcount.append hcounts⟩

mutual

theorem fill_of_write : ∀ (n : Node) {s : Scope} {w : Written}, n.write s = .ok w →
    n.fill s = .ok w.text ∧ w.Counted
  | .text t, s, w, h => by
    cases h
    exact ⟨rfl, rfl⟩
  | .put e, s, w, h => by
    obtain ⟨p, hp, rfl⟩ := bind_pure_eq_ok.mp h
    obtain ⟨v, hv, hshown⟩ := e.value_of_put hp
    refine ⟨?_, by simp [Written.Counted]⟩
    rw [fill, hv, ← hshown]; rfl
  | .each item of body, s, w, h => by
    rw [write] at h
    obtain ⟨v, hv, h⟩ := bind_eq_ok.mp h
    rw [fill, hv]
    cases hxs : v.elements? with
    | none =>
      rw [hxs] at h
      cases h
    | some xs =>
      rw [hxs] at h
      have hall := fillEach_of_writeEach (fun s' w' hw' => fillAll_of_writeAll body hw') h
      simp only [bind, Except.bind, hxs]
      exact hall
  | .branch condition yes no, s, w, h => by
    rw [write] at h
    obtain ⟨b, hb, h⟩ := bind_eq_ok.mp h
    rw [fill, hb]
    cases b with
    | true => exact fillAll_of_writeAll yes h
    | false => exact fillAll_of_writeAll no h
  | .indented width body, s, w, h => by
    rw [write] at h
    obtain ⟨w', hw', rfl⟩ := bind_pure_eq_ok.mp h
    obtain ⟨hfill, hcount⟩ := fillAll_of_writeAll body hw'
    refine ⟨by rw [fill, hfill]; rfl, ?_⟩
    unfold Written.Counted at hcount ⊢
    rw [openings_indentLines, hcount]

/-- What is written with its values kept apart is what the template is filled to, and what opens a
tag in it comes from the template and from those values. -/
theorem fillAll_of_writeAll : ∀ (ns : List Node) {s : Scope} {w : Written}, writeAll s ns = .ok w →
    fillAll s ns = .ok w.text ∧ w.Counted
  | [], s, w, h => by
    cases h
    exact ⟨rfl, rfl⟩
  | n :: ns, s, w, h => by
    obtain ⟨first, hfirst, h⟩ := bind_eq_ok.mp h
    obtain ⟨rest, hrest, rfl⟩ := bind_pure_eq_ok.mp h
    obtain ⟨hfill, hcount⟩ := fill_of_write n hfirst
    obtain ⟨hfills, hcounts⟩ := fillAll_of_writeAll ns hrest
    exact ⟨by rw [fillAll, hfill, hfills]; rfl, hcount.append hcounts⟩

end

/-! ## Parts by what they put -/

/-- A part can be filled and puts these values, and what it says itself opens so many tags. -/
def Puts (s : Scope) (ns : List Node) (ps : List Put) (own : Nat) : Prop :=
  ∃ t, writeAll s ns = .ok ⟨t, ps, own⟩

namespace Puts

variable {s : Scope} {n : Node} {ns : List Node} {ps ps' : List Put} {own own' : Nat}

theorem nil : Puts s [] [] 0 := ⟨"", rfl⟩

theorem cons {t : String} (h : n.write s = .ok ⟨t, ps, own⟩) (h' : Puts s ns ps' own') :
    Puts s (n :: ns) (ps ++ ps') (own + own') := by
  obtain ⟨t', ht'⟩ := h'
  exact ⟨t ++ t', by rw [writeAll, h, ht']; rfl⟩

theorem of_cons (h : Puts s (n :: ns) ps own) : ∃ t ps₁ own₁ ps₂ own₂, n.write s = .ok ⟨t, ps₁, own₁⟩ ∧
    Puts s ns ps₂ own₂ ∧ ps₁ ++ ps₂ = ps ∧ own₁ + own₂ = own := by
  obtain ⟨t, ht⟩ := h
  obtain ⟨⟨t₁, ps₁, own₁⟩, h₁, ht⟩ := bind_eq_ok.mp ht
  obtain ⟨⟨t₂, ps₂, own₂⟩, h₂, ht⟩ := bind_eq_ok.mp ht
  cases ht
  exact ⟨t₁, ps₁, own₁, ps₂, own₂, h₁, ⟨t₂, h₂⟩, rfl, rfl⟩

theorem text {t : String} (h : Puts s ns ps own) :
    Puts s (.text t :: ns) ps (Text.openings t + own) := by
  have htext : (Node.text t).write s = .ok ⟨t, [], Text.openings t⟩ := rfl
  exact cons htext h

theorem put {e : Expr} {p : Put} (he : e.put s = .ok p) (h : Puts s ns ps own) :
    Puts s (.put e :: ns) (p :: ps) own := by
  have hput : (Node.put e).write s = .ok ⟨p.shown, [p], 0⟩ := by
    rw [write, he]; rfl
  simpa using cons hput h

theorem branch {condition : Condition} {yes no : List Node} {b : Bool} (hc : condition.eval s = .ok b)
    (hb : Puts s (if b then yes else no) ps own) (h : Puts s ns ps' own') :
    Puts s (.branch condition yes no :: ns) (ps ++ ps') (own + own') := by
  obtain ⟨t, ht⟩ := hb
  refine cons (t := t) ?_ h
  rw [write, hc]
  cases b <;> exact ht

theorem last_yes {condition : Condition} {yes no : List Node} (hc : condition.eval s = .ok true)
    (hb : Puts s yes ps own) : Puts s [.branch condition yes no] ps own := by
  simpa using branch hc hb .nil

theorem last_no {condition : Condition} {yes no : List Node} (hc : condition.eval s = .ok false)
    (hb : Puts s no ps own) : Puts s [.branch condition yes no] ps own := by
  simpa using branch hc hb .nil

theorem indented {width : Nat} {body : List Node} (hb : Puts s body ps own) (h : Puts s ns ps' own') :
    Puts s (.indented width body :: ns) (ps ++ ps') (own + own') := by
  obtain ⟨t, ht⟩ := hb
  refine cons (t := indentLines width t) ?_ h
  rw [write, ht]; rfl

theorem each {α : Type} {item : String} {e : Expr} {body : List Node} {as : List α} {write : α → Value}
    {puts : α → List Put} {owns : α → Nat} (he : e.value s = .ok (.list (as.map write)))
    (hb : ∀ a ∈ as, ∀ last, Puts (s.bind item (write a) last) body (puts a) (owns a))
    (h : Puts s ns ps own) :
    Puts s (.each item e body :: ns) (as.flatMap puts ++ ps) ((as.map owns).sum + own) := by
  have hall : ∀ as : List α, (∀ a ∈ as, ∀ last, Puts (s.bind item (write a) last) body (puts a) (owns a)) →
      ∃ t, writeEach (fun s' => writeAll s' body) s item (as.map write) =
        .ok ⟨t, as.flatMap puts, (as.map owns).sum⟩ := by
    intro as hb
    induction as with
    | nil => exact ⟨"", rfl⟩
    | cons a as ih =>
      obtain ⟨t, ht⟩ := hb a List.mem_cons_self (as.map write).isEmpty
      obtain ⟨t', ht'⟩ := ih fun b hb' => hb b (List.mem_cons_of_mem a hb')
      exact ⟨t ++ t', by rw [List.map_cons, writeEach, ht, ht']; rfl⟩
  obtain ⟨t, ht⟩ := hall as hb
  refine cons (t := t) ?_ h
  rw [Node.write, he]
  exact ht

end Puts

def isText : Node → Bool
  | .text _ => true
  | _ => false

def ownOpenings : List Node → Nat
  | [] => 0
  | .text t :: ns => Text.openings t + ownOpenings ns
  | _ :: ns => ownOpenings ns

/-- Apart from what it always says itself, a part is its holes and the parts within it. -/
theorem Puts.of_holes {s : Scope} {ps : List Put} {own : Nat} : ∀ {ns : List Node},
    Puts s (ns.filter (!·.isText)) ps own → Puts s ns ps (ownOpenings ns + own)
  | [], h => by simpa [ownOpenings] using h
  | .text t :: ns, h => by
    rw [ownOpenings, Nat.add_assoc]
    exact .text (of_holes h)
  | .put _ :: ns, h | .each _ _ _ :: ns, h | .branch _ _ _ :: ns, h | .indented _ _ :: ns, h => by
    obtain ⟨t, ps₁, own₁, ps₂, own₂, hn, hns, rfl, rfl⟩ := of_cons h
    refine (?_ : Puts s _ _ (ownOpenings ns + (own₁ + own₂)))
    rw [Nat.add_left_comm]
    exact cons hn (of_holes hns)

theorem Puts.of_holes_eq {s : Scope} {ns : List Node} {ps : List Put} {own : Nat}
    (h : Puts s (ns.filter (!·.isText)) ps 0) (hown : ownOpenings ns = own) : Puts s ns ps own :=
  hown ▸ h.of_holes

end Node

end Scaffold
