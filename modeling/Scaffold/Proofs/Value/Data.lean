import Mathlib.Data.List.Forall2
import Scaffold.Proofs.Value.Entries

/-!
# Data

What a loader can yield: mappings whose keys are unlike each other and can be
keys, and sets of such members. Of these, equality of keys goes both ways
(`Value.equal_comm_of_key`).
-/

namespace Scaffold

namespace Value

mutual

/-- What can be a key of a mapping or a member of a set, with all its parts. -/
def canBeKey : Value → Bool
  | .list _ | .set _ | .map _ => false
  | .tuple xs => canBeKeys xs
  | _ => true

def canBeKeys : List Value → Bool
  | [] => true
  | x :: xs => canBeKey x && canBeKeys xs

end

mutual

/-- Whether the literal of a value has no names but those of constants, and no number too long to be
read. -/
def selfContained : Value → Bool
  | .missing | .date _ | .moment _ => false
  | .int n => (Decimal.digitsOf n.natAbs).length ≤ Decimal.digitLimit
  | .real x => x.isFinite
  | .list xs | .tuple xs | .set xs => areSelfContained xs
  | .map es => entriesAreSelfContained es
  | .null | .bool _ | .text _ | .bytes _ => true

def areSelfContained : List Value → Bool
  | [] => true
  | x :: xs => selfContained x && areSelfContained xs

def entriesAreSelfContained : Entries → Bool
  | [] => true
  | (k, v) :: es => selfContained k && selfContained v && entriesAreSelfContained es

end

def Unlike (xs : List Value) : Prop := xs.Pairwise fun x y => x.equal y = false

mutual

/-- Whether a value is one that a loader can yield. -/
def IsData : Value → Prop
  | .list xs | .tuple xs => AreData xs
  | .set xs => (∀ x ∈ xs, x.canBeKey) ∧ Unlike xs ∧ AreData xs
  | .map es => (∀ e ∈ es, e.1.canBeKey) ∧ Entries.Distinct es ∧ EntriesAreData es
  | _ => True

def AreData : List Value → Prop
  | [] => True
  | x :: xs => IsData x ∧ AreData xs

def EntriesAreData : Entries → Prop
  | [] => True
  | (k, v) :: es => IsData k ∧ IsData v ∧ EntriesAreData es

end

/-! ## Parts -/

theorem areSelfContained_eq_all : ∀ xs : List Value, areSelfContained xs = xs.all selfContained
  | [] => rfl
  | x :: xs => congrArg (x.selfContained && ·) (areSelfContained_eq_all xs)

theorem entriesAreSelfContained_eq_all : ∀ es : Entries,
    entriesAreSelfContained es = es.all fun e => e.1.selfContained && e.2.selfContained
  | [] => rfl
  | (k, v) :: es => congrArg (k.selfContained && v.selfContained && ·) (entriesAreSelfContained_eq_all es)

theorem canBeKeys_eq_all : ∀ xs : List Value, canBeKeys xs = xs.all canBeKey
  | [] => rfl
  | x :: xs => congrArg (x.canBeKey && ·) (canBeKeys_eq_all xs)

/-! ## Parts of data -/

theorem areData_iff : ∀ {xs : List Value}, AreData xs ↔ ∀ x ∈ xs, x.IsData
  | [] => ⟨fun _ _ hx => (nomatch hx), fun _ => trivial⟩
  | _ :: _ => (and_congr_right' areData_iff).trans List.forall_mem_cons.symm

theorem entriesAreData_iff : ∀ {es : Entries}, EntriesAreData es ↔ ∀ e ∈ es, e.1.IsData ∧ e.2.IsData
  | [] => ⟨fun _ _ he => (nomatch he), fun _ => trivial⟩
  | (_, _) :: es => by
    rw [EntriesAreData, entriesAreData_iff, List.forall_mem_cons]
    exact and_assoc.symm

theorem isData_map_iff {es : Entries} : (Value.map es).IsData ↔
    Entries.Distinct es ∧ ∀ e ∈ es, e.1.canBeKey ∧ e.1.IsData ∧ e.2.IsData := by
  change (_ ∧ _ ∧ EntriesAreData es) ↔ _
  rw [entriesAreData_iff]
  constructor
  · rintro ⟨hkeys, hdistinct, hparts⟩
    exact ⟨hdistinct, fun e he => ⟨hkeys e he, hparts e he⟩⟩
  · rintro ⟨hdistinct, hparts⟩
    exact ⟨fun e he => (hparts e he).1, hdistinct, fun e he => (hparts e he).2⟩

theorem isData_put {es : Entries} {k v : Value} (h : (Value.map es).IsData) (hkey : k.canBeKey) (hk : k.IsData)
    (hv : v.IsData) : (Value.map (es.put k v)).IsData := by
  obtain ⟨hdistinct, hparts⟩ := isData_map_iff.mp h
  refine isData_map_iff.mpr ⟨Entries.put_distinct hdistinct, fun e he => ?_⟩
  obtain ⟨hfirst, hsecond⟩ := Entries.mem_put he
  have hkeyPart : e.1.canBeKey ∧ e.1.IsData := by
    rcases hfirst with heq | ⟨f, hf, heq⟩
    · rw [heq]
      exact ⟨hkey, hk⟩
    · rw [heq]
      exact ⟨(hparts f hf).1, (hparts f hf).2.1⟩
  have hvaluePart : e.2.IsData := by
    rcases hsecond with heq | ⟨f, hf, heq⟩
    · rw [heq]
      exact hv
    · rw [heq]
      exact (hparts f hf).2.2
  exact ⟨hkeyPart.1, hkeyPart.2, hvaluePart⟩

/-- Entries can be written in any order and with keys that occur twice. -/
theorem isData_ofList {es : Entries} (h : ∀ e ∈ es, e.1.canBeKey ∧ e.1.IsData ∧ e.2.IsData) :
    (Value.map (Entries.ofList es)).IsData := by
  refine List.foldlRecOn (motive := fun m => (Value.map m).IsData) es _ ?empty fun m hm e he => ?put
  case empty => exact isData_map_iff.mpr ⟨List.Pairwise.nil, List.forall_mem_nil _⟩
  case put =>
    obtain ⟨hkey, hk, hv⟩ := h e he
    exact isData_put hm hkey hk hv

/-! ## Equality of keys -/

theorem Number.equal_comm (a b : Number) : a.equal b = b.equal a := by
  cases a with
  | int a =>
    cases b with
    | int b => exact BEq.comm
    | real b => rfl
  | real a =>
    cases b with
    | int b => rfl
    | real b =>
      cases a with
      | nan => cases b <;> rfl
      | signed s r =>
        cases b with
        | nan => rfl
        | signed s' r' =>
          by_cases hr : r = r'
          · subst hr
            simp only [equal, Binary64.equal, BEq.comm (a := s)]
          · simp only [equal, Binary64.equal, beq_false_of_ne hr, beq_false_of_ne (Ne.symm hr), Bool.false_and]

theorem equal_comm_of_number {a : Value} {x : Number} (h : a.number? = some x) (b : Value) :
    a.equal b = b.equal a := by
  have hleft : a.equal b = Number.equalValue x b := by
    cases a <;> cases h <;> rfl
  have hright : b.equal a = Number.equalValue x b := by
    cases hb : b.number? with
    | none =>
      rw [Number.equalValue, hb]
      cases a <;> cases h <;> cases b <;> first | rfl | cases hb
    | some y =>
      have hb' : b.equal a = Number.equalValue y a := by
        cases b <;> cases hb <;> rfl
      rw [hb', Number.equalValue, h, Number.equalValue, hb]
      exact Number.equal_comm y x
  rw [hleft, hright]

mutual

theorem equal_comm_of_key : ∀ {a : Value}, a.canBeKey → ∀ b : Value, a.equal b = b.equal a
  | .tuple xs, h, .tuple ys => equalItems_comm_of_keys h ys
  | .tuple xs, h, .null | .tuple xs, h, .missing | .tuple xs, h, .bool _ | .tuple xs, h, .int _
  | .tuple xs, h, .real _ | .tuple xs, h, .text _ | .tuple xs, h, .bytes _ | .tuple xs, h, .date _
  | .tuple xs, h, .moment _ | .tuple xs, h, .list _ | .tuple xs, h, .set _ | .tuple xs, h, .map _ => rfl
  | .null, _, b | .missing, _, b => by cases b <;> rfl
  | .bool _, _, b => equal_comm_of_number rfl b
  | .int _, _, b => equal_comm_of_number rfl b
  | .real _, _, b => equal_comm_of_number rfl b
  | .text s, _, b => by
    cases b with
    | text s' => exact BEq.comm (a := s)
    | _ => rfl
  | .bytes bs, _, b => by
    cases b with
    | bytes bs' => exact BEq.comm (a := bs)
    | _ => rfl
  | .date d, _, b => by
    cases b with
    | date d' => exact BEq.comm (a := d)
    | _ => rfl
  | .moment t, _, b => by
    cases b with
    | moment t' =>
      change t.equal t' = t'.equal t
      unfold Moment.equal
      cases t.offset with
      | none =>
        cases t'.offset with
        | none => exact BEq.comm (a := t.clock)
        | some y => rfl
      | some x =>
        cases t'.offset with
        | none => rfl
        | some y => exact BEq.comm (a := t.clock - x)
    | _ => rfl

theorem equalItems_comm_of_keys : ∀ {xs : List Value}, canBeKeys xs → ∀ ys : List Value,
    equalItems xs ys = equalItems ys xs
  | [], _, [] => rfl
  | [], _, y :: ys => rfl
  | x :: xs, _, [] => rfl
  | x :: xs, h, y :: ys => by
    rw [canBeKeys, Bool.and_eq_true] at h
    rw [equalItems, equalItems, equal_comm_of_key h.1 y, equalItems_comm_of_keys h.2 ys]

end

mutual

/-- Only what is not a number differs from itself. -/
theorem equal_self_of_key : ∀ {a : Value}, a.canBeKey → a.selfContained → a.equal a
  | .null, _, _ => rfl
  | .bool _, _, _ | .int _, _, _ => BEq.rfl
  | .text _, _, _ | .bytes _, _, _ => BEq.rfl
  | .real x, _, h => by
    cases x with
    | nan => cases h
    | signed s r => simp [equal, Number.equalValue, number?, Number.equal, Binary64.equal]
  | .tuple _, hkey, h => equalItems_self_of_keys hkey h

theorem equalItems_self_of_keys : ∀ {xs : List Value}, canBeKeys xs → areSelfContained xs → equalItems xs xs
  | [], _, _ => rfl
  | x :: xs, hkeys, h => by
    rw [canBeKeys, Bool.and_eq_true] at hkeys
    rw [areSelfContained, Bool.and_eq_true] at h
    rw [equalItems, equal_self_of_key hkeys.1 h.1, equalItems_self_of_keys hkeys.2 h.2]
    rfl

end

/-! ## Members of sets -/

theorem foldl_setItems_of_unlike : ∀ {xs out : List Value}, Unlike (out ++ xs) →
    xs.foldl (fun ys x => if ys.any (·.equal x) then ys else ys ++ [x]) out = out ++ xs
  | [], out, _ => (List.append_nil out).symm
  | x :: xs, out, h => by
    have hfresh : out.any (·.equal x) = false := by
      rw [List.any_eq_false]
      intro y hy
      simp [(List.pairwise_append.mp h).2.2 y hy x List.mem_cons_self]
    have hsplit : out ++ [x] ++ xs = out ++ x :: xs := by simp
    rw [List.foldl_cons, hfresh, if_neg (by decide), foldl_setItems_of_unlike (hsplit ▸ h), hsplit]

theorem unlike_foldl_setItems {xs out : List Value} (h : Unlike out) :
    Unlike (xs.foldl (fun ys x => if ys.any (·.equal x) then ys else ys ++ [x]) out) := by
  induction xs generalizing out with
  | nil => exact h
  | cons x xs ih =>
    refine ih ?_
    dsimp only
    split
    · exact h
    · rename_i hfresh
      refine List.pairwise_append.mpr ⟨h, List.pairwise_singleton _ _, fun y hy z hz => ?_⟩
      rw [List.mem_singleton.mp hz]
      exact Bool.eq_false_iff.mpr fun hequal => hfresh (List.any_eq_true.mpr ⟨y, hy, hequal⟩)

theorem mem_of_mem_foldl_setItems {xs out : List Value} {y : Value}
    (h : y ∈ xs.foldl (fun ys x => if ys.any (·.equal x) then ys else ys ++ [x]) out) : y ∈ out ++ xs := by
  induction xs generalizing out with
  | nil => rwa [List.append_nil]
  | cons x xs ih =>
    have hy := ih h
    dsimp only at hy
    split at hy
    · rcases List.mem_append.mp hy with hy | hy
      · exact List.mem_append_left _ hy
      · exact List.mem_append_right _ (List.mem_cons_of_mem _ hy)
    · rwa [List.append_assoc] at hy

theorem isData_ofSetItems {xs : List Value} (h : ∀ x ∈ xs, x.canBeKey ∧ x.IsData) :
    (Value.set (ofSetItems xs)).IsData := by
  have hmem {x : Value} (hx : x ∈ ofSetItems xs) : x ∈ xs := mem_of_mem_foldl_setItems hx
  exact ⟨fun x hx => (h x (hmem hx)).1, unlike_foldl_setItems List.Pairwise.nil,
    areData_iff.mpr fun x hx => (h x (hmem hx)).2⟩

theorem ofSetItems_of_unlike {xs : List Value} (h : Unlike xs) : ofSetItems xs = xs :=
  foldl_setItems_of_unlike h

theorem unlike_of_perm {xs ys : List Value} (hperm : xs.Perm ys) (hkeys : ∀ x ∈ xs, x.canBeKey) (h : Unlike xs) :
    Unlike ys := by
  have hboth : xs.Pairwise fun x y => x.canBeKey ∧ y.canBeKey ∧ x.equal y = false :=
    h.imp_of_mem fun hx hy hxy => ⟨hkeys _ hx, hkeys _ hy, hxy⟩
  refine (hboth.perm hperm ?_).imp fun hxy => hxy.2.2
  rintro x y ⟨hx, hy, hxy⟩
  exact ⟨hy, hx, (equal_comm_of_key hy x).trans hxy⟩

/-! ## Equality of collections -/

theorem equalItems_of_forall₂ {xs ys : List Value} (h : List.Forall₂ (fun x y => x.equal y) xs ys) :
    equalItems xs ys := by
  induction h with
  | nil => rfl
  | cons hxy _ ih => rw [equalItems, hxy, ih]; rfl

theorem allIn_of_subset {xs ys : List Value} (h : ∀ x ∈ xs, x ∈ ys) (hself : ∀ x ∈ xs, x.equal x) :
    allIn xs ys := by
  induction xs with
  | nil => rfl
  | cons x xs ih =>
    rw [List.forall_mem_cons] at h hself
    rw [allIn, ih h.2 hself.2, Bool.and_true, List.any_eq_true]
    exact ⟨x, h.1, hself.1⟩

theorem equal_set_of_perm {xs ys : List Value} (h : xs.Perm ys) (hself : ∀ x ∈ xs, x.equal x) :
    (Value.set xs).equal (.set ys) := by
  rw [equal, h.length_eq, allIn_of_subset (fun x hx => h.subset hx) hself, BEq.rfl]
  rfl

theorem equal_map_of_forall₂ {es fs : Entries} (hdistinct : Entries.Distinct fs)
    (hkeys : ∀ f ∈ fs, f.1.canBeKey ∧ f.1.equal f.1)
    (h : List.Forall₂ (fun e f => e.1 = f.1 ∧ e.2.equal f.2) es fs) : (Value.map es).equal (.map fs) := by
  -- the entries that are left to be found stand behind others with other keys
  have hfound : ∀ {es behind before : Entries}, before ++ behind = fs →
      List.Forall₂ (fun e f => e.1 = f.1 ∧ e.2.equal f.2) es behind → equalEntries es fs := by
    intro es behind before hsplit hall
    induction hall generalizing before with
    | nil => rfl
    | @cons e f es behind hef hall ih =>
      have hf : f ∈ fs := hsplit ▸ List.mem_append_right before List.mem_cons_self
      have hbefore : ∀ g ∈ before, e.1.equal g.1 = false := by
        intro g hg
        rw [hef.1, equal_comm_of_key (hkeys f hf).1]
        exact (List.pairwise_append.mp (hsplit ▸ hdistinct)).2.2 g hg f List.mem_cons_self
      have hfind : fs.find? (fun g => e.1.equal g.1) = some f := by
        rw [← hsplit, List.find?_append, List.find?_eq_none.mpr fun g hg => by simp [hbefore g hg],
          Option.none_or, List.find?_cons_of_pos]
        rw [hef.1]
        exact (hkeys f hf).2
      have hrest := ih (show before ++ [f] ++ behind = fs by rw [List.append_assoc]; exact hsplit)
      obtain ⟨k, v⟩ := e
      rw [equalEntries, hfind, hrest, Bool.and_true]
      exact hef.2
  rw [equal, h.length_eq, hfound (show [] ++ fs = fs from rfl) h, BEq.rfl]
  rfl

end Value

end Scaffold
