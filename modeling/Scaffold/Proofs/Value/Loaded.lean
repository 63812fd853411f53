import Scaffold.Json.Reader
import Scaffold.Proofs.Value.Data
import Scaffold.Proofs.Value.Writable
import Scaffold.Yaml.Reading

/-!
# What is read is data

The readers build a value from its parts, scalars first (`Value.Built`). So a
JSON or a YAML text that is read gives data (`Json.isData_of_read`,
`Yaml.isData_of_read`): the keys of its mappings are texts or other scalars,
and no two of them are equal. And nothing in what is read is marked as missing
(`Json.isPresent_of_read`, `Yaml.isPresent_of_read`).
-/

namespace Scaffold

namespace Value

/-! ## Values as they are built -/

def isScalar : Value → Bool
  | .missing | .list _ | .tuple _ | .set _ | .map _ => false
  | _ => true

/-- Values that are put together from scalars, with nothing in a set or under a key that cannot be a key. -/
inductive Built : Value → Prop
  | scalar {v : Value} (h : v.isScalar) : Built v
  | list {xs : List Value} (h : ∀ x ∈ xs, Built x) : Built (.list xs)
  | pair {k v : Value} (hk : Built k) (hv : Built v) : Built (.tuple [k, v])
  | set {xs : List Value} (hkeys : ∀ x ∈ xs, x.canBeKey) (h : ∀ x ∈ xs, Built x) : Built (.set (ofSetItems xs))
  | empty : Built (.map [])
  | put {es : Entries} {k v : Value} (h : Built (.map es)) (hkey : k.canBeKey) (hk : Built k) (hv : Built v) :
      Built (.map (es.put k v))

theorem canBeKey_of_isScalar {v : Value} (h : v.isScalar) : v.canBeKey := by
  cases v <;> first | rfl | cases h

theorem Built.isData {v : Value} (h : v.Built) : v.IsData := by
  induction h with
  | @scalar v h => cases v <;> first | exact trivial | cases h
  | list _ ih => exact areData_iff.mpr ih
  | pair _ _ ihk ihv => exact ⟨ihk, ihv, trivial⟩
  | set hkeys _ ih => exact isData_ofSetItems fun x hx => ⟨hkeys x hx, ih x hx⟩
  | empty => exact isData_map_iff.mpr ⟨List.Pairwise.nil, List.forall_mem_nil _⟩
  | put _ hkey _ _ ih ihk ihv => exact isData_put ih hkey ihk ihv

theorem Built.isPresent {v : Value} (h : v.Built) : v.isPresent := by
  induction h with
  | @scalar v h => cases v <;> first | rfl | cases h
  | list _ ih => exact arePresent_iff.mpr ih
  | pair _ _ ihk ihv => exact arePresent_iff.mpr (by simp [ihk, ihv])
  | set _ _ ih => exact arePresent_iff.mpr fun x hx => ih x (mem_of_mem_foldl_setItems hx)
  | empty => rfl
  | @put es k v _ _ _ _ ih ihk ihv =>
    refine arePresentEntries_iff.mpr fun e he => ?_
    have hes := arePresentEntries_iff.mp ih
    obtain ⟨hfirst, hsecond⟩ := Entries.mem_put he
    constructor
    · rcases hfirst with heq | ⟨f, hf, heq⟩
      · rw [heq]
        exact ihk
      · rw [heq]
        exact (hes f hf).1
    · rcases hsecond with heq | ⟨f, hf, heq⟩
      · rw [heq]
        exact ihv
      · rw [heq]
        exact (hes f hf).2

end Value

namespace Json

/-! ## Tokens -/

def Token.Built : Token → Prop
  | .scalar v => v.isScalar
  | _ => True

theorem built_scanNumber {cs : List Char} {r : Token × Nat} (h : scanNumber cs = some r) : r.1.Built := by
  unfold scanNumber at h
  dsimp only at h
  repeat' split at h
  all_goals cases h <;> first | rfl | exact trivial

theorem built_getD (cs : List Char) : ((scanNumber cs).getD (.unknown, 1)).1.Built := by
  cases hscan : scanNumber cs with
  | none => exact trivial
  | some r => exact built_scanNumber hscan

theorem isScalar_words : ∀ w ∈ words, w.2.isScalar := by simp [words, Value.isScalar]

theorem built_scanToken (position : Nat) (cs : List Char) : (scanToken position cs).1.Built := by
  unfold scanToken
  split
  any_goals exact trivial
  · split
    · exact trivial
    · exact trivial
  · split
    · rename_i hword
      exact isScalar_words _ (List.mem_of_find?_eq_some hword)
    · exact built_getD _

theorem built_tokens : ∀ (cs : List Char) (skip position : Nat), ∀ t ∈ tokens skip position cs, t.2.Built
  | [], _, _, _, ht => nomatch ht
  | c :: cs, k + 1, position, t, ht => built_tokens cs k (position + 1) t ht
  | c :: cs, 0, position, t, ht => by
    unfold tokens at ht
    dsimp only at ht
    split at ht
    · exact built_tokens cs 0 (position + 1) t ht
    · rcases List.mem_cons.mp ht with rfl | ht
      · exact built_scanToken position (c :: cs)
      · exact built_tokens cs _ (position + 1) t ht

/-! ## Steps of the reader -/

def Frame.Built : Frame → Prop
  | .array items => ∀ x ∈ items, x.Built
  | .object es _ => (Value.map es).Built

def Expect.Built : Expect → Prop
  | .name es => (Value.map es).Built
  | .nothing v => v.Built
  | _ => True

structure State.Built (s : State) : Prop where
  stack : ∀ f ∈ s.stack, f.Built
  expect : s.expect.Built

theorem built_deliver {stack : List Frame} {v : Value} (hstack : ∀ f ∈ stack, f.Built) (hv : v.Built) :
    (State.deliver stack v).Built := by
  match stack with
  | [] => exact ⟨nofun, hv⟩
  | .array items :: rest =>
    obtain ⟨hitems, hrest⟩ := List.forall_mem_cons.mp hstack
    exact ⟨List.forall_mem_cons.mpr ⟨List.forall_mem_cons.mpr ⟨hv, hitems⟩, hrest⟩, trivial⟩
  | .object es key :: rest =>
    obtain ⟨hentries, hrest⟩ := List.forall_mem_cons.mp hstack
    exact ⟨List.forall_mem_cons.mpr ⟨hentries.put rfl (.scalar rfl) hv, hrest⟩, trivial⟩

theorem built_openValue {stack : List Frame} {position : Nat} {t : Token} {s : State}
    (hstack : ∀ f ∈ stack, f.Built) (ht : t.Built) (h : State.openValue stack position t = .ok s) : s.Built := by
  cases t with
  | openObject =>
    cases h
    exact ⟨hstack, trivial⟩
  | openArray =>
    cases h
    exact ⟨List.forall_mem_cons.mpr ⟨nofun, hstack⟩, trivial⟩
  | text t =>
    cases h
    exact built_deliver hstack (.scalar rfl)
  | scalar v =>
    cases h
    exact built_deliver hstack (.scalar ht)
  | closeObject | closeArray | colon | comma | broken | unknown => cases h

/-- A step keeps what has been read data. -/
theorem built_step {s s' : State} {position : Nat} {t : Token} (hs : s.Built) (ht : t.Built)
    (h : s.step position t = .ok s') : s'.Built := by
  obtain ⟨stack, expect⟩ := s
  obtain ⟨hstack, hexpect⟩ := hs
  unfold State.step at h
  dsimp only at h hstack hexpect
  split at h
  · exact built_openValue hstack ht h
  · cases h
    exact built_deliver (List.forall_mem_cons.mp hstack).2 (.list nofun)
  · exact built_openValue hstack ht h
  · cases h
    exact built_deliver hstack .empty
  · cases h
    exact ⟨List.forall_mem_cons.mpr ⟨.empty, hstack⟩, trivial⟩
  · cases h
    exact ⟨List.forall_mem_cons.mpr ⟨hexpect, hstack⟩, trivial⟩
  · cases h
  · cases h
  · cases h
    exact ⟨hstack, trivial⟩
  · cases h
    exact ⟨hstack, trivial⟩
  · cases h
    obtain ⟨hentries, hrest⟩ := List.forall_mem_cons.mp hstack
    exact ⟨hrest, hentries⟩
  · cases h
    obtain ⟨hitems, hrest⟩ := List.forall_mem_cons.mp hstack
    exact built_deliver hrest (.list fun x hx => hitems x (List.mem_reverse.mp hx))
  · cases h
    obtain ⟨hentries, hrest⟩ := List.forall_mem_cons.mp hstack
    exact built_deliver hrest hentries
  · cases h

theorem built_run {ts : List (Nat × Token)} {s s' : State} (hs : s.Built) (hts : ∀ t ∈ ts, t.2.Built)
    (h : s.run ts = .ok s') : s'.Built := by
  induction ts generalizing s with
  | nil =>
    cases h
    exact hs
  | cons t ts ih =>
    obtain ⟨ht, hrest⟩ := List.forall_mem_cons.mp hts
    rw [State.run] at h
    split at h
    · rename_i hstep
      exact ih (built_step hs ht hstep) hrest h
    · cases h

theorem built_start : State.start.Built := ⟨List.forall_mem_nil _, trivial⟩

theorem built_of_read {cs : List Char} {v : Value} (h : read cs = .ok v) : v.Built := by
  unfold read at h
  split at h
  · cases h
  split at h
  · cases h
  · rename_i s hrun
    have hs : s.Built := built_run built_start (built_tokens cs 0 0) hrun
    split at h
    · rename_i v' hroot
      cases h
      have hexpect := hs.expect
      rwa [hroot] at hexpect
    · cases h

theorem isData_of_read {cs : List Char} {v : Value} (h : read cs = .ok v) : v.IsData := (built_of_read h).isData

theorem isPresent_of_read {cs : List Char} {v : Value} (h : read cs = .ok v) : v.isPresent :=
  (built_of_read h).isPresent

end Json

namespace Yaml

/-! ## Scalars -/

theorem eq_ok_of_guard {ε α : Type} {c : Prop} [Decidable c] {e : ε} {k : Except ε α} {f : PUnit → Except ε α} {a : α}
    (h : (if c then throw e >>= f else k) = .ok a) : k = .ok a := by
  split at h
  · cases h
  · exact h

theorem isScalar_momentValue {w : Written} {v : Value} (h : w.value = .ok v) : v.isScalar := by
  have hclock {d : Except Fault Date} {hour minute second : Nat} {t : Date → Moment}
      (h : (do
        let d ← d
        if 24 ≤ hour then throw (.clock .hour)
        if 60 ≤ minute then throw (.clock .minute)
        if 60 ≤ second then throw (.clock .second)
        return .moment (t d)) = Except.ok v) : v.isScalar := by
    obtain ⟨d, -, h⟩ := bind_eq_ok.mp h
    cases eq_ok_of_guard (eq_ok_of_guard (eq_ok_of_guard h))
    rfl
  unfold Written.value at h
  split at h
  · obtain ⟨d, -, rfl⟩ := bind_pure_eq_ok.mp h
    rfl
  · dsimp only at h
    split at h
    · exact hclock (eq_ok_of_guard h)
    · exact hclock h

theorem isScalar_scalarValue {kind : Kind} {text : String} {v : Value} (h : scalarValue kind text = .ok v) :
    v.isScalar := by
  unfold scalarValue at h
  split at h
  · cases h
    rfl
  · obtain ⟨b, -, rfl⟩ := map_eq_ok.mp h
    rfl
  · obtain ⟨n, -, rfl⟩ := map_eq_ok.mp h
    rfl
  · obtain ⟨x, -, rfl⟩ := map_eq_ok.mp h
    rfl
  · unfold moment at h
    split at h
    · exact isScalar_momentValue h
    · cases h
  · obtain ⟨bs, -, rfl⟩ := map_eq_ok.mp h
    rfl
  · cases h
    rfl
  · cases h

/-! ## Nodes -/

theorem both_eq_ok {α β : Type} {a : Valued α} {b : Valued β} {p : α × β} (h : Valued.both a b = .ok p) :
    a = .ok p.1 ∧ b = .ok p.2 := by
  unfold Valued.both at h
  split at h
  · cases h
    exact ⟨rfl, rfl⟩
  · cases h
  · cases h
  · cases h

theorem isScalar_value {depth : Nat} {n : Node} {v : Value} (hscalar : isCollection n = false)
    (h : n.value depth = .ok v) : v.isScalar := by
  cases n with
  | scalar k t => exact isScalar_scalarValue (mapError_eq_ok.mp h)
  | sequence | mapping => cases hscalar

mutual

theorem built_value : ∀ {n : Node} {depth : Nat} {v : Value}, n.value depth = .ok v → v.Built
  | .scalar k t, depth, v, h => .scalar (isScalar_value rfl h)
  | .sequence k xs, depth, v, h => by
    cases k with
    | sequence =>
      obtain ⟨vs, hvs, rfl⟩ := map_eq_ok.mp h
      exact .list (built_itemValues hvs)
    | orderedMap | pairs =>
      obtain ⟨vs, hvs, rfl⟩ := map_eq_ok.mp h
      exact .list (built_pairValues hvs)
    | _ => cases h
  | .mapping k es, depth, v, h => by
    cases k with
    | mapping =>
      obtain ⟨kvs, hkvs, rfl⟩ := map_eq_ok.mp h
      refine List.foldlRecOn (motive := fun m => (Value.map m).Built) kvs _ .empty fun m hm e he => ?_
      obtain ⟨hkey, hk, hv⟩ := built_entryValues hkvs e he
      exact hm.put hkey hk hv
    | set =>
      obtain ⟨kvs, hkvs, rfl⟩ := map_eq_ok.mp h
      refine .set (List.forall_mem_map.mpr fun e he => ?_) (List.forall_mem_map.mpr fun e he => ?_)
      · exact (built_entryValues hkvs e he).1
      · exact (built_entryValues hkvs e he).2.1
    | merge => cases h
    | _ =>
      -- a mapping of another kind stands for a scalar
      rw [Node.value] at h
      · split at h
        · exact .scalar (isScalar_scalarValue (mapError_eq_ok.mp h))
        · cases h
      all_goals exact nofun

theorem built_itemValues : ∀ {xs : List Node} {depth : Nat} {vs : List Value}, itemValues depth xs = .ok vs →
    ∀ v ∈ vs, v.Built
  | [], _, _, h => by
    cases h
    exact List.forall_mem_nil _
  | x :: xs, depth, vs, h => by
    rw [itemValues] at h
    obtain ⟨p, hp, rfl⟩ := map_eq_ok.mp h
    obtain ⟨hx, hxs⟩ := both_eq_ok hp
    exact List.forall_mem_cons.mpr ⟨built_value hx, built_itemValues hxs⟩

theorem built_entryValues : ∀ {es : List (Node × Node)} {depth : Nat} {kvs : List (Value × Value)},
    entryValues depth es = .ok kvs → ∀ e ∈ kvs, e.1.canBeKey ∧ e.1.Built ∧ e.2.Built
  | [], _, _, h => by
    cases h
    exact List.forall_mem_nil _
  | (k, v) :: es, depth, kvs, h => by
    rw [entryValues] at h
    obtain ⟨p, hp, rfl⟩ := map_eq_ok.mp h
    obtain ⟨hentry, hes⟩ := both_eq_ok hp
    obtain ⟨hk, hv⟩ := both_eq_ok hentry
    split at hk
    · cases hk
    · rename_i hscalar
      have hkey := isScalar_value (Bool.eq_false_iff.mpr hscalar) hk
      exact List.forall_mem_cons.mpr
        ⟨⟨Value.canBeKey_of_isScalar hkey, .scalar hkey, built_value hv⟩, built_entryValues hes⟩

theorem built_pairValues : ∀ {xs : List Node} {depth : Nat} {vs : List Value}, pairValues depth xs = .ok vs →
    ∀ v ∈ vs, v.Built
  | [], _, _, h => by
    cases h
    exact List.forall_mem_nil _
  | .mapping _ [(k, v)] :: xs, depth, vs, h => by
    rw [pairValues] at h
    obtain ⟨p, hp, rfl⟩ := map_eq_ok.mp h
    obtain ⟨hpair, hxs⟩ := both_eq_ok hp
    obtain ⟨hk, hv⟩ := both_eq_ok hpair
    exact List.forall_mem_cons.mpr ⟨.pair (built_value hk) (built_value hv), built_pairValues hxs⟩
  | .scalar .. :: _, _, _, h | .sequence .. :: _, _, _, h | .mapping _ [] :: _, _, _, h
  | .mapping _ (_ :: _ :: _) :: _, _, _, h => by cases h

end

theorem built_of_read {text : List Char} {v : Value} (h : read text = .ok v) : v.Built := by
  unfold read at h
  split at h
  · cases h
  obtain ⟨root, -, h⟩ := bind_eq_ok.mp h
  split at h
  · cases h
    exact .scalar rfl
  · exact built_value (mapError_eq_ok.mp h)

theorem isData_of_read {text : List Char} {v : Value} (h : read text = .ok v) : v.IsData :=
  (built_of_read h).isData

theorem isPresent_of_read {text : List Char} {v : Value} (h : read text = .ok v) : v.isPresent :=
  (built_of_read h).isPresent

end Yaml

end Scaffold
