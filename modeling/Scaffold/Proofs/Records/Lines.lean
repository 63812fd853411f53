import Scaffold.Proofs.Records.Declared
import Scaffold.Proofs.Text.Joined

/-!
# Lines of columns and of attributes

A column has the words of its constraints behind its name and type, and an
attribute those of its options in the call that makes its column. A default has
no end of its own and stands last, so both lines can be read in one way only:
they say what their lists hold (`Sql.Column.says_iff`, `Mapped.Attribute.says_iff`).
-/

namespace Scaffold

/-! ## Words -/

/-- Items in words, one behind the other. The words of an item that is `last` reach to the end. -/
structure Wording (κ : Type) where
  words : κ → String
  last : κ → Bool
  words_ne_empty : ∀ k, words k ≠ ""
  apart : ∀ {k k' : κ} {text text' : String}, (last k → text = "") → (last k' → text' = "") →
    words k ++ text = words k' ++ text' → k = k'

namespace Wording

variable {κ : Type} (w : Wording κ)

def Ordered (ks : List κ) : Prop := ks.Pairwise fun k _ => w.last k = false

def Says (text : String) (k : κ) : Prop := ∃ ks, w.Ordered ks ∧ text = String.join (ks.map w.words) ∧ k ∈ ks

variable {w}

theorem join_cons_ne_empty (k : κ) (ks : List κ) : String.join ((k :: ks).map w.words) ≠ "" := by
  rw [List.map_cons, String.join_cons, ne_eq, String.append_eq_empty_iff]
  exact fun h => w.words_ne_empty k h.1

theorem ordered_singleton (k : κ) : w.Ordered [k] := List.pairwise_singleton _ _

/-- Nothing stands behind an item that reaches to the end. -/
theorem Ordered.behind {k : κ} {ks : List κ} (h : w.Ordered (k :: ks)) (hk : w.last k) :
    String.join (ks.map w.words) = "" := by
  cases ks with
  | nil => rfl
  | cons k' ks =>
    have hfalse := List.rel_of_pairwise_cons h List.mem_cons_self
    rw [hk] at hfalse
    cases hfalse

/-- A text has one reading. -/
theorem Ordered.eq_of_join_eq {ks ks' : List κ} (h : w.Ordered ks) (h' : w.Ordered ks')
    (heq : String.join (ks.map w.words) = String.join (ks'.map w.words)) : ks = ks' := by
  induction ks generalizing ks' with
  | nil =>
    cases ks' with
    | nil => rfl
    | cons k' ks' => exact absurd heq.symm (join_cons_ne_empty k' ks')
  | cons k ks ih =>
    cases ks' with
    | nil => exact absurd heq (join_cons_ne_empty k ks)
    | cons k' ks' =>
      rw [List.map_cons, List.map_cons, String.join_cons, String.join_cons] at heq
      obtain rfl := w.apart h.behind h'.behind heq
      rw [ih h.of_cons h'.of_cons ((String.append_right_inj _).mp heq)]

theorem says_join_iff {ks : List κ} (h : w.Ordered ks) {k : κ} :
    w.Says (String.join (ks.map w.words)) k ↔ k ∈ ks := by
  constructor
  · rintro ⟨ks', h', heq, hk⟩
    rwa [h.eq_of_join_eq h' heq]
  · exact fun hk => ⟨ks, h, rfl, hk⟩

theorem ordered_append {ks ks' : List κ} (h : ∀ k ∈ ks, w.last k = false) (h' : w.Ordered ks') :
    w.Ordered (ks ++ ks') :=
  List.pairwise_append.mpr ⟨List.pairwise_of_forall_mem_list fun k hk _ _ => h k hk, h', fun k hk _ _ => h k hk⟩

end Wording

theorem Text.intercalate_cons_eq_join (sep first : String) (parts : List String) :
    sep.intercalate (first :: parts) = first ++ String.join (parts.map (sep ++ ·)) := by
  induction parts generalizing first with
  | nil => simp
  | cons part parts ih =>
    rw [String.intercalate_cons_cons, ih, List.map_cons, String.join_cons, String.append_assoc, String.append_assoc]

/-! ## Columns -/

namespace Sql

def clauses : Wording Constraint where
  words
    | .primaryKey => " PRIMARY KEY NOT NULL"
    | .notNull => " NOT NULL"
    | .unique => " UNIQUE"
    | .default literal => " DEFAULT " ++ literal
  last
    | .default _ => true
    | _ => false
  words_ne_empty k := by cases k <;> simp [← String.toList_inj]
  apart {k k' _ _} h h' heq := by
    rw [← String.toList_inj, String.toList_append, String.toList_append] at heq
    cases k <;> cases k' <;> simp_all [String.toList_inj]

/-- What the line of a column says behind its name and its type. -/
def Column.Says (c : Column) (k : Constraint) : Prop :=
  ∃ text, c.render = c.name ++ " " ++ c.type.render ++ text ∧ clauses.Says text k

theorem clauses_words (k : Constraint) : clauses.words k = " " ++ k.render := by
  cases k with
  | default literal => exact (String.append_assoc : " " ++ "DEFAULT " ++ literal = _)
  | _ => rfl

theorem Column.render_eq (c : Column) : c.render =
    c.name ++ " " ++ c.type.render ++ String.join (c.constraints.map clauses.words) := by
  rw [funext clauses_words, render, String.intercalate_cons_cons, Text.intercalate_cons_eq_join, List.map_map]
  simp only [String.append_assoc, Function.comp_def]

theorem Column.says_iff {c : Column} (h : clauses.Ordered c.constraints) {k : Constraint} :
    c.Says k ↔ k ∈ c.constraints := by
  rw [← Wording.says_join_iff h]
  constructor
  · rintro ⟨text, htext, hsays⟩
    rwa [(String.append_right_inj _).mp (c.render_eq.symm.trans htext)]
  · exact fun hsays => ⟨_, c.render_eq, hsays⟩

theorem ordered_defaultConstraints {f : ScalarField} {defaults : List Constraint}
    (h : defaultConstraints f = .ok defaults) : clauses.Ordered defaults := by
  unfold defaultConstraints at h
  split at h
  · obtain ⟨d, -, rfl⟩ := map_eq_ok.mp h
    exact Wording.ordered_singleton _
  · cases h
    exact List.Pairwise.nil

end Sql

/-! ## Attributes -/

namespace Mapped

def arguments : Wording Option where
  words
    | .primaryKey => ", primary_key=True"
    | .nullable b => if b then ", nullable=True" else ", nullable=False"
    | .unique => ", unique=True"
    | .serverDefault literal => ", server_default=text(" ++ literal ++ ")"
  last
    | .serverDefault _ => true
    | _ => false
  words_ne_empty o := by
    rcases o with _ | (_ | _) | _ | _ <;> simp [← String.toList_inj]
  apart {o o' _ _} h h' heq := by
    rw [← String.toList_inj, String.toList_append, String.toList_append] at heq
    rcases o with _ | (_ | _) | _ | _ <;> rcases o' with _ | (_ | _) | _ | _ <;> simp_all [String.toList_inj]

def Attribute.start (a : Attribute) : String :=
  a.name ++ ": Mapped[" ++ (if a.optional then "Optional[" ++ a.type ++ "]" else a.type) ++ "] = mapped_column(" ++
    a.column ++ ", " ++ a.columnType

/-- What the line of an attribute says behind the type of its column. -/
def Attribute.Says (a : Attribute) (o : Option) : Prop :=
  ∃ text, a.render = a.start ++ text ++ ")" ∧ arguments.Says text o

theorem arguments_words (o : Option) : arguments.words o = ", " ++ o.render := by
  cases o with
  | nullable b => cases b <;> rfl
  | serverDefault literal =>
    show ", " ++ "server_default=text(" ++ literal ++ ")" = ", " ++ ("server_default=text(" ++ literal ++ ")")
    simp only [String.append_assoc]
  | _ => rfl

theorem Attribute.render_eq (a : Attribute) :
    a.render = a.start ++ String.join (a.options.map arguments.words) ++ ")" := by
  rw [funext arguments_words, render, String.intercalate_cons_cons, Text.intercalate_cons_eq_join, List.map_map]
  simp only [start, String.append_assoc, Function.comp_def]

theorem Attribute.says_iff {a : Attribute} (h : arguments.Ordered a.options) {o : Option} :
    a.Says o ↔ o ∈ a.options := by
  rw [← Wording.says_join_iff h]
  constructor
  · rintro ⟨text, htext, hsays⟩
    have heq := (String.append_left_inj _).mp (a.render_eq.symm.trans htext)
    rwa [(String.append_right_inj _).mp heq]
  · exact fun hsays => ⟨_, a.render_eq, hsays⟩

theorem ordered_serverDefaults {f : ScalarField} {options : List Option} (h : serverDefaults f = .ok options) :
    arguments.Ordered options := by
  unfold serverDefaults at h
  repeat' split at h
  · obtain ⟨d, -, rfl⟩ := map_eq_ok.mp h
    exact Wording.ordered_singleton _
  · cases h
    exact List.Pairwise.nil
  · cases h
    exact List.Pairwise.nil

theorem head_valueType (kind : ScalarKind) : ∃ c ∈ (valueType kind).toList.head?, c ≠ 'O' := by
  cases kind <;> exact ⟨_, rfl, by decide⟩

theorem Attribute.optional_iff {a : Attribute} (h : ∃ c ∈ a.type.toList.head?, c ≠ 'O') :
    (a.name ++ ": Mapped[Optional[").toList <+: a.render.toList ↔ a.optional = true := by
  obtain ⟨c, hc, hne⟩ := h
  obtain ⟨cs, htype⟩ := List.head?_eq_some_iff.mp hc
  rw [render_eq, start]
  cases a.optional with
  | false =>
    refine iff_of_false (fun hprefix => hne ?_) Bool.false_ne_true
    have hcut : "Optional[".toList <+: a.type.toList ++ ("] = mapped_column(" ++ a.column ++ ", " ++
        a.columnType ++ String.join (a.options.map arguments.words) ++ ")").toList := by
      simpa using hprefix
    rw [htype] at hcut
    exact (List.cons_prefix_cons.mp hcut).1.symm
  | true => simp

end Mapped

end Scaffold
