import Scaffold.Generation
import Scaffold.Proofs.Generation.Filled
import Scaffold.Proofs.Manifest.Validation
import Scaffold.Proofs.Number.Numerals
import Scaffold.Proofs.Page.Parts
import Scaffold.Proofs.Sql.Database
import Scaffold.Proofs.Text.Docstrings
import Scaffold.Proofs.Text.Split

/-!
# Notes on where a file comes from

Migrations and generated modules begin with a note that names the manifest. The
name is written as a literal, but the id and the version are written as they
are, so a line break or quotes in them end the note before its end
(`Manifest.notes_iff`).
-/

namespace Scaffold

/-! ## Lines of a migration -/

namespace Text

theorem cons_prefix_split_iff {sep : Char} {line : List Char} {behind rest : List (List Char)} :
    line :: behind <+: split sep line ++ (behind ++ rest) ↔ sep ∉ line := by
  constructor
  · intro h
    obtain ⟨first, more, hline⟩ := List.exists_cons_of_ne_nil (split_ne_nil sep line)
    rw [hline, List.cons_append, List.cons_prefix_cons] at h
    have hmem : first ∈ split sep line := by simp [hline]
    rw [h.1]
    exact notMem_of_mem_split hmem
  · intro h
    rw [split_of_notMem h]
    exact ⟨rest, rfl⟩

end Text

theorem feed_notMem_padded (width n : Nat) : '\n' ∉ (padded width n).toList := by
  simp [padded, Decimal.feed_notMem_digitsOf]

namespace Moment

theorem feed_notMem_version (t : Moment) : '\n' ∉ t.version.toList := by
  have hyear : '\n' ∉ Nat.toDigits 10 t.date.year := Decimal.feed_notMem_digitsOf t.date.year
  simp [version, feed_notMem_padded, hyear]

theorem feed_notMem_offsetText (offset : Int) : '\n' ∉ (offsetText offset).toList := by
  unfold offsetText
  simp only [String.toList_append, List.mem_append, not_or]
  refine ⟨⟨⟨⟨⟨?_, feed_notMem_padded _ _⟩, by decide⟩, feed_notMem_padded _ _⟩, ?_⟩, ?_⟩
  all_goals split <;> simp [feed_notMem_padded]

theorem feed_notMem_iso (t : Moment) : '\n' ∉ t.iso.toList := by
  have hfraction : '\n' ∉ (if t.microsecond = 0 then "" else "." ++ padded 6 t.microsecond).toList := by
    split <;> simp [feed_notMem_padded]
  unfold iso isoWith Date.iso
  cases t.offset with
  | none => simp [feed_notMem_padded, hfraction]
  | some o => simp [feed_notMem_padded, hfraction, feed_notMem_offsetText]

end Moment

namespace Sql

variable {m : Manifest} {t : Moment} {suffix : String}

theorem split_joinLines (hsuffix : '\n' ∉ suffix.toList) (lines : List String) :
    Text.split '\n' (joinLines (header m t suffix ++ "" :: lines)).toList =
      ("-- Migration: " ++ t.version ++ "_" ++ suffix).toList ::
        (Text.split '\n' ("-- Manifest: " ++ m.id ++ " v" ++ m.version).toList ++
          ("-- Timestamp: " ++ t.iso).toList :: [] :: lines.flatMap fun line => Text.split '\n' line.toList) := by
  have hfirst : '\n' ∉ ("-- Migration: " ++ t.version ++ "_" ++ suffix).toList := by
    simp [Moment.feed_notMem_version, hsuffix]
  have hthird : '\n' ∉ ("-- Timestamp: " ++ t.iso).toList := by
    simp [Moment.feed_notMem_iso]
  unfold joinLines header
  rw [String.toList_intercalate]
  refine (Text.split_intercalate (by simp)).trans ?_
  simp only [List.cons_append, List.nil_append, List.map_cons, List.flatMap_cons, List.flatMap_map,
    Text.split_of_notMem hfirst, Text.split_of_notMem hthird]
  rfl

/-- The notes are the first lines of a text, and the next one is empty; a comment ends at its line feed. -/
def Headed (m : Manifest) (t : Moment) (suffix text : String) : Prop :=
  (header m t suffix ++ [""]).map String.toList <+: Text.split '\n' text.toList

theorem headed_iff (hsuffix : '\n' ∉ suffix.toList) (lines : List String) :
    Headed m t suffix (joinLines (header m t suffix ++ "" :: lines)) ↔
      '\n' ∉ m.id.toList ∧ '\n' ∉ m.version.toList := by
  have hsecond : '\n' ∉ ("-- Manifest: " ++ m.id ++ " v" ++ m.version).toList ↔
      '\n' ∉ m.id.toList ∧ '\n' ∉ m.version.toList := by simp
  unfold Headed
  rw [← hsecond, split_joinLines hsuffix]
  show _ :: ("-- Manifest: " ++ m.id ++ " v" ++ m.version).toList :: [_, []] <+: _ ↔ _
  rw [List.cons_prefix_cons, and_iff_right rfl]
  show _ :: [_, []] <+: _ ++ ([_, []] ++ _) ↔ _
  exact Text.cons_prefix_split_iff

/-- What is written behind the notes begins with an empty line. -/
theorem migrationText_eq {sql : String} (h : migrationText m t = .ok sql) :
    ∃ lines, sql = joinLines (header m t "init" ++ "" :: lines) := by
  obtain ⟨groups, -, rfl⟩ := migrationText_eq_ok.mp h
  rw [script, List.append_assoc]
  cases groups with
  | nil => exact ⟨[], rfl⟩
  | cons g groups =>
    rw [List.flatMap_cons, List.cons_append, List.cons_append]
    exact ⟨_, rfl⟩

theorem rollbackText_eq (m : Manifest) (t : Moment) :
    ∃ lines, rollbackText m t = joinLines (header m t "rollback" ++ "" :: lines) := by
  unfold rollbackText
  rw [List.append_assoc, List.append_assoc]
  exact ⟨_, rfl⟩

end Sql

/-! ## The line in a docstring -/

namespace Text

theorem not_printable_of_lineBreak {c : Char} (h : isLineBreak c) :
    isPrintable c = false ∧ Json.hexValue c = none := by
  have hall : ∀ n ∈ [10, 11, 12, 13, 28, 29, 30, 0x85, 0x2028, 0x2029],
      isPrintable (Char.ofNat n) = false ∧ Json.hexValue (Char.ofNat n) = none := by decide +kernel
  have hmem : c.toNat ∈ [10, 11, 12, 13, 28, 29, 30, 0x85, 0x2028, 0x2029] := by
    simp only [isLineBreak, Bool.or_eq_true, Bool.and_eq_true, decide_eq_true_eq] at h
    simp only [List.mem_cons, List.not_mem_nil, or_false]
    omega
  have hchar := hall c.toNat hmem
  rwa [Char.ofNat_toNat] at hchar

theorem printable_of_escapedChar? {letter c : Char} (h : escapedChar? letter = some c) : isPrintable letter := by
  unfold escapedChar? at h
  split at h
  case h_7 => cases h
  all_goals decide

theorem printable_of_width? {letter : Char} {width : Nat} (h : LiteralKind.chars.width? letter = some width) :
    isPrintable letter := by
  simp only [LiteralKind.chars] at h
  repeat' split at h
  case isFalse.isFalse.isFalse => cases h
  all_goals
    subst_vars
    decide

section
variable {c : Char} (h : isLineBreak c)
include h

theorem lineBreak_notMem_of_printable {cs : List Char} (hcs : cs.all isPrintable) : c ∉ cs := by
  intro hc
  have hprint := List.all_eq_true.mp hcs c hc
  rw [(not_printable_of_lineBreak h).1] at hprint
  cases hprint

theorem lineBreak_notMem_literalChar {quote : Char} (hquote : quote = '\'' ∨ quote = '"') (d : Char) :
    c ∉ literalChar quote d := by
  have hback : isPrintable '\\' := by decide
  have hblock := block_literalChar hquote d
  generalize literalChar quote d = block at hblock
  cases hblock with
  | itself _ _ _ hprint _ => exact lineBreak_notMem_of_printable h (by simp [hprint])
  | escape hletter _ =>
    exact lineBreak_notMem_of_printable h (by simp [hback, printable_of_escapedChar? hletter])
  | @code letter width n hletter _ _ =>
    have hmarks : c ∉ ['\\', letter] :=
      lineBreak_notMem_of_printable h (by simp [hback, printable_of_width? hletter])
    have hdigits := notMem_hex (not_printable_of_lineBreak h).2 (width + 1) n
    show c ∉ ['\\', letter] ++ hex (width + 1) n
    rw [List.mem_append]
    exact not_or.mpr ⟨hmarks, hdigits⟩

theorem lineBreak_notMem_literal (s : String) : c ∉ (literal s).toList := by
  have hquote := literalQuote_eq s.toList
  have hends : c ∉ [literalQuote s.toList] := by
    rcases hquote with hq | hq <;> rw [hq] <;> exact lineBreak_notMem_of_printable h (by decide)
  have hblocks : c ∉ s.toList.flatMap (literalChar (literalQuote s.toList)) := by
    intro hc
    obtain ⟨d, -, hd⟩ := List.mem_flatMap.mp hc
    exact lineBreak_notMem_literalChar h hquote d hd
  rw [literal, String.toList_ofList, literalChars]
  simp only [List.cons_append, List.mem_cons, List.mem_append, List.not_mem_nil, or_false] at hends ⊢
  tauto

end

end Text

namespace Manifest

variable {m : Manifest}

theorem lineBreak_mem_banner_iff {c : Char} (h : Text.isLineBreak c) :
    c ∈ m.sourceBanner.toList ↔ c ∈ m.id.toList ∨ c ∈ m.version.toList := by
  have hnot {s : String} (hs : s.toList.all Text.isPrintable) : c ∉ s.toList :=
    Text.lineBreak_notMem_of_printable h hs
  unfold sourceBanner
  simp only [String.toList_append, List.mem_append, Text.lineBreak_notMem_literal h m.name,
    hnot (s := "Generated from the ") (by decide), hnot (s := " manifest (") (by decide),
    hnot (s := " v") (by decide), hnot (s := ").") (by decide), false_or, or_false]

theorem closes_banner_iff : Docstring.Closes m.sourceBanner.toList ↔
    Docstring.closing <:+: m.name.toList ∨ Docstring.Closes m.id.toList ∨ Docstring.Closes m.version.toList := by
  unfold sourceBanner
  simp only [String.toList_append]
  rw [Docstring.closes_append_of_plain (by decide) (by decide),
    Docstring.closes_append_plain (by decide) (by decide), Docstring.closes_append_plain (by decide) (by decide),
    Docstring.closes_plain_append (by decide) (by decide), Text.literal, String.toList_ofList,
    Docstring.closes_literalChars, or_assoc]

def documented (m : Manifest) (title rest : String) : String :=
  "\"\"\"" ++ title ++ "\n\n" ++ m.sourceBanner ++ "\n\"\"\"" ++ rest

/-- The docstring is closed by the quotes behind the line, unless something in the line closes it. -/
theorem behind_documented_iff {title : String} (htitle : Docstring.Plain title.toList) (rest : String) :
    Docstring.behind .text ((m.documented title rest).toList.drop 3) = some rest.toList ↔
      ¬ Docstring.closing <:+: m.name.toList ∧ ¬ Docstring.Closes m.id.toList ∧
        ¬ Docstring.Closes m.version.toList := by
  have hdrop : (m.documented title rest).toList.drop 3 =
      title.toList ++ ['\n', '\n'] ++ m.sourceBanner.toList ++ '\n' :: '"' :: '"' :: '"' :: rest.toList := by
    simp [documented]
  have hclear : Docstring.Plain (title.toList ++ ['\n', '\n']) := by
    intro c hc
    rcases List.mem_append.mp hc with hc | hc
    · exact htitle c hc
    · simp at hc; subst hc; decide
  rw [hdrop, Docstring.behind_closing_iff, Docstring.closes_plain_append (by simp) hclear, closes_banner_iff]
  tauto

/-! ## The generated modules -/

/-- The generated modules, each with the title of its docstring. -/
inductive Module (m : Manifest) : String → String → Prop
  | mapped {text : String} (h : Mapped.moduleText m = .ok text) : Module m "SQLAlchemy models." text
  | body : Module m "Pydantic validation schemas." (Body.moduleText m)
  | routes {text : String} (h : Routes.text m = .ok text) : Module m "FastAPI CRUD routes." text
  | settings {text : String} (h : AppSettings.text m = .ok text) : Module m "Application configuration." text
  | assets {text : String} (h : Admin.assetsModule m = .ok text) : Module m "Admin static assets." text

theorem documented_eq (m : Manifest) (title rest : String) : m.documented title rest =
    "\"\"\"" ++ (title ++ ("\n" ++ ("\n" ++ (m.sourceBanner ++ ("\n" ++ ("\"\"\"" ++ rest)))))) := by
  have hbreaks : "\n\n" = "\n" ++ "\n" := by decide
  have hquotes : "\n\"\"\"" = "\n" ++ "\"\"\"" := by decide
  unfold documented
  simp only [hbreaks, hquotes, String.append_assoc]

section
variable {first title : String} (hfirst : first = "\"\"\"" ++ title)
include hfirst

theorem intercalate_documented (line : String) (lines : List String) :
    "\n".intercalate (first :: "" :: m.sourceBanner :: "\"\"\"" :: line :: lines) =
      m.documented title ("\n" ++ "\n".intercalate (line :: lines)) := by
  rw [documented_eq]
  simp only [String.intercalate_cons_cons, hfirst, String.append_assoc, String.empty_append]

theorem fillAll_documented {s : Scope} (hbanner : (Expr.name "banner").value s = .ok (.text m.sourceBanner))
    {lines : List String} {ns : List Node} {text : String}
    (h : Node.fillAll s (.lines [first, ""] :: .put (.name "banner") :: .text "\n" ::
      .lines ("\"\"\"" :: lines) :: ns) = .ok text) : ∃ rest, text = m.documented title rest := by
  obtain ⟨start, _, hstart, hbehind, rfl⟩ := Node.fillAll_cons_eq_ok.mp h
  obtain ⟨banner, _, hline, hbehind', rfl⟩ := Node.fillAll_cons_eq_ok.mp hbehind
  obtain ⟨feed, _, hfeed, hbehind'', rfl⟩ := Node.fillAll_cons_eq_ok.mp hbehind'
  obtain ⟨closing, rest, hclosing, -, rfl⟩ := Node.fillAll_cons_eq_ok.mp hbehind''
  rw [Node.fill, hbanner] at hline
  cases hstart; cases hline; cases hfeed; cases hclosing
  have hplain : (Value.text m.sourceBanner).plain = m.sourceBanner := rfl
  refine ⟨"\n" ++ String.join (lines.map (· ++ "\n")) ++ rest, ?_⟩
  rw [documented_eq]
  simp only [List.map_cons, List.map_nil, String.join_cons, String.join_nil, hfirst, hplain,
    String.append_assoc, String.empty_append]

end

theorem Module.documented {title text : String} (h : m.Module title text) :
    Docstring.Plain title.toList ∧ ∃ rest, text = m.documented title rest := by
  cases h with
  | mapped h =>
    obtain ⟨classes, -, rfl⟩ := bind_pure_eq_ok.mp h
    unfold Mapped.source
    simp only [List.cons_append]
    exact ⟨by decide, _, intercalate_documented (by decide) "" _⟩
  | body =>
    unfold Body.moduleText
    simp only [List.cons_append]
    exact ⟨by decide, _, intercalate_documented (by decide) "" _⟩
  | routes h => exact ⟨by decide, fillAll_documented (by decide) rfl h⟩
  | settings h => exact ⟨by decide, fillAll_documented (by decide) rfl h⟩
  | assets h =>
    obtain ⟨files, -, rfl⟩ := bind_pure_eq_ok.mp h
    simp only [List.cons_append]
    exact ⟨by decide, _, intercalate_documented (by decide) "" _⟩

/-- **Notes.** A migration and a rollback begin with three lines of notes and an empty one exactly when
neither the id nor the version has a line feed. The line in a docstring is one line unless they have a line
break. The docstring of a module ends behind the quotes of the module's own exactly when the name has no three
double quotes in a row and neither the id nor the version has three that would close it. -/
theorem notes_iff (m : Manifest) (t : Moment) :
    (∀ sql, Sql.migrationText m t = .ok sql →
      (Sql.Headed m t "init" sql ↔ '\n' ∉ m.id.toList ∧ '\n' ∉ m.version.toList)) ∧
    (Sql.Headed m t "rollback" (Sql.rollbackText m t) ↔ '\n' ∉ m.id.toList ∧ '\n' ∉ m.version.toList) ∧
    (∀ c, Text.isLineBreak c → (c ∈ m.sourceBanner.toList ↔ c ∈ m.id.toList ∨ c ∈ m.version.toList)) ∧
    ∀ title text, m.Module title text → ∃ rest, text = m.documented title rest ∧
      (Docstring.behind .text (text.toList.drop 3) = some rest.toList ↔
        ¬ Docstring.closing <:+: m.name.toList ∧ ¬ Docstring.Closes m.id.toList ∧
          ¬ Docstring.Closes m.version.toList) := by
  refine ⟨fun sql hsql => ?_, ?_, fun c => lineBreak_mem_banner_iff, fun title text hmodule => ?_⟩
  · obtain ⟨lines, rfl⟩ := Sql.migrationText_eq hsql
    exact Sql.headed_iff (by decide) lines
  · obtain ⟨lines, heq⟩ := Sql.rollbackText_eq m t
    rw [heq]
    exact Sql.headed_iff (by decide) lines
  · obtain ⟨htitle, rest, rfl⟩ := hmodule.documented
    exact ⟨rest, rfl, behind_documented_iff htitle rest⟩

/-- Quotes and backslashes that end no note. -/
theorem notes_iff_shop :
    let raw : Value := .ofFields [("id", .text "shop\"\"\\\"\"\\"), ("name", .text "Bob's \"shop\""),
      ("version", .text "1\""), ("entities", .list [.ofFields [("name", .text "Item"),
        ("fields", .list [.ofFields [("name", .text "title"), ("kind", .text "string")]])]])]
    let t : Moment := ⟨⟨2024, 1, 1⟩, 0, 0, 0, 0, none⟩
    ∃ m sql rest, validate raw = .ok m ∧ Sql.migrationText m t = .ok sql ∧ Sql.Headed m t "init" sql ∧
      Sql.Headed m t "rollback" (Sql.rollbackText m t) ∧
      Body.moduleText m = m.documented "Pydantic validation schemas." rest ∧
      Docstring.behind .text ((Body.moduleText m).toList.drop 3) = some rest.toList := by
  intro raw t
  obtain ⟨m, hm, sql, hsql, hid, hname, hversion⟩ : ∃ m, validate raw = .ok m ∧
      ∃ sql, Sql.migrationText m t = .ok sql ∧ m.id = "shop\"\"\\\"\"\\" ∧ m.name = "Bob's \"shop\"" ∧
        m.version = "1\"" := ⟨_, rfl, _, rfl, by decide, by decide, by decide⟩
  obtain ⟨hinit, hrollback, -, hmodules⟩ := notes_iff m t
  obtain ⟨rest, hbody, hrest⟩ := hmodules _ _ .body
  rw [hid, hversion] at hinit hrollback hrest
  rw [hname] at hrest
  exact ⟨m, sql, rest, hm, hsql, (hinit sql hsql).mpr (by decide), hrollback.mpr (by decide), hbody,
    hrest.mpr (by decide)⟩

/-- An id whose second line is a statement of the migration, and whose quotes end the docstring. -/
theorem id_ends_notes :
    let raw : Value := .ofFields [("id", .text "\"\"\"\nDROP TABLE item;\n--"), ("name", .text "Shop"),
      ("version", .text "1"), ("entities", .list [.ofFields [("name", .text "Item"),
        ("fields", .list [.ofFields [("name", .text "title"), ("kind", .text "string")]])]])]
    let t : Moment := ⟨⟨2024, 1, 1⟩, 0, 0, 0, 0, none⟩
    ∃ m sql lines rest, validate raw = .ok m ∧ Sql.migrationText m t = .ok sql ∧
      Text.split '\n' sql.toList = "-- Migration: 20240101000000_init".toList ::
        "-- Manifest: \"\"\"".toList :: "DROP TABLE item;".toList :: lines ∧
      Body.moduleText m = m.documented "Pydantic validation schemas." rest ∧
      Docstring.behind .text ((Body.moduleText m).toList.drop 3) ≠ some rest.toList := by
  intro raw t
  obtain ⟨m, hm, sql, hsql, hid, hversion⟩ : ∃ m, validate raw = .ok m ∧ ∃ sql, Sql.migrationText m t = .ok sql ∧
      m.id = "\"\"\"\nDROP TABLE item;\n--" ∧ m.version = "1" := ⟨_, rfl, _, rfl, by decide, by decide⟩
  obtain ⟨lines, rfl⟩ := Sql.migrationText_eq hsql
  have hsuffix : '\n' ∉ "init".toList := by decide
  have hlines := Sql.split_joinLines (m := m) (t := t) hsuffix lines
  obtain ⟨htitle, rest, hbody⟩ := (Module.body (m := m)).documented
  have hfirst : ("-- Migration: " ++ t.version ++ "_" ++ "init").toList =
      "-- Migration: 20240101000000_init".toList := by decide
  have hsecond : Text.split '\n' ("-- Manifest: " ++ m.id ++ " v" ++ m.version).toList =
      ["-- Manifest: \"\"\"".toList, "DROP TABLE item;".toList, "-- v1".toList] := by
    rw [hid, hversion]; decide
  rw [hfirst, hsecond] at hlines
  refine ⟨m, _, _, rest, hm, hsql, hlines, hbody, ?_⟩
  rw [hbody]
  intro hclosed
  have hopen := ((behind_documented_iff htitle rest).mp hclosed).2.1
  rw [hid] at hopen
  exact hopen (by decide)

end Manifest

end Scaffold
