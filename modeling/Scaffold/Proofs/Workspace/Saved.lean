import Scaffold.Proofs.Files.Contents
import Scaffold.Proofs.Files.PathTexts
import Scaffold.Proofs.Json.Characters
import Scaffold.Proofs.Text.Utf8
import Scaffold.Proofs.Value.Coerced
import Scaffold.Workspace.Config

/-!
# Configurations saved and loaded

A configuration is saved as one JSON value, and its attributes are read back
from that value (`Config.ofEntries_toValue`). With flags that JSON can hold, the
file that was saved is loaded as the same configuration or, with a number too
long or flags nested too deep, is no JSON for the reader (`Config.load_save`).
-/

namespace Scaffold

/-! ## Values kept in a settings file -/

namespace Value

theorem settings_of_isJson {v : Value} (hv : v.IsJson) : v.settings = .ok v := by
  induction hv with
  | null | bool _ | int _ | real _ | text _ => rfl
  | @list xs hxs ih =>
    have hitems : settingsItems xs = .ok xs := by
      clear hxs
      induction xs with
      | nil => rfl
      | cons x xs ihxs =>
        rw [List.forall_mem_cons] at ih
        rw [settingsItems, ih.1, ihxs ih.2]
        rfl
    rw [settings, hitems]
    rfl
  | @map es hkeys hparts ih =>
    have hentries : settingsEntries es = .ok es := by
      have htexts := hkeys.isText
      clear hkeys hparts
      induction es with
      | nil => rfl
      | cons e es ihes =>
        obtain ⟨k, v⟩ := e
        rw [List.forall_mem_cons] at ih htexts
        obtain ⟨key, rfl⟩ := Entries.eq_text_of_isText htexts.1
        rw [settingsEntries, ih.1, ihes ih.2 htexts.2]
        rfl
    rw [settings, hentries]
    rfl

theorem isJson_ofFields {fs : List (String × Value)} (hnodup : (fs.map Prod.fst).Nodup) (h : ∀ f ∈ fs, f.2.IsJson) :
    (ofFields fs).IsJson := by
  refine .map ⟨?_, Entries.distinct_of_nodup hnodup⟩ (List.forall_mem_map.mpr h)
  exact List.forall_mem_map.mpr fun _ _ => rfl

theorem itemsFitFile_iff {room : Nat} {xs : List Value} :
    itemsFitFile room xs ↔ ∀ x ∈ xs, 0 < room ∧ x.fitsFile (room - 1) := by
  induction xs with
  | nil => simp [itemsFitFile]
  | cons x xs ih => simp [itemsFitFile, ih, and_assoc]

theorem entriesFitFile_iff {room : Nat} {es : Entries} :
    entriesFitFile room es ↔ ∀ e ∈ es, 0 < room ∧ e.2.fitsFile (room - 1) := by
  induction es with
  | nil => simp [entriesFitFile]
  | cons e es ih =>
    obtain ⟨k, v⟩ := e
    simp [entriesFitFile, ih, and_assoc]

theorem length_digitsOf_le (n : Int) : (Decimal.digitsOf n.natAbs).length ≤ (intText n).length := by
  rw [intText, String.length_ofList]
  split <;> simp

theorem selfContained_of_fitsFile {v : Value} (hv : v.IsJson) {room : Nat} (h : v.fitsFile room) : v.selfContained := by
  induction hv generalizing room with
  | null | bool _ | text _ => rfl
  | real hfinite => exact hfinite
  | int n => exact decide_eq_true ((length_digitsOf_le n).trans (of_decide_eq_true h))
  | list hxs ih =>
    rw [selfContained, areSelfContained_eq_all, List.all_eq_true]
    exact fun x hx => ih x hx (itemsFitFile_iff.mp h x hx).2
  | map hkeys hparts ih =>
    rw [selfContained, entriesAreSelfContained_eq_all, List.all_eq_true]
    intro e he
    obtain ⟨key, hkey⟩ := Entries.eq_text_of_isText (hkeys.isText e he)
    rw [hkey, ih e he (entriesFitFile_iff.mp h e he).2]
    rfl

/-! ## At the limits -/

def inLists (v : Value) : Nat → Value
  | 0 => v
  | n + 1 => .list [inLists v n]

theorem isJson_inLists {v : Value} (hv : v.IsJson) : ∀ n, (v.inLists n).IsJson
  | 0 => hv
  | n + 1 => .list fun x hx => by
    obtain rfl := List.mem_singleton.mp hx
    exact isJson_inLists hv n

theorem fitsFile_inLists {v : Value} : ∀ {n room : Nat},
    (v.inLists n).fitsFile room ↔ n ≤ room ∧ v.fitsFile (room - n)
  | 0, room => by simp [inLists]
  | n + 1, room => by
    have hroom : room - 1 - n = room - (n + 1) := by omega
    rw [inLists, fitsFile, itemsFitFile_iff, List.forall_mem_singleton, fitsFile_inLists, hroom, ← and_assoc]
    refine and_congr_left fun _ => ?_
    omega

theorem lt_length_digitsOf_pow {k : Nat} (hk : 0 < k) : k < (Decimal.digitsOf (10 ^ k)).length := by
  rw [Decimal.digitsOf, ← Nat.not_le, Nat.length_toDigits_le_iff (by decide) hk]
  exact Nat.lt_irrefl _

theorem not_fitsFile_pow {k : Nat} (hk : Decimal.digitLimit ≤ k) (room : Nat) :
    ¬ (Value.int (10 ^ k)).fitsFile room := by
  rw [fitsFile, decide_eq_true_eq, Nat.not_le]
  have hpow : ((10 : Int) ^ k).natAbs = 10 ^ k := Int.natAbs_pow 10 k
  calc Decimal.digitLimit ≤ k := hk
    _ < (Decimal.digitsOf (10 ^ k)).length := lt_length_digitsOf_pow (Nat.lt_of_lt_of_le (by decide) hk)
    _ ≤ (intText (10 ^ k)).length := by
      have hlength := length_digitsOf_le (10 ^ k)
      rwa [hpow] at hlength

end Value

namespace Config

/-! ## A configuration as a value -/

variable {c : Config}

theorem nodup_names :
    ["manifest_path", "output_dir", "force", "skip", "default_region", "generator_flags"].Nodup := by decide

theorem isJson_toValue (hflags : (Value.map c.generatorFlags).IsJson) : c.toValue.IsJson := by
  refine Value.isJson_ofFields nodup_names ?_
  simp only [List.forall_mem_cons]
  refine ⟨?_, .text _, .bool _, ?_, ?_, hflags, List.forall_mem_nil _⟩
  · cases c.manifestPath with
    | none => exact .null
    | some p => exact .text _
  · refine .list fun x hx => ?_
    obtain ⟨s, -, rfl⟩ := List.mem_map.mp hx
    exact .text s
  · cases c.defaultRegion with
    | none => exact .null
    | some region => exact .text region

theorem fitsFile_toValue : c.toValue.fitsFile nestingLimit ↔
    (Value.map c.generatorFlags).fitsFile (nestingLimit - 1) := by
  have hroom : 0 < nestingLimit := by decide
  have hskip : (Value.ofTexts c.skip).fitsFile (nestingLimit - 1) := by
    refine Value.itemsFitFile_iff.mpr fun x hx => ⟨by decide, ?_⟩
    obtain ⟨s, -, rfl⟩ := List.mem_map.mp hx
    rfl
  refine Value.entriesFitFile_iff.trans ?_
  simp only [List.map_cons, List.map_nil, List.forall_mem_cons]
  constructor
  · rintro ⟨-, -, -, -, -, ⟨-, hflags⟩, -⟩
    exact hflags
  · intro hflags
    refine ⟨⟨hroom, ?_⟩, ⟨hroom, rfl⟩, ⟨hroom, rfl⟩, ⟨hroom, hskip⟩, ⟨hroom, ?_⟩, ⟨hroom, hflags⟩,
      List.forall_mem_nil _⟩
    · cases c.manifestPath <;> rfl
    · cases c.defaultRegion <;> rfl

theorem want_of_getText? {α : Type} {es : Entries} {key : String} {v : Value} {read : Value → Coerced α} {a : α}
    (hv : es.getText? key = some v) (hread : read v = .ok a) : es.want key read = .ok (some a) := by
  rw [Entries.want, hv]
  exact Coerced.under_eq_ok_iff.mpr (Coerced.map_eq_ok_iff.mpr ⟨a, hread, rfl⟩)

theorem ofEntries_toValue (hkeys : c.generatorFlags.TextKeyed) {es : Entries} (hes : c.toValue = .map es) :
    ofEntries es = .ok c := by
  have hlookup (key : String) : es.getText? key = c.toValue.field? key := by rw [hes, Value.field?_map]
  have hvalue := fun key => (hlookup key).trans (Value.field?_ofFields key _)
  have hpath : es.want "manifest_path" (Value.asNullable Value.asPath) = .ok (some c.manifestPath) := by
    refine want_of_getText? (hvalue "manifest_path") ?_
    cases c.manifestPath with
    | none => rfl
    | some p => exact congrArg (fun p => Except.ok (some p)) (FilePath.ofText_text p)
  have houtput : es.want "output_dir" Value.asPath = .ok (some c.outputDir) :=
    want_of_getText? (hvalue "output_dir") (congrArg Except.ok (FilePath.ofText_text c.outputDir))
  have hforce : es.want "force" Value.asTruth = .ok (some c.force) := want_of_getText? (hvalue "force") rfl
  have hskip : es.want "skip" (Value.asList .list Value.asText) = .ok (some c.skip) := by
    refine want_of_getText? (hvalue "skip") (Coerced.asList_eq_ok_iff.mpr ?_)
    exact List.forall₂_map_left_iff.mpr (List.forall₂_same.mpr fun _ _ => rfl)
  have hregion : es.want "default_region" (Value.asNullable Value.asText) = .ok (some c.defaultRegion) := by
    refine want_of_getText? (hvalue "default_region") ?_
    cases c.defaultRegion <;> rfl
  have hflags : es.want "generator_flags" Value.asTextMap = .ok (some c.generatorFlags) := by
    refine want_of_getText? (hvalue "generator_flags") ((Coerced.asTextMap_map hkeys.isText).trans ?_)
    exact congrArg Except.ok (Entries.foldl_put_of_distinct hkeys.distinct)
  rw [ofEntries, hpath, houtput, hforce, hskip, hregion, hflags]
  rfl

/-! ## Texts -/

theorem keeps_settings : Json.Keeps .settings := ⟨rfl, rfl⟩

theorem exists_text (hflags : (Value.map c.generatorFlags).IsJson) :
    ∃ s, c.text = .ok s ∧ c.toValue.writeJson .settings 0 = .ok s := by
  obtain ⟨s, hs⟩ : ∃ s, c.toValue.writeJson .settings 0 = .ok s :=
    Json.exists_writeJson keeps_settings.sortKeys (isJson_toValue hflags)
  refine ⟨s, ?_, hs⟩
  rw [text, Value.settings_of_isJson (isJson_toValue hflags)]
  exact mapError_eq_ok.mpr hs

/-- A text of a configuration holds it, if the flags fit. -/
theorem ofText_writeJson (hflags : (Value.map c.generatorFlags).IsJson) {s : String}
    (hs : c.toValue.writeJson .settings 0 = .ok s) : ofText s.toList =
      if (Value.map c.generatorFlags).fitsFile (nestingLimit - 1) then .ok c else Coerced.fail .json := by
  have hv := isJson_toValue hflags
  have hread := Json.read_writeJson keeps_settings hv hs
  rw [ofText]
  cases hresult : Json.read s.toList with
  | error fault =>
    rw [hresult] at hread
    -- a reader that refuses the text does so for a value beyond its bounds
    rw [if_neg]
    intro hfits
    rw [if_pos (Value.selfContained_of_fitsFile hv (fitsFile_toValue.mpr hfits))] at hread
    cases hread
  | ok v =>
    obtain rfl : v = c.toValue := by
      rw [hresult] at hread
      split at hread
      · exact Option.some.inj hread
      · cases hread
    have hkeys : c.generatorFlags.TextKeyed := by
      cases hflags with
      | map hkeys _ => exact hkeys
    simp only [fitsFile_toValue]
    exact congrArg (ite _ · _) (ofEntries_toValue hkeys rfl)

/-! ## Files -/

section
variable {d : Disk} {path : Option FilePath}

/-- Saving writes the text of the configuration's value, and fails on the disk alone. -/
theorem save_cases (hflags : (Value.map c.generatorFlags).IsJson) :
    (∃ fault, (c.save d path).2 = .error (.disk fault)) ∨
    ∃ s target, c.toValue.writeJson .settings 0 = .ok s ∧ (c.save d path).2 = .ok target ∧
      (d.ensureFolders target.parent).1.write target (.ofText s) = .ok (c.save d path).1 := by
  obtain ⟨s, hs, hwritten⟩ := exists_text hflags
  unfold save
  extract_lets target
  split
  · exact Or.inl ⟨_, rfl⟩
  · rename_i d₁ hfolders
    rw [hs]
    dsimp only
    cases hwrite : d₁.write target (.ofText s) with
    | error fault => exact Or.inl ⟨fault, rfl⟩
    | ok d' =>
      refine Or.inr ⟨s, target, hwritten, rfl, ?_⟩
      rw [hfolders]
      exact hwrite

theorem not_settings_of_save (hflags : (Value.map c.generatorFlags).IsJson) (fault : SettingsFault) :
    (c.save d path).2 ≠ .error (.settings fault) := by
  intro heq
  rcases @save_cases c d path hflags with ⟨fault', hfault⟩ | ⟨-, target, -, hsaved, -⟩
  · rw [hfault] at heq
    cases heq
  · rw [hsaved] at heq
    cases heq

theorem save_eq_ok (hflags : (Value.map c.generatorFlags).IsJson) {target : FilePath} {d' : Disk} {l : Location}
    (htarget : path.getD (c.outputDir.append fileName) = target)
    (hfolders : d.ensureFolders target.parent = (d', .ok ()))
    (hplace : d'.place target = .ok l) (hfree : d'.root.at? l = none) : (c.save d path).2 = .ok target := by
  obtain ⟨s, hs, -⟩ := exists_text hflags
  simp only [save, htarget, hfolders, hs, Disk.write, hplace, hfree]

theorem load_write {d' : Disk} {p : FilePath} {s : String} (hd : d.Stands) (h : d.write p (.ofText s) = .ok d')
    (hreturn : '\r' ∉ s.toList) : load d' p = (ofText s.toList).mapError .types := by
  rw [load, Disk.read_write hd h]
  change (Text.decodeUtf8 0 (Text.encodeUtf8 s)).mapError ReadFault.encoding >>= _ = _
  rw [Text.decodeUtf8_encodeUtf8]
  change (ofText (Text.plainLineEnds s.toList)).mapError ReadFault.types = _
  rw [Text.plainLineEnds_of_notMem hreturn]

theorem load_of_save (hflags : (Value.map c.generatorFlags).IsJson) (hd : d.Stands) {target : FilePath}
    (h : (c.save d path).2 = .ok target) : load (c.save d path).1 target =
      if (Value.map c.generatorFlags).fitsFile (nestingLimit - 1) then .ok c else .error (.types [⟨[], .json⟩]) := by
  rcases @save_cases c d path hflags with ⟨fault, hfault⟩ | ⟨s, written, hs, hsaved, hwrite⟩
  · rw [hfault] at h
    cases h
  · rw [hsaved] at h
    cases h
    have hedits : Disk.Edits (fun _ => True) (fun _ => True) d (d.ensureFolders target.parent).1 :=
      Disk.Edits.refl.ensureFolders fun _ _ => trivial
    have hreturn : '\r' ∉ s.toList :=
      Json.control_notMem_writeJson (by decide) (by decide) keeps_settings (isJson_toValue hflags) hs
    rw [load_write (hedits.stands hd) hwrite hreturn, ofText_writeJson hflags hs]
    split <;> rfl

/-- **Saved and loaded.** Where the flags are made of what JSON can hold and fit, saving fails on the disk
alone, and the file that it wrote is loaded as the same configuration. Where a number in them is too
long, or too many lists and mappings lie inside one another, a file that was written is taken for no
JSON. -/
theorem load_save (hflags : (Value.map c.generatorFlags).IsJson) (hd : d.Stands) :
    ((Value.map c.generatorFlags).fitsFile (nestingLimit - 1) →
      (∀ fault, (c.save d path).2 ≠ .error (.settings fault)) ∧
      ∀ target, (c.save d path).2 = .ok target → load (c.save d path).1 target = .ok c) ∧
    (¬ (Value.map c.generatorFlags).fitsFile (nestingLimit - 1) →
      ∀ target, (c.save d path).2 = .ok target → load (c.save d path).1 target = .error (.types [⟨[], .json⟩])) := by
  have hload (target : FilePath) (h : (c.save d path).2 = .ok target) := load_of_save hflags hd h
  refine ⟨fun hfits => ⟨fun fault => not_settings_of_save hflags fault, fun target h => ?_⟩, fun hlarge target h => ?_⟩
  · rw [hload target h, if_pos hfits]
  · rw [hload target h, if_neg hlarge]

end

/-- Quotes, line ends, signed zeros and empty lists are kept, and so is the order of flags. -/
theorem load_save_mixed :
    let d : Disk := ⟨.folder [("home", .folder [])], ["home"]⟩
    let parts : List Value := [.null, .list [], .map [], .real (Binary64.signedZero true)]
    let flags : Entries := [(.text "b\r\n", .list parts), (.text "a\"", .map [(.text "", .int (-7))])]
    let c : Config := ⟨none, .ofText "../out//C:\\x", true, ["admin", ""], some "eu\n", flags⟩
    ((Value.map c.generatorFlags).IsJson ∧ d.Stands ∧ (Value.map c.generatorFlags).fitsFile (nestingLimit - 1)) ∧
      ∃ target, (c.save d none).2 = .ok target ∧ load (c.save d none).1 target = .ok c := by
  intro d parts flags c
  have hparts : ∀ x ∈ parts, x.IsJson := by
    simp only [parts, List.forall_mem_cons]
    exact ⟨.null, .list (List.forall_mem_nil _), .map Entries.textKeyed_nil (List.forall_mem_nil _), .real rfl,
      List.forall_mem_nil _⟩
  have hinner : (Value.ofFields [("", .int (-7))]).IsJson :=
    Value.isJson_ofFields (by decide) (List.forall_mem_singleton.mpr (.int (-7)))
  have houter : (Value.ofFields [("b\r\n", .list parts), ("a\"", .map [(.text "", .int (-7))])]).IsJson :=
    Value.isJson_ofFields (by decide) (List.forall_mem_cons.mpr ⟨.list hparts, List.forall_mem_singleton.mpr hinner⟩)
  have hflags : (Value.map c.generatorFlags).IsJson := houter
  have hd : d.Stands := ⟨[], rfl⟩
  have hfits : (Value.map c.generatorFlags).fitsFile (nestingLimit - 1) := by decide
  obtain ⟨-, hload⟩ := (@load_save c d none hflags hd).1 hfits
  have hsaved : (c.save d none).2 = .ok (c.outputDir.append fileName) :=
    save_eq_ok hflags rfl rfl rfl rfl
  exact ⟨⟨hflags, hd, hfits⟩, _, hsaved, hload _ hsaved⟩

/-- Flags with a whole number of 4301 digits, or with a list in 198 others, can be saved, but not
loaded. -/
theorem load_save_refused :
    let d : Disk := ⟨.folder [], []⟩
    let c (v : Value) : Config := { default with generatorFlags := [(.text "limit", v)] }
    let p : FilePath := .ofText "c.json"
    ∀ v ∈ [Value.int (10 ^ 4300), Value.null.inLists 199],
      (Value.map (c v).generatorFlags).IsJson ∧ ((c v).save d (some p)).2 = .ok p ∧
      load ((c v).save d (some p)).1 p ≠ .ok (c v) := by
  intro d c p v hv
  have hjson : v.IsJson := by
    rcases List.mem_cons.mp hv with rfl | hv
    · exact .int _
    · obtain rfl := List.mem_singleton.mp hv
      exact Value.isJson_inLists .null 199
  have hlarge : ¬ v.fitsFile 198 := by
    rcases List.mem_cons.mp hv with rfl | hv
    · exact Value.not_fitsFile_pow (Nat.le_refl _) 198
    · obtain rfl := List.mem_singleton.mp hv
      rw [Value.fitsFile_inLists]
      exact fun h => absurd h.1 (by decide)
  have hkeys : Entries.TextKeyed [(.text "limit", v)] := ⟨by simp [Value.isText], List.pairwise_singleton _ _⟩
  have hflags : (Value.map (c v).generatorFlags).IsJson := .map hkeys (List.forall_mem_singleton.mpr hjson)
  have hsaved : ((c v).save d (some p)).2 = .ok p := save_eq_ok hflags rfl rfl rfl rfl
  refine ⟨hflags, hsaved, ?_⟩
  rw [load_of_save hflags ⟨[], rfl⟩ hsaved, if_neg]
  · exact fun heq => by cases heq
  · intro hfits
    exact hlarge (Value.entriesFitFile_iff.mp hfits _ List.mem_cons_self).2

end Config

end Scaffold
