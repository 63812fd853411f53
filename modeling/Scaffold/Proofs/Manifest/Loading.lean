import Scaffold.Manifest.Loading
import Scaffold.Proofs.Manifest.Validation
import Scaffold.Proofs.Value.Loaded

/-!
# How loading ends

A manifest is loaded from a JSON or a YAML text, or the failure is told: the
file is not there, or the manifest is refused under the path of the file. What
goes untold is a number or a scalar that the reader of the text does not cope
with, and overrides that cannot be merged (`LoadedManifest.ofFile_told_iff`).
-/

namespace Scaffold

/-! ## Overrides that can be merged -/

namespace Value

def isPair (v : Value) : Bool :=
  match v.elements? with
  | some [k, _] => k.isHashable
  | _ => false

def areFlags : Value → Bool
  | .map _ => true
  | v => v.elements?.any fun ps => ps.all isPair

def isOverride (key value : Value) : Bool :=
  key.asText.isOk && (!(key.equal Entries.flagsKey) || !value.truth || value.areFlags)

def areOverrides (v : Value) : Bool :=
  !v.truth || match v with
    | .map os => os.all fun e => isOverride e.1 e.2
    | _ => false

end Value

namespace Entries

theorem isOk_putPairs : ∀ (ps : List Value) (es : Entries) (index : Nat),
    (es.putPairs index ps).isOk = ps.all Value.isPair
  | [], _, _ => rfl
  | p :: ps, es, index => by
    unfold putPairs
    rw [List.all_cons, Value.isPair]
    split
    · simp [*]
    · rename_i k v hp
      simp only [hp]
      by_cases hk : k.isHashable
      · simp [hk, isOk_putPairs ps]
      · simp [hk]
    · rename_i xs hnot hp
      simp only [hp]
      split
      · rename_i heq
        cases heq
        exact absurd rfl (hnot _ _)
      · rfl

theorem isOk_putFlags (es : Entries) (flags : Value) : (es.putFlags flags).isOk = flags.areFlags := by
  unfold putFlags Value.areFlags
  split
  · rfl
  · split
    · simp [*, isOk_putPairs]
    · simp [*]

theorem isOk_putOverride (es : Entries) (key value : Value) :
    (es.putOverride key value).isOk = (!(key.equal flagsKey) || !value.truth || value.areFlags) := by
  unfold putOverride
  by_cases hregion : key.equal regionKey
  · obtain rfl := Value.eq_text_of_equal hregion
    simp [regionKey, flagsKey]
  · by_cases hflags : key.equal flagsKey
    · by_cases hvalue : value.truth
      · simp [hregion, hflags, hvalue, isOk_putFlags]
      · simp [hregion, hflags, hvalue]
    · simp [hregion, hflags]

theorem isOk_putOverrides : ∀ (os es : Entries), (es.putOverrides os).isOk =
    os.all fun e => !(e.1.equal flagsKey) || !e.2.truth || e.2.areFlags
  | [], _ => rfl
  | (k, v) :: os, es => by
    rw [putOverrides, List.all_cons, ← isOk_putOverride es k v]
    cases es.putOverride k v with
    | error fault => rfl
    | ok es' => simp [isOk_putOverrides os]

end Entries

theorem Value.isOk_asTextMap (os : Entries) : (Value.map os).asTextMap.isOk = os.all fun e => e.1.asText.isOk := by
  have hcollect (rs : List (Coerced (Value × Value))) : (Coerced.collect rs).isOk = rs.all fun r => r.isOk := by
    induction rs with
    | nil => rfl
    | cons r rs ih =>
      rw [List.all_cons, ← ih, Coerced.collect, isOk_map]
      cases r <;> cases Coerced.collect rs <;> rfl
  have hunder {α : Type} (key : Value) (r : Coerced α) : (Coerced.under key r).isOk = r.isOk := by
    cases r <;> rfl
  rw [asTextMap, isOk_map, hcollect, List.all_map]
  simp only [Function.comp_def, isOk_map, hunder]

theorem Manifest.isOk_merge_and_keep (m : Manifest) (v : Value) :
    ((m.merge v).isOk && (LoadedManifest.overridesOf v).isOk) = v.areOverrides := by
  unfold Manifest.merge LoadedManifest.overridesOf Value.areOverrides
  by_cases htruth : v.truth
  · cases v with
    | map os =>
      have hkeep : (Coerced.under (.text "runtime_overrides") ((Value.map os).asTextMap.map some)).isOk =
          os.all fun e => e.1.asText.isOk := by
        rw [← Value.isOk_asTextMap]
        cases (Value.map os).asTextMap <;> rfl
      simp only [htruth, Bool.not_true, Bool.false_or, if_true, Bool.false_eq_true, if_false, isOk_map,
        Entries.isOk_putOverrides, hkeep, Value.isOverride]
      rw [Bool.eq_iff_iff]
      simp only [Bool.and_eq_true, List.all_eq_true, ← forall_and, and_comm]
    | _ => simp [htruth]
  · simp [htruth]

/-! ## Files that can be read -/

def FilePath.isTextual (p : FilePath) : Bool := [".json", ".yaml", ".yml"].contains (Text.lower p.suffix)

/-- A failure that is told by the path of the manifest. -/
inductive LoadFault.Told (d : Disk) (p : FilePath) : LoadFault → Prop
  | missing (h : d.node p = .error .missing) : Told d p (.source (.missing ⟨.missing, p⟩))
  | refused (reason : LoadReason) : Told d p (.refused reason (some p))

namespace ManifestFile

/-- The reader of a text gives up for another reason than the syntax of the text. -/
inductive GivesUp (d : Disk) (p : FilePath) : Prop
  | json {text : List Char} {digits : Nat} (hp : Text.lower p.suffix = ".json")
      (htext : readText d p = .ok text) (h : Json.read text = .error (.tooLong digits))
  | yaml {text : List Char} {fault : Yaml.Fault} (hp : Text.lower p.suffix = ".yaml" ∨ Text.lower p.suffix = ".yml")
      (htext : readText d p = .ok text) (h : Yaml.read text = .error fault) (hfault : fault ≠ .malformed)

theorem readText_eq_error {d : Disk} {p : FilePath} {fault : SourceFault} (h : readText d p = .error fault) :
    (∃ reason, fault = .refused reason) ∨ fault = .missing ⟨.missing, p⟩ ∧ d.node p = .error .missing := by
  unfold readText at h
  split at h
  · rename_i diskFault hread
    split at h
    · rename_i hcause
      cases h
      unfold Disk.read at hread
      split at hread
      · cases hread
      · cases hread
        cases hcause
      · rename_i cause hnode
        cases hread
        obtain rfl : cause = .missing := hcause
        exact Or.inr ⟨rfl, hnode⟩
    · cases h
      exact Or.inl ⟨_, rfl⟩
  · split at h
    · cases h
    · cases h
      exact Or.inl ⟨_, rfl⟩

section
variable {d : Disk} {p : FilePath}

theorem read_of_json (hp : Text.lower p.suffix = ".json") : read d p = (readText d p).bind readJson := by
  simp [read, hp]

theorem read_of_yaml (hp : Text.lower p.suffix = ".yaml" ∨ Text.lower p.suffix = ".yml") :
    read d p = (readText d p).bind readYaml := by
  rcases hp with hp | hp <;> simp [read, hp]

theorem isTextual_iff : p.isTextual ↔
    Text.lower p.suffix = ".json" ∨ Text.lower p.suffix = ".yaml" ∨ Text.lower p.suffix = ".yml" := by
  simp [FilePath.isTextual]

theorem isPresent_of_read {raw : Value} (hp : p.isTextual) (h : read d p = .ok raw) : raw.isPresent := by
  rcases isTextual_iff.mp hp with hp | hp
  · rw [read_of_json hp] at h
    obtain ⟨text, -, h⟩ := bind_eq_ok.mp h
    unfold readJson at h
    split at h
    · rename_i hread
      cases h
      exact Json.isPresent_of_read hread
    · cases h
    · cases h
  · rw [read_of_yaml hp] at h
    obtain ⟨text, -, h⟩ := bind_eq_ok.mp h
    unfold readYaml at h
    split at h
    · rename_i hread
      cases h
      exact Yaml.isPresent_of_read hread
    · cases h
    · cases h

theorem told_of_readText {fault : SourceFault} (h : readText d p = .error fault) :
    (LoadFault.ofSource p fault).Told d p := by
  rcases readText_eq_error h with ⟨reason, rfl⟩ | ⟨rfl, hnode⟩
  · exact .refused reason
  · exact .missing hnode

/-- What keeps a textual file from being read is told, unless its reader gives up. -/
theorem told_or_givesUp {fault : SourceFault} (hp : p.isTextual) (h : read d p = .error fault) :
    (LoadFault.ofSource p fault).Told d p ∨ GivesUp d p := by
  cases htext : readText d p with
  | error fault' =>
    left
    rcases isTextual_iff.mp hp with hp | hp
    · rw [read_of_json hp, htext] at h
      cases h
      exact told_of_readText htext
    · rw [read_of_yaml hp, htext] at h
      cases h
      exact told_of_readText htext
  | ok text =>
    rcases isTextual_iff.mp hp with hp | hp
    · rw [read_of_json hp, htext] at h
      change readJson text = .error fault at h
      unfold readJson at h
      split at h
      · cases h
      · cases h
        exact Or.inl (.refused _)
      · rename_i hread
        exact Or.inr (.json hp htext hread)
    · rw [read_of_yaml hp, htext] at h
      change readYaml text = .error fault at h
      unfold readYaml at h
      split at h
      · cases h
      · cases h
        exact Or.inl (.refused _)
      · rename_i hfault hread
        exact Or.inr (.yaml hp htext hread fun heq => hfault heq)

theorem GivesUp.untold (h : GivesUp d p) :
    ∃ fault, read d p = .error fault ∧ ¬ (LoadFault.ofSource p fault).Told d p := by
  cases h with
  | @json text digits hp htext h =>
    refine ⟨.longInteger digits, ?_, nofun⟩
    rw [read_of_json hp, htext]
    change readJson text = _
    rw [readJson, h]
  | @yaml text fault hp htext h hfault =>
    refine ⟨.yamlScalar fault, ?_, nofun⟩
    rw [read_of_yaml hp, htext]
    change readYaml text = _
    rw [readYaml, h]
    cases fault <;> first | rfl | exact absurd rfl hfault

end

end ManifestFile

namespace LoadedManifest

section
variable {d : Disk} {p : FilePath} {overrides : Value}

theorem ofFile_of_unread {fault : SourceFault} (h : ManifestFile.read d p = .error fault) :
    ofFile d p overrides = .error (.ofSource p fault) := by
  rw [ofFile, h]
  rfl

theorem ofFile_of_read {raw : Value} (h : ManifestFile.read d p = .ok raw) :
    ofFile d p overrides = ofValue raw overrides (some p) := by
  rw [ofFile, h]
  rfl

theorem ofValue_of_invalid {raw : Value} {e : InvalidManifest} {source : Option FilePath}
    (h : Manifest.validate raw = .error (.invalid e)) :
    ofValue raw overrides source = .error (.refused (.invalid e) source) := by
  rw [ofValue, h]
  rfl

theorem ofValue_cases {raw : Value} {m : Manifest} {source : Option FilePath}
    (h : Manifest.validate raw = .ok m) :
    overrides.areOverrides ∧ (∃ loaded, ofValue raw overrides source = .ok loaded) ∨
      overrides.areOverrides = false ∧ ∃ fault, ofValue raw overrides source = .error fault ∧
        ((∃ reason, fault = .overrides reason) ∨ ∃ issues, fault = .types issues) := by
  have hvalue : ofValue raw overrides source = (do
      let merged ← (m.merge overrides).mapError .overrides
      let kept ← (overridesOf overrides).mapError .types
      return ⟨merged, source, kept⟩) := by
    rw [ofValue, h]
    rfl
  rw [hvalue, ← m.isOk_merge_and_keep]
  cases m.merge overrides with
  | error reason => exact Or.inr ⟨rfl, _, rfl, Or.inl ⟨reason, rfl⟩⟩
  | ok merged =>
    cases overridesOf overrides with
    | error issues => exact Or.inr ⟨rfl, _, rfl, Or.inr ⟨issues, rfl⟩⟩
    | ok kept => exact Or.inl ⟨rfl, _, rfl⟩

/-- **Failures are told.** Whatever keeps a manifest from being loaded from a JSON or a YAML file, it is
told as a missing file or refused by the path of the file, exactly when the reader of the text does not
give up and, if there is a valid manifest to load, the overrides can be merged into it. -/
theorem ofFile_told_iff (hp : p.isTextual) :
    (∀ fault, ofFile d p overrides = .error fault → fault.Told d p) ↔
      ¬ ManifestFile.GivesUp d p ∧
        ((∃ raw m, ManifestFile.read d p = .ok raw ∧ Manifest.validate raw = .ok m) → overrides.areOverrides) := by
  constructor
  · intro htold
    constructor
    · intro hgives
      obtain ⟨fault, hread, huntold⟩ := hgives.untold
      exact huntold (htold _ (ofFile_of_unread hread))
    · rintro ⟨raw, m, hread, hm⟩
      rcases ofValue_cases hm with ⟨hmerges, -⟩ | ⟨-, fault, hload, huntold⟩
      · exact hmerges
      · have hfault := htold fault ((ofFile_of_read hread).trans hload)
        rcases huntold with ⟨reason, rfl⟩ | ⟨issues, rfl⟩ <;> cases hfault
  · rintro ⟨hgives, hmerges⟩ fault hload
    cases hread : ManifestFile.read d p with
    | error fault' =>
      rw [ofFile_of_unread hread] at hload
      cases hload
      exact (ManifestFile.told_or_givesUp hp hread).resolve_right hgives
    | ok raw =>
      rw [ofFile_of_read hread] at hload
      rcases Manifest.validate_cases (ManifestFile.isPresent_of_read hp hread) with ⟨m, hm⟩ | ⟨e, -, he⟩
      · rcases ofValue_cases hm with ⟨-, loaded, hloaded⟩ | ⟨hnot, -⟩
        · cases hload.symm.trans hloaded
        · cases hnot.symm.trans (hmerges ⟨raw, m, hread, hm⟩)
      · rw [ofValue_of_invalid he] at hload
        cases hload
        exact .refused _

end

/-- What is not a manifest is refused before the overrides are looked at. -/
theorem ofFile_told_invalid :
    let d : Disk := ⟨.folder [("m.json", .file (.ofText "\x7b\"id\": \"shop\"\x7d"))], []⟩
    let p := FilePath.ofText "m.json"
    p.isTextual ∧ ∃ fault, ofFile d p (.int 3) = .error fault ∧ fault.Told d p := by
  intro d p
  have hp : p.isTextual := by decide +kernel
  obtain ⟨raw, hread, hinvalid⟩ : ∃ raw ∈ (ManifestFile.read d p).toOption,
      (Manifest.validate raw).isOk = false := by decide +kernel
  rw [mem_toOption] at hread
  have htold : ∀ fault, ofFile d p (.int 3) = .error fault → fault.Told d p := by
    refine (ofFile_told_iff hp).mpr ⟨fun hgives => ?_, ?_⟩
    · obtain ⟨fault, hfault, -⟩ := hgives.untold
      cases hread.symm.trans hfault
    · rintro ⟨raw', m, hread', hm⟩
      cases hread.symm.trans hread'
      rw [hm] at hinvalid
      cases hinvalid
  cases hload : ofFile d p (.int 3) with
  | error fault => exact ⟨hp, fault, rfl, htold fault hload⟩
  | ok loaded =>
    rw [ofFile_of_read hread] at hload
    cases hvalid : Manifest.validate raw with
    | error fault =>
      rw [ofValue, hvalid] at hload
      cases hload
    | ok m =>
      rw [hvalid] at hinvalid
      cases hinvalid

/-- A date in the thirteenth month. -/
theorem date_untold :
    let d : Disk :=
      ⟨.folder [("m.yaml", .file (.ofText "id: shop\nname: Shop\nversion: 2024-13-01\n"))], []⟩
    let p := FilePath.ofText "m.yaml"
    p.isTextual ∧ ∃ fault, ofFile d p .null = .error fault ∧ ¬ fault.Told d p := by
  intro d p
  have hp : p.isTextual := by decide +kernel
  obtain ⟨text, htext, hmonth⟩ : ∃ text ∈ (ManifestFile.readText d p).toOption,
      ((Yaml.read text).mapError (·.message)).map (fun _ => ()) = .error "month must be in 1..12" := by
    decide +kernel
  rw [mem_toOption] at htext
  have hgives : ManifestFile.GivesUp d p := by
    cases hread : Yaml.read text with
    | ok raw =>
      rw [hread] at hmonth
      cases hmonth
    | error fault =>
      refine .yaml (Or.inl (by decide +kernel)) htext hread ?_
      rintro rfl
      rw [hread] at hmonth
      exact absurd hmonth (by decide)
  obtain ⟨fault, hfault, huntold⟩ := hgives.untold
  exact ⟨hp, _, ofFile_of_unread hfault, huntold⟩

end LoadedManifest

end Scaffold
