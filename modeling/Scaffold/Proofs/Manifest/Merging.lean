import Scaffold.Manifest.Overrides
import Scaffold.Proofs.Manifest.Revalidation
import Scaffold.Proofs.Value.Writes

/-!
# Overrides as writes

Each override is some writes into the generator settings, and overrides in their
order are all these writes in a row. So a manifest with overrides merged in
differs from the manifest in its generator settings only, and there the last
write to a key wins; merging the overrides again changes nothing, and the merged
manifest is as valid as the manifest was (`Manifest.merge_valid`).
-/

namespace Scaffold

namespace Entries

/-- What an override writes, in order: a default region that holds under a key of its own, generator
flags one by one, and anything else as it is. -/
def writesOf (key : String) (value : Value) : Entries :=
  if key = "default_region" then if value.truth then [(.text "defaultRegion", value)] else []
  else if key = "generator_flags" then value.entries?.getD []
  else [(.text key, value)]

def writes (overrides : List (String × Value)) : Entries := overrides.flatMap fun o => writesOf o.1 o.2

def FlagsKeyed (overrides : List (String × Value)) : Prop :=
  ∀ flags, ("generator_flags", flags) ∈ overrides → flags.truth → ∃ fs, flags = .ofFields fs

theorem entries?_of_not_truth {v : Value} (h : ¬ v.truth) : v.entries?.getD [] = [] := by
  cases v <;> simp_all [Value.entries?, Value.truth]

theorem putOverride_text {key : String} {value : Value} (es : Entries)
    (h : key = "generator_flags" → value.truth → ∃ fs, value = .ofFields fs) :
    es.putOverride (.text key) value = .ok (es.putAll (writesOf key value)) := by
  unfold putOverride writesOf regionKey flagsKey
  simp only [Value.equal_text, beq_iff_eq]
  by_cases hregion : key = "default_region"
  · rw [if_pos hregion, if_pos hregion]
    split <;> rfl
  · rw [if_neg hregion, if_neg hregion]
    by_cases hflags : key = "generator_flags"
    · rw [if_pos hflags, if_pos hflags]
      by_cases htruth : value.truth
      · obtain ⟨fs, rfl⟩ := h hflags htruth
        rw [if_pos htruth]
        rfl
      · rw [if_neg htruth, entries?_of_not_truth htruth]
        rfl
    · rw [if_neg hflags, if_neg hflags]
      rfl

theorem isText_writesOf {key : String} {value : Value}
    (h : key = "generator_flags" → value.truth → ∃ fs, value = .ofFields fs) :
    ∀ w ∈ writesOf key value, w.1.isText := by
  unfold writesOf
  split
  · split <;> simp [Value.isText]
  · split
    · rename_i hflags
      by_cases htruth : value.truth
      · obtain ⟨fs, rfl⟩ := h hflags htruth
        exact List.forall_mem_map.mpr fun f _ => rfl
      · rw [entries?_of_not_truth htruth]
        exact List.forall_mem_nil _
    · simp [Value.isText]

section
variable {overrides : List (String × Value)}

theorem FlagsKeyed.of_cons {o : String × Value} (h : FlagsKeyed (o :: overrides)) : FlagsKeyed overrides :=
  fun flags hflags => h flags (List.mem_cons_of_mem _ hflags)

theorem FlagsKeyed.of_mem (h : FlagsKeyed overrides) {o : String × Value} (ho : o ∈ overrides) :
    o.1 = "generator_flags" → o.2.truth → ∃ fs, o.2 = .ofFields fs :=
  fun hkey => h o.2 (by rwa [← hkey])

theorem putOverrides_text (h : FlagsKeyed overrides) (es : Entries) :
    es.putOverrides (overrides.map fun o => (.text o.1, o.2)) = .ok (es.putAll (writes overrides)) := by
  induction overrides generalizing es with
  | nil => rfl
  | cons o overrides ih =>
    rw [List.map_cons, putOverrides, putOverride_text es (h.of_mem List.mem_cons_self), writes,
      List.flatMap_cons, putAll_append]
    exact ih h.of_cons _

theorem isText_writes (h : FlagsKeyed overrides) : ∀ w ∈ writes overrides, w.1.isText := by
  intro w hw
  obtain ⟨o, ho, hw⟩ := List.mem_flatMap.mp hw
  exact isText_writesOf (h.of_mem ho) w hw

end

end Entries

namespace Manifest

open Entries

/-! ## Other generator settings -/

def generatorSettings (m : Manifest) : Entries := m.generators.toOption.getD []

def withGenerators (m : Manifest) (es : Entries) : Manifest := { m with generators := .set es }

@[simp] theorem generatorSettings_withGenerators (m : Manifest) (es : Entries) :
    (m.withGenerators es).generatorSettings = es := rfl

@[simp] theorem withGenerators_withGenerators (m : Manifest) (es fs : Entries) :
    (m.withGenerators es).withGenerators fs = m.withGenerators fs := rfl

theorem GivenBy.textKeyed {v : Value} {m : Manifest} (h : GivenBy v m) : m.generatorSettings.TextKeyed := by
  have hgiven := h.generators
  unfold generatorSettings
  cases hg : m.generators with
  | unset => exact textKeyed_nil
  | null => exact textKeyed_nil
  | set es =>
    rw [hg] at hgiven
    obtain ⟨w, -, hw⟩ := hgiven
    exact textKeyed_of_gives hw

theorem GivenBy.withGenerators {v : Value} {m : Manifest} {es : Entries} (h : GivenBy v m) (hes : es.TextKeyed) :
    GivenBy (m.withGenerators es).toValue (m.withGenerators es) := by
  obtain ⟨hi, hn, hv, hg, he, hr⟩ := (m.withGenerators es).field?_toValue
  exact ⟨h.id.written hi fun w => Value.GivesName.written w _,
    h.name.written hn fun w => Value.GivesName.written w _,
    h.version.written hv fun w => Value.GivesName.written w _,
    ⟨.map es, hg, hes.gives⟩,
    h.entities.written he fun _ hw => hw.written fun _ _ => Entity.GivenBy.written,
    h.relations.written hr Value.GivesTextMap.written⟩

theorem revalidate_withGenerators {raw : Value} {m : Manifest} {es : Entries} (h : validate raw = .ok m)
    (hes : es.TextKeyed) : (m.withGenerators es).revalidate = .ok (m.withGenerators es) := by
  obtain ⟨hm, hnames⟩ := validate_eq_ok_iff.mp h
  exact validate_eq_ok_iff.mpr ⟨hm.withGenerators hes, hnames.entities, hnames.fields, hnames.targets⟩

/-! ## Merging -/

theorem merge_ofFields (m : Manifest) {overrides : List (String × Value)} (hne : overrides ≠ [])
    (h : FlagsKeyed overrides) :
    m.merge (.ofFields overrides) = .ok (m.withGenerators (m.generatorSettings.putAll (writes overrides))) := by
  have htruth : (Value.ofFields overrides).truth = true := by simpa [Value.ofFields, Value.truth] using hne
  unfold merge
  rw [htruth]
  exact congrArg (Except.map m.withGenerators) (putOverrides_text h m.generatorSettings)

/-- **Overrides are writes.** Overrides with text keys give a new manifest with other generator settings,
where a key that is written has the value that is written last and any other key the value it had. Merged
in once more they change nothing, and the merged manifest is validated to itself. -/
theorem merge_valid {raw : Value} {m : Manifest} {overrides : List (String × Value)} (hm : validate raw = .ok m)
    (hne : overrides ≠ []) (hflags : FlagsKeyed overrides) :
    ∃ generators, m.merge (.ofFields overrides) = .ok (m.withGenerators generators) ∧
      generators.TextKeyed ∧
      (∀ key, generators.getText? key = (lastText? (writes overrides) key).or (m.generatorSettings.getText? key)) ∧
      (m.withGenerators generators).merge (.ofFields overrides) = .ok (m.withGenerators generators) ∧
      (m.withGenerators generators).revalidate = .ok (m.withGenerators generators) := by
  have hkeyed := (validate_eq_ok_iff.mp hm).1.textKeyed
  have hwrites := isText_writes hflags
  have hmerged := hkeyed.putAll hwrites
  refine ⟨m.generatorSettings.putAll (writes overrides), merge_ofFields m hne hflags, hmerged,
    getText?_putAll _ hwrites, ?_, revalidate_withGenerators hm hmerged⟩
  rw [merge_ofFields _ hne hflags, generatorSettings_withGenerators, withGenerators_withGenerators,
    putAll_putAll hkeyed hwrites]

/-- Three overrides with two keys between them: the last write wins, and a region that was there keeps its place. -/
theorem merge_valid_overlap :
    let raw : Value := .ofFields [("id", .text "shop"), ("name", .text "Shop"), ("version", .text "1"),
      ("generators", .ofFields [("defaultRegion", .text "old"), ("kept", .int 1)]),
      ("entities", .list [.ofFields [("name", .text "Item"),
        ("fields", .list [.ofFields [("name", .text "price"), ("kind", .text "number")]])]])]
    let overrides : List (String × Value) := [("cache", .bool false),
      ("generator_flags", .ofFields [("cache", .bool true), ("defaultRegion", .text "us")]),
      ("default_region", .text "eu")]
    let generators : Entries :=
      [(.text "defaultRegion", .text "eu"), (.text "kept", .int 1), (.text "cache", .bool true)]
    ∃ m, validate raw = .ok m ∧ overrides ≠ [] ∧ FlagsKeyed overrides ∧
      m.merge (.ofFields overrides) = .ok (m.withGenerators generators) ∧
      (m.withGenerators generators).merge (.ofFields overrides) = .ok (m.withGenerators generators) ∧
      (m.withGenerators generators).revalidate = .ok (m.withGenerators generators) := by
  intro raw overrides generators
  have hne : overrides ≠ [] := List.cons_ne_nil _ _
  have hflags : FlagsKeyed overrides := by
    intro flags hmem _
    simp only [overrides, List.mem_cons, Prod.mk.injEq, String.reduceEq, false_and, true_and, false_or,
      List.not_mem_nil, or_false] at hmem
    exact ⟨_, hmem⟩
  obtain ⟨m, hm, hmerge⟩ : ∃ m, validate raw = .ok m ∧
      m.merge (.ofFields overrides) = .ok (m.withGenerators generators) := ⟨_, rfl, rfl⟩
  obtain ⟨generators', hmerge', -, -, hagain, hvalid⟩ := merge_valid hm hne hflags
  obtain rfl : generators = generators' :=
    congrArg generatorSettings (Except.ok.inj (hmerge.symm.trans hmerge'))
  exact ⟨m, hm, hne, hflags, hmerge, hagain, hvalid⟩

end Manifest

end Scaffold
