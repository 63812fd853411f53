import Scaffold.Proofs.Number.FixedWidth
import Scaffold.Proofs.Text.Joined
import Scaffold.Proofs.Time.Calendar
import Scaffold.Proofs.Workspace.Skipped

/-!
# Versions sort by time

From the year 1000 on the version of a migration has fourteen digits, year
first and second last, so versions and the files named by them are in the order
of time (`Moment.version_sorts`).
-/

namespace Scaffold

namespace Moment

variable {s t : Moment}

theorem writesNumber_version (h : t.IsValid) (hyear : 1000 ≤ t.date.year) : WritesNumber t.version 14 t.numeral := by
  obtain ⟨⟨-, hyear'⟩, ⟨-, hmonth⟩, -, hday⟩ := Date.isValid_iff.mp h.date
  have hshort := Date.daysIn_le t.date.year t.date.month
  have hhour := h.hour
  have hminute := h.minute
  have hsecond := h.second
  have htwo (n : Nat) (hn : n < 100) : WritesNumber (padded 2 n) 2 n := .padded (by decide) hn
  exact (((((WritesNumber.year hyear hyear').append (htwo _ (by omega))).append (htwo _ (by omega))).append
    (htwo _ (by omega))).append (htwo _ (by omega))).append (htwo _ (by omega))

/-! ## Names of files -/

theorem name_of_migrationPath {o : Output} {folder p : FilePath} (hversion : t.version.toList.all Decimal.isDigit)
    (hp : p ∈ (o.entriesOf folder t .migrations).map Prod.fst) : ∃ ending, p.name = t.version ++ ending := by
  have hname (ending : String) (hslash : '/' ∉ ending.toList) (hlong : 1 < ending.toList.length) :
      (folder.append ("migrations/" ++ t.version ++ ending)).name = t.version ++ ending := by
    -- the version has digits only, so it stays within one segment
    have hdigits : '/' ∉ t.version.toList := fun hmem =>
      absurd (List.all_eq_true.mp hversion '/' hmem) (by decide)
    have hlength : (t.version ++ ending).toList.length = t.version.toList.length + ending.toList.length := by
      rw [String.toList_append, List.length_append]
    have hsegment : isSegment (String.ofList (t.version ++ ending).toList) := by
      refine FilePath.isSegment_iff.mpr ⟨?_, ?_, ?_⟩
      · exact List.ne_nil_of_length_pos (by omega)
      · intro h
        rw [h, List.length_singleton] at hlength
        omega
      · rw [String.toList_append, List.mem_append]
        exact not_or_intro hdigits hslash
    rw [String.ofList_toList] at hsegment
    rw [show "migrations/" ++ t.version ++ ending = "migrations" ++ "/" ++ (t.version ++ ending) from
      String.append_assoc]
    exact FilePath.name_append_slash hsegment folder "migrations"
  obtain ⟨f, hf, -, rfl⟩ := Output.mem_paths_entriesOf.mp hp
  simp only [Output.textsOf, List.mem_cons, List.not_mem_nil, or_false] at hf
  rcases hf with rfl | rfl
  · exact ⟨"_init.sql", hname _ (by decide) (by decide)⟩
  · exact ⟨"_rollback.sql", hname _ (by decide) (by decide)⟩

/-- Versions of moments on one clock are fourteen digits each, in the order of the seconds the
moments lie in, and so are the names of the migrations that are planned at them. -/
theorem version_sorts (hs : s.IsValid) (ht : t.IsValid) (hyear : 1000 ≤ s.date.year) (hyear' : 1000 ≤ t.date.year)
    (hoffset : s.offset = t.offset) :
    (s.version.length = 14 ∧ s.version.toList.all Decimal.isDigit) ∧
    (t.version.length = 14 ∧ t.version.toList.all Decimal.isDigit) ∧
    (s.version < t.version ↔ s.wholeSeconds.Earlier t.wholeSeconds) ∧
    (s.version = t.version ↔ s.wholeSeconds.equal t.wholeSeconds) ∧
    ∀ (o o' : Output) (folder folder' : FilePath),
      ∀ p ∈ (o.entriesOf folder s .migrations).map Prod.fst,
      ∀ q ∈ (o'.entriesOf folder' t .migrations).map Prod.fst,
        (s.wholeSeconds.Earlier t.wholeSeconds → p.name < q.name) ∧
        (¬ s.wholeSeconds.equal t.wholeSeconds → p.name ≠ q.name) := by
  have hversion := writesNumber_version hs hyear
  have hversion' := writesNumber_version ht hyear'
  have hlt : s.version < t.version ↔ s.wholeSeconds.Earlier t.wholeSeconds := by
    rw [earlier_wholeSeconds_iff hoffset, hversion.lt_iff hversion', secondNumber_lt_iff hs ht]
  have heq : s.version = t.version ↔ s.wholeSeconds.equal t.wholeSeconds := by
    rw [equal_wholeSeconds_iff hoffset, hversion.eq_iff hversion', secondNumber_eq_iff hs ht]
  refine ⟨⟨hversion.length, hversion.digits⟩, ⟨hversion'.length, hversion'.digits⟩, hlt, heq, ?_⟩
  intro o o' folder folder' p hp q hq
  obtain ⟨ending, hname⟩ := name_of_migrationPath hversion.digits hp
  obtain ⟨ending', hname'⟩ := name_of_migrationPath hversion'.digits hq
  have hlength : s.version.toList.length = t.version.toList.length := by
    rw [String.length_toList, String.length_toList, hversion.length, hversion'.length]
  rw [hname, hname']
  constructor
  · intro hearlier
    rw [String.lt_iff, String.toList_append, String.toList_append]
    exact Text.append_lt_append (String.lt_iff.mp (hlt.mpr hearlier)) hlength _ _
  · intro hapart hsame
    have hlist := congrArg String.toList hsame
    rw [String.toList_append, String.toList_append] at hlist
    exact hapart (heq.mp (String.toList_injective (List.append_inj_left hlist hlength)))

/-- A microsecond makes all six fields of a version new at the end of a century. -/
theorem version_sorts_newYear :
    let eve : Moment := ⟨⟨1999, 12, 31⟩, 23, 59, 59, 999999, some 3600000000⟩
    let newYear : Moment := ⟨⟨2000, 1, 1⟩, 0, 0, 0, 0, some 3600000000⟩
    (eve.IsValid ∧ newYear.IsValid ∧ eve.offset = newYear.offset) ∧
    eve.version < newYear.version ∧
    ∀ (o : Output) (folder : FilePath), ∀ p ∈ (o.entriesOf folder eve .migrations).map Prod.fst,
      ∀ q ∈ (o.entriesOf folder newYear .migrations).map Prod.fst, p.name < q.name ∧ p.name ≠ q.name := by
  intro eve newYear
  have heve : eve.IsValid := ⟨rfl, by decide, by decide, by decide, by decide⟩
  have hnewYear : newYear.IsValid := ⟨rfl, by decide, by decide, by decide, by decide⟩
  have hearlier : eve.wholeSeconds.Earlier newYear.wholeSeconds := by decide
  have hapart : ¬ eve.wholeSeconds.equal newYear.wholeSeconds := by decide
  obtain ⟨-, -, hlt, -, hnames⟩ := version_sorts heve hnewYear (by decide) (by decide) rfl
  refine ⟨⟨heve, hnewYear, rfl⟩, hlt.mpr hearlier, fun o folder p hp q hq => ?_⟩
  have hname := hnames o o folder folder p hp q hq
  exact ⟨hname.1 hearlier, hname.2 hapart⟩

end Moment

end Scaffold
