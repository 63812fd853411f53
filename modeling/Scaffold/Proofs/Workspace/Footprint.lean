import Scaffold.Proofs.Files.Edits
import Scaffold.Proofs.Value.Writable
import Scaffold.Workspace.Setup

/-!
# What a run leaves on the disk

A run that is not forced writes over no file that its check can see, and a run
writes no file outside the output folder. A planned path that climbs up behind
a name is the exception to both: the folder for that name is made on the way,
wherever it lies, and only then does the path lead to a file that is there.
All faults but those of writing come before the first edit.
-/

namespace Scaffold.Workspace

/-! ## The course of a run -/

/-- The plan of a run, made before anything is checked or written. -/
def planned (c : Config) (r : Registry) (now : Moment) (base : FilePath) (d : Disk) :
    Except SetupFault FilePlan := do
  let source ← (manifestPath c base d).mapError .load
  let loaded ← (LoadedManifest.ofFile d source (.map c.overrides)).mapError .load
  (plan c r now.wholeSeconds (base.join c.outputDir) loaded.manifest).2

/-- How a run comes to its end: there is no plan, or it is refused, or it is carried out as far as
the disk allows. -/
inductive Course (c : Config) (d : Disk) (folder : FilePath) :
    Except SetupFault FilePlan → Outcome SetupFault (List FilePath) → Prop
  | stopped {fault : SetupFault} {printed : String} :
      Course c d folder (.error fault) ⟨d, printed, .error fault⟩
  | refused {files : FilePlan} {fault : SetupFault} {printed : String}
      (h : refusal? c d folder files = some fault) : Course c d folder (.ok files) ⟨d, printed, .error fault⟩
  | failed {files : FilePlan} {d' : Disk} {fault : DiskFault} {printed : String}
      (h : refusal? c d folder files = none) (hd : carryOut d folder files = (d', .error fault)) :
      Course c d folder (.ok files) ⟨d', printed, .error (.disk fault)⟩
  | written {files : FilePlan} {d' : Disk} {printed : String}
      (h : refusal? c d folder files = none) (hd : carryOut d folder files = (d', .ok ())) :
      Course c d folder (.ok files) ⟨d', printed, .ok files.paths⟩

theorem course_setup (c : Config) (r : Registry) (now : Moment) (base : FilePath) (d : Disk) :
    Course c d (base.join c.outputDir) (planned c r now base d) (setup c r now base d) := by
  unfold setup planned
  cases hsource : manifestPath c base d with
  | error fault => exact .stopped
  | ok source =>
    cases hloaded : LoadedManifest.ofFile d source (.map c.overrides) with
    | error fault =>
      simp only [hloaded, bind, Except.bind, Except.mapError]
      exact .stopped
    | ok loaded =>
      simp only [hloaded, bind, Except.bind, Except.mapError, pure, Except.pure]
      rcases plan c r now.wholeSeconds (base.join c.outputDir) loaded.manifest with ⟨printed, _ | files⟩
      · exact .stopped
      · dsimp only
        cases hrefusal : refusal? c d (base.join c.outputDir) files with
        | some fault => exact .refused hrefusal
        | none =>
          rcases hd : carryOut d (base.join c.outputDir) files with ⟨d', fault | _⟩
          · exact .failed hrefusal hd
          · exact .written hrefusal hd

/-- The disk is touched only by a plan that has passed all checks. -/
theorem disk_setup_cases (c : Config) (r : Registry) (now : Moment) (base : FilePath) (d : Disk) :
    (setup c r now base d).disk = d ∨ ∃ files, planned c r now base d = .ok files ∧
      refusal? c d (base.join c.outputDir) files = none ∧
      (setup c r now base d).disk = (carryOut d (base.join c.outputDir) files).1 := by
  have hcourse := course_setup c r now base d
  generalize setup c r now base d = outcome at hcourse ⊢
  generalize planned c r now base d = plan at hcourse ⊢
  cases hcourse with
  | stopped => exact Or.inl rfl
  | refused _ => exact Or.inl rfl
  | failed h hd => exact Or.inr ⟨_, rfl, h, by rw [hd]⟩
  | written h hd => exact Or.inr ⟨_, rfl, h, by rw [hd]⟩

theorem disk_setup_of_planned {c : Config} {r : Registry} {now : Moment} {base : FilePath} {d : Disk}
    {files : FilePlan} (hplan : planned c r now base d = .ok files)
    (hpassed : refusal? c d (base.join c.outputDir) files = none) :
    (setup c r now base d).disk = (carryOut d (base.join c.outputDir) files).1 := by
  have hcourse := course_setup c r now base d
  rw [hplan] at hcourse
  generalize setup c r now base d = outcome at hcourse ⊢
  cases hcourse with
  | refused h => simp [hpassed] at h
  | failed _ hd => rw [hd]
  | written _ hd => rw [hd]

theorem result_setup_of_refused {c : Config} {r : Registry} {now : Moment} {base : FilePath} {d : Disk}
    {files : FilePlan} {fault : SetupFault} (hplan : planned c r now base d = .ok files)
    (hrefused : refusal? c d (base.join c.outputDir) files = some fault) :
    (setup c r now base d).result = .error fault := by
  have hcourse := course_setup c r now base d
  rw [hplan] at hcourse
  generalize setup c r now base d = outcome at hcourse ⊢
  cases hcourse with
  | refused h =>
    rw [hrefused] at h
    cases h
    rfl
  | failed h _ => simp [hrefused] at h
  | written h _ => simp [hrefused] at h

theorem planned_of_loaded {c : Config} {r : Registry} {now : Moment} {base : FilePath} {d : Disk}
    {source : FilePath} {loaded : LoadedManifest} (hsource : manifestPath c base d = .ok source)
    (hloaded : LoadedManifest.ofFile d source (.map c.overrides) = .ok loaded) :
    planned c r now base d = (plan c r now.wholeSeconds (base.join c.outputDir) loaded.manifest).2 := by
  unfold planned
  rw [hsource]
  simp only [Except.mapError, bind, Except.bind, hloaded]

/-! ## Checks -/

theorem isPrefix_of_contained {files : FilePlan} {here : Location} {folder p : FilePath}
    (h : files.outside? here folder = none) (hp : p ∈ files.paths) :
    folder.resolve here <+: p.resolve here := by
  unfold FilePlan.outside? at h
  have := List.find?_eq_none.mp h p hp
  simpa using this

theorem node?_of_present_eq_nil {d : Disk} {p : FilePath} {files : FilePlan}
    (h : present d files = .ok []) (hp : p ∈ files.paths) : d.node? p = .ok none := by
  unfold present at h
  cases hps : files.paths.mapM fun p => (d.node? p).map fun n => (p, n.isSome) with
  | error fault => rw [hps] at h; cases h
  | ok ps =>
    rw [hps] at h
    have hnone : ps.filter (·.2) = [] := List.map_eq_nil_iff.mp (Except.ok.inj h)
    obtain ⟨e, he, hnode⟩ := exists_ok_of_mem hps hp
    cases hn : d.node? p with
    | error fault => simp [hn, Except.map] at hnode
    | ok n =>
      cases n with
      | none => rfl
      | some n =>
        simp only [hn, Except.map, Except.ok.injEq] at hnode
        exact absurd (by rw [← hnode]; rfl) (List.filter_eq_nil_iff.mp hnone e he)

theorem contained_of_unrefused {c : Config} {d : Disk} {folder : FilePath} {files : FilePlan}
    (h : refusal? c d folder files = none) : files.outside? d.here folder = none := by
  unfold refusal? at h
  cases houtside : files.outside? d.here folder with
  | none => rfl
  | some p => simp [houtside] at h

theorem absent_of_unrefused {c : Config} {d : Disk} {folder p : FilePath} {files : FilePlan}
    (hforce : c.force = false) (h : refusal? c d folder files = none) (hp : p ∈ files.paths) :
    d.node? p = .ok none := by
  unfold refusal? at h
  rw [contained_of_unrefused h] at h
  simp only [hforce, Bool.false_eq_true, if_false] at h
  rcases hpresent : present d files with fault | _ | ⟨q, qs⟩
  · simp [hpresent] at h
  · exact node?_of_present_eq_nil hpresent hp
  · simp [hpresent] at h

/-! ## Carrying out a plan -/

section

variable {made written : Location → Prop} {d₀ : Disk}

theorem edits_writeAll : ∀ {files : FilePlan} {d : Disk}, Disk.Edits made written d₀ d →
    (∀ p ∈ files.paths, ∀ l, p.PassesBy d₀.here l → made l) →
    (∀ p ∈ files.paths, ∀ {d' l}, Disk.Edits made written d₀ d' → d'.place p = .ok l → written l) →
    Disk.Edits made written d₀ (writeAll d files).1
  | [], d, h, _, _ => h
  | (p, text) :: files, d, h, hmade, hwritten => by
    have hfirst := h.writeWithFolders (c := .ofText text) (hmade p List.mem_cons_self)
      (hwritten p List.mem_cons_self)
    unfold writeAll
    split
    · rename_i heq
      rw [heq] at hfirst
      exact edits_writeAll hfirst (fun q hq => hmade q (List.mem_cons_of_mem _ hq))
        fun q hq => hwritten q (List.mem_cons_of_mem _ hq)
    · rename_i heq
      rw [heq] at hfirst
      exact hfirst

theorem edits_carryOut {folder : FilePath} {files : FilePlan}
    (hmade : ∀ p ∈ folder :: files.paths, ∀ l, p.PassesBy d₀.here l → made l)
    (hwritten : ∀ p ∈ files.paths, ∀ {d' l},
      Disk.Edits made written d₀ d' → d'.place p = .ok l → written l) :
    Disk.Edits made written d₀ (carryOut d₀ folder files).1 := by
  have hstart : Disk.Edits made written d₀ d₀ := .refl
  have hfolder := hstart.ensureFolders (hmade folder List.mem_cons_self)
  unfold carryOut
  split
  · rename_i heq
    rw [heq] at hfolder
    exact hfolder
  · rename_i heq
    rw [heq] at hfolder
    exact edits_writeAll hfolder (fun p hp => hmade p (List.mem_cons_of_mem _ hp)) hwritten

end

/-! ## A project with a plugin -/

def asciiFile (s : String) : Content := .bytes (s.toList.map fun ch => UInt8.ofNat ch.toNat)

def shopManifest : String :=
  "\x7b\"id\": \"shop\", \"name\": \"Shop\", \"version\": \"1\", \"entities\": " ++
    "[\x7b\"name\": \"Item\", \"fields\": [\x7b\"name\": \"title\", \"kind\": \"string\"\x7d]\x7d]\x7d"

def shopDisk : Disk :=
  ⟨.folder [("manifest.json", .file (asciiFile shopManifest)),
    ("out", .folder [("keep.txt", .file (asciiFile "mine"))])], []⟩

def shopConfig : Config :=
  { Config.default with
    manifestPath := some (.ofText "manifest.json")
    outputDir := .ofText "out"
    skip := Group.names }

def notes (path : String) : Registry :=
  ⟨[("notes", ⟨"notes", path, none, fun _ _ => ("notes", .ok (.text "theirs"))⟩)]⟩

def shopMoment : Moment := ⟨⟨2024, 1, 1⟩, 0, 0, 0, 0, some 0⟩

def shopRun (path : String) : Outcome SetupFault (List FilePath) :=
  setup shopConfig (notes path) shopMoment (.ofText "/") shopDisk

theorem planned_shop (path : String) :
    planned shopConfig (notes path) shopMoment (.ofText "/") shopDisk =
      .ok [((FilePath.ofText "/out").append path, "theirs")] := by
  have loads : (LoadedManifest.ofFile shopDisk (.ofText "/manifest.json") (.map [])).isOk := by
    decide +kernel
  obtain ⟨loaded, hloaded⟩ := isOk_iff.mp loads
  have hsource : manifestPath shopConfig (.ofText "/") shopDisk = .ok (.ofText "/manifest.json") := rfl
  rw [planned_of_loaded hsource hloaded]
  rfl

/-! ## What is left alone -/

variable {c : Config} {d : Disk}

/-- **Nothing half done.** A run that ends with a fault of loading, of generating or of a plugin, or
with a plan that is refused, leaves the disk as it was. -/
theorem setup_leaves_disk {r : Registry} {now : Moment} {base : FilePath} {fault : SetupFault}
    (h : (setup c r now base d).result = .error fault) (hfault : ∀ e, fault ≠ .disk e) :
    (setup c r now base d).disk = d := by
  have hcourse := course_setup c r now base d
  generalize setup c r now base d = outcome at h hcourse ⊢
  generalize planned c r now base d = plan at hcourse
  cases hcourse with
  | stopped => rfl
  | refused _ => rfl
  | failed _ _ =>
    cases h
    exact absurd rfl (hfault _)
  | written _ _ => cases h

/-- The run would write over the file that the user keeps. -/
theorem setup_leaves_disk_present :
    (shopRun "keep.txt").result = .error (.present (.ofText "/out/keep.txt")) ∧
      (shopRun "keep.txt").disk = shopDisk := by
  have hresult : (shopRun "keep.txt").result = .error (.present (.ofText "/out/keep.txt")) :=
    result_setup_of_refused (planned_shop "keep.txt") rfl
  exact ⟨hresult, setup_leaves_disk hresult fun _ h => by cases h⟩

/-- **Files are kept.** A run that is not forced leaves every file as it was, save one to which a
planned path leads by way of a location where nothing was, from behind which it climbs up again. -/
theorem setup_keeps_files (r : Registry) (now : Moment) (base : FilePath) (hforce : c.force = false)
    {l : Location} {content : Content} (hl : d.root.at? l = some (.file content)) :
    (setup c r now base d).disk.root.at? l = some (.file content) ∨
      ∃ files, planned c r now base d = .ok files ∧ ∃ p ∈ files.paths, p.resolve d.here = l ∧
        ∃ gap, p.ClimbsPast d.here gap ∧ d.root.occupant? gap = none := by
  rcases disk_setup_cases c r now base d with hsame | ⟨files, hplan, hpassed, hdisk⟩
  · exact Or.inl (by rw [hsame]; exact hl)
  · have hbefore := FileTree.occupant?_eq_file_iff.mpr hl
    have hedits : Disk.Edits (fun _ => True)
        (fun l => ∃ p ∈ files.paths, p.resolve d.here = l ∧ (d.root.occupant? l = none ∨
          ∃ gap, p.ClimbsPast d.here gap ∧ d.root.occupant? gap = none))
        d (carryOut d (base.join c.outputDir) files).1 := by
      refine edits_carryOut (fun _ _ _ _ => trivial) fun p hp d' l hd' hplace => ?_
      have hresolve : l = p.resolve d'.here := Disk.place_eq_ok hplace
      rw [hd'.here_eq] at hresolve
      exact ⟨p, hp, hresolve.symm, hd'.climbs_of_absent (absent_of_unrefused hforce hpassed hp) hplace⟩
    rw [hdisk]
    rcases hedits.occupant?_cases l with hsame | ⟨-, hnone, -⟩ | ⟨⟨p, hp, hpl, hgap⟩, -, -⟩
    · exact Or.inl (FileTree.occupant?_eq_file_iff.mp (hsame.trans hbefore))
    · simp [hbefore] at hnone
    · exact Or.inr ⟨files, hplan, p, hp, hpl, hgap.resolve_left (by simp [hbefore])⟩

theorem setup_keeps_files_fresh :
    shopConfig.force = false ∧ shopDisk.root.at? ["out", "keep.txt"] = some (.file (asciiFile "mine")) ∧
      (shopRun "fresh.txt").disk.root.at? ["out", "keep.txt"] = some (.file (asciiFile "mine")) := by
  have hforce : shopConfig.force = false := rfl
  have hkeep : shopDisk.root.at? ["out", "keep.txt"] = some (.file (asciiFile "mine")) := rfl
  refine ⟨hforce, hkeep, ?_⟩
  unfold shopRun
  rcases setup_keeps_files (notes "fresh.txt") shopMoment (.ofText "/") hforce hkeep with
    hkept | ⟨files, hplan, p, hp, hresolve, -⟩
  · exact hkept
  · cases (planned_shop "fresh.txt").symm.trans hplan
    obtain rfl := List.mem_singleton.mp hp
    exact absurd hresolve (by decide)

/-- The folder on the way to the path of the plugin is not there when the run checks, so nothing
seems to be at its end. -/
theorem setup_writes_over_file :
    shopConfig.force = false ∧ shopDisk.root.at? ["out", "keep.txt"] = some (.file (asciiFile "mine")) ∧
      (shopRun "new/../keep.txt").disk.root.at? ["out", "keep.txt"] = some (.file (.ofText "theirs")) ∧
      Content.ofText "theirs" ≠ asciiFile "mine" := by
  have hdisk : (shopRun "new/../keep.txt").disk = _ :=
    disk_setup_of_planned (planned_shop "new/../keep.txt") rfl
  have hbytes : Text.encodeUtf8 "theirs" ≠ "mine".toList.map fun ch => UInt8.ofNat ch.toNat := by
    decide +kernel
  refine ⟨rfl, rfl, ?_, fun h => ?_⟩
  · rw [hdisk]
    rfl
  · injection h with h
    exact hbytes h

/-- **Containment.** Outside the output folder a run changes nothing, save for new folders: those
above the output folder, and those behind whose name a planned path, or the path of the output
folder, climbs up again. -/
theorem setup_stays_inside (c : Config) (r : Registry) (now : Moment) (base : FilePath) (d : Disk)
    (l : Location) :
    let folder := base.join c.outputDir
    let after := (setup c r now base d).disk
    after.root.occupant? l = d.root.occupant? l ∨ folder.resolve d.here <+: l ∨
      d.root.occupant? l = none ∧ after.root.occupant? l = some .folder ∧
        (l <+: folder.resolve d.here ∨ folder.ClimbsPast d.here l ∨
          ∃ files, planned c r now base d = .ok files ∧ ∃ p ∈ files.paths, p.ClimbsPast d.here l) := by
  intro folder after
  rcases disk_setup_cases c r now base d with hsame | ⟨files, hplan, hpassed, hdisk⟩
  · exact Or.inl (congrArg (fun d' : Disk => d'.root.occupant? l) hsame)
  · have hcontained := contained_of_unrefused hpassed
    have hedits : Disk.Edits (fun l => ∃ p ∈ folder :: files.paths, p.PassesBy d.here l)
        (fun l => folder.resolve d.here <+: l) d (carryOut d folder files).1 := by
      refine edits_carryOut (fun p hp l hl => ⟨p, hp, hl⟩) fun p hp d' l hd' hplace => ?_
      rw [Disk.place_eq_ok hplace, hd'.here_eq]
      exact isPrefix_of_contained hcontained hp
    rw [← hdisk] at hedits
    rcases hedits.occupant?_cases l with hsame | ⟨⟨p, hp, hpl⟩, hnone, hfolder⟩ | ⟨hinside, -, -⟩
    · exact Or.inl hsame
    · rcases hpl.climbs_or_above with hclimbs | habove
      · refine Or.inr (Or.inr ⟨hnone, hfolder, Or.inr ?_⟩)
        rcases List.mem_cons.mp hp with rfl | hp
        · exact Or.inl hclimbs
        · exact Or.inr ⟨files, hplan, p, hp, hclimbs⟩
      · rcases List.mem_cons.mp hp with rfl | hp
        · exact Or.inr (Or.inr ⟨hnone, hfolder, Or.inl habove⟩)
        · -- what lies above a path into the output folder lies above the folder or inside it
          rcases List.prefix_or_prefix_of_prefix habove (isPrefix_of_contained hcontained hp) with
            habove | hinside
          · exact Or.inr (Or.inr ⟨hnone, hfolder, Or.inl habove⟩)
          · exact Or.inr (Or.inl hinside)
    · exact Or.inr (Or.inl hinside)

/-- The path of the plugin ends inside the output folder, but leaves it on the way. -/
theorem setup_makes_folder_outside :
    shopDisk.root.occupant? ["side"] = none ∧
      (shopRun "../side/../out/notes.txt").disk.root.occupant? ["side"] = some .folder ∧
      ¬ ((FilePath.ofText "/").join shopConfig.outputDir).resolve shopDisk.here <+: ["side"] ∧
      ¬ ["side"] <+: ((FilePath.ofText "/").join shopConfig.outputDir).resolve shopDisk.here := by
  have hdisk : (shopRun "../side/../out/notes.txt").disk = _ :=
    disk_setup_of_planned (planned_shop "../side/../out/notes.txt") rfl
  refine ⟨rfl, ?_, by decide, by decide⟩
  rw [hdisk]
  rfl

end Scaffold.Workspace
