import Mathlib.Data.List.Induction
import Scaffold.Manifest.Loading
import Scaffold.Proofs.Value.Writable

/-!
# What a loader remembers

After any calls a loader remembers what the latest successful one of them
returned; the calls that failed since then, at whatever stage, have left no
trace (`Loader.last_replay`).
-/

namespace Scaffold.Loader

/-! ## Calls with their replies -/

abbrev Reply := Except LoadFault LoadedManifest

inductive Call where
  | file (d : Disk) (p : FilePath) (overrides : Value)
  | value (raw overrides : Value) (source : Option FilePath)

def Call.reply : Call → Reply
  | .file d p overrides => LoadedManifest.ofFile d p overrides
  | .value raw overrides source => LoadedManifest.ofValue raw overrides source

def perform (l : Loader) : Call → Loader × Reply
  | .file d p overrides => l.loadFile d p overrides
  | .value raw overrides source => l.loadValue raw overrides source

def replay (l : Loader) : List Call → Loader × List Reply
  | [] => (l, [])
  | c :: cs => ((replay (l.perform c).1 cs).1, (l.perform c).2 :: (replay (l.perform c).1 cs).2)

def latest? (replies : List Reply) : Option LoadedManifest := (replies.filterMap Except.toOption).getLast?

theorem replay_snoc (c : Call) (cs : List Call) (l : Loader) : l.replay (cs ++ [c]) =
    (((l.replay cs).1.perform c).1, (l.replay cs).2 ++ [((l.replay cs).1.perform c).2]) := by
  induction cs generalizing l with
  | nil => rfl
  | cons c' cs ih => simp only [List.cons_append, replay, ih]

theorem latest?_snoc (replies : List Reply) (r : Reply) :
    latest? (replies ++ [r]) = r.toOption.or (latest? replies) := by
  unfold latest?
  cases r with
  | ok loaded => simp [Except.toOption]
  | error fault => simp [Except.toOption]

/-! ## One more call -/

/-- A file is loaded as the value that it holds; what keeps it from being read is not remembered. -/
theorem perform_file (l : Loader) (d : Disk) (p : FilePath) (overrides : Value) :
    l.perform (.file d p overrides) =
      match ManifestFile.read d p with
      | .ok raw => l.perform (.value raw overrides (some p))
      | .error fault => (l, .error (.ofSource p fault)) := by
  change l.keep (LoadedManifest.ofFile d p overrides) = _
  unfold LoadedManifest.ofFile
  cases ManifestFile.read d p with
  | error fault => rfl
  | ok raw => rfl

theorem keep_eq (l : Loader) (r : Reply) : l.keep r = (⟨r.toOption.or l.last⟩, r) := by
  cases r with
  | error fault => rfl
  | ok loaded => rfl

/-- Only what a call returns is remembered, and a call that fails leaves the loader as it was. -/
theorem perform_eq (l : Loader) (c : Call) : l.perform c = (⟨c.reply.toOption.or l.last⟩, c.reply) := by
  have hvalue (raw overrides : Value) (source : Option FilePath) : l.perform (.value raw overrides source) =
      (⟨(LoadedManifest.ofValue raw overrides source).toOption.or l.last⟩,
        LoadedManifest.ofValue raw overrides source) := keep_eq l _
  cases c with
  | value raw overrides source => exact hvalue raw overrides source
  | file d p overrides =>
    rw [perform_file, Call.reply, LoadedManifest.ofFile]
    cases ManifestFile.read d p with
    | error fault => rfl
    | ok raw => exact hvalue raw overrides (some p)

/-! ## A whole run -/

theorem replies_replay (cs : List Call) (l : Loader) : (l.replay cs).2 = cs.map Call.reply := by
  induction cs generalizing l with
  | nil => rfl
  | cons c cs ih => rw [replay, ih, perform_eq, List.map_cons]

theorem last_replay_eq (cs : List Call) : (new.replay cs).1.last = latest? (cs.map Call.reply) := by
  induction cs using List.reverseRecOn with
  | nil => rfl
  | append_singleton cs c ih =>
    rw [replay_snoc, perform_eq, ih, List.map_append, List.map_singleton, latest?_snoc]

/-- **Memory.** After each call of a run, a loader remembers what the latest successful call returned up to
then, and nothing if none succeeded. What a call replies does not depend on what was called before, and a
call that fails leaves the loader as it was. -/
theorem last_replay (calls : List Call) (n : Nat) :
    let replies := (new.replay calls).2
    replies = calls.map Call.reply ∧
      (new.replay (calls.take n)).1.last = latest? (replies.take n) ∧
      ∀ c : Call, (new.replay (calls.take n)).1.perform c =
        (⟨c.reply.toOption.or (new.replay (calls.take n)).1.last⟩, c.reply) := by
  intro replies
  have hreplies : replies = calls.map Call.reply := replies_replay calls new
  refine ⟨hreplies, ?_, perform_eq _⟩
  rw [last_replay_eq, hreplies, List.map_take]

end Scaffold.Loader
