/-
Runs of the command line on a tree of files.

A run finds its files, reads the prefix lists and looks for the core library
before it comes to the first module (`Arguments.plan`).  It writes nothing until
then, so whatever makes it end earlier leaves the session as it was
(`perform_eq`).  An attempt on a file changes that file alone, and only if the
module in it is instrumented (`tried_instrumentFile`).
-/
import BranchCoverage.CommandLine.Run
import BranchCoverage.Proofs.Files.Selection
import BranchCoverage.Proofs.Instrument.Atomicity

namespace BranchCoverage

open Identifier (WordSource)

/-! ### Steps that may fail, on a state -/

section

variable {ε σ α β : Type} {s s' : σ}

theorem run_bind_of_ok {x : ExceptT ε (StateM σ) α} {f : α → ExceptT ε (StateM σ) β} {a : α}
    (h : x.run.run s = pure (.ok a, s')) : (x >>= f).run.run s = (f a).run.run s' := by
  rw [ExceptT.run_bind, StateT.run_bind, h, pure_bind]

theorem run_bind_of_error {x : ExceptT ε (StateM σ) α} {f : α → ExceptT ε (StateM σ) β} {e : ε}
    (h : x.run.run s = pure (.error e, s')) : (x >>= f).run.run s = pure (.error e, s') := by
  rw [ExceptT.run_bind, StateT.run_bind, h, pure_bind]
  rfl

/-- A step that cannot fail hands over to the next one. -/
theorem run_lift_bind {x : StateM σ α} {f : α → ExceptT ε (StateM σ) β} {a : α}
    (h : x.run s = pure (a, s')) : (ExceptT.lift x >>= f).run.run s = (f a).run.run s' := by
  refine run_bind_of_ok ?_
  rw [ExceptT.run_lift, StateT.run_map, h, map_pure]

end

/-! ### Reading a tree -/

namespace FileTree

/-- The text of a file. -/
def readText (tree : FileTree) (path : String) : Except FileError String :=
  match tree.read path with
  | .error e => .error e
  | .ok content =>
    match Text.Utf8.decode content with
    | .ok text => .ok text
    | .error _ => .error .notUtf8

/-- The module in a file. -/
def load (tree : FileTree) (path : String) : Except Refusal Module :=
  match tree.read path with
  | .error cause => .error (.unreadable path cause)
  | .ok image =>
    match Module.ofImage? image with
    | .error cause => .error (.malformed cause)
    | .ok module => .ok module

variable {σ : Type} (get : σ → FileTree) (set : FileTree → σ → σ)

theorem run_read (path : String) (s : σ) :
    ((FileSystem.ofTree get set).read path).run s = pure ((get s).read path, s) :=
  rfl

theorem run_write (path : String) (content : List UInt8) (s : σ) :
    ((FileSystem.ofTree get set).write path content).run s
      = pure (((get s).write path content).1, set ((get s).write path content).2 s) :=
  rfl

theorem run_readText (path : String) (s : σ) :
    ((FileSystem.ofTree get set).readText path).run s = pure ((get s).readText path, s) := by
  rw [FileSystem.readText, StateT.run_bind, run_read, pure_bind, readText]
  rcases (get s).read path with cause | content
  · rfl
  · dsimp only
    rcases Text.Utf8.decode content with cause | text <;> rfl

theorem run_load (path : String) (s : σ) :
    (Instrumenter.load (FileSystem.ofTree get set) path).run s = pure ((get s).load path, s) := by
  rw [Instrumenter.load, StateT.run_bind, run_read, pure_bind, load]
  rcases (get s).read path with cause | image
  · rfl
  · dsimp only
    rcases Module.ofImage? image with cause | module <;> rfl

theorem load_congr {tree tree' : FileTree} {path : String}
    (h : tree'.locate path = tree.locate path) : tree'.load path = tree.load path := by
  rw [load, load, read, read, h]

/-- What is loaded is what a file holds. -/
theorem load_eq_ok_iff {tree : FileTree} {path : String} {m : Module} :
    tree.load path = .ok m ↔
      ∃ location image, tree.locate path = .ok (location, image) ∧
        Module.ofImage? image = .ok m := by
  rw [load, read]
  rcases tree.locate path with cause | ⟨location, image⟩
  · simp [Except.map]
  · rw [Except.map]
    dsimp only
    rcases hdecode : Module.ofImage? image with cause | module <;> simp [hdecode]

end FileTree

/-! ### Attempts on files -/

/-- What an attempt on a file comes to: what it returns, the instrumenter and the
tree as they are then. -/
inductive FileTree.Tried {ω : Type} [WordSource ω] (i : Instrumenter ω) (select : String → Bool)
    (path : String) (tree : FileTree) :
    Except Refusal (List String) → Instrumenter ω → FileTree → Prop where
  /-- There is no module, or it is refused. -/
  | failed {refusal : Refusal}
      (hfailed : (tree.load path >>= fun m => (i.instrument select m).result) = .error refusal) :
      Tried i select path tree (.error refusal) i tree
  /-- The module is instrumented, and its image put in the place of the old one. -/
  | done {location : Location} {image : List UInt8} {m : Module} {types : List String}
      (hlocate : tree.locate path = .ok (location, image))
      (hdecode : Module.ofImage? image = .ok m)
      (hresult : (i.instrument select m).result = .ok types) :
      Tried i select path tree (.ok types) (i.instrument select m).instrumenter
        (tree.setFile location (i.instrument select m).module.toImage)

namespace CommandLine

/-- What a run works on: files, an output, and a log. -/
structure Session where
  tree : FileTree
  output : String := ""
  log : List LogLine := []

namespace Session

/-- The same session with another tree. -/
def withTree (tree : FileTree) (s : Session) : Session :=
  { s with tree }

/-- A session as the surroundings of a run, in which the given variables are set. -/
def surroundings (isSet : String → Bool) : Surroundings (StateM Session) where
  files := .ofTree Session.tree withTree
  isSet
  print text := modify fun s => { s with output := s.output ++ text }
  log line := modify fun s => { s with log := s.log ++ [line] }

/-- Runs the command line in a session. -/
def perform (isSet : String → Bool) (arguments : Arguments) (s : Session) :
    Except RunError Unit × Session :=
  (run (surroundings isSet) arguments).run.run s

end Session

variable {ω : Type} [WordSource ω] (isSet : String → Bool)

/-- **An attempt on a file** changes that file alone, and only if the module in it
is instrumented. -/
theorem tried_instrumentFile (i : Instrumenter ω) (select : String → Bool) (path : String)
    (s : Session) :
    ∃ a tree, (i.instrumentFile (Session.surroundings isSet).files select path).run s
        = pure (a, s.withTree tree) ∧
      s.tree.Tried i select path a.result a.instrumenter tree := by
  have hload : (Instrumenter.load (Session.surroundings isSet).files path).run s
      = pure (s.tree.load path, s) := FileTree.run_load _ _ path s
  rw [Instrumenter.instrumentFile, StateT.run_bind, hload, pure_bind]
  rcases hm : s.tree.load path with refusal | m
  · refine ⟨{ result := .error refusal, instrumenter := i }, s.tree, rfl, .failed ?_⟩
    rw [hm]
    rfl
  · dsimp only
    rcases hresult : (i.instrument select m).result with refusal | types
    · -- a refused module leaves the instrumenter as it was
      obtain ⟨-, hinstrumenter, -⟩ := (Instrumenter.atomic_instrument i select m).of_error _ hresult
      refine ⟨_, s.tree, rfl, ?_⟩
      dsimp only
      rw [hinstrumenter]
      refine .failed ?_
      rw [hm]
      exact hresult
    · obtain ⟨location, image, hlocate, hdecode⟩ := FileTree.load_eq_ok_iff.mp hm
      have hwrite : ((Session.surroundings isSet).files.write path
            (i.instrument select m).module.toImage).run s
          = pure (.ok (),
              s.withTree (s.tree.setFile location (i.instrument select m).module.toImage)) := by
        refine (FileTree.run_write _ _ path _ s).trans ?_
        rw [FileTree.write_of_locate hlocate]
      dsimp only
      rw [StateT.run_bind, hwrite, pure_bind]
      exact ⟨_, _, rfl, .done hlocate hdecode hresult⟩

/-! ### Prefix lists -/

/-- The prefixes in the list files of a tree. -/
def prefixesIn (tree : FileTree) : List String → Except RunError (List String)
  | [] => .ok []
  | path :: rest =>
    match tree.readText path with
    | .error cause => .error (.prefixList path cause)
    | .ok text =>
      match prefixesIn tree rest with
      | .error e => .error e
      | .ok more => .ok (PrefixList.parse text ++ more)

/-- The one thing that can go wrong is that a list cannot be read. -/
theorem prefixesIn_eq_error {tree : FileTree} {paths : List String} {e : RunError}
    (h : prefixesIn tree paths = .error e) :
    ∃ path ∈ paths, ∃ cause, tree.readText path = .error cause ∧ e = .prefixList path cause := by
  induction paths with
  | nil => cases h
  | cons path rest ih =>
    rw [prefixesIn] at h
    split at h
    · next cause htext =>
      obtain rfl := Except.error.inj h
      exact ⟨path, List.mem_cons_self .., cause, htext, rfl⟩
    · split at h
      · next hrest =>
        obtain rfl := Except.error.inj h
        obtain ⟨other, hother, hcause⟩ := ih hrest
        exact ⟨other, List.mem_cons_of_mem _ hother, hcause⟩
      · cases h

theorem run_readLists (paths : List String) (s : Session) :
    (readLists (Session.surroundings isSet) paths).run.run s
      = pure (prefixesIn s.tree paths, s) := by
  induction paths with
  | nil => rfl
  | cons path rest ih =>
    have htext : ((Session.surroundings isSet).files.readText path).run s
        = pure (s.tree.readText path, s) := FileTree.run_readText _ _ path s
    rw [readLists, run_lift_bind htext, prefixesIn]
    rcases s.tree.readText path with cause | text
    · rfl
    · dsimp only
      rcases hrest : prefixesIn s.tree rest with e | more <;> rw [hrest] at ih
      · rw [run_bind_of_error ih]
      · rw [run_bind_of_ok ih]
        rfl

/-- The matcher that settings ask for, with the lists of a tree. -/
def Settings.matcherIn (settings : Settings) (tree : FileTree) : Except RunError Matcher :=
  match prefixesIn tree settings.includeFiles with
  | .error e => .error e
  | .ok included =>
    match prefixesIn tree settings.excludeFiles with
    | .error e => .error e
    | .ok excluded =>
      .ok (Matcher.ofPrefixes (settings.prefixes ++ settings.included ++ included)
        (settings.excluded ++ excluded))

theorem matcherIn_eq_error {settings : Settings} {tree : FileTree} {e : RunError}
    (h : settings.matcherIn tree = .error e) :
    ∃ path ∈ settings.includeFiles ++ settings.excludeFiles, ∃ cause,
      tree.readText path = .error cause ∧ e = .prefixList path cause := by
  rw [Settings.matcherIn] at h
  split at h
  · next hincluded =>
    obtain rfl := Except.error.inj h
    obtain ⟨path, hpath, hcause⟩ := prefixesIn_eq_error hincluded
    exact ⟨path, List.mem_append_left _ hpath, hcause⟩
  · split at h
    · next hexcluded =>
      obtain rfl := Except.error.inj h
      obtain ⟨path, hpath, hcause⟩ := prefixesIn_eq_error hexcluded
      exact ⟨path, List.mem_append_right _ hpath, hcause⟩
    · cases h

theorem run_matcher (settings : Settings) (s : Session) :
    (settings.matcher (Session.surroundings isSet)).run.run s
      = pure (settings.matcherIn s.tree, s) := by
  have hincluded := run_readLists isSet settings.includeFiles s
  have hexcluded := run_readLists isSet settings.excludeFiles s
  rw [Settings.matcher, Settings.matcherIn]
  rcases hin : prefixesIn s.tree settings.includeFiles with e | included <;> rw [hin] at hincluded
  · rw [run_bind_of_error hincluded]
  · rw [run_bind_of_ok hincluded]
    rcases hex : prefixesIn s.tree settings.excludeFiles with e | excluded <;> rw [hex] at hexcluded
    · rw [run_bind_of_error hexcluded]
    · rw [run_bind_of_ok hexcluded]
      rfl

/-! ### The run up to the first file -/

/-- What a run is going to do in a tree: the paths of the files, and the matcher.
Or why it ends at once. -/
def Arguments.plan (arguments : Arguments) (tree : FileTree) :
    Except RunError (List String × Matcher) :=
  match tree.expand arguments.path with
  | .error cause => .error (.expand cause)
  | .ok paths =>
    match arguments.settings.matcherIn tree with
    | .error e => .error e
    | .ok matcher =>
      if !matcher.hasIncludes && paths.any isCoreLibrary then
        .error (.refused (.missingCorePrefix TraceType.coreLibrary))
      else .ok (paths, matcher)

/-- It does not end for a file that it would have been to instrument. -/
theorem plan_ne_file (arguments : Arguments) (tree : FileTree) (path : String) (cause : Refusal) :
    arguments.plan tree ≠ .error (.file path cause) := by
  rw [Arguments.plan]
  split
  · simp
  · split
    · next hmatcher =>
      obtain ⟨_, _, _, -, rfl⟩ := matcherIn_eq_error hmatcher
      simp
    · split <;> simp

/-- A run without a plan ends at once, and leaves everything as it was.  One with a
plan shows the options in the log and goes from file to file. -/
theorem perform_eq (arguments : Arguments) (s : Session) :
    s.perform isSet arguments = match arguments.plan s.tree with
      | .error e => (.error e, s)
      | .ok (paths, matcher) =>
        let options := arguments.settings.options isSet
        (instrumentFiles (Session.surroundings isSet) matcher (Instrumenter.fresh options)
          paths).run.run { s with log := s.log ++ [⟨.debug, describe options⟩] } := by
  have hexpand : ((Session.surroundings isSet).files.expand arguments.path).run s
      = pure (s.tree.expand arguments.path, s) := FileTree.run_expand _ _ arguments.path s
  have hmatcher := run_matcher isSet arguments.settings s
  rw [Session.perform, run, run_lift_bind hexpand, Arguments.plan]
  rcases s.tree.expand arguments.path with cause | paths
  · rfl
  · dsimp only
    rcases hm : arguments.settings.matcherIn s.tree with e | matcher <;> rw [hm] at hmatcher
    · rw [run_bind_of_error hmatcher]
      rfl
    · rw [run_bind_of_ok hmatcher]
      dsimp only
      by_cases hcore : (!matcher.hasIncludes && paths.any isCoreLibrary) = true
      · rw [if_pos hcore, if_pos hcore]
        rfl
      · rw [if_neg hcore, if_neg hcore]
        rfl

end CommandLine

end BranchCoverage
