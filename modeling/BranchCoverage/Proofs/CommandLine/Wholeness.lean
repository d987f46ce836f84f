/-
Every file is instrumented completely or not touched.

The files of a run lead to different locations, so that what is written at one
of them changes no other (`handled_instrumentFiles`, by induction on the paths,
in the tree that the files before have left).  What a run has completed stays:
its module is valid and closed, and a later run that comes to the file fails
there (`Deed.Complete.refused`).
-/
import BranchCoverage.Proofs.CommandLine.Session
import BranchCoverage.Proofs.Instrument.Closed
import BranchCoverage.Proofs.Instrument.Sequence

namespace BranchCoverage.CommandLine

open Identifier (WordSource)

variable {ω : Type}

/-! ### Deeds -/

/-- A file that has been instrumented: the path that led to it, its location, and
the attempt on its module. -/
structure Deed (ω : Type) where
  path : String
  location : Location
  job : Job
  attempt : Attempt ω

/-- The file of a deed is completely instrumented from one tree to another. -/
structure Deed.Complete (d : Deed ω) (before after : FileTree) : Prop where
  /-- It held a module, … -/
  held : ∃ image, before.locate d.path = .ok (d.location, image) ∧
    Module.ofImage? image = .ok d.job.module
  /-- … on which the attempt succeeded, … -/
  succeeded : ∃ types, d.attempt.result = .ok types
  /-- … and holds the image of the instrumented module, … -/
  holds : after.locate d.path = .ok (d.location, d.attempt.module.toImage)
  /-- … which is valid, … -/
  valid : d.attempt.module.validate = .ok ()
  /-- … is what is loaded, if the image has room in memory, … -/
  loads : d.attempt.module.toImage.length < 2 ^ 64 → after.load d.path = .ok d.attempt.module
  /-- … and is not instrumented any more. -/
  closed : d.attempt.module.Closed

/-- A run from one tree to another has instrumented the first of its files and
touched no other, and has come to the end if nothing failed. -/
structure Handled [WordSource ω] (i : Instrumenter ω) (select : String → Bool)
    (paths : List String) (before after : FileTree) (result : Except RunError Unit)
    (deeds : List (Deed ω)) : Prop where
  /-- The modules were instrumented one after another. -/
  attempts : deeds.map (fun d => (d.job, d.attempt)) = (i.instrumentAll (deeds.map Deed.job)).1
  selection : ∀ d ∈ deeds, d.job.select = select
  complete : ∀ d ∈ deeds, d.Complete before after
  /-- Whatever is not the file of a deed is as it was. -/
  untouched : ∀ location, (∀ d ∈ deeds, d.location ≠ location) →
    after.entryAt? location = before.entryAt? location
  /-- So are the files of all paths that are not those of the deeds. -/
  remaining : ∀ path ∈ paths.drop deeds.length, after.locate path = before.locate path
  /-- The paths of the deeds are all paths, or those in front of the one that failed. -/
  ending : (result = .ok () ∧ deeds.map Deed.path = paths) ∨
    ∃ path later cause, paths = deeds.map Deed.path ++ path :: later ∧
      result = .error (.file path cause) ∧
      (before.load path >>= fun m =>
        ((i.instrumentAll (deeds.map Deed.job)).2.instrument select m).result) = .error cause
  /-- The trees differ in the contents of files alone. -/
  shape : FileTree.SameShape before after
  locations : after.entries.map Prod.fst = before.entries.map Prod.fst

variable [WordSource ω]

/-- What has been instrumented is complete as soon as it is in the file. -/
theorem Deed.complete_of_holds {d : Deed ω} {before after : FileTree} {i : Instrumenter ω}
    {image : List UInt8} {types : List String}
    (hlocate : before.locate d.path = .ok (d.location, image))
    (hdecode : Module.ofImage? image = .ok d.job.module)
    (hattempt : d.attempt = i.instrument d.job.select d.job.module)
    (hresult : d.attempt.result = .ok types)
    (hholds : after.locate d.path = .ok (d.location, d.attempt.module.toImage)) :
    d.Complete before after := by
  have hok : (i.instrument d.job.select d.job.module).result = .ok types := hattempt ▸ hresult
  have hvalid : d.attempt.module.validate = .ok () := by
    rw [hattempt]
    exact (Instrumenter.atomic_instrument i d.job.select d.job.module).of_ok types hok
  have hclosed : d.attempt.module.Closed := by
    refine Module.closed_of_isInstrumented hvalid ?_
    rw [hattempt]
    exact Instrumenter.isInstrumented_instrument (Instrumenter.admission_of_ok hok)
  exact
    { held := ⟨image, hlocate, hdecode⟩
      succeeded := ⟨types, hresult⟩
      holds := hholds
      valid := hvalid
      loads := fun hlength =>
        FileTree.load_eq_ok_iff.mpr ⟨_, _, hholds, hclosed.loads hlength⟩
      closed := hclosed }

/-! ### One file after another -/

theorem run_logAll (isSet : String → Bool) (lines : List LogLine) (s : Session) :
    (logAll (Session.surroundings isSet) lines).run s
      = pure ((), { s with log := s.log ++ lines }) := by
  induction lines generalizing s with
  | nil => rw [List.append_nil]; rfl
  | cons line rest ih =>
    show (logAll (Session.surroundings isSet) rest).run { s with log := s.log ++ [line] } = _
    rw [ih, List.append_assoc]
    rfl

/-- A run tries its first file, and goes on with the others if that succeeds. -/
theorem run_instrumentFiles_cons (isSet : String → Bool) (matcher : Matcher)
    (i : Instrumenter ω) (path : String) (rest : List String) (s : Session) :
    ∃ result i' s', s.tree.Tried i matcher.accepts path result i' s'.tree ∧
      (instrumentFiles (Session.surroundings isSet) matcher i (path :: rest)).run.run s
        = match result with
          | .error cause => pure (.error (.file path cause), s')
          | .ok _ => (instrumentFiles (Session.surroundings isSet) matcher i' rest).run.run s' := by
  obtain ⟨a, tree, hrun, htried⟩ := tried_instrumentFile isSet i matcher.accepts path s
  let logged : Session := { s.withTree tree with log := s.log ++ a.logWith matcher.log }
  have hlog : (logAll (Session.surroundings isSet) (a.logWith matcher.log)).run (s.withTree tree)
      = pure ((), logged) := run_logAll isSet _ _
  rw [instrumentFiles, run_lift_bind hrun, run_lift_bind hlog]
  rcases hresult : a.result with cause | types <;> rw [hresult] at htried
  · exact ⟨.error cause, a.instrumenter, logged, htried, rfl⟩
  · dsimp only
    by_cases hlist : i.options.list = true
    · rw [if_pos hlist]
      exact ⟨.ok types, a.instrumenter, { logged with output := s.output ++ listing path types },
        htried, rfl⟩
    · rw [if_neg hlist]
      exact ⟨.ok types, a.instrumenter, logged, htried, rfl⟩

namespace Handled

variable {i : Instrumenter ω} {select : String → Bool} {paths rest : List String} {path : String}
  {before after : FileTree} {result : Except RunError Unit} {deeds : List (Deed ω)}

theorem path_mem (h : Handled i select paths before after result deeds) {d : Deed ω}
    (hd : d ∈ deeds) : d.path ∈ paths := by
  have hmem : d.path ∈ deeds.map Deed.path := List.mem_map_of_mem hd
  rcases h.ending with ⟨-, hpaths⟩ | ⟨_, _, _, hpaths, -⟩
  · exact hpaths ▸ hmem
  · rw [hpaths]
    exact List.mem_append_left _ hmem

/-- Without files nothing happens. -/
theorem nil : Handled i select [] before before (.ok ()) [] where
  attempts := rfl
  selection := by simp
  complete := by simp
  untouched _ _ := rfl
  remaining _ _ := rfl
  ending := .inl ⟨rfl, rfl⟩
  shape := .refl before
  locations := rfl

/-- A file that fails leaves everything as it was. -/
theorem failed {refusal : Refusal}
    (hfailed : (before.load path >>= fun m => (i.instrument select m).result) = .error refusal) :
    Handled i select (path :: rest) before before (.error (.file path refusal)) [] where
  attempts := rfl
  selection := by simp
  complete := by simp
  untouched _ _ := rfl
  remaining _ _ := rfl
  ending := .inr ⟨path, rest, refusal, rfl, rfl, hfailed⟩
  shape := .refl before
  locations := rfl

/-- A file that is written does not get into the way of the others, nor they into its
way. -/
theorem cons {location : Location} {image : List UInt8} {m : Module} {types : List String}
    (hlocate : before.locate path = .ok (location, image))
    (hdecode : Module.ofImage? image = .ok m)
    (hresult : (i.instrument select m).result = .ok types)
    (hapart : ∀ later ∈ rest, before.Apart path later)
    (h : Handled (i.instrument select m).instrumenter select rest
      (before.setFile location (i.instrument select m).module.toImage) after result deeds) :
    Handled i select (path :: rest) before after result
      (⟨path, location, ⟨select, m⟩, i.instrument select m⟩ :: deeds) := by
  obtain ⟨hleads, hentry⟩ := FileTree.locate_eq_ok_iff.mp hlocate
  have hroot := FileTree.ne_nil_of_file hentry
  have hstep := FileTree.SameShape.setFile hentry (i.instrument select m).module.toImage
  -- the paths to come lead to other locations, so nothing has changed for them
  have hlater : ∀ later ∈ rest,
      (before.setFile location (i.instrument select m).module.toImage).locate later
        = before.locate later := by
    intro later hmem
    refine hstep.locate_eq fun there hthere => ?_
    rw [FileTree.entry_setFile hroot, if_neg]
    rintro rfl
    exact hapart later hmem there hleads hthere
  have hheld : ∀ d ∈ deeds, ∃ image, before.locate d.path = .ok (d.location, image) ∧
      Module.ofImage? image = .ok d.job.module := by
    intro d hd
    obtain ⟨image, hlocate', hdecode'⟩ := (h.complete d hd).held
    exact ⟨image, (hlater _ (h.path_mem hd)).symm.trans hlocate', hdecode'⟩
  -- and nothing will change for the file that is written
  have hothers : ∀ d ∈ deeds, d.location ≠ location := by
    rintro d hd rfl
    obtain ⟨image, hlocate', -⟩ := hheld d hd
    exact hapart d.path (h.path_mem hd) _ hleads (FileTree.locate_eq_ok_iff.mp hlocate').1
  have hholds : after.locate path = .ok (location, (i.instrument select m).module.toImage) := by
    refine FileTree.locate_eq_ok_iff.mpr ⟨?_, ?_⟩
    · rw [h.shape.leadsTo_eq, hstep.leadsTo_eq, hleads]
    · rw [h.untouched location hothers, FileTree.entry_setFile hroot, if_pos rfl]
  refine
    { attempts := ?_
      selection := List.forall_mem_cons.mpr ⟨rfl, h.selection⟩
      complete := ?_
      untouched := ?_
      remaining := ?_
      ending := ?_
      shape := hstep.trans h.shape
      locations := h.locations.trans (FileTree.map_fst_setFile hentry _) }
  · show (_, _) :: deeds.map _ = _ :: _
    rw [h.attempts]
  · refine List.forall_mem_cons.mpr
      ⟨Deed.complete_of_holds hlocate hdecode rfl hresult hholds, fun d hd => ?_⟩
    exact { h.complete d hd with held := hheld d hd }
  · intro there hthere
    obtain ⟨hne, hothers'⟩ := List.forall_mem_cons.mp hthere
    rw [h.untouched there hothers', FileTree.entry_setFile hroot, if_neg (Ne.symm hne)]
  · intro later hmem
    rw [h.remaining later hmem, hlater later (List.mem_of_mem_drop hmem)]
  · rcases h.ending with ⟨hok, hpaths⟩ | ⟨next, later, cause, hpaths, herror, hfailed⟩
    · exact .inl ⟨hok, congrArg (path :: ·) hpaths⟩
    · refine .inr ⟨next, later, cause, congrArg (path :: ·) hpaths, herror, ?_⟩
      have hmem : next ∈ rest := by
        rw [hpaths]
        exact List.mem_append_right _ (List.mem_cons_self ..)
      rw [FileTree.load_congr (hlater next hmem)] at hfailed
      exact hfailed

end Handled

/-- **Files are handled one after another**, the instrumenter going from one to the
next, and each is left alone by all the others. -/
theorem handled_instrumentFiles (isSet : String → Bool) (matcher : Matcher) (paths : List String) :
    ∀ (i : Instrumenter ω) (s : Session), paths.Pairwise s.tree.Apart →
      ∃ result s' deeds,
        (instrumentFiles (Session.surroundings isSet) matcher i paths).run.run s
          = pure (result, s') ∧
        Handled i matcher.accepts paths s.tree s'.tree result deeds := by
  induction paths with
  | nil =>
    intro i s _
    exact ⟨.ok (), s, [], rfl, .nil⟩
  | cons path rest ih =>
    intro i s hapart
    obtain ⟨hpath, hrest⟩ := List.pairwise_cons.mp hapart
    obtain ⟨tried, i', s', htried, hrun⟩ :=
      run_instrumentFiles_cons isSet matcher i path rest s
    rw [hrun]
    generalize htree : s'.tree = tree at htried
    cases htried with
    | failed hfailed =>
      refine ⟨_, s', [], rfl, ?_⟩
      rw [htree]
      exact .failed hfailed
    | done hlocate hdecode hresult =>
      -- the paths are still apart in the tree with the new image
      have hstep := FileTree.SameShape.setFile (FileTree.locate_eq_ok_iff.mp hlocate).2
      have hapart' : rest.Pairwise s'.tree.Apart := by
        refine hrest.imp fun h => ?_
        rw [htree]
        simpa only [FileTree.Apart, (hstep _).leadsTo_eq] using h
      obtain ⟨result, s'', deeds, hrun', hhandled⟩ := ih _ s' hapart'
      rw [htree] at hhandled
      exact ⟨result, s'', _, hrun', .cons hlocate hdecode hresult hpath hhandled⟩

/-! ### Later runs -/

theorem exists_of_mem_instrumentAll {jobs : List Job} {trial : Job × Attempt ω} :
    ∀ {i : Instrumenter ω}, trial ∈ (i.instrumentAll jobs).1 →
      ∃ i' : Instrumenter ω, trial.2 = i'.instrument trial.1.select trial.1.module := by
  induction jobs with
  | nil =>
    intro i h
    cases h
  | cons job rest ih =>
    intro i h
    rcases List.mem_cons.mp h with rfl | h
    · exact ⟨i, rfl⟩
    · exact ih h

omit [WordSource ω] in
/-- Whatever instrumenter comes to a completed file is refused. -/
theorem Deed.Complete.refused {d : Deed ω} {before after : FileTree} (h : d.Complete before after)
    (hlength : d.attempt.module.toImage.length < 2 ^ 64) {ω' : Type} [WordSource ω']
    (i : Instrumenter ω') (select : String → Bool) :
    (after.load d.path >>= fun m => (i.instrument select m).result)
      = .error .alreadyInstrumented := by
  rw [h.loads hlength]
  show (i.instrument select d.attempt.module).result = _
  rw [h.closed.refuses i select]

section

variable {ω' : Type} [WordSource ω'] {d : Deed ω'} {first before after : FileTree}
  {i : Instrumenter ω} {select : String → Bool} {paths : List String}
  {result : Except RunError Unit} {deeds : List (Deed ω)}

omit [WordSource ω'] in
/-- A run does not write a completed file. -/
theorem Handled.ne_of_complete (hcomplete : d.Complete first before)
    (hlength : d.attempt.module.toImage.length < 2 ^ 64)
    (h : Handled i select paths before after result deeds) :
    ∀ d' ∈ deeds, d'.location ≠ d.location := by
  intro d' hd' hlocation
  obtain ⟨image, hlocate, hdecode⟩ := (h.complete d' hd').held
  obtain ⟨types, hsucceeded⟩ := (h.complete d' hd').succeeded
  have hmem : (d'.job, d'.attempt) ∈ (i.instrumentAll (deeds.map Deed.job)).1 := by
    rw [← h.attempts]
    exact List.mem_map_of_mem hd'
  obtain ⟨i', hattempt⟩ := exists_of_mem_instrumentAll hmem
  dsimp only at hattempt
  -- it would have been made on the module that is closed
  have himage : image = d.attempt.module.toImage := by
    have hentry := (FileTree.locate_eq_ok_iff.mp hlocate).2
    rw [hlocation, (FileTree.locate_eq_ok_iff.mp hcomplete.holds).2] at hentry
    exact (FileEntry.file.inj (Option.some.inj hentry)).symm
  have hmodule : d'.job.module = d.attempt.module := by
    rw [himage, hcomplete.closed.loads hlength] at hdecode
    exact (Except.ok.inj hdecode).symm
  rw [hattempt, hmodule, hcomplete.closed.refuses] at hsucceeded
  cases hsucceeded

omit [WordSource ω'] in
/-- If it is to write one, it fails, there or before. -/
theorem Handled.ne_ok_of_complete (hcomplete : d.Complete first before)
    (hlength : d.attempt.module.toImage.length < 2 ^ 64) (hpath : d.path ∈ paths)
    (h : Handled i select paths before after result deeds) :
    result ≠ .ok () ∧ after.locate d.path = before.locate d.path ∧
      ∀ cause, result = .error (.file d.path cause) → cause = .alreadyInstrumented := by
  have hne := h.ne_of_complete hcomplete hlength
  obtain ⟨hleads, -⟩ := FileTree.locate_eq_ok_iff.mp hcomplete.holds
  refine ⟨?_, h.shape.locate_eq fun location hlocation => ?_, ?_⟩
  · rintro rfl
    rcases h.ending with ⟨-, hpaths⟩ | ⟨_, _, _, _, herror, _⟩
    · rw [← hpaths] at hpath
      obtain ⟨d', hd', hsame⟩ := List.mem_map.mp hpath
      obtain ⟨image, hlocate, -⟩ := (h.complete d' hd').held
      have hleads' := (FileTree.locate_eq_ok_iff.mp hlocate).1
      rw [hsame, hleads] at hleads'
      exact hne d' hd' (Except.ok.inj hleads').symm
    · cases herror
  · obtain rfl := Except.ok.inj (hleads.symm.trans hlocation)
    exact h.untouched _ hne
  · rintro cause rfl
    rcases h.ending with ⟨hok, -⟩ | ⟨_, _, _, -, herror, hfailed⟩
    · cases hok
    · obtain ⟨rfl, rfl⟩ := RunError.file.inj (Except.error.inj herror)
      rw [hcomplete.refused hlength] at hfailed
      exact (Except.error.inj hfailed).symm

end

/-- Runs from now on leave the file of a deed as it is, and those that are to
instrument it fail. -/
def Deed.Kept (d : Deed ω) (tree : FileTree) : Prop :=
  ∀ (isSet : String → Bool) (arguments : Arguments) (s : Session) (paths : List String),
    s.tree = tree → tree.expand arguments.path = .ok paths → d.path ∈ paths →
      (s.perform isSet arguments).1 ≠ .ok () ∧
        (s.perform isSet arguments).2.tree.locate d.path = tree.locate d.path ∧
        ∀ cause, (s.perform isSet arguments).1 = .error (.file d.path cause) →
          cause = .alreadyInstrumented

/-! ### Whole runs -/

theorem expand_of_plan {arguments : Arguments} {tree : FileTree} {paths : List String}
    {matcher : Matcher} (h : arguments.plan tree = .ok (paths, matcher)) :
    tree.expand arguments.path = .ok paths := by
  rw [Arguments.plan] at h
  split at h
  · cases h
  · next hexpand =>
    split at h
    · cases h
    · split at h
      · cases h
      · rw [hexpand, (Prod.mk.inj (Except.ok.inj h)).1]

/-- A run with a plan goes through the files of the plan. -/
theorem exists_handled (isSet : String → Bool) {arguments : Arguments} {s : Session}
    (htree : s.tree.Proper) {paths : List String} {matcher : Matcher}
    (h : arguments.plan s.tree = .ok (paths, matcher)) :
    ∃ deeds, Handled (Instrumenter.fresh (arguments.settings.options isSet)) matcher.accepts paths
      s.tree (s.perform isSet arguments).2.tree (s.perform isSet arguments).1 deeds := by
  have hselects := htree.selects_of_expand (expand_of_plan h)
  let started : Session :=
    { s with log := s.log ++ [⟨.debug, describe (arguments.settings.options isSet)⟩] }
  obtain ⟨result, s', deeds, hrun, hhandled⟩ := handled_instrumentFiles isSet matcher paths
    (Instrumenter.fresh (arguments.settings.options isSet)) started (hselects.apart htree)
  have hperform : s.perform isSet arguments = (result, s') := by
    rw [perform_eq, h]
    exact hrun
  rw [hperform]
  exact ⟨deeds, hhandled⟩

omit [WordSource ω] in
theorem Deed.Complete.kept {d : Deed ω} {before after : FileTree} (h : d.Complete before after)
    (hlength : d.attempt.module.toImage.length < 2 ^ 64) (hafter : after.Proper) :
    d.Kept after := by
  intro isSet arguments s paths htree hexpand hpath
  subst htree
  rcases hplan : arguments.plan s.tree with e | ⟨paths', matcher⟩
  · have hperform : s.perform isSet arguments = (.error e, s) := by
      rw [perform_eq, hplan]
    rw [hperform]
    refine ⟨by simp, rfl, fun cause hcause => ?_⟩
    obtain rfl := Except.error.inj hcause
    exact absurd hplan (plan_ne_file _ _ _ _)
  · obtain rfl := Except.ok.inj ((expand_of_plan hplan).symm.trans hexpand)
    obtain ⟨deeds, hhandled⟩ := exists_handled isSet hafter hplan
    exact hhandled.ne_ok_of_complete h hlength hpath

end BranchCoverage.CommandLine
