/-
The core library is not instrumented without a prefix, if it goes by its name.

A run without a prefix that counts is refused before it writes anything if one
of its paths has the name of the core library (`plan_eq_refused_iff`).  What the
files hold is not asked for.  So a module that is the core library is safe in
files of that name (`guarded_perform`), and in a file of any other name it is
instrumented as a whole (`disguised_rewritten`).
-/
import BranchCoverage.Proofs.CommandLine.Wholeness
import BranchCoverage.Proofs.Selection.Matcher

namespace BranchCoverage.CommandLine

variable {arguments : Arguments} {settings : Settings} {tree : FileTree} {paths : List String}
  {matcher : Matcher}

/-! ### Prefixes -/

/-- No prefix says what is to be instrumented, blank ones aside. -/
structure Settings.Unprefixed (settings : Settings) (tree : FileTree) : Prop where
  given : ∀ p ∈ settings.prefixes ++ settings.included, Blank p
  listed : ∀ path ∈ settings.includeFiles, ∀ text, tree.readText path = .ok text →
    ∀ p ∈ PrefixList.parse text, Blank p

theorem exists_of_mem_prefixesIn {prefixes : List String}
    (h : prefixesIn tree paths = .ok prefixes) {p : String} (hp : p ∈ prefixes) :
    ∃ path ∈ paths, ∃ text, tree.readText path = .ok text ∧ p ∈ PrefixList.parse text := by
  induction paths generalizing prefixes with
  | nil =>
    obtain rfl := Except.ok.inj h
    cases hp
  | cons path rest ih =>
    rw [prefixesIn] at h
    split at h
    · cases h
    · next text htext =>
      split at h
      · cases h
      · next more hmore =>
        obtain rfl := Except.ok.inj h
        rcases List.mem_append.mp hp with hp | hp
        · exact ⟨path, List.mem_cons_self .., text, htext, hp⟩
        · obtain ⟨other, hother, hlist⟩ := ih hmore hp
          exact ⟨other, List.mem_cons_of_mem _ hother, hlist⟩

/-- Then everything is to be instrumented. -/
theorem Settings.Unprefixed.hasIncludes (h : settings.Unprefixed tree)
    (hmatcher : settings.matcherIn tree = .ok matcher) : matcher.hasIncludes = false := by
  rw [Settings.matcherIn] at hmatcher
  split at hmatcher
  · cases hmatcher
  · next included hincluded =>
    split at hmatcher
    · cases hmatcher
    · obtain rfl := Except.ok.inj hmatcher
      rw [← Bool.not_eq_true, Matcher.hasIncludes_ofPrefixes]
      rintro ⟨p, hp, hnot⟩
      rcases List.mem_append.mp hp with hp | hp
      · exact hnot (h.given p hp)
      · obtain ⟨path, hpath, text, htext, hlist⟩ := exists_of_mem_prefixesIn hincluded hp
        exact hnot (h.listed path hpath text htext p hlist)

/-! ### Names -/

/-- The refusal to instrument all of the core library. -/
abbrev unprefixedCore : RunError :=
  .refused (.missingCorePrefix TraceType.coreLibrary)

theorem plan_of_ok (hexpand : tree.expand arguments.path = .ok paths)
    (hmatcher : arguments.settings.matcherIn tree = .ok matcher) :
    arguments.plan tree = if !matcher.hasIncludes && paths.any isCoreLibrary then
      .error unprefixedCore else .ok (paths, matcher) := by
  rw [Arguments.plan, hexpand, hmatcher]

/-- What is asked for is a path with the name of the core library. -/
theorem plan_eq_refused_iff :
    arguments.plan tree = .error unprefixedCore ↔
      ∃ paths matcher, tree.expand arguments.path = .ok paths ∧
        arguments.settings.matcherIn tree = .ok matcher ∧ matcher.hasIncludes = false ∧
        ∃ path ∈ paths, isCoreLibrary path = true := by
  constructor
  · intro h
    rcases hexpand : tree.expand arguments.path with cause | paths
    · rw [Arguments.plan, hexpand] at h
      cases h
    · rcases hmatcher : arguments.settings.matcherIn tree with e | matcher
      · rw [Arguments.plan, hexpand, hmatcher] at h
        obtain rfl := Except.error.inj h
        obtain ⟨_, _, _, -, heq⟩ := matcherIn_eq_error hmatcher
        cases heq
      · rw [plan_of_ok hexpand hmatcher] at h
        split at h
        · next hcore =>
          simp only [Bool.and_eq_true, Bool.not_eq_true', List.any_eq_true] at hcore
          exact ⟨paths, matcher, rfl, rfl, hcore⟩
        · cases h
  · rintro ⟨paths, matcher, hexpand, hmatcher, hincludes, hcore⟩
    rw [plan_of_ok hexpand hmatcher, if_pos]
    simpa [hincludes] using hcore

/-- No path of a plan without a prefix has that name. -/
theorem isCoreLibrary_of_plan (h : arguments.plan tree = .ok (paths, matcher))
    (hunprefixed : arguments.settings.Unprefixed tree) :
    ∀ path ∈ paths, isCoreLibrary path = false := by
  intro path hpath
  rw [← Bool.not_eq_true]
  intro hcore
  have hexpand := expand_of_plan h
  rcases hmatcher : arguments.settings.matcherIn tree with e | asked
  · rw [Arguments.plan, hexpand, hmatcher] at h
    cases h
  · rw [plan_eq_refused_iff.mpr ⟨paths, asked, hexpand, hmatcher,
      hunprefixed.hasIncludes hmatcher, path, hpath, hcore⟩] at h
    cases h

/-- A run is refused like this just for want of a plan. -/
theorem perform_eq_refused_iff (isSet : String → Bool) {s : Session} (h : s.tree.Proper) :
    (s.perform isSet arguments).1 = .error unprefixedCore ↔
      arguments.plan s.tree = .error unprefixedCore := by
  rcases hplan : arguments.plan s.tree with e | ⟨paths, matcher⟩
  · rw [perform_eq, hplan]
    simp
  · obtain ⟨deeds, hhandled⟩ := exists_handled isSet h hplan
    rcases hhandled.ending with ⟨hok, -⟩ | ⟨path, _, cause, -, herror, -⟩
    · simp [hok]
    · simp [herror]

/-! ### Files -/

/-- Every file of a run that holds the core library has its name. -/
def CoreNamed (tree : FileTree) (paths : List String) : Prop :=
  ∀ path ∈ paths, ∀ m, tree.load path = .ok m → m.isCore = true → isCoreLibrary path = true

/-- What the check of names does in a run without a prefix. -/
structure CoreGuarded (arguments : Arguments) (before after : Session)
    (result : Except RunError Unit) : Prop where
  /-- The run is refused if one of its paths has the name of the core library, and for
  no other reason. -/
  refused_iff : result = .error unprefixedCore ↔
    ∃ paths matcher, before.tree.expand arguments.path = .ok paths ∧
      arguments.settings.matcherIn before.tree = .ok matcher ∧
      ∃ path ∈ paths, isCoreLibrary path = true
  /-- With such a path nothing happens. -/
  unchanged : ∀ paths, before.tree.expand arguments.path = .ok paths →
    (∃ path ∈ paths, isCoreLibrary path = true) → after = before
  /-- If the core library goes by its name, no file that holds it is rewritten, whatever
  path leads there. -/
  spared : (∀ paths, before.tree.expand arguments.path = .ok paths →
      CoreNamed before.tree paths) →
    ∀ path m, before.tree.load path = .ok m → m.isCore = true →
      after.tree.locate path = before.tree.locate path

/-- **Without a prefix, the core library is safe under its own name.** -/
theorem guarded_perform (isSet : String → Bool) (arguments : Arguments) {s : Session}
    (h : s.tree.Proper) (hunprefixed : arguments.settings.Unprefixed s.tree) :
    CoreGuarded arguments s (s.perform isSet arguments).2 (s.perform isSet arguments).1 := by
  refine
    { refused_iff := ?_
      unchanged := fun paths hexpand hcore => ?_
      spared := fun hnamed path m hload hcore => ?_ }
  · rw [perform_eq_refused_iff isSet h, plan_eq_refused_iff]
    refine exists_congr fun paths => exists_congr fun matcher => and_congr_right fun _ =>
      and_congr_right fun hmatcher => ?_
    exact and_iff_right (hunprefixed.hasIncludes hmatcher)
  · rcases hplan : arguments.plan s.tree with e | ⟨planned, matcher⟩
    · rw [perform_eq, hplan]
    · obtain rfl := Except.ok.inj ((expand_of_plan hplan).symm.trans hexpand)
      obtain ⟨path, hpath, hname⟩ := hcore
      rw [isCoreLibrary_of_plan hplan hunprefixed path hpath] at hname
      cases hname
  · rcases hplan : arguments.plan s.tree with e | ⟨paths, matcher⟩
    · rw [perform_eq, hplan]
    · obtain ⟨deeds, hhandled⟩ := exists_handled isSet h hplan
      obtain ⟨location, image, hlocate, hdecode⟩ := FileTree.load_eq_ok_iff.mp hload
      obtain ⟨hleads, hentry⟩ := FileTree.locate_eq_ok_iff.mp hlocate
      refine hhandled.shape.locate_eq fun there hthere => ?_
      obtain rfl := Except.ok.inj (hleads.symm.trans hthere)
      refine hhandled.untouched location ?_
      -- a deed at the location would be one on the core library, under its name
      rintro d hd rfl
      obtain ⟨image', hlocate', hdecode'⟩ := (hhandled.complete d hd).held
      have himage : image' = image := by
        have hentry' := (FileTree.locate_eq_ok_iff.mp hlocate').2
        exact FileEntry.file.inj (Option.some.inj (hentry'.symm.trans hentry))
      have hload' : s.tree.load d.path = .ok m :=
        FileTree.load_eq_ok_iff.mpr ⟨_, _, hlocate', himage ▸ hdecode⟩
      have hname := hnamed paths (expand_of_plan hplan) d.path (hhandled.path_mem hd) m hload' hcore
      rw [isCoreLibrary_of_plan hplan hunprefixed d.path (hhandled.path_mem hd)] at hname
      cases hname

/-- The core library in a file of its name, and a blank prefix. -/
theorem vault_guarded :
    let core : Module :=
      { name := "System.Private.CoreLib"
        version := ⟨9, 0, 0, 0⟩
        flags := 1
        references := []
        types := [] }
    let tree : FileTree :=
      { home := ["rt"]
        entries := [(["rt"], .directory),
          (["rt", "System.Private.CoreLib.dll"], .file core.toImage)] }
    let s : Session := { tree }
    let arguments : Arguments :=
      { path := "System.Private.CoreLib.dll", settings := { prefixes := [" "] } }
    let isSet : String → Bool := fun _ => false
    s.tree.Proper ∧ arguments.settings.Unprefixed s.tree ∧
      CoreGuarded arguments s (s.perform isSet arguments).2 (s.perform isSet arguments).1 ∧
      (s.perform isSet arguments).1 = .error unprefixedCore := by
  intro core tree s arguments isSet
  have hproper : s.tree.Proper := by
    refine ⟨by simp [s, tree], ?_⟩
    simp [s, tree, FileTree.isName_iff]
  have hunprefixed : arguments.settings.Unprefixed s.tree := by
    refine ⟨?_, by simp [arguments]⟩
    simp [arguments, Blank, Text.isSpace]
  have hguarded := guarded_perform isSet arguments hproper hunprefixed
  have hexpand : s.tree.expand arguments.path = .ok ["System.Private.CoreLib.dll"] := by
    decide +kernel
  refine ⟨hproper, hunprefixed, hguarded, hguarded.refused_iff.mpr ?_⟩
  exact ⟨_, _, hexpand, rfl, _, List.mem_singleton_self _, by decide +kernel⟩

/-- The core library in a file of another name is instrumented as a whole. -/
theorem disguised_rewritten :
    let body : MethodBody :=
      ⟨1, [], [⟨.ldarg, .argument 0⟩, ⟨.brtrue, .target 3⟩, ⟨.ret, .none⟩, ⟨.throw, .none⟩], []⟩
    let core : Module :=
      { name := "System.Private.CoreLib"
        version := ⟨9, 0, 0, 0⟩
        flags := 1
        references := []
        types := [
          { space := "System", name := "Vault",
            methods := [⟨"Open", "void", ["int"], true, .il, some body⟩] }] }
    let tree : FileTree :=
      { home := []
        entries := [(["core.dll"], .file core.toImage)] }
    let s : Session := { tree }
    let arguments : Arguments := { path := "core.dll" }
    let isSet : String → Bool := fun _ => false
    s.tree.Proper ∧ arguments.settings.Unprefixed s.tree ∧
      s.tree.load "core.dll" = .ok core ∧ core.isCore = true ∧
      (s.perform isSet arguments).1 = .ok () ∧
      (s.perform isSet arguments).2.tree.locate "core.dll" ≠ s.tree.locate "core.dll" := by
  intro body core tree s arguments isSet
  have hproper : s.tree.Proper := by
    refine ⟨by simp [s, tree], ?_⟩
    simp [s, tree, FileTree.isName_iff]
  have hunprefixed : arguments.settings.Unprefixed s.tree := by
    refine ⟨?_, by simp [arguments]⟩
    simp [arguments]
  have hlocate : s.tree.locate "core.dll" = .ok (["core.dll"], core.toImage) := by
    decide +kernel
  have hlength : core.toImage.length < 2 ^ 64 := by decide +kernel
  have hdecode : Module.ofImage? core.toImage = .ok core :=
    Module.ofImage?_of_validate (by decide +kernel) hlength
  have hload : s.tree.load "core.dll" = .ok core :=
    FileTree.load_eq_ok_iff.mpr ⟨_, _, hlocate, hdecode⟩
  have hadmission : core.admission (arguments.settings.options isSet) = .ok () := by decide +kernel
  have hexpand : s.tree.expand arguments.path = .ok ["core.dll"] := by decide +kernel
  have hplan : arguments.plan s.tree = .ok (["core.dll"], Matcher.ofPrefixes [] []) := by
    rw [plan_of_ok hexpand rfl]
    exact if_neg (by decide +kernel)
  obtain ⟨deeds, hhandled⟩ := exists_handled isSet hproper hplan
  have hinstrument := (Instrumenter.instrument_of_admission_ok
    (i := Instrumenter.fresh (arguments.settings.options isSet))
    (Matcher.ofPrefixes [] []).accepts hadmission).1
  rcases hhandled.ending with ⟨hok, hpaths⟩ | ⟨path, later, cause, hpaths, -, hfailed⟩
  · obtain ⟨d, rfl, hpath⟩ := List.map_eq_singleton_iff.mp hpaths
    have hcomplete := hhandled.complete d (List.mem_singleton_self d)
    refine ⟨hproper, hunprefixed, hload, by decide +kernel, hok, fun hsame => ?_⟩
    -- an instrumented module is closed, and this one was not
    have hholds := hcomplete.holds
    rw [hpath, hsame, hlocate] at hholds
    have himage : core.toImage = d.attempt.module.toImage := (Prod.mk.inj (Except.ok.inj hholds)).2
    have hmodule : d.attempt.module = core := by
      have hloads := hcomplete.closed.loads (himage ▸ hlength)
      rw [← himage, hdecode] at hloads
      exact (Except.ok.inj hloads).symm
    have hrefuses := hcomplete.closed.refuses
      (Instrumenter.fresh (arguments.settings.options isSet)) (Matcher.ofPrefixes [] []).accepts
    rw [hmodule] at hrefuses
    obtain ⟨types, htypes⟩ := hinstrument
    rw [hrefuses] at htypes
    cases htypes
  · -- there is nothing for which the one file could fail
    rcases deeds with _ | ⟨d, deeds⟩
    · obtain ⟨rfl, -⟩ := List.cons.inj hpaths
      obtain ⟨types, htypes⟩ := hinstrument
      rw [hload] at hfailed
      exact absurd (hfailed.symm.trans htypes) (by simp)
    · simp at hpaths

end BranchCoverage.CommandLine
