/-
Instrumenting a module is all or nothing.

A module is changed before its bodies are validated for the second time, so a
failure of that check would leave it half done.  It cannot fail: the walk keeps
the bodies of an admitted module valid (`gives_visitTypes`), and the trace type
that the core library gets has a valid one.  Refusals therefore come from the
first checks alone, which change nothing (`atomic_instrument`), and a file is
written only when all has gone well (`fileAtomic_instrumentFile`).
-/
import BranchCoverage.InstrumentFile
import BranchCoverage.Files.Tree
import BranchCoverage.Proofs.Instrument.Walk

namespace BranchCoverage

open Identifier (WordSource)

/-! ### Checks -/

theorem Module.check_eq_ok_iff {m : Module} : m.check = .ok () ↔ ∀ t ∈ m.types, t.Sound := by
  rw [← validate_eq_ok_iff_sound, check]
  rcases m.validate with ⟨method, defect⟩ | ⟨⟩ <;> simp

theorem Module.check_of_admission {options : Options} {m : Module}
    (h : m.admission options = .ok ()) :
    m.check = .ok () := by
  rw [Module.admission] at h
  split at h
  · cases h
  · split at h
    · cases h
    · exact h

/-- The first checks find no index to be lost. -/
theorem Module.admission_ne_lostIndex (options : Options) (m : Module) (method : String) :
    m.admission options ≠ .error (.lostIndex method) := by
  rw [Module.admission]
  split
  · simp
  · split
    · simp
    · rw [check]
      split <;> simp

/-- The code that allocates a map is valid. -/
theorem TraceType.sound_definition : TraceType.definition.Sound := by
  intro d hd b hb
  obtain rfl : d = TraceType.constructor := List.mem_singleton.mp hd
  cases hb
  exact MethodBody.validate_eq_ok_iff.mp rfl

/-- Getting access to the trace type keeps a module sound. -/
theorem Module.sound_prepare {options : Options} {m : Module} (h : ∀ t ∈ m.types, t.Sound) :
    ∀ t ∈ (m.prepare options).types, t.Sound := by
  rw [prepare]
  split
  · exact List.forall_mem_append.mpr
      ⟨h, List.forall_mem_singleton.mpr TraceType.sound_definition⟩
  · exact h

/-! ### Modules -/

variable {ω : Type}

/-- The attempt on a module either changed everything or nothing. -/
structure Attempt.Atomic (i : Instrumenter ω) (m : Module) (a : Attempt ω) : Prop where
  /-- Refusals come from the first checks, before anything is changed. -/
  error_iff : ∀ refusal, a.result = .error refusal ↔ m.admission i.options = .error refusal
  /-- No index is without its place. -/
  ne_lostIndex : ∀ method, a.result ≠ .error (.lostIndex method)
  /-- Nothing has happened to a refused module, nor to the instrumenter, and no
  name was asked for. -/
  of_error : ∀ refusal, a.result = .error refusal →
    a.module = m ∧ a.instrumenter = i ∧ a.consulted = []
  /-- A module that is not refused is valid in the end. -/
  of_ok : ∀ types, a.result = .ok types → a.module.validate = .ok ()

namespace Instrumenter

variable [WordSource ω] {i : Instrumenter ω} {m : Module}

theorem instrument_of_admission_error (select : String → Bool) {refusal : Refusal}
    (h : m.admission i.options = .error refusal) :
    i.instrument select m = ⟨.error refusal, m, i, [], []⟩ := by
  rw [instrument, h]

/-- An admitted module is not refused later, and valid in the end. -/
theorem instrument_of_admission_ok (select : String → Bool) (h : m.admission i.options = .ok ()) :
    (∃ types, (i.instrument select m).result = .ok types) ∧
      (i.instrument select m).module.validate = .ok () := by
  have hsound : ∀ t ∈ (m.prepare i.options).types, t.Sound :=
    Module.sound_prepare (Module.check_eq_ok_iff.mp (Module.check_of_admission h))
  rw [instrument, h]
  dsimp only
  obtain ⟨types, walk, hrun, htypes⟩ := Walk.gives_visitTypes
    (Probe.select i.options (m.prepare i.options) (TraceType.reference m.traceScope)).1 select
    hsound { ids := i.ids }
  rw [hrun]
  dsimp only
  -- the second validation, of the changed module
  have hcheck : Module.check { m.prepare i.options with types } = .ok () :=
    Module.check_eq_ok_iff.mpr htypes
  rw [hcheck]
  exact ⟨⟨walk.types, rfl⟩, Module.validate_eq_ok_iff_sound.mpr htypes⟩

/-- Only an admitted module is instrumented. -/
theorem admission_of_ok {select : String → Bool} {types : List String}
    (h : (i.instrument select m).result = .ok types) : m.admission i.options = .ok () := by
  rcases hadmission : m.admission i.options with refusal | ⟨⟩
  · rw [instrument_of_admission_error select hadmission] at h
    cases h
  · rfl

/-- **Instrumenting a module is all or nothing.** -/
theorem atomic_instrument (i : Instrumenter ω) (select : String → Bool) (m : Module) :
    (i.instrument select m).Atomic i m := by
  rcases h : m.admission i.options with refusal | ⟨⟩
  · -- refused at once, with everything as it was
    rw [instrument_of_admission_error select h]
    refine ⟨fun r => ?_, fun method hlost => ?_, fun _ _ => ⟨rfl, rfl, rfl⟩, fun types hok => ?_⟩
    · rw [h]
      simp
    · obtain rfl : refusal = .lostIndex method := by simpa using hlost
      exact Module.admission_ne_lostIndex _ _ _ h
    · cases hok
  · -- admitted, and then nothing can go wrong
    obtain ⟨⟨types, hresult⟩, hvalid⟩ := instrument_of_admission_ok select h
    refine ⟨fun r => ?_, fun method hlost => ?_, fun r herror => ?_, fun _ _ => hvalid⟩
    · rw [hresult, h]
      simp
    · rw [hresult] at hlost
      cases hlost
    · rw [hresult] at herror
      cases herror

end Instrumenter

/-! ### Files -/

/-- The file system that is nothing but a tree. -/
def FileTree.system : FileSystem (StateM FileTree) :=
  .ofTree id fun tree _ => tree

/-- The attempt on the file at a path either changed everything or nothing. -/
structure FileAttempt.Atomic (i : Instrumenter ω) (path : String) (before after : FileTree)
    (a : FileAttempt ω) : Prop where
  ne_lostIndex : ∀ method, a.result ≠ .error (.lostIndex method)
  /-- Unless it is the writing that fails, nothing has happened. -/
  of_error : ∀ refusal, a.result = .error refusal →
    (∃ cause, refusal = .unwritable path cause) ∨
      (after = before ∧ a.instrumenter = i ∧ a.consulted = [])
  /-- What is written is the image of a valid module. -/
  of_ok : ∀ types, a.result = .ok types →
    ∃ m : Module, m.validate = .ok () ∧ before.write path m.toImage = (.ok (), after)

namespace Instrumenter

variable [WordSource ω]

/-- Loading changes no file, and fails only on what is no module. -/
theorem run_load (path : String) (tree : FileTree) :
    ∃ loaded, (load FileTree.system path).run tree = pure (loaded, tree) ∧
      ∀ method, loaded ≠ .error (.lostIndex method) := by
  have hread : (FileTree.system.read path).run tree = pure (tree.read path, tree) := rfl
  rw [load, StateT.run_bind, hread, pure_bind]
  rcases tree.read path with cause | image
  · exact ⟨.error (.unreadable path cause), rfl, by simp⟩
  · dsimp only
    rcases Module.ofImage? image with cause | m
    · exact ⟨.error (.malformed cause), rfl, by simp⟩
    · exact ⟨.ok m, rfl, by simp⟩

/-- **Instrumenting a file is all or nothing**, whatever bytes are in it. -/
theorem fileAtomic_instrumentFile (i : Instrumenter ω) (select : String → Bool) (path : String)
    (tree : FileTree) :
    ((i.instrumentFile FileTree.system select path).run tree).1.Atomic i path tree
      ((i.instrumentFile FileTree.system select path).run tree).2 := by
  obtain ⟨loaded, hload, hlost⟩ := run_load path tree
  rw [instrumentFile, StateT.run_bind, hload, pure_bind]
  rcases loaded with refusal | m
  · -- there is no module to be changed
    show FileAttempt.Atomic i path tree tree { result := .error refusal, instrumenter := i }
    refine ⟨fun method hmethod => ?_, fun _ _ => .inr ⟨rfl, rfl, rfl⟩, fun types hok => ?_⟩
    · obtain rfl : refusal = .lostIndex method := Except.error.inj hmethod
      exact hlost method rfl
    · cases hok
  · have hatomic := atomic_instrument i select m
    dsimp only
    generalize i.instrument select m = a at hatomic
    obtain ⟨result, changed, instrumenter, consulted, log⟩ := a
    rcases result with refusal | types
    · -- the module was refused, so it is not written
      show FileAttempt.Atomic i path tree tree
        { result := .error refusal, instrumenter, consulted, log }
      obtain ⟨-, hinstrumenter, hconsulted⟩ := hatomic.of_error refusal rfl
      refine ⟨hatomic.ne_lostIndex, fun _ _ => .inr ⟨rfl, hinstrumenter, hconsulted⟩,
        fun types hok => ?_⟩
      cases hok
    · have hwrite : (FileTree.system.write path changed.toImage).run tree
          = pure (tree.write path changed.toImage) := rfl
      dsimp only
      rw [StateT.run_bind, hwrite, pure_bind]
      rcases hwritten : tree.write path changed.toImage with ⟨cause | ⟨⟩, after⟩
      · -- only here is something lost: the state of the generator has moved on
        show FileAttempt.Atomic i path tree after
          { result := .error (.unwritable path cause), instrumenter, consulted, log }
        refine ⟨fun method hmethod => ?_, fun refusal herror => ?_, fun types hok => ?_⟩
        · cases hmethod
        · cases herror
          exact .inl ⟨cause, rfl⟩
        · cases hok
      · refine ⟨fun method hmethod => ?_, fun refusal herror => ?_, fun types hok => ?_⟩
        · cases hmethod
        · cases herror
        · exact ⟨changed, hatomic.of_ok _ rfl, hwritten⟩

/-- **Instrumentation is all or nothing and loses no index**, for modules and for
files, whatever is in them. -/
theorem all_or_nothing (i : Instrumenter ω) (select : String → Bool) :
    (∀ m : Module, (i.instrument select m).Atomic i m) ∧
      ∀ (path : String) (tree : FileTree),
        ((i.instrumentFile FileTree.system select path).run tree).1.Atomic i path tree
          ((i.instrumentFile FileTree.system select path).run tree).2 :=
  ⟨atomic_instrument i select, fileAtomic_instrumentFile i select⟩

end Instrumenter

end BranchCoverage
