/-
Identifiers follow one sequence through all modules.

Modules are instrumented one after another (`Instrumenter.instrumentAll`).  An
attempt takes an identifier of the sequence for each site of the bodies that it
puts probes into, and a refused one takes none (`sequenced_instrument`); what
attempts take one after another is then the beginning of the sequence
(`Sequenced.append`, `sequenced_instrumentAll`).
-/
import BranchCoverage.Proofs.Instrument.Draws

namespace BranchCoverage

open Identifier (Generator WordSource)

/-- A module to be instrumented, and what picks types and methods by name. -/
structure Job where
  select : String → Bool
  module : Module

namespace Job

variable {ω : Type}

/-- The probes that an attempt has put into a module, in the order of types,
methods and sites, each with what it is a probe of. -/
def probes (options : Options) (job : Job) (a : Attempt ω) : List (Probe × List Instruction) :=
  match a.result with
  | .ok _ =>
    (job.module.probes (job.module.probe options) job.select a.module).map
      (job.module.probe options, ·)
  | .error _ => []

/-- The number of sites in the bodies that an attempt was to put probes into. -/
def sites (job : Job) (a : Attempt ω) : Nat :=
  match a.result with
  | .ok _ => siteCount (job.module.chosenBodies job.select)
  | .error _ => 0

end Job

/-! ### Runs -/

section

variable {ω : Type}

/-- The number of sites in all bodies with probes. -/
def totalSites (trials : List (Job × Attempt ω)) : Nat :=
  (trials.map fun (job, a) => job.sites a).sum

/-- All probes that attempts have put in. -/
def allProbes (options : Options) (trials : List (Job × Attempt ω)) :
    List (Probe × List Instruction) :=
  trials.flatMap fun (job, a) => job.probes options a

variable [WordSource ω]

/-- The probes of attempts have identifiers from the sequence of a generator, and
it goes on behind these. -/
structure Sequenced (options : Options) (g : Generator ω) (trials : List (Job × Attempt ω))
    (last : Generator ω) : Prop where
  /-- Read from the probes in turn, the identifiers are the first of the sequence,
  one for each site. -/
  identifiers : (allProbes options trials).map (fun (probe, code) => probe.identifier? code)
    = (g.take (totalSites trials)).1.map some
  /-- Every probe has its identifier wherever it uses one. -/
  carries : List.Forall₂ (fun id (p : Probe × List Instruction) => p.1.Carries id p.2)
    (g.take (totalSites trials)).1 (allProbes options trials)
  /-- No other identifier was taken. -/
  last : last = (g.take (totalSites trials)).2

variable {options : Options} {g g' g'' : Generator ω} {trials trials' : List (Job × Attempt ω)}

/-- What the probes carry is what is read from them. -/
theorem Sequenced.of_carries
    (hcarries : List.Forall₂ (fun id (p : Probe × List Instruction) => p.1.Carries id p.2)
      (g.take (totalSites trials)).1 (allProbes options trials))
    (hlast : g' = (g.take (totalSites trials)).2) : Sequenced options g trials g' where
  identifiers := by
    have hread : List.Forall₂ (fun read expected => read = expected)
        ((allProbes options trials).map fun (probe, code) => probe.identifier? code)
        ((g.take (totalSites trials)).1.map some) := by
      rw [List.forall₂_map_left_iff, List.forall₂_map_right_iff]
      exact (hcarries.imp fun id p h => h.identifier).flip
    rw [List.forall₂_eq_eq_eq] at hread
    exact hread
  carries := hcarries
  last := hlast

theorem Sequenced.append (h : Sequenced options g trials g')
    (h' : Sequenced options g' trials' g'') : Sequenced options g (trials ++ trials') g'' := by
  have htotal : totalSites (trials ++ trials') = totalSites trials + totalSites trials' := by
    rw [totalSites, List.map_append, List.sum_append]
    rfl
  have hprobes : allProbes options (trials ++ trials')
      = allProbes options trials ++ allProbes options trials' := List.flatMap_append
  have hcarries := h'.carries
  have hlast := h'.last
  rw [h.last] at hcarries hlast
  refine .of_carries ?_ ?_
  · rw [htotal, Generator.take_add, hprobes]
    exact List.rel_append h.carries hcarries
  · rw [htotal, Generator.take_add]
    exact hlast

end

namespace Instrumenter

variable {ω : Type} [WordSource ω]

/-- Instruments modules one after another: the attempts with what they were made
on, and the instrumenter in the end. -/
def instrumentAll : Instrumenter ω → List Job → List (Job × Attempt ω) × Instrumenter ω
  | i, [] => ([], i)
  | i, job :: rest =>
    let a := i.instrument job.select job.module
    let (later, last) := a.instrumenter.instrumentAll rest
    ((job, a) :: later, last)

/-- One attempt takes as many identifiers as it needs, and none if it fails. -/
theorem sequenced_instrument (i : Instrumenter ω) (job : Job) :
    let a := i.instrument job.select job.module
    a.instrumenter.options = i.options ∧
      Sequenced i.options i.ids [(job, a)] a.instrumenter.ids := by
  rcases h : job.module.admission i.options with refusal | ⟨⟩
  · rw [instrument_of_admission_error job.select h]
    exact ⟨rfl, .of_carries .nil rfl⟩
  · obtain ⟨⟨types, hresult⟩, -⟩ := instrument_of_admission_ok job.select h
    obtain ⟨-, hinstrumenter, changed, -, -, hcarries⟩ := instrument_of_admission job.select h
    have hsites : totalSites [(job, i.instrument job.select job.module)]
        = siteCount (job.module.chosenBodies job.select) := by
      show job.sites _ + 0 = _
      rw [Job.sites, hresult]
      rfl
    have hprobes : allProbes i.options [(job, i.instrument job.select job.module)]
        = (job.module.probes (job.module.probe i.options) job.select
            (i.instrument job.select job.module).module).map (job.module.probe i.options, ·) := by
      show job.probes i.options _ ++ [] = _
      rw [List.append_nil, Job.probes, hresult]
    refine ⟨by rw [hinstrumenter], .of_carries ?_ ?_⟩
    · rw [hsites, hprobes, List.forall₂_map_right_iff]
      exact hcarries
    · rw [hsites, hinstrumenter]

/-- Attempts one after another take identifiers one after another. -/
theorem sequenced_instrumentAll (i : Instrumenter ω) (jobs : List Job) :
    Sequenced i.options i.ids (i.instrumentAll jobs).1 (i.instrumentAll jobs).2.ids := by
  induction jobs generalizing i with
  | nil => exact .of_carries .nil rfl
  | cons job rest ih =>
    obtain ⟨hoptions, hfirst⟩ := sequenced_instrument i job
    have hrest := ih (i.instrument job.select job.module).instrumenter
    rw [hoptions] at hrest
    exact hfirst.append hrest

/-- **Identifiers follow one sequence over a whole run**, whichever modules are
refused and whatever is selected. -/
theorem sequenced_fresh (options : Options) (jobs : List Job) :
    let run := (Instrumenter.fresh options).instrumentAll jobs
    Sequenced options (Identifier.fresh options.width) run.1 run.2.ids :=
  sequenced_instrumentAll (Instrumenter.fresh options) jobs

end Instrumenter

end BranchCoverage
