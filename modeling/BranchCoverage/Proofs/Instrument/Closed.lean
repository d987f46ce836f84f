/-
No module is instrumented twice.

Every attempt that succeeds leaves a trace that the first check of the next one
looks for: the core library has the trace type then, and any other module a
reference to its assembly (`isInstrumented_instrument`).  The check comes before
anything is done, so an attempt on a module with such a trace changes nothing
(`instrument_of_isInstrumented`).  Nor does storing the module and loading it
again, since a valid module comes back from its image.  As neither step leads
anywhere else, no sequence of them does (`eq_of_reaches`).
-/
import Mathlib.Logic.Relation
import BranchCoverage.Proofs.Image.Size
import BranchCoverage.Proofs.Instrument.Draws

namespace BranchCoverage

open Identifier (WordSource)

namespace Module

/-- What may be done to a module between two attempts. -/
inductive Passes : Module → Module → Prop where
  /-- Somebody tries to instrument it. -/
  | attempt {ω : Type} [WordSource ω] (i : Instrumenter ω) (select : String → Bool) (m : Module) :
      Passes m (i.instrument select m).module
  /-- It is stored, in an image that has room in memory, and loaded again. -/
  | reload {m loaded : Module} (hlength : m.toImage.length < 2 ^ 64)
      (hloaded : ofImage? m.toImage = .ok loaded) : Passes m loaded

/-- The module is not instrumented any more, whatever is done. -/
structure Closed (m : Module) : Prop where
  /-- Attempts, storing and loading leave it as it is, in any order and number. -/
  stays : ∀ later, Relation.ReflTransGen Passes m later → later = m
  /-- An attempt is refused at once: no name is asked for, no identifier is drawn,
  and the module is what it was. -/
  refuses : ∀ {ω : Type} [WordSource ω] (i : Instrumenter ω) (select : String → Bool),
    i.instrument select m = ⟨.error .alreadyInstrumented, m, i, [], []⟩
  /-- What was stored can be loaded. -/
  loads : m.toImage.length < 2 ^ 64 → ofImage? m.toImage = .ok m

variable {m : Module}

theorem ofImage?_of_validate (h : m.validate = .ok ()) (hlength : m.toImage.length < 2 ^ 64) :
    ofImage? m.toImage = .ok m :=
  Image.Codec.decode_encode (Module.reads 115 (indexed_of_validate h hlength)) hlength

/-- So is one that refers to the assembly of the trace type. -/
theorem isInstrumented_of_mem_references {r : AssemblyRef} (h : r ∈ m.references)
    (hname : r.name = TraceType.assembly) : m.isInstrumented = true := by
  rw [isInstrumented, Bool.or_eq_true]
  exact .inr (List.any_eq_true.mpr ⟨r, h, decide_eq_true hname⟩)

end Module

namespace Instrumenter

variable {ω : Type} [WordSource ω] {i : Instrumenter ω} {select : String → Bool} {m : Module}

/-- A module with a way to the trace type is refused before anything else. -/
theorem instrument_of_isInstrumented (i : Instrumenter ω) (select : String → Bool)
    (h : m.isInstrumented = true) :
    i.instrument select m = ⟨.error .alreadyInstrumented, m, i, [], []⟩ := by
  have hadmission : m.admission i.options = .error .alreadyInstrumented := by
    rw [Module.admission, if_pos h]
  exact instrument_of_admission_error select hadmission

/-- An attempt that succeeds has given the module a way to the trace type,
whatever was selected. -/
theorem isInstrumented_instrument (h : m.admission i.options = .ok ()) :
    (i.instrument select m).module.isInstrumented = true := by
  obtain ⟨-, -, changed, hmodule, -⟩ := instrument_of_admission select h
  rw [hmodule]
  by_cases hcore : m.isCore
  · -- the core library has the type itself, behind its own
    have hsynthesized : m.synthesized = [TraceType.definition] := if_pos hcore
    rw [hsynthesized]
    exact Module.isInstrumented_of_mem
      (List.mem_append_right changed (List.mem_singleton_self _)) rfl
  · have hreferences : (m.prepare i.options).references
        = m.references ++ [TraceType.assemblyRef] := by
      rw [Module.prepare, if_neg hcore]
    refine Module.isInstrumented_of_mem_references (r := TraceType.assemblyRef) ?_ rfl
    show TraceType.assemblyRef ∈ (m.prepare i.options).references
    rw [hreferences]
    exact List.mem_append_right _ (List.mem_singleton_self _)

end Instrumenter

namespace Module

variable {m m' : Module}

/-- One step leaves an instrumented module as it is. -/
theorem Passes.eq_of_isInstrumented (h : Passes m m') (hvalid : m.validate = .ok ())
    (hinstrumented : m.isInstrumented = true) : m' = m := by
  cases h with
  | attempt i select => rw [Instrumenter.instrument_of_isInstrumented i select hinstrumented]
  | reload hlength hloaded =>
    rw [ofImage?_of_validate hvalid hlength] at hloaded
    exact (Except.ok.inj hloaded).symm

/-- So does any number of steps. -/
theorem eq_of_reaches (hvalid : m.validate = .ok ()) (hinstrumented : m.isInstrumented = true)
    (h : Relation.ReflTransGen Passes m m') : m' = m := by
  induction h with
  | refl => rfl
  | tail _ hstep ih =>
    subst ih
    exact hstep.eq_of_isInstrumented hvalid hinstrumented

theorem closed_of_isInstrumented (hvalid : m.validate = .ok ())
    (hinstrumented : m.isInstrumented = true) : m.Closed where
  stays _ h := eq_of_reaches hvalid hinstrumented h
  refuses i select := Instrumenter.instrument_of_isInstrumented i select hinstrumented
  loads := ofImage?_of_validate hvalid

end Module

namespace Instrumenter

variable {ω : Type} [WordSource ω]

/-- **What has been instrumented is never instrumented again**, be it the core
library or any other module, and even if nothing in it was selected. -/
theorem closed_instrument {i : Instrumenter ω} {select : String → Bool} {m : Module}
    {types : List String} (h : (i.instrument select m).result = .ok types) :
    (i.instrument select m).module.Closed := by
  have hadmission := admission_of_ok h
  exact Module.closed_of_isInstrumented (instrument_of_admission_ok select hadmission).2
    (isInstrumented_instrument hadmission)

/-- A core library in which nothing is selected, and a library that is. -/
theorem gatehouse_closed :
    let body : MethodBody :=
      ⟨1, [], [⟨.ldarg, .argument 0⟩, ⟨.brtrue, .target 3⟩, ⟨.ret, .none⟩, ⟨.throw, .none⟩], []⟩
    let core : Module :=
      { name := "System.Private.CoreLib"
        version := ⟨9, 0, 0, 0⟩
        flags := 5
        references := []
        types := [
          { space := "System", name := "Gate",
            methods := [⟨"Open", "void", ["int"], true, .il, some body⟩] }] }
    let house : Module := { core with name := "Gatehouse" }
    let i := Instrumenter.fresh {}
    (∃ types, (i.instrument (fun _ => false) core).result = .ok types ∧
        (i.instrument (fun _ => false) core).module.Closed) ∧
      ∃ types, (i.instrument (fun _ => true) house).result = .ok types ∧
        (i.instrument (fun _ => true) house).module.Closed := by
  intro body core house i
  have hcore : core.admission i.options = .ok () := by decide +kernel
  have hhouse : house.admission i.options = .ok () := by decide +kernel
  obtain ⟨types, htypes⟩ := (instrument_of_admission_ok (fun _ => false) hcore).1
  obtain ⟨types', htypes'⟩ := (instrument_of_admission_ok (fun _ => true) hhouse).1
  exact ⟨⟨types, htypes, closed_instrument htypes⟩, types', htypes', closed_instrument htypes'⟩

end Instrumenter

end BranchCoverage
