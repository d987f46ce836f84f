/-
Instrumenting changes what is selected and nothing else.

`Attempt.Rewrites` lists everything that an attempt may do to a module: it asks
for names, it rewrites types (`TypeDef.Rewritten`), and it gives the module access
to the trace type.  Whatever is not listed there is as it was.
-/
import BranchCoverage.Proofs.Instrument.Draws

namespace BranchCoverage

open Identifier (WordSource)

variable {ω : Type} [WordSource ω]

/-- What an attempt has asked for, and what it has made of the module. -/
structure Attempt.Rewrites (options : Options) (select : String → Bool) (m : Module)
    (a : Attempt ω) : Prop where
  /-- Types and methods are asked for in their order, each of them once. -/
  consulted : a.consulted = m.asked select
  /-- Only the chosen bodies are replaced, and the core library gets a type behind
  its own. -/
  types : ∃ changed, a.module.types = changed ++ m.synthesized ∧
    List.Forall₂ (TypeDef.Rewritten ω (m.probe options) select) m.types changed
  name : a.module.name = m.name
  /-- With native code in it, a module is no longer marked as a library. -/
  flags : a.module.flags = if m.isIlOnly then m.flags else m.flags &&& ~~~ilLibraryFlag
  /-- The version is replaced if there is a new one, but not in the core library. -/
  version : a.module.version =
    if m.isCore then m.version else options.version.elim m.version fun major => { major }
  /-- A module that is not the core library refers to the trace type in the end. -/
  references : a.module.references =
    m.references ++ if m.isCore then [] else [TraceType.assemblyRef]

namespace Instrumenter

/-- **An accepted module is rewritten exactly where it is selected.** -/
theorem rewrites_instrument {i : Instrumenter ω} {select : String → Bool} {m : Module}
    {types : List String} (h : (i.instrument select m).result = .ok types) :
    (i.instrument select m).Rewrites i.options select m := by
  have hadmission : m.admission i.options = .ok () := by
    rcases hadmission : m.admission i.options with refusal | ⟨⟩
    · rw [instrument_of_admission_error select hadmission] at h
      cases h
    · rfl
  obtain ⟨hasked, -, changed, hmodule, hchanged, -⟩ := instrument_of_admission select hadmission
  refine ⟨hasked, ⟨changed, by rw [hmodule], hchanged⟩, ?_, ?_, ?_, ?_⟩ <;>
    rw [hmodule, Module.prepare]
  · split <;> rfl
  · split <;> rfl
  · split
    · rfl
    · cases i.options.version <;> rfl
  · split
    · exact (List.append_nil _).symm
    · rfl

/-- A mixed library with a type that is not selected, one without methods, and
one of whose methods one is selected. -/
theorem turnstile_rewrites :
    let body : MethodBody :=
      ⟨1, ["int"],
        [⟨.ldarg, .argument 0⟩, ⟨.brtrue, .target 3⟩, ⟨.ret, .none⟩, ⟨.throw, .none⟩], []⟩
    let m : Module :=
      { name := "Gates"
        version := ⟨2, 1, 0, 9⟩
        flags := 4
        references := [⟨"System", {}⟩]
        types := [
          { space := "Gates", name := "Fence",
            methods := [⟨"Fall", "void", [], true, .il, some body⟩] },
          { space := "Gates", name := "Sign" },
          { space := "Gates", name := "Turnstile",
            methods := [⟨"Push", "void", ["int"], false, .il, some body⟩,
              ⟨"Lock", "void", ["int"], false, .il, some body⟩,
              ⟨"Click", "void", [], true, .native, none⟩] }] }
    let select : String → Bool := fun name =>
      name = "Gates.Turnstile" ∨ name = "void Gates.Turnstile::Push(int)"
    let i := Instrumenter.fresh { mixed := true, version := some 7 }
    ∃ types, (i.instrument select m).result = .ok types ∧
      (i.instrument select m).Rewrites i.options select m := by
  intro body m select i
  have hadmission : m.admission i.options = .ok () := by decide +kernel
  obtain ⟨types, htypes⟩ := (instrument_of_admission_ok select hadmission).1
  exact ⟨types, htypes, rewrites_instrument htypes⟩

end Instrumenter

end BranchCoverage
