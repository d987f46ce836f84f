/-
What instrumenting makes of a module, and what it asks for.

A body gets probes if its method and its type are both selected
(`TypeDef.chosenBody?`).  `Rewritten` says of a method or type, old and new, that
such bodies are replaced and nothing else is changed; `MethodBody.Instrumented`
says how a body is replaced, which is what inserting probes does to it
(`instrumented_probed`).

Branch sites are counted with `List.sum` (`siteCount`), over the natural numbers with
the algebra that Mathlib gives them.
-/
import Mathlib.Algebra.GroupWithZero.Nat
import Mathlib.Data.List.Forall2
import BranchCoverage.Instrument
import BranchCoverage.Proofs.Identifier.Generator
import BranchCoverage.Proofs.Insertion.Removal
import BranchCoverage.Proofs.Probe.Identifier

namespace BranchCoverage

open Identifier (Generator WordSource)

/-! ### What is asked for and chosen -/

namespace TypeDef

/-- The names asked for at a type: its own if it has methods, and behind it those
of its methods with bytecode if it is selected. -/
def asked (select : String → Bool) (t : TypeDef) : List String :=
  if t.hasMethods then
    t.fullName ::
      if select t.fullName then (t.methods.filter MethodDef.hasIlBody).map t.methodName else []
  else []

/-- The body of a method that is to get probes: both its type and the method
itself are selected. -/
def chosenBody? (select : String → Bool) (t : TypeDef) (d : MethodDef) : Option MethodBody :=
  if select t.fullName ∧ d.hasIlBody ∧ select (t.methodName d) then d.body else none

/-- The bodies of a type that are to get probes. -/
def chosenBodies (select : String → Bool) (t : TypeDef) : List MethodBody :=
  t.methods.filterMap (t.chosenBody? select)

end TypeDef

/-- The number of branch sites in bodies. -/
def siteCount (bodies : List MethodBody) : Nat :=
  (bodies.map (·.branchSites.length)).sum

theorem siteCount_append (bodies bodies' : List MethodBody) :
    siteCount (bodies ++ bodies') = siteCount bodies + siteCount bodies' := by
  rw [siteCount, List.map_append, List.sum_append]
  rfl

/-! ### Bodies -/

namespace MethodBody

/-- The code in front of the sites of the old body, as it is in the new one. -/
def probes (b : MethodBody) (probe : Probe) (new : MethodBody) : List (List Instruction) :=
  b.branchSites.map fun i => new.instructions.extract (b.entryOf probe i) (b.homeOf probe i)

/-- The new body is the old one with probes. -/
structure Instrumented (ω : Type) [WordSource ω] (probe : Probe) (method : String)
    (b new : MethodBody) : Prop where
  made : ∃ g g' : Generator ω, b.instrument? probe method g = some (new, g')
  locals : new.locals = b.locals
  /-- What is new in front of the sites are probes. -/
  inserted : ∀ code ∈ b.probes probe new, ∃ id, code = probe.code id method
  /-- What is left without them are the old instructions and handlers. -/
  restored : b.restore? probe new = some { b with maxStack := new.maxStack }

variable {b : MethodBody} {probe : Probe} {method : String} {ids : List UInt32}

/-- In front of the sites stands the code for their identifiers in turn. -/
theorem probes_probed (hv : b.Valid) (hlen : ids.length = b.branchSites.length) :
    b.probes probe (b.probed probe method ids) = ids.map (probe.code · method) := by
  refine List.ext_getElem? fun n => ?_
  rw [probes, List.getElem?_map, List.getElem?_map]
  rcases hsite : b.branchSites[n]? with - | i
  · have hnone : ids[n]? = none := by
      rw [List.getElem?_eq_none_iff] at hsite ⊢
      omega
    rw [hnone]
    rfl
  · have hlt : n < ids.length := hlen ▸ (List.getElem?_eq_some_iff.mp hsite).1
    have hid : (b.branchSites.zip ids).lookup i = ids[n]? :=
      lookup_zip b.nodup_branchSites hsite
    rw [List.getElem?_eq_getElem hlt] at hid ⊢
    rw [Option.map_some, Option.map_some,
      extract_probed hlen (lt_length_of_mem hv (List.mem_of_getElem? hsite)) hid]

/-- Inserting probes is all that happens to a body. -/
theorem instrumented_probed {ω : Type} [WordSource ω] (hv : b.Valid) (g : Generator ω) :
    b.Instrumented ω probe method (b.probed probe method (g.take b.branchSites.length).1) where
  made := ⟨g, _, instrument?_eq_probed hv probe method g⟩
  locals := rfl
  inserted := by
    intro code hcode
    rw [probes_probed hv (Generator.length_take _ g)] at hcode
    obtain ⟨id, -, rfl⟩ := List.mem_map.mp hcode
    exact ⟨id, rfl⟩
  restored := restore?_probed hv (Generator.length_take _ g)

end MethodBody

/-! ### Methods and types -/

section

variable (ω : Type) [WordSource ω] (probe : Probe) (select : String → Bool)

/-- The body of a method of the type is replaced if it is chosen, and nothing
else of it. -/
structure MethodDef.Rewritten (t : TypeDef) (d new : MethodDef) : Prop where
  chosen : ∀ b, t.chosenBody? select d = some b →
    ∃ body, new = { d with body := some body } ∧ b.Instrumented ω probe (t.methodName d) body
  kept : t.chosenBody? select d = none → new = d

/-- The methods of a type are rewritten, and nothing else of it. -/
def TypeDef.Rewritten (t new : TypeDef) : Prop :=
  ∃ methods, new = { t with methods } ∧
    List.Forall₂ (MethodDef.Rewritten ω probe select t) t.methods methods

end

/-! ### Modules -/

/-- The names asked for in a module, type by type. -/
def Module.asked (select : String → Bool) (m : Module) : List String :=
  m.types.flatMap (TypeDef.asked select)

/-- The bodies of a module that are to get probes. -/
def Module.chosenBodies (select : String → Bool) (m : Module) : List MethodBody :=
  m.types.flatMap (TypeDef.chosenBodies select)

/-- The probe for all of a module. -/
def Module.probe (options : Options) (m : Module) : Probe :=
  (Probe.select options (m.prepare options) (TraceType.reference m.traceScope)).1

/-- The types that a module gets besides its own. -/
def Module.synthesized (m : Module) : List TypeDef :=
  if m.isCore then [TraceType.definition] else []

/-- The probes in a method of the type. -/
def TypeDef.probesIn (probe : Probe) (select : String → Bool) (t : TypeDef) (d new : MethodDef) :
    List (List Instruction) :=
  match t.chosenBody? select d, new.body with
  | some b, some body => b.probes probe body
  | _, _ => []

/-- The probes in a type, method by method. -/
def TypeDef.probes (probe : Probe) (select : String → Bool) (t new : TypeDef) :
    List (List Instruction) :=
  (t.methods.zip new.methods).flatMap fun (d, d') => t.probesIn probe select d d'

/-- The probes in a module, type by type. -/
def Module.probes (probe : Probe) (select : String → Bool) (m new : Module) :
    List (List Instruction) :=
  (m.types.zip new.types).flatMap fun (t, t') => t.probes probe select t'

end BranchCoverage
