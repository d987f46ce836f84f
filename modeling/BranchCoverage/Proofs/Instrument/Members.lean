/-
Probes refer to nothing that their module cannot reach.

A probe names the two fields of the trace type, or one of its methods
(`Probe.operand_cases`).  An ordinary module finds the trace type in an assembly,
and has a reference to it.  The core library finds it in itself: no type of its
own has that name, so the first one is the one that it is given
(`Module.type?_trace`).  That one has the fields and no method to be called, so
the core library gets probes without a call, of the same discipline
(`Module.probe_eq`).

How wide the identifiers are depends on the generator.  It begins with the width
of the options and drawing does not change it, so the width is right for every
module of a run (`linked_of_mem_instrumentAll`).
-/
import BranchCoverage.Proofs.Instrument.Sequence
import BranchCoverage.Proofs.Stack.Agreement

namespace BranchCoverage

open Identifier (Generator WordSource)

/-! ### Members within reach -/

namespace Module

/-- The module can reach a field: it is a static one of the module's own, of that
name and type, or it is in an assembly that the module refers to. -/
def ReachesField (m : Module) (r : MemberRef) : Prop :=
  match r.owner.scope with
  | .here => ∃ f, m.resolveField r = some f ∧ f.isStatic = true ∧ f.name = r.name ∧
      f.type = r.signature
  | .assembly name => ∃ a ∈ m.references, a.name = name

/-- The module can reach a method: it is a static one of the module's own, of that
name, or it is in an assembly that the module refers to. -/
def ReachesMethod (m : Module) (r : MemberRef) : Prop :=
  match r.owner.scope with
  | .here => ∃ d, m.resolveMethod r = some d ∧ d.isStatic = true ∧ d.name = r.name
  | .assembly name => ∃ a ∈ m.references, a.name = name

/-- The module can reach what an instruction refers to. -/
def Reaches (m : Module) (i : Instruction) : Prop :=
  match i.operand with
  | .field r => m.ReachesField r
  | .method r => m.ReachesMethod r
  | _ => True

end Module

/-- A probe names the fields of its trace type, and the method that it calls. -/
theorem Probe.operand_cases {p : Probe} {id : UInt32} {method : String} {i : Instruction}
    (h : i ∈ p.code id method) :
    (∀ r, i.operand = .field r → r = p.memory ∨ r = p.previous) ∧
      ∀ r, i.operand = .method r → p.callback? = some r := by
  obtain ⟨kind, traceType⟩ := p
  have hall : ∀ i ∈ (⟨kind, traceType⟩ : Probe).code id method,
      (∀ r, i.operand = .field r →
        r = (⟨kind, traceType⟩ : Probe).memory ∨ r = (⟨kind, traceType⟩ : Probe).previous) ∧
      ∀ r, i.operand = .method r → (⟨kind, traceType⟩ : Probe).callback? = some r := by
    cases kind <;>
      simp [code, callback?, ProbeKind.method?, hash, cellAddress, leaveTrace]
  exact hall i h

/-- A module reaches what a probe refers to if it reaches the members of the trace
type that the probe may name. -/
theorem Probe.reaches_of_mem_code {p : Probe} {m : Module} (hmemory : m.ReachesField p.memory)
    (hprevious : m.ReachesField p.previous)
    (hcallback : ∀ r, p.callback? = some r → m.ReachesMethod r) {id : UInt32} {method : String}
    {i : Instruction} (h : i ∈ p.code id method) : m.Reaches i := by
  obtain ⟨hfield, hmethod⟩ := Probe.operand_cases h
  rw [Module.Reaches]
  split
  · next r hr =>
    rcases hfield r hr with rfl | rfl
    · exact hmemory
    · exact hprevious
  · next r hr => exact hcallback r (hmethod r hr)
  · trivial

/-! ### The trace type of a module -/

namespace Module

variable {m : Module} {options : Options}

/-- Behind types of other names, the trace type is found. -/
theorem type?_trace {types : List TypeDef} (h : ∀ t ∈ types, t.fullName ≠ TraceType.fullName)
    (hm : m.types = types ++ [TraceType.definition]) :
    m.type? TraceType.fullName = some TraceType.definition := by
  have hnone : types.find? (·.fullName = TraceType.fullName) = none :=
    List.find?_eq_none.mpr fun t ht => by simpa using h t ht
  rw [type?, hm, List.find?_append, hnone, Option.none_or]
  rfl

/-- A module with the trace type in it reaches all that a probe without a call
refers to. -/
theorem reaches_of_here (hm : m.type? TraceType.fullName = some TraceType.definition)
    {kind : ProbeKind} (hkind : kind.method? = none) {id : UInt32} {method : String}
    {i : Instruction} (h : i ∈ (⟨kind, TraceType.reference .here⟩ : Probe).code id method) :
    m.Reaches i := by
  have hfield : ∀ f ∈ TraceType.definition.fields, TraceType.definition.field? f.name = some f →
      f.isStatic = true → m.ReachesField ⟨TraceType.reference .here, f.name, f.type⟩ := by
    intro f _ hf hstatic
    refine ⟨f, ?_, hstatic, rfl, rfl⟩
    show (m.type? TraceType.fullName).bind (·.field? f.name) = some f
    rw [hm]
    exact hf
  refine Probe.reaches_of_mem_code (hfield ⟨_, _, _⟩ List.mem_cons_self rfl rfl)
    (hfield ⟨_, _, _⟩ (List.mem_cons_of_mem _ List.mem_cons_self) rfl rfl) (fun r hr => ?_) h
  rw [Probe.callback?, hkind] at hr
  cases hr

/-- A module that refers to the assembly of the trace type reaches all that a probe
refers to. -/
theorem reaches_of_assembly {name : String} (hm : ∃ a ∈ m.references, a.name = name)
    {kind : ProbeKind} {id : UInt32} {method : String} {i : Instruction}
    (h : i ∈ (⟨kind, TraceType.reference (.assembly name)⟩ : Probe).code id method) :
    m.Reaches i := by
  refine Probe.reaches_of_mem_code ?_ ?_ (fun r hr => ?_) h
  · exact hm
  · exact hm
  · obtain ⟨_, -, rfl⟩ := Option.map_eq_some_iff.mp hr
    exact hm

/-- The trace type that the core library is given has no probe methods. -/
theorem resolveMethod_callback (hm : m.type? TraceType.fullName = some TraceType.definition)
    {kind : ProbeKind} {callback : MemberRef}
    (h : (⟨kind, TraceType.reference .here⟩ : Probe).callback? = some callback) :
    m.resolveMethod callback = none := by
  obtain ⟨name, hname, rfl⟩ := Option.map_eq_some_iff.mp h
  show (m.type? TraceType.fullName).bind (·.method? name) = none
  rw [hm]
  cases kind with
  | counter =>
    obtain rfl := Option.some.inj hname
    rfl
  | bitset =>
    obtain rfl := Option.some.inj hname
    rfl
  | inline | inlineBitset => cases hname

end Module

/-! ### The choice of the probe -/

namespace Probe

variable {options : Options} {m : Module} {traceType : TypeRef}

/-- A trace type in another assembly is taken to have what is asked for. -/
theorem select_of_assembly {name : String} (h : traceType.scope = .assembly name) :
    (select options m traceType).1 = ⟨requested options, traceType⟩ := by
  rw [select, h]
  rcases (⟨requested options, traceType⟩ : Probe).callback? with - | callback <;> rfl

/-- Where the method to be called is missing, the probe does without. -/
theorem select_of_here (h : traceType.scope = .here)
    (hnone : ∀ callback, (⟨requested options, traceType⟩ : Probe).callback? = some callback →
      m.resolveMethod callback = none) :
    (select options m traceType).1 = ⟨(requested options).withoutCall, traceType⟩ := by
  rw [select, h]
  rcases hcallback : (⟨requested options, traceType⟩ : Probe).callback? with - | callback
  · -- a probe that calls nothing is what it would be replaced by
    rcases hkind : requested options <;> rw [hkind] at hcallback
    · cases hcallback
    · cases hcallback
    · rfl
    · rfl
  · dsimp only
    rw [hnone callback hcallback]
    rfl

end Probe

/-- The probe for an admitted module is of the kind that the options ask for, but
without a call in the core library. -/
theorem Module.probe_eq {options : Options} {m : Module} (h : m.admission options = .ok ()) :
    m.probe options = ⟨if m.isCore then (Probe.requested options).withoutCall
      else Probe.requested options, TraceType.reference m.traceScope⟩ := by
  rw [probe, traceScope]
  by_cases hcore : m.isCore = true
  · have htypes : (m.prepare options).types = m.types ++ [TraceType.definition] := by
      rw [types_prepare, synthesized, if_pos hcore]
    have htrace := type?_trace (fullName_ne_of_admission h) htypes
    rw [if_pos hcore, if_pos hcore]
    exact Probe.select_of_here rfl fun _ => resolveMethod_callback htrace
  · rw [if_neg hcore, if_neg hcore]
    exact Probe.select_of_assembly rfl

theorem ProbeKind.method?_withoutCall (kind : ProbeKind) : kind.withoutCall.method? = none := by
  cases kind <;> rfl

theorem Probe.discipline_requested (options : Options) :
    (Probe.requested options).discipline = if options.alternate then .bitset else .counter := by
  rw [requested]
  rcases options.alternate with - | - <;> rcases options.callback with - | - <;> rfl

/-! ### Attempts -/

/-- The number of bits that identifiers have under the options. -/
theorem Options.bits_width (options : Options) :
    options.width.bits = if options.alternate then 20 else 8 := by
  rw [width]
  split <;> rfl

/-- What an attempt has put into a module goes together with the module and with
the options. -/
structure Attempt.Linked {ω : Type} (options : Options) (select : String → Bool) (m : Module)
    (a : Attempt ω) : Prop where
  /-- Every field or method that a probe names can be reached from the new module. -/
  reaches : ∀ code ∈ m.probes (m.probe options) select a.module, ∀ i ∈ code, a.module.Reaches i
  /-- The probes are made for one kind, and have identifiers of one width. -/
  made : ∀ code ∈ m.probes (m.probe options) select a.module, ∃ id method,
    code = (m.probe options).code id method ∧
      id.toNat < 2 ^ if options.alternate then 20 else 8
  /-- The kind is of the discipline that the options ask for. -/
  discipline : (m.probe options).kind.discipline
    = if options.alternate then .bitset else .counter
  /-- In the core library it is one that calls nothing. -/
  callback : m.isCore = true → (m.probe options).callback? = none
  /-- Identifiers are drawn with this width, and go on to be. -/
  width : a.instrumenter.ids.width.bits = if options.alternate then 20 else 8

section

variable {ω : Type} [WordSource ω] {probe : Probe} {select : String → Bool}

/-- What is in front of the sites of rewritten methods is code of the probe. -/
theorem TypeDef.Rewritten.exists_code {t new : TypeDef} (h : t.Rewritten ω probe select new)
    {code : List Instruction} (hcode : code ∈ t.probes probe select new) :
    ∃ id method, code = probe.code id method := by
  obtain ⟨methods, rfl, hmethods⟩ := h
  obtain ⟨⟨d, d'⟩, hmem, hcode⟩ := List.mem_flatMap.mp hcode
  have hrewritten := (List.forall₂_iff_zip.mp hmethods).2 hmem
  dsimp only at hcode
  rw [probesIn] at hcode
  split at hcode
  · next b body hchosen hbody =>
    obtain ⟨body', rfl, hinstrumented⟩ := hrewritten.chosen b hchosen
    obtain rfl := Option.some.inj hbody
    obtain ⟨id, hid⟩ := hinstrumented.inserted code hcode
    exact ⟨id, _, hid⟩
  · cases hcode

/-- Rewritten types keep their names. -/
theorem TypeDef.Rewritten.map_fullName_eq {ts news : List TypeDef}
    (h : List.Forall₂ (TypeDef.Rewritten ω probe select) ts news) :
    news.map TypeDef.fullName = ts.map TypeDef.fullName := by
  induction h with
  | nil => rfl
  | @cons t _ _ _ hnew _ ih =>
    obtain ⟨methods, rfl, -⟩ := hnew
    exact congrArg (t.fullName :: ·) ih

end

namespace Instrumenter

variable {ω : Type} [WordSource ω] {i : Instrumenter ω} {select : String → Bool} {m : Module}

/-- The probes of an attempt have identifiers of the generator's width. -/
theorem made_instrument (h : m.admission i.options = .ok ()) {code : List Instruction}
    (hcode : code ∈ m.probes (m.probe i.options) select (i.instrument select m).module) :
    ∃ id method, code = (m.probe i.options).code id method ∧ id.toNat < 2 ^ i.ids.width.bits := by
  obtain ⟨-, -, changed, hmodule, hchanged, hcarries⟩ := instrument_of_admission select h
  obtain ⟨id, hid, hcarried⟩ : ∃ id ∈ (i.ids.take (siteCount (m.chosenBodies select))).1,
      (m.probe i.options).Carries id code := by
    obtain ⟨n, hn, rfl⟩ := List.mem_iff_getElem.mp hcode
    have hlt := hcarries.length_eq ▸ hn
    exact ⟨_, List.getElem_mem hlt, hcarries.get hlt hn⟩
  rw [hmodule, Module.probes, Module.zip_synthesized hchanged] at hcode
  obtain ⟨⟨t, t'⟩, hmem, hcode⟩ := List.mem_flatMap.mp hcode
  obtain ⟨id', method, rfl⟩ := ((List.forall₂_iff_zip.mp hchanged).2 hmem).exists_code hcode
  -- the code carries one identifier, so it is the one that it is made for
  have hsame := ((m.probe i.options).carries_code id' method).identifier.symm.trans
    hcarried.identifier
  obtain rfl := Option.some.inj hsame
  exact ⟨id', method, rfl, Generator.lt_of_mem_take hid⟩

/-- What the probes of an attempt refer to can be reached from the new module. -/
theorem reaches_instrument (h : m.admission i.options = .ok ()) {id : UInt32} {method : String}
    {instruction : Instruction} (hmem : instruction ∈ (m.probe i.options).code id method) :
    (i.instrument select m).module.Reaches instruction := by
  obtain ⟨-, -, changed, hmodule, hchanged, -⟩ := instrument_of_admission select h
  rw [Module.probe_eq h, Module.traceScope] at hmem
  rw [hmodule]
  by_cases hcore : m.isCore = true
  · have hsynthesized : m.synthesized = [TraceType.definition] := if_pos hcore
    rw [if_pos hcore, if_pos hcore] at hmem
    -- the old types have kept their names, and none of these is that of the trace type
    have hnames : ∀ t' ∈ changed, t'.fullName ≠ TraceType.fullName := by
      intro t' ht'
      have hmem' : t'.fullName ∈ m.types.map TypeDef.fullName :=
        TypeDef.Rewritten.map_fullName_eq hchanged ▸ List.mem_map_of_mem ht'
      obtain ⟨t, ht, hname⟩ := List.mem_map.mp hmem'
      exact hname ▸ Module.fullName_ne_of_admission h t ht
    have htrace := Module.type?_trace
      (m := { m.prepare i.options with types := changed ++ m.synthesized }) hnames
      (by rw [hsynthesized])
    exact Module.reaches_of_here htrace (ProbeKind.method?_withoutCall _) hmem
  · rw [if_neg hcore, if_neg hcore] at hmem
    have hreferences : (m.prepare i.options).references
        = m.references ++ [TraceType.assemblyRef] := by
      rw [Module.prepare, if_neg hcore]
    refine Module.reaches_of_assembly ⟨TraceType.assemblyRef, ?_, rfl⟩ hmem
    show TraceType.assemblyRef ∈ (m.prepare i.options).references
    rw [hreferences]
    exact List.mem_append_right _ (List.mem_singleton_self _)

/-- **What an attempt puts into a module is linked to it**, if identifiers have the
width that goes with the options. -/
theorem linked_instrument (hwidth : i.ids.width = i.options.width) {types : List String}
    (hok : (i.instrument select m).result = .ok types) :
    (i.instrument select m).Linked i.options select m := by
  have h := admission_of_ok hok
  have hbits : i.ids.width.bits = if i.options.alternate then 20 else 8 :=
    hwidth ▸ i.options.bits_width
  obtain ⟨-, hinstrumenter, -⟩ := instrument_of_admission select h
  refine ⟨fun code hcode instruction hmem => ?_, fun code hcode => ?_, ?_, fun hcore => ?_, ?_⟩
  · obtain ⟨id, method, rfl, -⟩ := made_instrument h hcode
    exact reaches_instrument h hmem
  · rw [← hbits]
    exact made_instrument h hcode
  · rw [← Probe.discipline_requested, Module.probe_eq h]
    dsimp only
    split
    · exact ProbeKind.discipline_withoutCall _
    · rfl
  · rw [Module.probe_eq h, if_pos hcore, Probe.callback?, ProbeKind.method?_withoutCall]
    rfl
  · rw [hinstrumenter, Generator.width_take]
    exact hbits

/-- An attempt leaves the options and the width of identifiers as they are. -/
theorem width_instrument (i : Instrumenter ω) (select : String → Bool) (m : Module) :
    (i.instrument select m).instrumenter.options = i.options ∧
      (i.instrument select m).instrumenter.ids.width = i.ids.width := by
  rcases h : m.admission i.options with refusal | ⟨⟩
  · rw [instrument_of_admission_error select h]
    exact ⟨rfl, rfl⟩
  · obtain ⟨-, hinstrumenter, -⟩ := instrument_of_admission select h
    rw [hinstrumenter]
    exact ⟨rfl, Generator.width_take _ _⟩

theorem linked_of_mem (hwidth : i.ids.width = i.options.width) {jobs : List Job} {job : Job}
    {a : Attempt ω} (hmem : (job, a) ∈ (i.instrumentAll jobs).1) {types : List String}
    (hok : a.result = .ok types) : a.Linked i.options job.select job.module := by
  induction jobs generalizing i with
  | nil => cases hmem
  | cons first rest ih =>
    obtain ⟨hoptions, hkept⟩ := width_instrument i first.select first.module
    rcases List.mem_cons.mp hmem with heq | hlater
    · cases heq
      exact linked_instrument hwidth hok
    · rw [← hoptions]
      exact ih (by rw [hkept, hoptions, hwidth]) hlater

/-- **All that probes refer to can be reached**, in every module of a run: whichever
modules come before it, whatever is selected, and whatever the options are. -/
theorem linked_of_mem_instrumentAll {options : Options} {jobs : List Job} {job : Job}
    {a : Attempt Identifier.Stream}
    (hmem : (job, a) ∈ ((Instrumenter.fresh options).instrumentAll jobs).1) {types : List String}
    (hok : a.result = .ok types) : a.Linked options job.select job.module :=
  linked_of_mem (i := Instrumenter.fresh options) rfl hmem hok

/-- A core library under the bitset discipline, and a library behind it. -/
theorem portal_linked :
    let body : MethodBody :=
      ⟨1, [], [⟨.ldarg, .argument 0⟩, ⟨.brtrue, .target 3⟩, ⟨.ret, .none⟩, ⟨.throw, .none⟩], []⟩
    let core : Module :=
      { name := "System.Private.CoreLib"
        version := ⟨9, 0, 0, 0⟩
        flags := 1
        references := []
        types := [
          { space := "System", name := "Portal",
            methods := [⟨"Open", "void", ["int"], true, .il, some body⟩] }] }
    let house : Module := { core with name := "Gatehouse" }
    let options : Options := { alternate := true }
    let jobs : List Job := [⟨fun _ => true, core⟩, ⟨fun _ => true, house⟩]
    ∃ a a', ((Instrumenter.fresh options).instrumentAll jobs).1
        = [(⟨fun _ => true, core⟩, a), (⟨fun _ => true, house⟩, a')] ∧
      a.Linked options (fun _ => true) core ∧ a'.Linked options (fun _ => true) house := by
  intro body core house options jobs
  have hcore : core.admission options = .ok () := by decide +kernel
  have hhouse : house.admission options = .ok () := by decide +kernel
  obtain ⟨types, htypes⟩ :=
    (instrument_of_admission_ok (i := Instrumenter.fresh options) (fun _ => true) hcore).1
  have hkept : house.admission
      ((Instrumenter.fresh options).instrument (fun _ => true) core).instrumenter.options
        = .ok () := by
    rw [(width_instrument (Instrumenter.fresh options) (fun _ => true) core).1]
    exact hhouse
  obtain ⟨types', htypes'⟩ := (instrument_of_admission_ok (fun _ => true) hkept).1
  refine ⟨_, _, rfl, ?_, ?_⟩
  · have hmem : (jobs[0], _) ∈ ((Instrumenter.fresh options).instrumentAll jobs).1 :=
      List.mem_cons_self
    exact linked_of_mem_instrumentAll hmem htypes
  · have hmem : (jobs[1], _) ∈ ((Instrumenter.fresh options).instrumentAll jobs).1 :=
      List.mem_cons_of_mem _ List.mem_cons_self
    exact linked_of_mem_instrumentAll hmem htypes'

end Instrumenter

end BranchCoverage
