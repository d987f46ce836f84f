/-
Which types an attempt reports.

The walk notes a type when it comes to a body that is chosen, before it is known
how many probes that body gets.  `Notes` says of a part of a walk which names it
adds to those of the types with probes; from methods over types to the module
this gives the types with a chosen body (`reported_iff`).  A body gets a probe
for each of its sites, and it has none just if it has no instructions.  So the
reported types are those that got a probe and those with a chosen body that has
nothing in it (`reports_instrument`), and the second kind is what an attempt
reports wrongly (`lintel_misreported`).
-/
import BranchCoverage.Proofs.Instrument.Draws

namespace BranchCoverage

open Identifier (Generator WordSource)

/-! ### What a walk notes -/

namespace Walk

variable {ω : Type} {α β : Type}

/-- Where the walk comes to a result, it has added the names with the property
to those of the types with probes, and these are in ascending order if they were
before. -/
def Notes (x : Walking ω α) (P : String → Prop) : Prop :=
  ∀ w a w', x w = .ok (a, w') → (w.types.Pairwise (· < ·) → w'.types.Pairwise (· < ·)) ∧
    ∀ name, name ∈ w'.types ↔ name ∈ w.types ∨ P name

theorem Notes.imp {x : Walking ω α} {P Q : String → Prop} (h : Notes x P)
    (hiff : ∀ name, P name ↔ Q name) : Notes x Q := by
  intro w a w' hrun
  obtain ⟨hpairwise, hmem⟩ := h w a w' hrun
  exact ⟨hpairwise, fun name => by rw [hmem, hiff]⟩

theorem Notes.pure {a : α} : Notes (Pure.pure a : Walking ω α) fun _ => False := by
  intro w a' w' hrun
  cases hrun
  exact ⟨id, fun name => (or_iff_left id).symm⟩

theorem Notes.bind {x : Walking ω α} {f : α → Walking ω β} {P Q : String → Prop} (hx : Notes x P)
    (hf : ∀ a, Notes (f a) Q) : Notes (x >>= f) fun name => P name ∨ Q name := by
  intro w b w'' hrun
  replace hrun : (x w >>= fun p => f p.1 p.2) = .ok (b, w'') := hrun
  rcases hfirst : x w with refusal | ⟨a, w'⟩
  · rw [hfirst] at hrun
    cases hrun
  · rw [hfirst] at hrun
    obtain ⟨hpairwise, hmem⟩ := hx w a w' hfirst
    obtain ⟨hpairwise', hmem'⟩ := hf a w' b w'' hrun
    exact ⟨fun h => hpairwise' (hpairwise h), fun name => by rw [hmem', hmem, or_assoc]⟩

/-- What is done with a result notes nothing. -/
theorem Notes.bind_pure {x : Walking ω α} {f : α → β} {P : String → Prop} (hx : Notes x P) :
    Notes (x >>= fun a => Pure.pure (f a)) P :=
  (hx.bind fun _ => .pure).imp fun _ => or_iff_left id

/-- Asking notes nothing. -/
theorem Notes.ask {select : String → Bool} {name : String} {f : Bool → Walking ω β}
    {P : String → Prop} (h : Notes (f (select name)) P) :
    Notes (Walk.ask select name >>= f) P :=
  fun w b w' hrun => h { w with consulted := name :: w.consulted } b w' hrun

variable [WordSource ω] {probe : Probe} {select : String → Bool} {t : TypeDef}

/-- A body is noted with its type, whatever becomes of it. -/
theorem notes_probeBody (type method : String) (b : MethodBody) :
    Notes (probeBody probe type method b : Walking ω MethodBody) (· = type) := by
  intro w body w' hrun
  rw [probeBody] at hrun
  split at hrun
  · cases hrun
    refine ⟨fun h => Sorted.pairwise_insert h, fun name => ?_⟩
    rw [Sorted.mem_insert]
    exact or_comm
  · cases hrun

theorem notes_visitMethod (ht : select t.fullName = true) (d : MethodDef) :
    Notes (visitMethod probe select t d : Walking ω MethodDef)
      fun name => t.fullName = name ∧ ∃ b, t.chosenBody? select d = some b := by
  -- where a method is passed over, it must be seen that it is not chosen
  have hkept (h : ¬ (d.hasIlBody = true ∧ select (t.methodName d) = true)) :
      Notes (Pure.pure d : Walking ω MethodDef)
        fun name => t.fullName = name ∧ ∃ b, t.chosenBody? select d = some b := by
    have hnone : t.chosenBody? select d = none := if_neg fun hchosen => h hchosen.2
    refine Notes.pure.imp fun name => ?_
    simp [hnone]
  rw [visitMethod]
  rcases hb : d.body with - | b
  · exact hkept fun h => by simp [MethodDef.hasIlBody, hb] at h
  · dsimp only
    by_cases hcode : d.codeType = .il
    · have hil : d.hasIlBody = true := by simp [MethodDef.hasIlBody, hb, hcode]
      rw [if_pos hcode]
      refine .ask ?_
      by_cases hselect : select (t.methodName d) = true
      · have hchosen : t.chosenBody? select d = some b := (if_pos ⟨ht, hil, hselect⟩).trans hb
        rw [if_pos hselect]
        refine (notes_probeBody t.fullName (t.methodName d) b).bind_pure.imp fun name => ?_
        simp [hchosen, eq_comm]
      · rw [if_neg hselect]
        exact hkept fun h => hselect h.2
    · rw [if_neg hcode]
      exact hkept fun h => hcode (by simpa [MethodDef.hasIlBody, hb] using h.1)

theorem notes_visitMethods (ht : select t.fullName = true) (ds : List MethodDef) :
    Notes (visitMethods probe select t ds : Walking ω (List MethodDef))
      fun name => t.fullName = name ∧ ∃ b, b ∈ ds.filterMap (t.chosenBody? select) := by
  induction ds with
  | nil => exact Notes.pure.imp fun name => by simp
  | cons d rest ih =>
    refine ((notes_visitMethod ht d).bind fun _ => ih.bind_pure).imp fun name => ?_
    simp only [List.mem_filterMap, List.mem_cons, ← and_or_left, or_and_right, exists_eq_left,
      exists_or]

theorem notes_visitType (htrace : t.fullName ≠ TraceType.fullName) :
    Notes (visitType probe select t : Walking ω TypeDef)
      fun name => t.fullName = name ∧ ∃ b, b ∈ t.chosenBodies select := by
  rw [visitType]
  by_cases hmethods : t.hasMethods = true
  · rw [if_neg (by simp [htrace, hmethods])]
    refine .ask ?_
    by_cases hselect : select t.fullName = true
    · rw [if_pos hselect]
      exact (notes_visitMethods hselect t.methods).bind_pure
    · rw [if_neg hselect]
      refine Notes.pure.imp fun name => ?_
      simp [TypeDef.chosenBodies, TypeDef.chosenBody?, hselect]
  · have hnil : t.methods = [] := by simpa [TypeDef.hasMethods] using hmethods
    rw [if_pos (by simp [hmethods])]
    refine Notes.pure.imp fun name => ?_
    simp [TypeDef.chosenBodies, hnil]

/-- **The walk over the types of a module** notes those with a chosen body.  A
trace type behind them is not noted. -/
theorem notes_visitTypes {ts tail : List TypeDef}
    (hts : ∀ t ∈ ts, t.fullName ≠ TraceType.fullName)
    (htail : ∀ t ∈ tail, t.fullName = TraceType.fullName) :
    Notes (visitTypes probe select (ts ++ tail) : Walking ω (List TypeDef))
      fun name => ∃ t ∈ ts, t.fullName = name ∧ ∃ b, b ∈ t.chosenBodies select := by
  induction ts with
  | nil =>
    rw [List.nil_append, visitTypes_trace htail]
    exact Notes.pure.imp fun name => by simp
  | cons t rest ih =>
    obtain ⟨ht, hrest⟩ := List.forall_mem_cons.mp hts
    refine ((notes_visitType ht).bind fun _ => (ih hrest).bind_pure).imp fun name => ?_
    rw [List.exists_mem_cons_iff]

end Walk

/-! ### Probes that were inserted -/

section

variable (ω : Type) [WordSource ω] (probe : Probe)

/-- The method of the type has got probes: its new body is the old one with probes
in it, at least one of them. -/
def MethodDef.Probed (t : TypeDef) (d new : MethodDef) : Prop :=
  ∃ b body, d.body = some b ∧ new.body = some body ∧
    b.Instrumented ω probe (t.methodName d) body ∧ b.probes probe body ≠ []

/-- A type of that name has got probes in one of its methods. -/
def Module.Probed (m new : Module) (name : String) : Prop :=
  ∃ p ∈ m.types.zip new.types, p.1.fullName = name ∧
    ∃ q ∈ p.1.methods.zip p.2.methods, q.1.Probed ω probe p.1 q.2

end

section

variable {ω : Type} [WordSource ω] {probe : Probe} {select : String → Bool} {t : TypeDef}

theorem MethodBody.probes_eq_nil_iff {b new : MethodBody} :
    b.probes probe new = [] ↔ b.instructions = [] := by
  rw [MethodBody.probes, List.map_eq_nil_iff, MethodBody.branchSites_eq_nil_iff]

/-- A method that is as it was has got no probes: a body grows by what is put
into it. -/
theorem MethodDef.not_probed_self {d : MethodDef} (h : d.Sound) : ¬ d.Probed ω probe t d := by
  rintro ⟨b, body, hb, hbody, hinstrumented, hprobes⟩
  obtain rfl := Option.some.inj (hb.symm.trans hbody)
  obtain ⟨g, g', hmade⟩ := hinstrumented.made
  rw [MethodBody.instrument?_eq_probed (h b hb)] at hmade
  have hsame :
      (b.probed probe (t.methodName d) (g.take b.branchSites.length).1).length = b.length :=
    congrArg MethodBody.length (Prod.ext_iff.mp (Option.some.inj hmade)).1
  rw [MethodBody.length_probed (Generator.length_take _ g), MethodBody.entryOf, MethodBody.entry,
    MethodBody.countP_branchSites (h b hb)] at hsame
  have hsites : b.branchSites ≠ [] := fun hnil => hprobes (by rw [MethodBody.probes, hnil]; rfl)
  have hgrown := Nat.mul_pos probe.length_pos (List.length_pos_iff.mpr hsites)
  omega

/-- A method gets probes if its body is chosen and has instructions. -/
theorem MethodDef.Rewritten.probed_iff {d new : MethodDef} (h : d.Sound)
    (hnew : d.Rewritten ω probe select t new) :
    d.Probed ω probe t new ↔ ∃ b, t.chosenBody? select d = some b ∧ b.instructions ≠ [] := by
  rcases hchosen : t.chosenBody? select d with - | b
  · obtain rfl := hnew.kept hchosen
    exact iff_of_false (MethodDef.not_probed_self h) (by simp)
  · obtain ⟨body, rfl, hinstrumented⟩ := hnew.chosen b hchosen
    have hb : d.body = some b := by
      rw [TypeDef.chosenBody?] at hchosen
      split at hchosen
      · exact hchosen
      · cases hchosen
    constructor
    · rintro ⟨b', body', hb', -, -, hprobes⟩
      obtain rfl := Option.some.inj (hb.symm.trans hb')
      exact ⟨b, rfl, fun hnil => hprobes (MethodBody.probes_eq_nil_iff.mpr hnil)⟩
    · rintro ⟨b', hb', hne⟩
      obtain rfl := Option.some.inj hb'
      exact ⟨b, body, hb, rfl, hinstrumented,
        fun hnil => hne (MethodBody.probes_eq_nil_iff.mp hnil)⟩

/-- Every element of a list has a partner in a list that is related to it. -/
theorem exists_mem_zip {α β : Type} {R : α → β → Prop} {xs : List α} {ys : List β}
    (h : List.Forall₂ R xs ys) {x : α} (hx : x ∈ xs) : ∃ y, (x, y) ∈ xs.zip ys := by
  rw [← List.map_fst_zip (Nat.le_of_eq h.length_eq)] at hx
  obtain ⟨⟨x', y⟩, hmem, rfl⟩ := List.mem_map.mp hx
  exact ⟨y, hmem⟩

/-- A type gets probes if one of its chosen bodies has instructions. -/
theorem TypeDef.Rewritten.probed_iff {new : TypeDef} (h : t.Sound)
    (hnew : t.Rewritten ω probe select new) :
    (∃ q ∈ t.methods.zip new.methods, q.1.Probed ω probe t q.2) ↔
      ∃ b ∈ t.chosenBodies select, b.instructions ≠ [] := by
  obtain ⟨methods, rfl, hmethods⟩ := hnew
  have hrewritten : ∀ {d d'}, (d, d') ∈ t.methods.zip methods → d.Rewritten ω probe select t d' :=
    (List.forall₂_iff_zip.mp hmethods).2
  constructor
  · rintro ⟨⟨d, d'⟩, hmem, hprobed⟩
    have hd := (List.of_mem_zip hmem).1
    obtain ⟨b, hb, hne⟩ := ((hrewritten hmem).probed_iff (h d hd)).mp hprobed
    exact ⟨b, List.mem_filterMap.mpr ⟨d, hd, hb⟩, hne⟩
  · rintro ⟨b, hmem, hne⟩
    obtain ⟨d, hd, hb⟩ := List.mem_filterMap.mp hmem
    obtain ⟨d', hmem'⟩ := exists_mem_zip hmethods hd
    exact ⟨(d, d'), hmem', ((hrewritten hmem').probed_iff (h d hd)).mpr ⟨b, hb, hne⟩⟩

end

/-! ### Reports -/

/-- Which names an attempt has reported. -/
structure Attempt.Reports {ω : Type} [WordSource ω] (options : Options) (select : String → Bool)
    (m : Module) (a : Attempt ω) (types : List String) : Prop where
  /-- Each name is reported once, in the order of names. -/
  ascending : types.Pairwise (· < ·)
  /-- A type is reported for its probes, or for a chosen body without instructions,
  which gets none. -/
  mem_iff : ∀ name, name ∈ types ↔ m.Probed ω (m.probe options) a.module name ∨
    ∃ t ∈ m.types, t.fullName = name ∧ ∃ b ∈ t.chosenBodies select, b.instructions = []
  /-- So the reported names are those of the types with probes just if every type
  with such a body shares its name with one that has probes. -/
  exact_iff : (∀ name, name ∈ types ↔ m.Probed ω (m.probe options) a.module name) ↔
    ∀ t ∈ m.types, (∃ b ∈ t.chosenBodies select, b.instructions = []) →
      m.Probed ω (m.probe options) a.module t.fullName

namespace Instrumenter

variable {ω : Type} [WordSource ω] {i : Instrumenter ω} {select : String → Bool} {m : Module}
  {types : List String}

/-- The reported names are those of the types with a chosen body. -/
theorem reported_iff (h : (i.instrument select m).result = .ok types) :
    types.Pairwise (· < ·) ∧
      ∀ name, name ∈ types ↔ ∃ t ∈ m.types, t.fullName = name ∧ ∃ b, b ∈ t.chosenBodies select := by
  have hadmission := admission_of_ok h
  rw [instrument, hadmission] at h
  dsimp only at h
  split at h
  · cases h
  · next news walk hrun =>
    dsimp only at h
    split at h
    · obtain rfl := Except.ok.inj h
      rw [Module.types_prepare] at hrun
      obtain ⟨hpairwise, hmem⟩ := Walk.notes_visitTypes (Module.fullName_ne_of_admission hadmission)
        (Module.fullName_of_mem_synthesized (m := m)) _ _ _ hrun
      exact ⟨hpairwise .nil, fun name => (hmem name).trans (or_iff_right List.not_mem_nil)⟩
    · cases h

/-- The names with probes are those of the types with a chosen body that is not
empty. -/
theorem probed_iff (h : (i.instrument select m).result = .ok types) {name : String} :
    m.Probed ω (m.probe i.options) (i.instrument select m).module name ↔
      ∃ t ∈ m.types, t.fullName = name ∧ ∃ b ∈ t.chosenBodies select, b.instructions ≠ [] := by
  have hadmission := admission_of_ok h
  have hsound := Module.check_eq_ok_iff.mp (Module.check_of_admission hadmission)
  obtain ⟨-, -, changed, hmodule, hchanged, -⟩ := instrument_of_admission select hadmission
  have hrewritten : ∀ {t t'}, (t, t') ∈ m.types.zip changed →
      t.Rewritten ω (m.probe i.options) select t' := (List.forall₂_iff_zip.mp hchanged).2
  rw [hmodule, Module.Probed, Module.zip_synthesized hchanged]
  constructor
  · rintro ⟨⟨t, t'⟩, hmem, hname, hprobed⟩
    have ht := (List.of_mem_zip hmem).1
    exact ⟨t, ht, hname, ((hrewritten hmem).probed_iff (hsound t ht)).mp hprobed⟩
  · rintro ⟨t, ht, hname, hbodies⟩
    obtain ⟨t', hmem⟩ := exists_mem_zip hchanged ht
    exact ⟨(t, t'), hmem, hname, ((hrewritten hmem).probed_iff (hsound t ht)).mpr hbodies⟩

/-- Every chosen body counts, whether or not it has instructions. -/
theorem mem_types_iff (h : (i.instrument select m).result = .ok types) (name : String) :
    name ∈ types ↔ m.Probed ω (m.probe i.options) (i.instrument select m).module name ∨
      ∃ t ∈ m.types, t.fullName = name ∧ ∃ b ∈ t.chosenBodies select, b.instructions = [] := by
  rw [(reported_iff h).2, probed_iff h]
  constructor
  · rintro ⟨t, ht, hname, b, hb⟩
    by_cases hnil : b.instructions = []
    · exact .inr ⟨t, ht, hname, b, hb, hnil⟩
    · exact .inl ⟨t, ht, hname, b, hb, hnil⟩
  · rintro (⟨t, ht, hname, b, hb, -⟩ | ⟨t, ht, hname, b, hb, -⟩)
    · exact ⟨t, ht, hname, b, hb⟩
    · exact ⟨t, ht, hname, b, hb⟩

/-- **An attempt reports the types with probes**, and besides them those with a
chosen body in which there was nothing to put a probe in front of. -/
theorem reports_instrument (h : (i.instrument select m).result = .ok types) :
    (i.instrument select m).Reports i.options select m types where
  ascending := (reported_iff h).1
  mem_iff := mem_types_iff h
  exact_iff := by
    constructor
    · intro hexact t ht hempty
      exact (hexact t.fullName).mp ((mem_types_iff h _).mpr (.inr ⟨t, ht, rfl, hempty⟩))
    · intro hshared name
      refine ⟨fun hname => ?_, fun hprobed => (mem_types_iff h name).mpr (.inl hprobed)⟩
      rcases (mem_types_iff h name).mp hname with hprobed | ⟨t, ht, rfl, hempty⟩
      · exact hprobed
      · exact hshared t ht hempty

/-- Two types of one name, one of them with an empty body only. -/
theorem threshold_reports :
    let body : MethodBody :=
      ⟨1, [], [⟨.ldarg, .argument 0⟩, ⟨.brtrue, .target 3⟩, ⟨.ret, .none⟩, ⟨.throw, .none⟩], []⟩
    let m : Module :=
      { name := "Gates"
        version := ⟨1, 0, 0, 0⟩
        flags := 1
        references := []
        types := [
          { space := "Gates", name := "Threshold",
            methods := [⟨"Lie", "void", [], true, .il, some ⟨0, [], [], []⟩⟩] },
          { space := "Gates", name := "Threshold",
            methods := [⟨"Cross", "void", ["int"], true, .il, some body⟩] },
          { space := "Gates", name := "Hinge",
            methods := [⟨"Turn", "void", [], true, .native, none⟩] }] }
    let i := Instrumenter.fresh {}
    ∃ types, (i.instrument (fun _ => true) m).result = .ok types ∧
      (i.instrument (fun _ => true) m).Reports i.options (fun _ => true) m types := by
  intro body m i
  have hadmission : m.admission i.options = .ok () := by decide +kernel
  obtain ⟨types, htypes⟩ := (instrument_of_admission_ok (fun _ => true) hadmission).1
  exact ⟨types, htypes, reports_instrument htypes⟩

/-- A type whose only body is empty is reported and has no probes. -/
theorem lintel_misreported :
    let m : Module :=
      { name := "Gates"
        version := ⟨1, 0, 0, 0⟩
        flags := 1
        references := []
        types := [
          { space := "Gates", name := "Lintel",
            methods := [⟨"Rest", "void", [], true, .il, some ⟨0, [], [], []⟩⟩] }] }
    let i := Instrumenter.fresh {}
    let a := i.instrument (fun _ => true) m
    ∃ types, a.result = .ok types ∧
      ¬ ∀ name, name ∈ types ↔ m.Probed Identifier.Stream (m.probe i.options) a.module name := by
  intro m i a
  have hadmission : m.admission i.options = .ok () := by decide +kernel
  obtain ⟨types, htypes⟩ := (instrument_of_admission_ok (fun _ => true) hadmission).1
  refine ⟨types, htypes, fun hexact => ?_⟩
  have hreported : "Gates.Lintel" ∈ types :=
    ((reported_iff htypes).2 _).mpr
      ⟨_, List.mem_singleton_self _, rfl, _, List.mem_singleton_self _⟩
  obtain ⟨t, ht, -, b, hb, hne⟩ := (probed_iff htypes).mp ((hexact _).mp hreported)
  obtain rfl := List.mem_singleton.mp ht
  obtain rfl := List.mem_singleton.mp hb
  exact hne rfl

end Instrumenter

end BranchCoverage
