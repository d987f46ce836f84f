/-
What a walk over the types of a module asks for, draws and makes.

`Draws` gives for a part of a walk the names that it asks for, how many
identifiers it takes, and what holds of these and its result.  It is proved from
the inside out: a body takes an identifier for each site
(`draws_probeBody`), a method and a type only if they are chosen, and one after
another they take what they take in turn (`Draws.bind`).  `instrument_of_admission`
reads the walk over all types for the module.
-/
import BranchCoverage.Proofs.Instrument.Atomicity
import BranchCoverage.Proofs.Instrument.Rewriting

namespace BranchCoverage

open Identifier (Generator WordSource)

namespace Walk

variable {ω : Type} [WordSource ω] {α β : Type}

/-- From every state the walk asks for the names and draws so many identifiers,
and with these it comes to a result with the property. -/
def Draws (x : Walking ω α) (names : List String) (n : Nat) (P : List UInt32 → α → Prop) : Prop :=
  ∀ w, ∃ a w', x w = .ok (a, w') ∧ w'.consulted = names.reverse ++ w.consulted ∧
    w'.ids = (w.ids.take n).2 ∧ P (w.ids.take n).1 a

theorem Draws.pure {P : List UInt32 → α → Prop} {a : α} (h : P [] a) :
    Draws (Pure.pure a : Walking ω α) [] 0 P :=
  fun w => ⟨a, w, rfl, rfl, rfl, h⟩

theorem Draws.bind {x : Walking ω α} {f : α → Walking ω β} {names names' : List String} {m n : Nat}
    {P : List UInt32 → α → Prop} {Q : List UInt32 → β → Prop} (hx : Draws x names m P)
    (hf : ∀ ids a, P ids a → Draws (f a) names' n fun ids' b => Q (ids ++ ids') b) :
    Draws (x >>= f) (names ++ names') (m + n) Q := by
  intro w
  obtain ⟨a, w', hrun, hasked, hids, ha⟩ := hx w
  obtain ⟨b, w'', hrest, hasked', hids', hb⟩ := hf _ a ha w'
  refine ⟨b, w'', ?_, ?_, ?_, ?_⟩
  · show (x w >>= fun p => f p.1 p.2) = _
    rw [hrun]
    exact hrest
  · rw [hasked', hasked, List.reverse_append, List.append_assoc]
  · rw [hids', hids, Generator.take_add]
  · -- what the second part draws follows what the first has drawn
    rw [Generator.take_add, ← hids]
    exact hb

/-- What is done with a result asks for nothing and draws nothing. -/
theorem Draws.bind_pure {x : Walking ω α} {f : α → β} {names : List String} {n : Nat}
    {P : List UInt32 → α → Prop} {Q : List UInt32 → β → Prop} (hx : Draws x names n P)
    (hf : ∀ ids a, P ids a → Q ids (f a)) : Draws (x >>= fun a => Pure.pure (f a)) names n Q := by
  have hboth := hx.bind fun ids a ha => Draws.pure (P := fun ids' b => Q (ids ++ ids') b)
    (a := f a) (by rw [List.append_nil]; exact hf ids a ha)
  rw [List.append_nil] at hboth
  exact hboth

theorem Draws.ask {select : String → Bool} {name : String} {f : Bool → Walking ω β}
    {names : List String} {n : Nat} {P : List UInt32 → β → Prop}
    (h : Draws (f (select name)) names n P) :
    Draws (Walk.ask select name >>= f) (name :: names) n P := by
  intro w
  obtain ⟨b, w', hrun, hasked, hids, hb⟩ := h { w with consulted := name :: w.consulted }
  refine ⟨b, w', hrun, ?_, hids, hb⟩
  rw [hasked, List.reverse_cons, List.append_assoc]
  rfl

section

variable {probe : Probe} {select : String → Bool} {t : TypeDef}

/-- A body draws an identifier for each of its sites. -/
theorem draws_probeBody (type method : String) {b : MethodBody} (hv : b.Valid) :
    Draws (probeBody probe type method b : Walking ω MethodBody) [] b.branchSites.length
      fun ids new => b.Instrumented ω probe method new ∧
        List.Forall₂ probe.Carries ids (b.probes probe new) := by
  intro w
  have hrun : probeBody probe type method b w = .ok (b.probed probe method
      (w.ids.take b.branchSites.length).1,
      { w with
        ids := (w.ids.take b.branchSites.length).2, types := Sorted.insert type w.types }) := by
    rw [probeBody, MethodBody.instrument?_eq_probed hv probe method w.ids]
  refine ⟨_, _, hrun, rfl, rfl, MethodBody.instrumented_probed hv w.ids, ?_⟩
  rw [MethodBody.probes_probed hv (Generator.length_take _ w.ids), List.forall₂_map_right_iff,
    List.forall₂_same]
  exact fun id _ => probe.carries_code id method

/-- A method that is not chosen has no probes in it. -/
theorem probesIn_eq_nil {d new : MethodDef} (h : t.chosenBody? select d = none) :
    t.probesIn probe select d new = [] := by
  rw [TypeDef.probesIn, h]

theorem rewritten_of_eq_none {d : MethodDef} (h : t.chosenBody? select d = none) :
    MethodDef.Rewritten ω probe select t d d where
  chosen b hb := by
    rw [h] at hb
    cases hb
  kept _ := rfl

/-- A method is passed over if it is not chosen. -/
theorem draws_kept {d : MethodDef} (h : t.chosenBody? select d = none) :
    Draws (Pure.pure d : Walking ω MethodDef) [] (siteCount (t.chosenBody? select d).toList)
      fun ids new => MethodDef.Rewritten ω probe select t d new ∧
        List.Forall₂ probe.Carries ids (t.probesIn probe select d new) := by
  rw [h]
  refine .pure ⟨rewritten_of_eq_none h, ?_⟩
  rw [probesIn_eq_nil h]
  exact .nil

/-- A method draws identifiers only if it is chosen. -/
theorem draws_visitMethod (ht : select t.fullName = true) {d : MethodDef} (h : d.Sound) :
    Draws (visitMethod probe select t d : Walking ω MethodDef)
      (if d.hasIlBody then [t.methodName d] else []) (siteCount (t.chosenBody? select d).toList)
      fun ids new => MethodDef.Rewritten ω probe select t d new ∧
        List.Forall₂ probe.Carries ids (t.probesIn probe select d new) := by
  rw [visitMethod]
  rcases hb : d.body with - | b
  · -- a method without a body is passed over
    have hil : ¬ d.hasIlBody = true := by simp [MethodDef.hasIlBody, hb]
    rw [if_neg hil]
    exact draws_kept (if_neg fun hchosen => hil hchosen.2.1)
  · dsimp only
    by_cases hcode : d.codeType = .il
    · have hil : d.hasIlBody = true := by simp [MethodDef.hasIlBody, hb, hcode]
      rw [if_pos hcode, if_pos hil]
      refine .ask ?_
      by_cases hselect : select (t.methodName d) = true
      · have hchosen : t.chosenBody? select d = some b := (if_pos ⟨ht, hil, hselect⟩).trans hb
        rw [if_pos hselect, hchosen]
        refine (draws_probeBody t.fullName (t.methodName d) (h b hb)).bind_pure ?_
        rintro ids new ⟨hnew, hcarries⟩
        refine ⟨⟨fun b' hb' => ?_, fun hnone => ?_⟩, ?_⟩
        · obtain rfl := Option.some.inj (hchosen.symm.trans hb')
          exact ⟨new, rfl, hnew⟩
        · cases hchosen.symm.trans hnone
        · rw [TypeDef.probesIn, hchosen]
          exact hcarries
      · -- asked for, but not selected
        rw [if_neg hselect]
        exact draws_kept (if_neg fun hchosen => hselect hchosen.2.2)
    · -- code of another kind is not even asked for
      have hil : ¬ d.hasIlBody = true := by simp [MethodDef.hasIlBody, hcode]
      rw [if_neg hcode, if_neg hil]
      exact draws_kept (if_neg fun hchosen => hil hchosen.2.1)

theorem draws_visitMethods (ht : select t.fullName = true) {ds : List MethodDef}
    (h : ∀ d ∈ ds, d.Sound) :
    Draws (visitMethods probe select t ds : Walking ω (List MethodDef))
      ((ds.filter MethodDef.hasIlBody).map t.methodName)
      (siteCount (ds.filterMap (t.chosenBody? select)))
      fun ids news => List.Forall₂ (MethodDef.Rewritten ω probe select t) ds news ∧
        List.Forall₂ probe.Carries ids
          ((ds.zip news).flatMap fun (d, new) => t.probesIn probe select d new) := by
  induction ds with
  | nil => exact .pure ⟨.nil, .nil⟩
  | cons d rest ih =>
    obtain ⟨hd, hrest⟩ := List.forall_mem_cons.mp h
    have hnames : ((d :: rest).filter MethodDef.hasIlBody).map t.methodName
        = (if d.hasIlBody then [t.methodName d] else [])
          ++ (rest.filter MethodDef.hasIlBody).map t.methodName := by
      rw [List.filter_cons]
      split <;> rfl
    have hbodies : (d :: rest).filterMap (t.chosenBody? select)
        = (t.chosenBody? select d).toList ++ rest.filterMap (t.chosenBody? select) := by
      rw [List.filterMap_cons]
      cases t.chosenBody? select d <;> rfl
    rw [hnames, hbodies, siteCount_append]
    refine (draws_visitMethod ht hd).bind fun ids new hnew => ?_
    refine (ih hrest).bind_pure fun ids' news hnews => ?_
    exact ⟨.cons hnew.1 hnews.1, List.rel_append hnew.2 hnews.2⟩

/-- A type is passed over if none of its methods is chosen. -/
theorem draws_keptType (h : ∀ d ∈ t.methods, t.chosenBody? select d = none) :
    Draws (Pure.pure t : Walking ω TypeDef) [] (siteCount (t.chosenBodies select))
      fun ids new => TypeDef.Rewritten ω probe select t new ∧
        List.Forall₂ probe.Carries ids (t.probes probe select new) := by
  have hbodies : t.chosenBodies select = [] := List.filterMap_eq_nil_iff.mpr h
  have hprobes : t.probes probe select t = [] :=
    List.flatMap_eq_nil_iff.mpr fun p hp => probesIn_eq_nil (h p.1 (List.of_mem_zip hp).1)
  rw [hbodies]
  refine .pure ⟨⟨t.methods, rfl, ?_⟩, ?_⟩
  · exact List.forall₂_same.mpr fun d hd => rewritten_of_eq_none (h d hd)
  · rw [hprobes]
    exact .nil

/-- A type draws the identifiers of its chosen methods. -/
theorem draws_visitType (htrace : t.fullName ≠ TraceType.fullName) (h : t.Sound) :
    Draws (visitType probe select t : Walking ω TypeDef) (t.asked select)
      (siteCount (t.chosenBodies select))
      fun ids new => TypeDef.Rewritten ω probe select t new ∧
        List.Forall₂ probe.Carries ids (t.probes probe select new) := by
  rw [visitType, TypeDef.asked]
  by_cases hmethods : t.hasMethods = true
  · rw [if_neg (by simp [htrace, hmethods]), if_pos hmethods]
    refine .ask ?_
    by_cases hselect : select t.fullName = true
    · rw [if_pos hselect, if_pos hselect]
      refine (draws_visitMethods hselect h).bind_pure ?_
      rintro ids news ⟨hnews, hcarries⟩
      exact ⟨⟨news, rfl, hnews⟩, hcarries⟩
    · rw [if_neg hselect, if_neg hselect]
      exact draws_keptType fun d _ => if_neg fun hchosen => hselect hchosen.1
  · have hnil : t.methods = [] := by simpa [TypeDef.hasMethods] using hmethods
    rw [if_pos (by simp [hmethods]), if_neg hmethods]
    exact draws_keptType fun d hd => absurd (hnil ▸ hd) List.not_mem_nil

/-- Types with the name of the trace type are passed over. -/
theorem visitTypes_trace {tail : List TypeDef} (h : ∀ t ∈ tail, t.fullName = TraceType.fullName) :
    visitTypes probe select tail = (Pure.pure tail : Walking ω (List TypeDef)) := by
  induction tail with
  | nil => rfl
  | cons t rest ih =>
    obtain ⟨ht, hrest⟩ := List.forall_mem_cons.mp h
    rw [visitTypes, visitType, if_pos (.inl ht), ih hrest]
    rfl

variable (probe select) in
/-- **The walk over the types of a module**: what it asks for and draws, and what
it makes of them.  A trace type behind them is left alone. -/
theorem draws_visitTypes {ts tail : List TypeDef}
    (hts : ∀ t ∈ ts, t.fullName ≠ TraceType.fullName ∧ t.Sound)
    (htail : ∀ t ∈ tail, t.fullName = TraceType.fullName) :
    Draws (visitTypes probe select (ts ++ tail) : Walking ω (List TypeDef))
      (ts.flatMap (TypeDef.asked select))
      (siteCount (ts.flatMap (TypeDef.chosenBodies select)))
      fun ids news => ∃ changed, news = changed ++ tail ∧
        List.Forall₂ (TypeDef.Rewritten ω probe select) ts changed ∧
        List.Forall₂ probe.Carries ids
          ((ts.zip changed).flatMap fun (t, new) => t.probes probe select new) := by
  induction ts with
  | nil =>
    rw [List.nil_append, visitTypes_trace htail]
    exact .pure ⟨[], rfl, .nil, .nil⟩
  | cons t rest ih =>
    obtain ⟨⟨htrace, hsound⟩, hrest⟩ := List.forall_mem_cons.mp hts
    rw [List.flatMap_cons, List.flatMap_cons, siteCount_append]
    refine (draws_visitType htrace hsound).bind fun ids new hnew => ?_
    refine (ih hrest).bind_pure fun ids' news hnews => ?_
    obtain ⟨changed, rfl, hchanged, hcarries⟩ := hnews
    exact ⟨new :: changed, rfl, .cons hnew.1 hchanged, List.rel_append hnew.2 hcarries⟩

end

end Walk

/-! ### Modules -/

/-- A module with the trace type is instrumented. -/
theorem Module.isInstrumented_of_mem {m : Module} {t : TypeDef} (h : t ∈ m.types)
    (hname : t.fullName = TraceType.fullName) : m.isInstrumented = true := by
  rw [Module.isInstrumented, Bool.or_eq_true]
  exact .inl (List.find?_isSome.mpr ⟨t, h, decide_eq_true hname⟩)

/-- An admitted module has no trace type yet. -/
theorem Module.fullName_ne_of_admission {options : Options} {m : Module}
    (h : m.admission options = .ok ()) : ∀ t ∈ m.types, t.fullName ≠ TraceType.fullName := by
  intro t ht heq
  rw [Module.admission, if_pos (Module.isInstrumented_of_mem ht heq)] at h
  cases h

theorem Module.types_prepare (options : Options) (m : Module) :
    (m.prepare options).types = m.types ++ m.synthesized := by
  rw [prepare, synthesized]
  split
  · rfl
  · exact (List.append_nil _).symm

theorem Module.fullName_of_mem_synthesized {m : Module} :
    ∀ t ∈ m.synthesized, t.fullName = TraceType.fullName := by
  intro t ht
  rw [synthesized] at ht
  split at ht
  · rw [List.mem_singleton.mp ht]
    rfl
  · cases ht

/-- The synthesized type has no counterpart among the old ones. -/
theorem Module.zip_synthesized {m : Module} {R : TypeDef → TypeDef → Prop} {changed : List TypeDef}
    (h : List.Forall₂ R m.types changed) :
    m.types.zip (changed ++ m.synthesized) = m.types.zip changed := by
  conv => lhs; rw [← List.append_nil m.types]
  rw [List.zip_append h.length_eq, List.zip_nil_left, List.append_nil]

namespace Instrumenter

variable {ω : Type} [WordSource ω] {i : Instrumenter ω} {m : Module}

/-- What becomes of an admitted module. -/
theorem instrument_of_admission (select : String → Bool) (h : m.admission i.options = .ok ()) :
    let a := i.instrument select m
    let n := siteCount (m.chosenBodies select)
    a.consulted = m.asked select ∧ a.instrumenter = { i with ids := (i.ids.take n).2 } ∧
      ∃ changed, a.module = { m.prepare i.options with types := changed ++ m.synthesized } ∧
        List.Forall₂ (TypeDef.Rewritten ω (m.probe i.options) select) m.types changed ∧
        List.Forall₂ (m.probe i.options).Carries (i.ids.take n).1
          (m.probes (m.probe i.options) select a.module) := by
  have hsound := Module.check_eq_ok_iff.mp (Module.check_of_admission h)
  have htrace := Module.fullName_ne_of_admission h
  obtain ⟨_, walk, hrun, hasked, hids, changed, rfl, hchanged, hcarries⟩ :=
    Walk.draws_visitTypes (m.probe i.options) select (fun t ht => ⟨htrace t ht, hsound t ht⟩)
      Module.fullName_of_mem_synthesized { ids := i.ids }
  rw [← Module.types_prepare i.options] at hrun
  have hattempt : ∃ result log, i.instrument select m
      = ⟨result, { m.prepare i.options with types := changed ++ m.synthesized },
          { i with ids := walk.ids }, walk.consulted.reverse, log⟩ := by
    rw [Module.probe] at hrun
    rw [instrument, h]
    dsimp only
    rw [hrun]
    exact ⟨_, _, rfl⟩
  obtain ⟨result, log, hattempt⟩ := hattempt
  rw [hattempt]
  refine ⟨?_, ?_, changed, rfl, hchanged, ?_⟩
  · show walk.consulted.reverse = _
    rw [hasked, List.append_nil, List.reverse_reverse]
    rfl
  · rw [hids]
    rfl
  · rw [Module.probes, Module.zip_synthesized hchanged]
    exact hcarries

end Instrumenter

end BranchCoverage
