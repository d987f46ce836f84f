/-
The walk over the types of a module cannot fail on valid bodies.

`Gives` says that a part of a walk comes to a result from every state, and what
holds of the result.  What holds all the way is that bodies are valid (`Sound`):
a valid body gets its probes and is valid again, every other part of a walk
keeps the bodies it meets.
-/
import BranchCoverage.Instrument
import BranchCoverage.Proofs.Insertion.Layout
import BranchCoverage.Proofs.Identifier.Generator

namespace BranchCoverage

open Identifier (Generator WordSource)

/-- The body of the method is valid, if it has any. -/
def MethodDef.Sound (d : MethodDef) : Prop :=
  ∀ b, d.body = some b → b.Valid

/-- All bodies of the type are valid. -/
def TypeDef.Sound (t : TypeDef) : Prop :=
  ∀ d ∈ t.methods, d.Sound

/-- A module passes validation exactly when all of its types are sound. -/
theorem Module.validate_eq_ok_iff_sound {m : Module} :
    m.validate = .ok () ↔ ∀ t ∈ m.types, t.Sound := by
  rw [validate_eq_ok_iff]
  constructor
  · intro h t ht d hd b hb
    exact h (t.methodName d, b) (mem_bodies.mpr ⟨t, ht, d, hd, hb, rfl⟩)
  · rintro h ⟨name, b⟩ hmem
    obtain ⟨t, ht, d, hd, hb, -⟩ := mem_bodies.mp hmem
    exact h t ht d hd b hb

namespace Walk

variable {ω : Type} {α β : Type}

/-- From every state the walk comes to a result with the property. -/
def Gives (x : Walking ω α) (P : α → Prop) : Prop :=
  ∀ w, ∃ a w', x w = .ok (a, w') ∧ P a

theorem Gives.pure {P : α → Prop} {a : α} (h : P a) : Gives (Pure.pure a : Walking ω α) P :=
  fun w => ⟨a, w, rfl, h⟩

theorem Gives.bind {P : α → Prop} {Q : β → Prop} {x : Walking ω α} {f : α → Walking ω β}
    (hx : Gives x P) (hf : ∀ a, P a → Gives (f a) Q) : Gives (x >>= f) Q := by
  intro w
  obtain ⟨a, w', hrun, ha⟩ := hx w
  obtain ⟨b, w'', hrest, hb⟩ := hf a ha w'
  refine ⟨b, w'', ?_, hb⟩
  show (x w >>= fun p => f p.1 p.2) = _
  rw [hrun]
  exact hrest

theorem gives_ask (select : String → Bool) (name : String) :
    Gives (ask select name : Walking ω Bool) fun _ => True :=
  fun _ => ⟨_, _, rfl, trivial⟩

section

variable [WordSource ω] (probe : Probe) (select : String → Bool)

/-- A valid body gets its probes, and is valid with them. -/
theorem gives_probeBody (type method : String) {b : MethodBody} (hv : b.Valid) :
    Gives (probeBody probe type method b : Walking ω MethodBody) MethodBody.Valid := by
  intro w
  have hlen := Generator.length_take b.branchSites.length w.ids
  have hprobed : (b.probed probe method (w.ids.take b.branchSites.length).1).Valid :=
    .probed hlen hv
  have hrun : probeBody probe type method b w = .ok (b.probed probe method
      (w.ids.take b.branchSites.length).1,
      { w with
        ids := (w.ids.take b.branchSites.length).2, types := Sorted.insert type w.types }) := by
    rw [probeBody, MethodBody.instrument?_eq_probed hv probe method w.ids]
  exact ⟨_, _, hrun, hprobed⟩

theorem gives_visitMethod (t : TypeDef) {d : MethodDef} (h : d.Sound) :
    Gives (visitMethod probe select t d : Walking ω MethodDef) MethodDef.Sound := by
  rw [visitMethod]
  rcases hb : d.body with - | b
  · -- a method without a body is passed over
    exact .pure h
  · dsimp only
    split
    · refine (gives_ask select _).bind fun chosen _ => ?_
      split
      · refine (gives_probeBody probe _ _ (h b hb)).bind fun new hnew => .pure ?_
        intro b' hb'
        obtain rfl : new = b' := Option.some.inj hb'
        exact hnew
      · exact .pure h
    · exact .pure h

theorem gives_visitMethods (t : TypeDef) {ds : List MethodDef} (h : ∀ d ∈ ds, d.Sound) :
    Gives (visitMethods probe select t ds : Walking ω (List MethodDef))
      fun ds => ∀ d ∈ ds, d.Sound := by
  induction ds with
  | nil => exact .pure h
  | cons d rest ih =>
    obtain ⟨hd, hrest⟩ := List.forall_mem_cons.mp h
    refine (gives_visitMethod probe select t hd).bind fun d' hd' => ?_
    exact (ih hrest).bind fun rest' hrest' => .pure (List.forall_mem_cons.mpr ⟨hd', hrest'⟩)

theorem gives_visitType {t : TypeDef} (h : t.Sound) :
    Gives (visitType probe select t : Walking ω TypeDef) TypeDef.Sound := by
  rw [visitType]
  split
  · exact .pure h
  · refine (gives_ask select _).bind fun chosen _ => ?_
    split
    · exact (gives_visitMethods probe select t h).bind fun ds hds => .pure hds
    · exact .pure h

/-- **The walk over sound types comes to an end**, and leaves sound types. -/
theorem gives_visitTypes {ts : List TypeDef} (h : ∀ t ∈ ts, t.Sound) :
    Gives (visitTypes probe select ts : Walking ω (List TypeDef))
      fun ts => ∀ t ∈ ts, t.Sound := by
  induction ts with
  | nil => exact .pure h
  | cons t rest ih =>
    obtain ⟨ht, hrest⟩ := List.forall_mem_cons.mp h
    refine (gives_visitType probe select ht).bind fun t' ht' => ?_
    exact (ih hrest).bind fun rest' hrest' => .pure (List.forall_mem_cons.mpr ⟨ht', hrest'⟩)

end

end Walk

end BranchCoverage
