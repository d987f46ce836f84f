/-
Protected regions keep what is in them.

A handler has up to three regions: the code that it protects, its own, and that
of its filter.  Each is a `Stretch` of the body, with the index behind its last
instruction for its end.  All indices move by the one map `entry`, which is
strictly monotone (`strictMono_entry`), so how two stretches lie to each other
is the same before and after (`Stretch.inside_map_iff`, `apart_map_iff`,
`meets_map_iff`).  And every new index is in the moved stretch exactly if the
instruction it stands for was in the old one (`Stretch.holds_map_iff`): a probe
is on the same side of every boundary as its site.
-/
import Mathlib.Order.Monotone.Basic
import BranchCoverage.Proofs.Insertion.Layout
import BranchCoverage.Proofs.Identifier.Generator

namespace BranchCoverage

open Identifier (Generator WordSource)

/-! ### Stretches -/

/-- The indices from `first` up to `past`, which is not one of them. -/
structure Stretch where
  first : Nat
  past : Nat
  deriving DecidableEq

namespace Stretch

/-- The index is in the stretch. -/
def Holds (s : Stretch) (index : Nat) : Prop :=
  s.first ≤ index ∧ index < s.past

/-- The stretch is nested in another one. -/
def Inside (s t : Stretch) : Prop :=
  t.first ≤ s.first ∧ s.past ≤ t.past

/-- One stretch ends before the other begins, or where it does. -/
def Apart (s t : Stretch) : Prop :=
  s.past ≤ t.first ∨ t.past ≤ s.first

/-- The second stretch begins where the first one ends. -/
def Meets (s t : Stretch) : Prop :=
  s.past = t.first

/-- The stretch between the images of its ends. -/
def map (f : Nat → Nat) (s : Stretch) : Stretch :=
  ⟨f s.first, f s.past⟩

variable {f : Nat → Nat} (hf : StrictMono f) (s t : Stretch)

include hf

theorem inside_map_iff : (s.map f).Inside (t.map f) ↔ s.Inside t :=
  and_congr hf.le_iff_le hf.le_iff_le

theorem apart_map_iff : (s.map f).Apart (t.map f) ↔ s.Apart t :=
  or_congr hf.le_iff_le hf.le_iff_le

theorem meets_map_iff : (s.map f).Meets (t.map f) ↔ s.Meets t :=
  hf.injective.eq_iff

end Stretch

/-! ### The regions of a handler -/

/-- The regions that a handler may have. -/
inductive Region where
  /-- What it protects. -/
  | guarded
  /-- Its own code. -/
  | handler
  /-- The code of its filter, which reaches up to its own. -/
  | filter
  deriving DecidableEq

/-- The stretch of a region; a handler without a filter has no region for it. -/
def ExceptionHandler.stretch? (h : ExceptionHandler) : Region → Option Stretch
  | .guarded => some ⟨h.tryStart, h.tryEnd⟩
  | .handler => some ⟨h.handlerStart, h.handlerEnd⟩
  | .filter => h.filterStart.map (⟨·, h.handlerStart⟩)

theorem ExceptionHandler.stretch?_reindex (f : Nat → Nat) (h : ExceptionHandler) (r : Region) :
    (h.reindex f).stretch? r = (h.stretch? r).map (Stretch.map f) := by
  obtain ⟨kind, tryStart, tryEnd, handlerStart, handlerEnd, filterStart⟩ := h
  cases r with
  | guarded => rfl
  | handler => rfl
  | filter => cases filterStart <;> rfl

namespace MethodBody

/-- A region of a handler, by the number of the handler. -/
def stretch? (b : MethodBody) (n : Nat) (r : Region) : Option Stretch :=
  b.handlers[n]?.bind (·.stretch? r)

theorem strictMono_entry (sites : List Nat) (gap : Nat) : StrictMono (entry sites gap) :=
  fun _ _ h => entry_lt_entry sites gap h

/-- A stretch holds what stands for an instruction exactly if it held the
instruction. -/
theorem Within.holds_map_iff {sites : List Nat} {gap i k : Nat} (hw : Within sites gap i k)
    (s : Stretch) : (s.map (entry sites gap)).Holds k ↔ s.Holds i :=
  and_congr hw.entry_le_iff hw.lt_entry_iff

/-! ### Bodies with probes -/

/-- A stretch of the new body holds the instructions that one of the old body
held, and the probes in front of these. -/
structure Carries (probe : Probe) (old : MethodBody) (s s' : Stretch) : Prop where
  instruction : ∀ i, s'.Holds (old.homeOf probe i) ↔ s.Holds i
  /-- All of the probe of a site is on the same side as the site. -/
  site : ∀ i, old.IsSite i → ∀ k, old.entryOf probe i ≤ k → k < old.homeOf probe i →
    (s'.Holds k ↔ s.Holds i)

/-- The body `new`, with probes at the sites of `old`, has the handlers of `old`
with the same in their regions. -/
structure KeepsRegions (probe : Probe) (method : String) (old new : MethodBody) : Prop where
  /-- The instructions of the old body stand at their `homeOf`. -/
  instruction : ∀ i, new.instructions[old.homeOf probe i]?
    = old.instructions[i]?.map (Instruction.retarget (old.entryOf probe))
  /-- In front of a site, from its `entryOf`, stands its probe. -/
  site : ∀ i, old.IsSite i → old.entryOf probe i < old.homeOf probe i ∧ ∃ id,
    new.instructions.extract (old.entryOf probe i) (old.homeOf probe i) = probe.code id method
  /-- The handlers are as many as before, in the same order and of the same kinds. -/
  kinds : new.handlers.map ExceptionHandler.kind = old.handlers.map ExceptionHandler.kind
  /-- Each of them has the same regions, with the same in them. -/
  region : ∀ n r, Option.Rel (old.Carries probe) (old.stretch? n r) (new.stretch? n r)
  /-- Any two regions lie to each other as before: nested, disjoint or adjacent. -/
  order : ∀ {n m : Nat} {r q : Region} {s t s' t' : Stretch},
    old.stretch? n r = some s → old.stretch? m q = some t →
    new.stretch? n r = some s' → new.stretch? m q = some t' →
    (s'.Inside t' ↔ s.Inside t) ∧ (s'.Apart t' ↔ s.Apart t) ∧ (s'.Meets t' ↔ s.Meets t)

section

variable {b : MethodBody} {probe : Probe} {method : String} {ids : List UInt32}

theorem stretch?_probed (b : MethodBody) (probe : Probe) (method : String) (ids : List UInt32)
    (n : Nat) (r : Region) :
    (b.probed probe method ids).stretch? n r
      = (b.stretch? n r).map (Stretch.map (b.entryOf probe)) := by
  have hget : (b.probed probe method ids).handlers[n]?
      = b.handlers[n]?.map (ExceptionHandler.reindex (b.entryOf probe)) := List.getElem?_map
  rw [stretch?, stretch?, hget]
  rcases b.handlers[n]? with - | h
  · rfl
  · exact h.stretch?_reindex _ r

/-- Moving a stretch with the instructions keeps what is in it. -/
theorem carries_map (b : MethodBody) (probe : Probe) (s : Stretch) :
    b.Carries probe s (s.map (b.entryOf probe)) where
  instruction _ := within_home.holds_map_iff s
  site _ _ _ hle hlt := Within.holds_map_iff ⟨hle, Nat.le_of_lt hlt⟩ s

theorem keepsRegions_probed (hv : b.Valid) (probe : Probe) (method : String)
    (hlen : ids.length = b.branchSites.length) :
    KeepsRegions probe method b (b.probed probe method ids) where
  instruction := getElem?_probed_home hlen probe method
  site := fun i => probe_of_isSite hlen hv probe method
  kinds := List.map_map
  region := by
    intro n r
    rw [stretch?_probed]
    rcases b.stretch? n r with - | s
    · exact .none
    · exact .some (b.carries_map probe s)
  order := by
    intro n m r q s t s' t' hs ht hs' ht'
    rw [stretch?_probed, hs] at hs'
    rw [stretch?_probed, ht] at ht'
    cases hs'
    cases ht'
    have hmono : StrictMono (b.entryOf probe) := strictMono_entry _ _
    exact ⟨Stretch.inside_map_iff hmono s t, Stretch.apart_map_iff hmono s t,
      Stretch.meets_map_iff hmono s t⟩

end

/-- **Protected regions keep their contents**: whatever the probe, the method and
the state of the generator, inserting probes into a body that passes validation
leaves every instruction in the regions that it was in, with its probe. -/
theorem keepsRegions_of_instrument? {ω : Type} [WordSource ω] {b : MethodBody}
    (hvalid : b.validate = .ok ()) (probe : Probe) (method : String) (g : Generator ω) :
    ∃ new g', b.instrument? probe method g = some (new, g') ∧ KeepsRegions probe method b new := by
  have hv : b.Valid := validate_eq_ok_iff.mp hvalid
  refine ⟨_, _, instrument?_eq_probed hv probe method g, keepsRegions_probed hv probe method ?_⟩
  exact Generator.length_take _ _

/-- A region with a filter nested in one that is left over a handler up to the
end of the body.  The inner handler ends where the outer one begins, at a site. -/
def nestedRegions : MethodBody where
  maxStack := 1
  locals := []
  instructions := [⟨.ldarg, .argument 0⟩, ⟨.brtrue, .target 3⟩, ⟨.endfilter, .none⟩,
    ⟨.leave, .target 4⟩, ⟨.nop, .none⟩, ⟨.endfinally, .none⟩]
  handlers := [⟨.filter, 0, 2, 3, 4, some 2⟩, ⟨.finally, 0, 4, 4, 6, none⟩]

theorem nestedRegions_kept :
    nestedRegions.validate = .ok () ∧
      ∃ new g', nestedRegions.instrument? ⟨.counter, TraceType.reference .here⟩ "M"
          (Identifier.fresh .counter) = some (new, g') ∧
        KeepsRegions ⟨.counter, TraceType.reference .here⟩ "M" nestedRegions new :=
  ⟨rfl, keepsRegions_of_instrument? rfl _ _ _⟩

end MethodBody

end BranchCoverage
