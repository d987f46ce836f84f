/-
Where the trace states write to.

`Reachable` is every state that trace operations lead to, in any order.  In all
of them the primary state and every registered copy write to the map of the
newest live context, and a copy that is not registered to the fallback map
(`Reachable.routed`).  Only registering, beginning and ending a context change
who writes where; the other operations keep the `routes`.
-/
import BranchCoverage.Proofs.Trace.SharedMap

namespace BranchCoverage.Tracing

variable {t t' : Tracing}

/-! ### Routes -/

/-- Whether a copy is registered, and what it writes to. -/
def route (c : TraceCopy) : Bool × Option Nat :=
  (c.registered, c.state.target)

/-- The states write to where they should. -/
structure Routed (t : Tracing) : Prop where
  primary : t.primary.target = t.current
  copies : ∀ c ∈ t.copies, c.state.target = if c.registered then t.current else none

theorem Routed.unregistered (h : t.Routed) {c : TraceCopy} (hc : c ∈ t.copies)
    (hregistered : c.registered = false) : c.state.target = none := by
  rw [h.copies c hc, hregistered]
  rfl

theorem Routed.of_eq (h : t.Routed) (hlive : t'.live = t.live)
    (hprimary : t'.primary.target = t.primary.target)
    (hroutes : t'.copies.map route = t.copies.map route) : t'.Routed := by
  have hcurrent : t'.current = t.current := congrArg (·.head?.map Context.token) hlive
  refine ⟨?_, fun c' hc' => ?_⟩
  · rw [hprimary, hcurrent]
    exact h.primary
  · have hmem : route c' ∈ t.copies.map route := hroutes ▸ Array.mem_map.mpr ⟨c', hc', rfl⟩
    obtain ⟨c, hc, hroute⟩ := Array.mem_map.mp hmem
    obtain ⟨hregistered, htarget⟩ := Prod.ext_iff.mp hroute
    have htarget : c.state.target = c'.state.target := htarget
    have hregistered : c.registered = c'.registered := hregistered
    rw [← htarget, ← hregistered, hcurrent]
    exact h.copies c hc

/-- Changing an element without changing its image keeps the images. -/
theorem map_modify_of_eq {α β : Type} (xs : Array α) (index : Nat) {f : α → α} {g : α → β}
    (h : ∀ x, g (f x) = g x) : (xs.modify index f).map g = xs.map g := by
  refine Array.ext_getElem? fun i => ?_
  rw [Array.getElem?_map, Array.getElem?_map, Array.getElem?_modify]
  split
  · rcases xs[i]? with - | x
    · rfl
    · exact congrArg some (h x)
  · rfl

/-! ### Operations that keep the routes -/

theorem copies_write (t : Tracing) (target : Option Nat) (f : CoverageMap → CoverageMap) :
    (t.write target f).copies = t.copies := by
  cases target <;> rfl

theorem live_write (t : Tracing) (target : Option Nat) (f : CoverageMap → CoverageMap) :
    (t.write target f).live = t.live := by
  cases target <;> rfl

theorem Routed.write (h : t.Routed) (target : Option Nat) (f : CoverageMap → CoverageMap) :
    (t.write target f).Routed :=
  h.of_eq (live_write t target f) (congrArg TraceState.target (primary_write t target f))
    (congrArg (Array.map route) (copies_write t target f))

theorem Routed.hitPrimary (h : t.Routed) (d : Discipline) (id : UInt32) :
    (t.hitPrimary d id).Routed := by
  have hmoved : ({ t with primary.previous := locationOf id } : Tracing).Routed :=
    h.of_eq rfl rfl rfl
  exact hmoved.write _ _

theorem Routed.hitCopy (h : t.Routed) (index : Nat) (d : Discipline) (id : UInt32) :
    (t.hitCopy index d id).Routed := by
  rw [Tracing.hitCopy]
  split
  · exact h
  · rename_i c _
    have hmoved : ({ t with copies := t.copies.modify index fun c =>
        { c with state.previous := locationOf id } } : Tracing).Routed := by
      refine h.of_eq rfl rfl ?_
      dsimp only
      exact map_modify_of_eq t.copies index fun _ => rfl
    exact hmoved.write _ _

theorem Routed.hit (h : t.Routed) (x : Hit) : (t.hit x).1.Routed := by
  cases x with
  | call d id label => exact h.hitPrimary d id
  | inline copy d id =>
    cases copy with
    | none => exact h.hitPrimary d id
    | some index => exact h.hitCopy index d id

theorem Routed.resetCopy (h : t.Routed) (index : Nat) : (t.resetCopy index).Routed := by
  refine h.of_eq rfl rfl ?_
  rw [Tracing.resetCopy]
  dsimp only
  exact map_modify_of_eq t.copies index fun _ => rfl

theorem Routed.reset (h : t.Routed) : t.reset.Routed := by
  have hroute : ∀ c : TraceCopy,
      route (if c.registered then { c with state.previous := 0 } else c) = route c := by
    intro c
    split <;> rfl
  refine h.of_eq rfl rfl ?_
  show (t.copies.map _).map route = t.copies.map route
  rw [Array.map_map]
  exact Array.map_congr_left fun c _ => hroute c

theorem Routed.clear (h : t.Routed) (token : Nat) : (t.clear token).Routed :=
  h.of_eq rfl rfl rfl

/-! ### Operations that change them -/

/-- A new copy is not registered, and writes to the fallback map. -/
theorem Routed.addCopy (h : t.Routed) : t.addCopy.1.Routed := by
  refine ⟨h.primary, fun c hc => ?_⟩
  have hc : c ∈ t.copies.push {} := hc
  rcases Array.mem_push.mp hc with hold | rfl
  · exact h.copies c hold
  · rfl

theorem Routed.register (h : t.Routed) (index : Nat) : (t.register index).Routed := by
  refine ⟨h.primary, fun c hc => ?_⟩
  have hc : c ∈ t.copies.modify index fun c =>
      { state := { c.state with target := t.current }, registered := true } := hc
  obtain ⟨i, hi⟩ := Array.mem_iff_getElem?.mp hc
  rw [Array.getElem?_modify] at hi
  split at hi
  · obtain ⟨old, -, rfl⟩ := Option.map_eq_some_iff.mp hi
    rfl
  · exact h.copies c (Array.mem_of_getElem? hi)

/-- Whatever contexts there are, redirecting points the states at the newest
one. -/
theorem routed_redirect (t : Tracing)
    (h : ∀ c ∈ t.copies, c.registered = false → c.state.target = none) : t.redirect.Routed := by
  refine ⟨rfl, fun c' hc' => ?_⟩
  have hc' : c' ∈ t.copies.map fun c =>
      if c.registered then { c with state.target := t.current } else c := hc'
  obtain ⟨c, hc, rfl⟩ := Array.mem_map.mp hc'
  show _ = if _ then t.current else none
  rcases hregistered : c.registered with - | -
  · -- a copy that is not registered is not redirected
    rw [if_neg Bool.false_ne_true, hregistered, h c hc hregistered]
    rfl
  · rfl

theorem Routed.install (h : t.Routed) {map : CoverageMap} {observer : Option Observer}
    {token : Nat} (hinstall : t.install? map observer = some (t', token)) : t'.Routed := by
  rw [install?] at hinstall
  split at hinstall
  · cases hinstall
    exact routed_redirect _ fun c hc => h.unregistered hc
  · cases hinstall

theorem Routed.drop (h : t.Routed) (token : Nat) : (t.drop token).Routed :=
  routed_redirect _ fun _ hc => h.unregistered hc

/-! ### Reachable states -/

/-- The states that trace operations lead to, in any order. -/
inductive Reachable : Tracing → Prop
  | start : Reachable {}
  | addCopy {t : Tracing} : Reachable t → Reachable t.addCopy.1
  | register {t : Tracing} (index : Nat) : Reachable t → Reachable (t.register index)
  | hit {t : Tracing} (x : Hit) : Reachable t → Reachable (t.hit x).1
  | reset {t : Tracing} : Reachable t → Reachable t.reset
  | resetCopy {t : Tracing} (index : Nat) : Reachable t → Reachable (t.resetCopy index)
  | install {t t' : Tracing} {map : CoverageMap} {observer : Option Observer} {token : Nat} :
      t.install? map observer = some (t', token) → Reachable t → Reachable t'
  | drop {t : Tracing} (token : Nat) : Reachable t → Reachable (t.drop token)
  | clear {t : Tracing} (token : Nat) : Reachable t → Reachable (t.clear token)

/-- **The states of every reachable trace write to where they should.** -/
theorem Reachable.routed (h : t.Reachable) : t.Routed := by
  induction h with
  | start => exact ⟨rfl, fun _ hc => absurd hc (Array.not_mem_empty _)⟩
  | addCopy _ ih => exact ih.addCopy
  | register index _ ih => exact ih.register index
  | hit x _ ih => exact ih.hit x
  | reset _ ih => exact ih.reset
  | resetCopy index _ ih => exact ih.resetCopy index
  | install hinstall _ ih => exact ih.install hinstall
  | drop token _ ih => exact ih.drop token
  | clear token _ ih => exact ih.clear token

end BranchCoverage.Tracing
