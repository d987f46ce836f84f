/-
Replaying hits on one map.

`Replay` knows neither contexts nor the maps of others: it has one map, and the
previous locations that the hits on it go by.  A trace whose states write to a
map of a live context does to that map what the replay does (`Follows`); a hit
of a copy that is not registered goes to the fallback map, and so the replay
passes over it.
-/
import BranchCoverage.Harness
import BranchCoverage.Proofs.Trace.Routing

namespace BranchCoverage

/-- A map, and the previous locations of the primary state and of the copies. -/
structure Replay where
  map : CoverageMap
  primary : UInt32 := 0
  copies : Nat → UInt32 := fun _ => 0

namespace Replay

/-- Records a hit, if it is one of the primary state or of a registered copy. -/
def hit (registered : Nat → Bool) (r : Replay) : Hit → Replay
  | .call d id _ | .inline none d id =>
    { r with map := d.record (edgeHash id r.primary) r.map, primary := locationOf id }
  | .inline (some index) d id =>
    if registered index then
      { r with
        map := d.record (edgeHash id (r.copies index)) r.map
        copies := fun i => if i = index then locationOf id else r.copies i }
    else r

/-- The map after an execution, which begins with all previous locations 0. -/
def execute (registered : Nat → Bool) (map : CoverageMap) (e : Execution) : CoverageMap :=
  (e.hits.foldl (hit registered) { map }).map

/-- The map that executions one after another leave of one with nothing
recorded. -/
def executeAll (registered : Nat → Bool) (es : List Execution) : CoverageMap :=
  es.foldl (execute registered) .zero

theorem executeAll_concat (registered : Nat → Bool) (es : List Execution) (e : Execution) :
    executeAll registered (es ++ [e]) = execute registered (executeAll registered es) e := by
  rw [executeAll, List.foldl_append]
  rfl

end Replay

namespace Tracing

/-- Whether a copy is registered. -/
def isRegistered (t : Tracing) (index : Nat) : Bool :=
  t.copies[index]?.any TraceCopy.registered

/-- The primary state and the registered copies write to the map of a context,
and all is there as it is in the replay. -/
structure Follows (registered : Nat → Bool) (token : Nat) (t : Tracing) (r : Replay) : Prop where
  target : t.primary.target = some token
  previous : t.primary.previous = r.primary
  map : t.maps[token]? = some r.map
  isRegistered : ∀ i, t.isRegistered i = registered i
  copy : ∀ (i : Nat) (c : TraceCopy), t.copies[i]? = some c → c.registered →
    c.state = ⟨r.copies i, some token⟩
  stray : ∀ (i : Nat) (c : TraceCopy), t.copies[i]? = some c → ¬ c.registered →
    c.state.target = none

variable {registered : Nat → Bool} {token : Nat} {t : Tracing} {r : Replay}

theorem isRegistered_of_getElem? {i : Nat} {c : TraceCopy} (h : t.copies[i]? = some c) :
    t.isRegistered i = c.registered := by
  rw [Tracing.isRegistered, h]
  rfl

/-! ### Hits -/

theorem Follows.hitPrimary (h : Follows registered token t r) (d : Discipline) (id : UInt32) :
    Follows registered token (t.hitPrimary d id)
      { r with map := d.record (edgeHash id r.primary) r.map, primary := locationOf id } := by
  have hrun : t.hitPrimary d id
      = { t with
          primary.previous := locationOf id
          maps := t.maps.modify token (d.record (edgeHash id r.primary)) } := by
    rw [Tracing.hitPrimary, h.previous, h.target]
    rfl
  rw [hrun]
  refine ⟨h.target, rfl, ?_, h.isRegistered, h.copy, h.stray⟩
  show (t.maps.modify token _)[token]? = _
  rw [Array.getElem?_modify, if_pos rfl, h.map]
  rfl

/-- The trace with the previous location of a copy moved on. -/
def moveCopy (t : Tracing) (index : Nat) (id : UInt32) : Tracing :=
  { t with copies := t.copies.modify index fun c => { c with state.previous := locationOf id } }

theorem getElem?_moveCopy {index i : Nat} {id : UInt32} {c : TraceCopy}
    (h : (t.moveCopy index id).copies[i]? = some c) :
    ∃ old, t.copies[i]? = some old ∧ c.registered = old.registered ∧
      c.state = if i = index then ⟨locationOf id, old.state.target⟩ else old.state := by
  rw [moveCopy, Array.getElem?_modify] at h
  split at h
  · rename_i heq
    obtain ⟨old, hold, rfl⟩ := Option.map_eq_some_iff.mp h
    exact ⟨old, hold, rfl, (if_pos heq.symm).symm⟩
  · rename_i hne
    exact ⟨c, h, rfl, (if_neg (Ne.symm hne)).symm⟩

theorem isRegistered_moveCopy (t : Tracing) (index : Nat) (id : UInt32) (i : Nat) :
    (t.moveCopy index id).isRegistered i = t.isRegistered i := by
  rw [Tracing.isRegistered, Tracing.isRegistered, moveCopy, Array.getElem?_modify]
  split
  · rcases t.copies[i]? with - | c <;> rfl
  · rfl

theorem hitCopy_of_getElem? {index : Nat} {c : TraceCopy} (h : t.copies[index]? = some c)
    (d : Discipline) (id : UInt32) :
    t.hitCopy index d id
      = (t.moveCopy index id).write c.state.target (d.record (edgeHash id c.state.previous)) := by
  rw [Tracing.hitCopy, h]
  rfl

theorem Follows.hitCopy (h : Follows registered token t r) (index : Nat) (d : Discipline)
    (id : UInt32) :
    Follows registered token (t.hitCopy index d id)
      (r.hit registered (.inline (some index) d id)) := by
  rw [Replay.hit, ← h.isRegistered]
  rcases hc : t.copies[index]? with - | c
  · -- nothing is hit
    have hnone : t.isRegistered index = false := by
      rw [Tracing.isRegistered, hc]
      rfl
    rw [Tracing.hitCopy, hc, hnone]
    exact h
  · have hmoved : ∀ i, (t.moveCopy index id).isRegistered i = registered i :=
      fun i => (isRegistered_moveCopy t index id i).trans (h.isRegistered i)
    rw [isRegistered_of_getElem? hc, hitCopy_of_getElem? hc]
    have hstray : ∀ (i : Nat) (c : TraceCopy), (t.moveCopy index id).copies[i]? = some c →
        ¬ c.registered → c.state.target = none := by
      intro i new hnew hregistered
      obtain ⟨old, hold, hsame, hstate⟩ := getElem?_moveCopy hnew
      have htarget := h.stray i old hold (hsame ▸ hregistered)
      rw [hstate]
      split
      · exact htarget
      · exact htarget
    by_cases hregistered : c.registered
    · -- the hit is one on the followed map, and moves only this copy on
      rw [if_pos hregistered, h.copy index c hc hregistered]
      refine ⟨h.target, h.previous, ?_, hmoved, ?_, hstray⟩
      · show (t.maps.modify token _)[token]? = _
        rw [Array.getElem?_modify, if_pos rfl, h.map]
        rfl
      · intro i new hnew hnewRegistered
        obtain ⟨old, hold, hsame, hstate⟩ := getElem?_moveCopy hnew
        rw [hstate, h.copy i old hold (hsame ▸ hnewRegistered)]
        show _ = (⟨if i = index then locationOf id else r.copies i, some token⟩ : TraceState)
        split <;> rfl
    · -- the hit is one on the fallback map, which nobody follows
      rw [if_neg hregistered, h.stray index c hc hregistered]
      refine ⟨h.target, h.previous, h.map, hmoved, ?_, hstray⟩
      intro i new hnew hnewRegistered
      obtain ⟨old, hold, hsame, hstate⟩ := getElem?_moveCopy hnew
      have hne : i ≠ index := by
        rintro rfl
        obtain rfl : c = old := Option.some.inj (hc.symm.trans hold)
        exact hregistered (hsame ▸ hnewRegistered)
      rw [hstate, if_neg hne]
      exact h.copy i old hold (hsame ▸ hnewRegistered)

theorem Follows.hit (h : Follows registered token t r) (x : Hit) :
    Follows registered token (t.hit x).1 (r.hit registered x) := by
  cases x with
  | call d id label => exact h.hitPrimary d id
  | inline copy d id =>
    cases copy with
    | none => exact h.hitPrimary d id
    | some index => exact h.hitCopy index d id

/-- What the notices are has no influence on the trace. -/
theorem play_eq_foldl (t : Tracing) (hits : List Hit) :
    (t.play hits).1 = hits.foldl (fun t x => (t.hit x).1) t := by
  -- the notices noted so far vary in the induction
  have hall : ∀ (notices : List Notice) (t : Tracing),
      (hits.foldl (fun p x => ((p.1.hit x).1, (p.1.hit x).2.toList ++ p.2)) (t, notices)).1
        = hits.foldl (fun t x => (t.hit x).1) t := by
    induction hits with
    | nil => exact fun _ _ => rfl
    | cons x rest ih => exact fun notices t => ih _ _
  exact hall [] t

theorem Follows.play (h : Follows registered token t r) (hits : List Hit) :
    Follows registered token (t.play hits).1 (hits.foldl (Replay.hit registered) r) := by
  rw [play_eq_foldl]
  induction hits generalizing t r with
  | nil => exact h
  | cons x rest ih => exact ih (h.hit x)

/-! ### Changing the registered copies -/

/-- The copies of `t'` are those of `t`, the registered ones changed. -/
def ChangedBy (f : TraceCopy → TraceCopy) (t t' : Tracing) : Prop :=
  t'.copies = t.copies.map fun c => if c.registered then f c else c

section

variable {t' : Tracing} {f : TraceCopy → TraceCopy} {i : Nat} {new : TraceCopy}

/-- A copy that is registered after the change was so before, and was changed. -/
theorem ChangedBy.getElem?_registered (h : ChangedBy f t t') (hnew : t'.copies[i]? = some new)
    (hregistered : new.registered) :
    ∃ c, t.copies[i]? = some c ∧ c.registered ∧ new = f c := by
  rw [h, Array.getElem?_map] at hnew
  obtain ⟨c, hc, rfl⟩ := Option.map_eq_some_iff.mp hnew
  by_cases hold : c.registered
  · exact ⟨c, hc, hold, if_pos hold⟩
  · rw [if_neg hold] at hregistered
    exact absurd hregistered hold

/-- Any other copy is as it was. -/
theorem ChangedBy.getElem?_unregistered (h : ChangedBy f t t') (hnew : t'.copies[i]? = some new)
    (hregistered : ¬ new.registered) (hf : ∀ c, (f c).registered = c.registered) :
    t.copies[i]? = some new := by
  rw [h, Array.getElem?_map] at hnew
  obtain ⟨c, hc, rfl⟩ := Option.map_eq_some_iff.mp hnew
  by_cases hold : c.registered
  · rw [if_pos hold, hf] at hregistered
    exact absurd hold hregistered
  · rw [if_neg hold]
    exact hc

theorem ChangedBy.isRegistered (h : ChangedBy f t t')
    (hf : ∀ c, (f c).registered = c.registered) (i : Nat) :
    t'.isRegistered i = t.isRegistered i := by
  rw [Tracing.isRegistered, Tracing.isRegistered, h, Array.getElem?_map]
  rcases t.copies[i]? with - | c
  · rfl
  · show (if c.registered then f c else c : TraceCopy).registered = c.registered
    split
    · exact hf c
    · rfl

end

theorem Follows.reset (h : Follows registered token t r) :
    Follows registered token t.reset { map := r.map } := by
  have hchanged : ChangedBy (fun c => { c with state.previous := 0 }) t t.reset := rfl
  refine ⟨h.target, rfl, h.map, fun i => ?_, fun i new hnew hregistered => ?_,
    fun i new hnew hregistered => ?_⟩
  · exact (hchanged.isRegistered (fun _ => rfl) i).trans (h.isRegistered i)
  · obtain ⟨c, hc, hold, rfl⟩ := hchanged.getElem?_registered hnew hregistered
    show (⟨0, c.state.target⟩ : TraceState) = ⟨0, some token⟩
    rw [h.copy i c hc hold]
  · exact h.stray i new (hchanged.getElem?_unregistered hnew hregistered fun _ => rfl) hregistered

theorem Follows.clear (h : Follows registered token t r) :
    Follows registered token (t.clear token) { r with map := .zero } := by
  refine ⟨h.target, h.previous, ?_, h.isRegistered, h.copy, h.stray⟩
  show (t.maps.modify token _)[token]? = _
  rw [Array.getElem?_modify, if_pos rfl, h.map]
  rfl

/-! ### Beginning -/

/-- Where the states write to where they should, they all write to the map of the
newest context. -/
theorem Routed.follows (h : t.Routed) (hcurrent : t.current = some token) {map : CoverageMap}
    (hmap : t.maps[token]? = some map) :
    ∃ r : Replay, r.map = map ∧ Follows t.isRegistered token t r := by
  refine ⟨⟨map, t.primary.previous, fun i => ((t.copies[i]?).map (·.state.previous)).getD 0⟩,
    rfl, h.primary.trans hcurrent, rfl, hmap, fun _ => rfl, fun i c hc hregistered => ?_,
    fun i c hc hregistered => ?_⟩
  · have htarget := h.copies c (Array.mem_of_getElem? hc)
    rw [hregistered, if_pos rfl, hcurrent] at htarget
    show c.state = (⟨((t.copies[i]?).map (·.state.previous)).getD 0, some token⟩ : TraceState)
    rw [hc, ← htarget]
    rfl
  · exact h.unregistered (Array.mem_of_getElem? hc) (Bool.eq_false_iff.mpr hregistered)

/-- What beginning a context does to the states. -/
theorem install?_eq_some {map : CoverageMap} {observer : Option Observer} {t' : Tracing}
    (h : t.install? map observer = some (t', token)) :
    t'.current = some token ∧ t'.maps[token]? = some map ∧
      ChangedBy (fun c => { c with state.target := some token }) t t' := by
  rw [install?] at h
  split at h
  · cases h
    refine ⟨rfl, ?_, rfl⟩
    show (t.maps.push map)[t.maps.size]? = some map
    exact Array.getElem?_push_size
  · cases h

/-- A new context is the newest one. -/
theorem follows_install (h : t.Routed) {map : CoverageMap} {observer : Option Observer}
    {t' : Tracing} (hinstall : t.install? map observer = some (t', token)) :
    ∃ r : Replay, r.map = map ∧ Follows t.isRegistered token t' r := by
  obtain ⟨hcurrent, hmap, hchanged⟩ := install?_eq_some hinstall
  have hregistered : t'.isRegistered = t.isRegistered :=
    funext fun i => hchanged.isRegistered (fun _ => rfl) i
  rw [← hregistered]
  exact (h.install hinstall).follows hcurrent hmap

end Tracing

end BranchCoverage
