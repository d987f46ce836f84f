/-
What a hit can reach.

A hit records its edge in one map, that of the destination of the state that is
hit, and touches no more than one byte there (`hit_eq`, `getElem?_record_of_ne`).
Its destination and its listener can be told from the history alone: whatever
has been done to the trace states, in any order, hits go to the map of the
newest live context and are reported to the newest live observer
(`confined_performAll`).  So the map of a context that has ended stays for good
what it was (`Matches.map?_performAll_of_ended`).
-/
import BranchCoverage.Proofs.Trace.History

namespace BranchCoverage

namespace Hit

def discipline : Hit → Discipline
  | .call d _ _ | .inline _ d _ => d

def id : Hit → UInt32
  | .call _ id _ | .inline _ _ id => id

/-- The copy that is hit, or none for the primary state. -/
def copy : Hit → Option Nat
  | .call .. => none
  | .inline copy _ _ => copy

end Hit

/-- The cell that an edge is recorded in. -/
def Discipline.cell (d : Discipline) (hash : UInt32) : Nat :=
  match d with
  | .counter => (hash &&& mapMask).toNat
  | .bitset => ((hash >>> 4) &&& mapMask).toNat

/-- Recording an edge leaves all other cells as they are. -/
theorem getElem?_record_of_ne {d : Discipline} {hash : UInt32} {i : Nat} (h : i ≠ d.cell hash)
    (map : CoverageMap) : (d.record hash map)[i]? = map[i]? := by
  have hmodify : ∀ (cell : Nat) (f : UInt8 → UInt8), i ≠ cell →
      (map.modify cell f)[i]? = map[i]? := by
    intro cell f hne
    rw [Array.getElem?_modify, if_neg (Ne.symm hne)]
  cases d with
  | counter => exact hmodify _ _ h
  | bitset => exact hmodify _ _ h

namespace Tracing

variable {t : Tracing} {l : Ledger} {x : Hit} {s : TraceState}

/-! ### Hits -/

/-- The primary state, or a copy of it. -/
def state? (t : Tracing) : Option Nat → Option TraceState
  | none => some t.primary
  | some index => t.copies[index]?.map TraceCopy.state

/-- The fallback map, or the map of a context. -/
def map? (t : Tracing) : Option Nat → Option CoverageMap
  | none => some t.fallback
  | some token => t.maps[token]?

/-- A byte of a map. -/
def byte? (t : Tracing) (target : Option Nat) (i : Nat) : Option UInt8 :=
  (t.map? target).bind (·[i]?)

/-- The trace with the previous location of a state moved on. -/
def move (t : Tracing) (id : UInt32) : Option Nat → Tracing
  | none => { t with primary.previous := locationOf id }
  | some index => t.moveCopy index id

theorem map?_move (t : Tracing) (id : UInt32) (copy target : Option Nat) :
    (t.move id copy).map? target = t.map? target := by
  cases copy <;> cases target <;> rfl

theorem map?_write (t : Tracing) (target other : Option Nat) (f : CoverageMap → CoverageMap) :
    (t.write target f).map? other
      = if other = target then (t.map? other).map f else t.map? other := by
  cases target with
  | none => cases other <;> rfl
  | some token =>
    cases other with
    | none => rfl
    | some other =>
      show (t.maps.modify token f)[other]? = if some other = some token then _ else t.maps[other]?
      rw [Array.getElem?_modify]
      by_cases h : token = other
      · rw [if_pos h, if_pos (congrArg some h.symm)]
        rfl
      · rw [if_neg h, if_neg fun heq => h (Option.some.inj heq).symm]

/-- A hit moves its state on and records the edge where the state writes to. -/
theorem hit_eq (h : t.state? x.copy = some s) :
    (t.hit x).1 = (t.move x.id x.copy).write s.target
      (x.discipline.record (edgeHash x.id s.previous)) := by
  cases x with
  | call d id label =>
    cases h
    rfl
  | inline copy d id =>
    cases copy with
    | none =>
      cases h
      rfl
    | some index =>
      obtain ⟨c, hc, rfl⟩ := Option.map_eq_some_iff.mp h
      exact hitCopy_of_getElem? hc d id

/-- There is no hit of a copy that does not exist. -/
theorem hit_of_none (h : t.state? x.copy = none) : (t.hit x).1 = t := by
  cases x with
  | call d id label => cases h
  | inline copy d id =>
    cases copy with
    | none => cases h
    | some index =>
      have hnone : t.copies[index]? = none := Option.map_eq_none_iff.mp h
      show t.hitCopy index d id = t
      rw [Tracing.hitCopy, hnone]

/-! ### Destinations -/

/-- The newest live context is one that has begun, and has not ended. -/
theorem exists_mem_of_newest {token : Nat} (h : l.newest = some token) :
    ∃ c ∈ l.live, c.token = token := by
  obtain ⟨c, hc, htoken⟩ := Option.map_eq_some_iff.mp h
  exact ⟨c, List.mem_of_head? hc, htoken⟩

theorem exists_mem_of_destination {copy : Option Nat} {token : Nat}
    (h : l.destination copy = some token) : ∃ c ∈ l.live, c.token = token := by
  cases copy with
  | none => exact exists_mem_of_newest h
  | some index =>
    rw [Ledger.destination] at h
    split at h
    · exact exists_mem_of_newest h
    · cases h

/-- A state writes to its destination. -/
theorem Matches.target (h : t.Matches l) {copy : Option Nat} (hs : t.state? copy = some s) :
    s.target = l.destination copy := by
  have hnewest : t.current = l.newest := congrArg (·.head?.map Context.token) h.live
  cases copy with
  | none =>
    cases hs
    exact h.routed.primary.trans hnewest
  | some index =>
    obtain ⟨c, hc, rfl⟩ := Option.map_eq_some_iff.mp hs
    have hregistered : l.registered[index]? = some c.registered := by
      rw [← h.registered, Array.getElem?_map, hc]
      rfl
    rw [h.routed.copies c (Array.mem_of_getElem? hc), hnewest, Ledger.destination, hregistered]
    rcases c.registered with - | - <;> rfl

/-- A destination is a map of the right size. -/
theorem Matches.exists_map? (h : t.Matches l) (copy : Option Nat) :
    ∃ map, t.map? (l.destination copy) = some map ∧ map.size = mapSize := by
  rcases hdestination : l.destination copy with - | token
  · exact ⟨t.fallback, rfl, h.size_fallback⟩
  · obtain ⟨c, hc, rfl⟩ := exists_mem_of_destination hdestination
    have hlt : c.token < t.maps.size := h.begun ▸ h.token_lt c hc
    have hmap : t.maps[c.token]? = some t.maps[c.token] := Array.getElem?_eq_getElem hlt
    exact ⟨t.maps[c.token], hmap, h.size_map c.token _ hmap⟩

/-- A hit is recorded at its destination, and in no other map. -/
theorem Matches.map?_hit (h : t.Matches l) (hs : t.state? x.copy = some s) (target : Option Nat) :
    (t.hit x).1.map? target
      = if target = l.destination x.copy then
          (t.map? target).map (x.discipline.record (edgeHash x.id s.previous))
        else t.map? target := by
  rw [hit_eq hs, map?_write, map?_move, h.target hs]

/-- A hit changes one byte at most. -/
theorem Matches.exists_byte?_hit (h : t.Matches l) (x : Hit) :
    ∃ cell, ∀ (target : Option Nat) (i : Nat), ¬ (target = l.destination x.copy ∧ i = cell) →
      (t.hit x).1.byte? target i = t.byte? target i := by
  rcases hs : t.state? x.copy with - | s
  · exact ⟨0, fun target i _ => by rw [hit_of_none hs]⟩
  · refine ⟨x.discipline.cell (edgeHash x.id s.previous), fun target i hother => ?_⟩
    rw [byte?, byte?, h.map?_hit hs]
    -- in the one map that changes, it is the cell of the edge that does
    split
    · rename_i htarget
      have hcell := fun hi => hother ⟨htarget, hi⟩
      rcases t.map? target with - | map
      · rfl
      · exact getElem?_record_of_ne hcell map
    · rfl

/-! ### Contexts that have ended -/

/-- A context has ended: it has begun, and is not live. -/
def Ended (l : Ledger) (token : Nat) : Prop :=
  token < l.begun ∧ ∀ c ∈ l.live, c.token ≠ token

/-- What has ended does not begin again. -/
theorem Ended.enter {token : Nat} (h : Ended l token) (op : Operation) :
    Ended (l.enter op) token := by
  obtain ⟨hbegun, hlive⟩ := h
  cases op with
  | install map observer =>
    rw [Ledger.enter]
    split
    · refine ⟨Nat.lt_succ_of_lt hbegun, fun c hc => ?_⟩
      rcases List.mem_cons.mp hc with rfl | hold
      · exact Nat.ne_of_gt hbegun
      · exact hlive c hold
    · exact ⟨hbegun, hlive⟩
  | drop other => exact ⟨hbegun, fun c hc => hlive c (List.mem_filter.mp hc).1⟩
  | _ => exact ⟨hbegun, hlive⟩

/-- Nothing but clearing it changes the map of a context that has ended. -/
theorem Matches.map?_perform_of_ended (h : t.Matches l) {token : Nat} (hended : Ended l token)
    {op : Operation} (hop : op ≠ .clear token) :
    (t.perform op).map? (some token) = t.map? (some token) := by
  cases op with
  | install map observer =>
    rw [Tracing.perform]
    by_cases hsize : map.size = mapSize
    · have hlt : token < t.maps.size := h.begun ▸ hended.1
      rw [install?_of_size hsize]
      show (t.maps.push map)[token]? = t.maps[token]?
      rw [Array.getElem?_push_lt hlt, Array.getElem?_eq_getElem hlt]
    · rw [install?_of_ne hsize]
  | clear other =>
    have hne : other ≠ token := fun heq => hop (congrArg Operation.clear heq)
    show (t.maps.modify other _)[token]? = t.maps[token]?
    rw [Array.getElem?_modify, if_neg hne]
  | hit x =>
    show (t.hit x).1.map? (some token) = t.map? (some token)
    rcases hs : t.state? x.copy with - | s
    · rw [hit_of_none hs]
    · -- what is hit is the map of a live context
      have hne : some token ≠ l.destination x.copy := by
        intro heq
        obtain ⟨c, hc, htoken⟩ := exists_mem_of_destination heq.symm
        exact hended.2 c hc htoken
      rw [h.map?_hit hs, if_neg hne]
  | drop other => rfl
  | addCopy => rfl
  | register index => rfl
  | reset => rfl
  | resetCopy index => rfl

theorem Matches.map?_performAll_of_ended (h : t.Matches l) {token : Nat} (hended : Ended l token)
    {history : List Operation} (hclear : .clear token ∉ history) :
    (t.performAll history).map? (some token) = t.map? (some token) := by
  induction history generalizing t l with
  | nil => rfl
  | cons op rest ih =>
    have hop : op ≠ .clear token := fun heq => hclear (heq ▸ List.mem_cons_self)
    have hrest : .clear token ∉ rest := fun hmem => hclear (List.mem_cons_of_mem op hmem)
    exact (ih (h.perform op) (hended.enter op) hrest).trans (h.map?_perform_of_ended hended hop)

/-! ### All states that a history leads to -/

/-- Where the hits go that come next, and who is told of them, by the ledger of
what has happened so far. -/
structure Confined (t : Tracing) (l : Ledger) : Prop where
  /-- The primary state and every registered copy write to the newest live
  context, or without one to the fallback map; any other copy always does. -/
  target : ∀ copy s, t.state? copy = some s → s.target = l.destination copy
  map : ∀ copy, ∃ map, t.map? (l.destination copy) = some map ∧ map.size = mapSize
  /-- A hit is recorded in the map that its state writes to. -/
  recorded : ∀ x s, t.state? x.copy = some s →
    (t.hit x).1.map? (l.destination x.copy)
      = (t.map? (l.destination x.copy)).map (x.discipline.record (edgeHash x.id s.previous))
  /-- No hit changes more than one byte, or any other map. -/
  untouched : ∀ x, ∃ cell, ∀ target i, ¬ (target = l.destination x.copy ∧ i = cell) →
    (t.hit x).1.byte? target i = t.byte? target i
  /-- A hit through a probe method is reported once, to the newest live context
  that has an observer, and to nobody if none has. -/
  noticed : ∀ d id label, (t.hit (.call d id label)).2
    = l.listener.map fun (token, observer) => ⟨token, observer, id, label⟩
  /-- Other hits are reported to nobody. -/
  unnoticed : ∀ copy d id, (t.hit (.inline copy d id)).2 = none
  /-- A map of the wrong size is refused, and nothing is changed. -/
  refused : ∀ map observer, map.size ≠ mapSize →
    t.install? map observer = none ∧ t.perform (.install map observer) = t ∧
      l.enter (.install map observer) = l
  /-- The map of a context that has ended is what it was, whatever comes. -/
  kept : ∀ token, Ended l token → ∀ history, .clear token ∉ history →
    (t.performAll history).map? (some token) = t.map? (some token)

/-- **After every history the trace states are confined**: contexts may begin
and end in any order, and copies be registered at any time and repeatedly. -/
theorem confined_performAll (history : List Operation) :
    (performAll {} history).Confined (Ledger.enterAll {} history) := by
  have h := matches_start.performAll history
  generalize performAll {} history = t at h
  generalize Ledger.enterAll {} history = l at h
  refine ⟨fun _ _ hs => h.target hs, h.exists_map?, fun x s hs => ?_, h.exists_byte?_hit,
    fun d id label => ?_, fun copy d id => ?_, fun map observer hsize => ?_,
    fun token hended history hclear => h.map?_performAll_of_ended hended hclear⟩
  · rw [h.map?_hit hs, if_pos rfl]
  · show t.observer.map _ = _
    rw [h.observer]
  · rcases copy with - | index <;> rfl
  · refine ⟨install?_of_ne hsize observer, ?_, if_neg hsize⟩
    rw [perform, install?_of_ne hsize]

end Tracing

end BranchCoverage
