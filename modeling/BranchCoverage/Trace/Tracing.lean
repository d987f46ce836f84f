/-
Where probe hits go.

A process has a primary trace state, and may have further copies of it that
have to be registered.  Contexts bring maps: while one is live, the primary
state and every registered copy write to the map of the newest live context,
and without one to a private fallback map.  A context may bring an observer
too; a hit that goes through the probe methods is reported to the observer of
the newest live context that has one.  Contexts end in any order.
-/
import BranchCoverage.Trace.Coverage

namespace BranchCoverage

/-- A previous location, and the context whose map is written to; no context
means the fallback map. -/
structure TraceState where
  previous : UInt32 := 0
  target : Option Nat := none
  deriving DecidableEq

/-- What happens to a report of a hit. -/
inductive Observer where
  /-- It is taken. -/
  | attentive
  /-- The observer panics, which aborts the process. -/
  | panicking
  deriving DecidableEq

/-- A live context, known by its token. -/
structure Context where
  token : Nat
  observer : Option Observer
  deriving DecidableEq

/-- A copy of the trace state. -/
structure TraceCopy where
  state : TraceState := {}
  registered : Bool := false
  deriving DecidableEq

/-- A hit of a probe. -/
inductive Hit where
  /-- Through the probe method of a discipline, with a name for the observer. -/
  | call (discipline : Discipline) (id : UInt32) (label : String)
  /-- Directly on the primary state or on a copy, by its number. -/
  | inline (copy : Option Nat) (discipline : Discipline) (id : UInt32)
  deriving DecidableEq

/-- The report of a hit to the observer of a context. -/
structure Notice where
  token : Nat
  observer : Observer
  id : UInt32
  label : String
  deriving DecidableEq

/-- The trace states, maps and contexts of a process.  The map of a context is
kept under its token after the context has ended.  Live contexts stand with
the newest first. -/
structure Tracing where
  primary : TraceState := {}
  copies : Array TraceCopy := #[]
  fallback : CoverageMap := .zero
  maps : Array CoverageMap := #[]
  live : List Context := []
  /-- The observer that reports go to, with the token of its context. -/
  observer : Option (Nat × Observer) := none

namespace Tracing

/-! ### Hits -/

/-- Changes the map that a state writes to. -/
def write (t : Tracing) (target : Option Nat) (f : CoverageMap → CoverageMap) : Tracing :=
  match target with
  | none => { t with fallback := f t.fallback }
  | some token => { t with maps := t.maps.modify token f }

/-- Records a hit of the primary state. -/
def hitPrimary (t : Tracing) (d : Discipline) (id : UInt32) : Tracing :=
  let state := t.primary
  let t := { t with primary.previous := locationOf id }
  t.write state.target (d.record (edgeHash id state.previous))

/-- Records a hit of a copy. -/
def hitCopy (t : Tracing) (index : Nat) (d : Discipline) (id : UInt32) : Tracing :=
  match t.copies[index]? with
  | none => t
  | some copy =>
    let t := { t with copies := t.copies.modify index fun c =>
      { c with state.previous := locationOf id } }
    t.write copy.state.target (d.record (edgeHash id copy.state.previous))

/-- Records a hit, and reports it if it went through a probe method. -/
def hit (t : Tracing) : Hit → Tracing × Option Notice
  | .call d id label =>
    (t.hitPrimary d id, t.observer.map fun (token, observer) => ⟨token, observer, id, label⟩)
  | .inline none d id => (t.hitPrimary d id, none)
  | .inline (some copy) d id => (t.hitCopy copy d id, none)

/-- Records hits one after another, and gives the reports in order. -/
def play (t : Tracing) (hits : List Hit) : Tracing × List Notice :=
  let (t, notices) := hits.foldl (fun (t, notices) h =>
    let (t, notice) := t.hit h
    (t, notice.toList ++ notices)) (t, [])
  (t, notices.reverse)

/-- Makes 0 the previous location of the primary state and of every registered
copy. -/
def reset (t : Tracing) : Tracing :=
  { t with
    primary.previous := 0
    copies := t.copies.map fun c => if c.registered then { c with state.previous := 0 } else c }

/-- Makes 0 the previous location of one copy. -/
def resetCopy (t : Tracing) (index : Nat) : Tracing :=
  { t with copies := t.copies.modify index fun c => { c with state.previous := 0 } }

/-! ### Copies -/

/-- The context whose map is written to now. -/
def current (t : Tracing) : Option Nat :=
  t.live.head?.map Context.token

/-- Adds a copy, not registered yet, and gives its number. -/
def addCopy (t : Tracing) : Tracing × Nat :=
  ({ t with copies := t.copies.push {} }, t.copies.size)

/-- Registers a copy, which then follows the contexts. -/
def register (t : Tracing) (index : Nat) : Tracing :=
  { t with copies := t.copies.modify index fun c =>
      { state := { c.state with target := t.current }, registered := true } }

/-! ### Contexts -/

/-- Points the states at the newest live map, and reports at the newest live
observer. -/
def redirect (t : Tracing) : Tracing :=
  { t with
    primary.target := t.current
    copies := t.copies.map fun c =>
      if c.registered then { c with state.target := t.current } else c
    observer := t.live.findSome? fun c => c.observer.map (c.token, ·) }

/-- What is wrong with a map of another size. -/
def sizeRefusal : String :=
  s!"Coverage map must be exactly {mapSize} bytes"

/-- Begins a context with a map and gives its token.  A map of the wrong size is
refused. -/
def install? (t : Tracing) (map : CoverageMap) (observer : Option Observer) :
    Option (Tracing × Nat) :=
  if map.size = mapSize then
    let token := t.maps.size
    some (redirect { t with maps := t.maps.push map, live := ⟨token, observer⟩ :: t.live }, token)
  else none

/-- Ends a context. -/
def drop (t : Tracing) (token : Nat) : Tracing :=
  redirect { t with live := t.live.filter (·.token ≠ token) }

/-- Makes the map of a context the one with nothing recorded. -/
def clear (t : Tracing) (token : Nat) : Tracing :=
  { t with maps := t.maps.modify token fun _ => .zero }

/-- The map of a context, live or not. -/
def map (t : Tracing) (token : Nat) : CoverageMap :=
  t.maps[token]?.getD #[]

end Tracing

end BranchCoverage
