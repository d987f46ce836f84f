/-
Histories of the trace states, and what they amount to.

A history is a list of operations on the trace states of a process
(`performAll`).  A ledger is what somebody knows who sees the operations and
never the states: how many contexts have begun, which of them are live, and
which copies are registered.  States and ledger keep in step (`Matches`): one
operation does to the states what entering it does to the ledger
(`Matches.perform`), and so does a whole history (`Matches.performAll`).

Hits, resets and clearing leave the ledger as it is.  They are dealt with
together, by what they must not touch (`Matches.of_eq`).
-/
import BranchCoverage.Proofs.Trace.Replay

namespace BranchCoverage

/-- Something done to the trace states of a process. -/
inductive Operation where
  /-- A context is begun.  With a map of the wrong size this is refused. -/
  | install (map : CoverageMap) (observer : Option Observer)
  | drop (token : Nat)
  | clear (token : Nat)
  | addCopy
  | register (index : Nat)
  | hit (x : Hit)
  | reset
  | resetCopy (index : Nat)

namespace Tracing

/-- Does something to the trace states.  What is refused leaves them as they
are. -/
def perform (t : Tracing) : Operation → Tracing
  | .install map observer =>
    match t.install? map observer with
    | some (t, _) => t
    | none => t
  | .drop token => t.drop token
  | .clear token => t.clear token
  | .addCopy => t.addCopy.1
  | .register index => t.register index
  | .hit x => (t.hit x).1
  | .reset => t.reset
  | .resetCopy index => t.resetCopy index

/-- Does one thing after another. -/
def performAll (t : Tracing) (history : List Operation) : Tracing :=
  history.foldl perform t

end Tracing

/-! ### Ledgers -/

/-- What can be told from operations alone: the number of contexts begun, those
that are live, the newest first, and for each copy whether it is registered. -/
structure Ledger where
  begun : Nat := 0
  live : List Context := []
  registered : Array Bool := #[]

namespace Ledger

/-- Enters an operation. -/
def enter (l : Ledger) : Operation → Ledger
  | .install map observer =>
    if map.size = mapSize then
      { l with begun := l.begun + 1, live := ⟨l.begun, observer⟩ :: l.live }
    else l
  | .drop token => { l with live := l.live.filter (·.token ≠ token) }
  | .addCopy => { l with registered := l.registered.push false }
  | .register index => { l with registered := l.registered.modify index fun _ => true }
  | .clear _ | .hit _ | .reset | .resetCopy _ => l

/-- Enters one operation after another. -/
def enterAll (l : Ledger) (history : List Operation) : Ledger :=
  history.foldl enter l

/-- The newest live context. -/
def newest (l : Ledger) : Option Nat :=
  l.live.head?.map Context.token

/-- The newest live context that has an observer, and this observer. -/
def listener (l : Ledger) : Option (Nat × Observer) :=
  l.live.findSome? fun c => c.observer.map (c.token, ·)

/-- The context whose map gets the hits of the primary state, or of a copy.  No
context means the fallback map, which is also that of a copy not registered. -/
def destination (l : Ledger) : Option Nat → Option Nat
  | none => l.newest
  | some index => if l.registered[index]? = some true then l.newest else none

end Ledger

/-! ### Keeping in step -/

namespace Tracing

/-- The trace states are as the ledger says. -/
structure Matches (t : Tracing) (l : Ledger) : Prop where
  live : t.live = l.live
  begun : t.maps.size = l.begun
  registered : t.copies.map TraceCopy.registered = l.registered
  observer : t.observer = l.listener
  routed : t.Routed
  /-- A live context has begun, and so it has a map. -/
  token_lt : ∀ c ∈ l.live, c.token < l.begun
  size_map : ∀ (token : Nat) (map : CoverageMap), t.maps[token]? = some map → map.size = mapSize
  size_fallback : t.fallback.size = mapSize

variable {t t' : Tracing} {l : Ledger}

theorem matches_start : Matches {} {} where
  live := rfl
  begun := rfl
  registered := Array.map_empty
  observer := rfl
  routed := Reachable.start.routed
  token_lt := fun _ hc => absurd hc List.not_mem_nil
  size_map := fun _ _ hmap => nomatch hmap
  size_fallback := Array.size_replicate

/-- The ledger stays the same while contexts, observer and registrations do. -/
theorem Matches.of_eq (h : t.Matches l) (hlive : t'.live = t.live)
    (hobserver : t'.observer = t.observer)
    (hregistered : t'.copies.map TraceCopy.registered = t.copies.map TraceCopy.registered)
    (hbegun : t'.maps.size = t.maps.size)
    (hmap : ∀ (token : Nat) (map : CoverageMap), t'.maps[token]? = some map → map.size = mapSize)
    (hfallback : t'.fallback.size = mapSize) (hrouted : t'.Routed) : t'.Matches l where
  live := hlive.trans h.live
  begun := hbegun.trans h.begun
  registered := hregistered.trans h.registered
  observer := hobserver.trans h.observer
  routed := hrouted
  token_lt := h.token_lt
  size_map := hmap
  size_fallback := hfallback

/-! ### Operations that leave the ledger as it is -/

/-- Changing the map of a context keeps the sizes if the change does. -/
theorem Matches.size_modify (h : t.Matches l) (changed : Nat) {f : CoverageMap → CoverageMap}
    (hf : ∀ map, map.size = mapSize → (f map).size = mapSize) (token : Nat) (map : CoverageMap)
    (hmap : (t.maps.modify changed f)[token]? = some map) : map.size = mapSize := by
  rw [Array.getElem?_modify] at hmap
  split at hmap
  · obtain ⟨old, hold, rfl⟩ := Option.map_eq_some_iff.mp hmap
    exact hf old (h.size_map token old hold)
  · exact h.size_map token map hmap

theorem Matches.clear (h : t.Matches l) (token : Nat) : (t.clear token).Matches l :=
  h.of_eq rfl rfl rfl Array.size_modify
    (h.size_modify token fun _ _ => Array.size_replicate) h.size_fallback (h.routed.clear token)

theorem Matches.write (h : t.Matches l) (target : Option Nat) {f : CoverageMap → CoverageMap}
    (hf : ∀ map, (f map).size = map.size) : (t.write target f).Matches l := by
  have hrouted := h.routed.write target f
  cases target with
  | none => exact h.of_eq rfl rfl rfl rfl h.size_map ((hf _).trans h.size_fallback) hrouted
  | some token =>
    exact h.of_eq rfl rfl rfl Array.size_modify
      (h.size_modify token fun map hmap => (hf map).trans hmap) h.size_fallback hrouted

theorem Matches.moveCopy (h : t.Matches l) (index : Nat) (id : UInt32) :
    (t.moveCopy index id).Matches l := by
  have hregistered : (t.moveCopy index id).copies.map TraceCopy.registered
      = t.copies.map TraceCopy.registered := by
    rw [Tracing.moveCopy]
    dsimp only
    exact map_modify_of_eq t.copies index fun _ => rfl
  have hrouted : (t.moveCopy index id).Routed := by
    refine h.routed.of_eq rfl rfl ?_
    rw [Tracing.moveCopy]
    dsimp only
    exact map_modify_of_eq t.copies index fun _ => rfl
  exact h.of_eq rfl rfl hregistered rfl h.size_map h.size_fallback hrouted

theorem Matches.hitPrimary (h : t.Matches l) (d : Discipline) (id : UInt32) :
    (t.hitPrimary d id).Matches l := by
  have hmoved : ({ t with primary.previous := locationOf id } : Tracing).Matches l :=
    h.of_eq rfl rfl rfl rfl h.size_map h.size_fallback (h.routed.of_eq rfl rfl rfl)
  exact hmoved.write _ (size_record d _)

theorem Matches.hitCopy (h : t.Matches l) (index : Nat) (d : Discipline) (id : UInt32) :
    (t.hitCopy index d id).Matches l := by
  rw [Tracing.hitCopy]
  split
  · exact h
  · exact (h.moveCopy index id).write _ (size_record d _)

theorem Matches.hit (h : t.Matches l) (x : Hit) : (t.hit x).1.Matches l := by
  cases x with
  | call d id label => exact h.hitPrimary d id
  | inline copy d id =>
    cases copy with
    | none => exact h.hitPrimary d id
    | some index => exact h.hitCopy index d id

theorem Matches.play (h : t.Matches l) (hits : List Hit) : (t.play hits).1.Matches l := by
  rw [play_eq_foldl]
  induction hits generalizing t with
  | nil => exact h
  | cons x rest ih => exact ih (h.hit x)

theorem Matches.reset (h : t.Matches l) : t.reset.Matches l := by
  refine h.of_eq rfl rfl ?_ rfl h.size_map h.size_fallback h.routed.reset
  show (t.copies.map _).map TraceCopy.registered = _
  rw [Array.map_map]
  refine Array.map_congr_left fun c _ => ?_
  show (if c.registered then _ else c : TraceCopy).registered = c.registered
  split <;> rfl

theorem Matches.resetCopy (h : t.Matches l) (index : Nat) : (t.resetCopy index).Matches l := by
  refine h.of_eq rfl rfl ?_ rfl h.size_map h.size_fallback (h.routed.resetCopy index)
  rw [Tracing.resetCopy]
  dsimp only
  exact map_modify_of_eq t.copies index fun _ => rfl

/-! ### Operations that are entered -/

theorem Matches.addCopy (h : t.Matches l) :
    t.addCopy.1.Matches { l with registered := l.registered.push false } where
  live := h.live
  begun := h.begun
  registered := by
    show (t.copies.push {}).map TraceCopy.registered = _
    rw [Array.map_push, h.registered]
  observer := h.observer
  routed := h.routed.addCopy
  token_lt := h.token_lt
  size_map := h.size_map
  size_fallback := h.size_fallback

theorem Matches.register (h : t.Matches l) (index : Nat) :
    (t.register index).Matches
      { l with registered := l.registered.modify index fun _ => true } where
  live := h.live
  begun := h.begun
  registered := by
    rw [← h.registered, Tracing.register]
    refine Array.ext_getElem? fun i => ?_
    dsimp only
    rw [Array.getElem?_map, Array.getElem?_modify, Array.getElem?_modify, Array.getElem?_map]
    split
    · rcases t.copies[i]? with - | c <;> rfl
    · rfl
  observer := h.observer
  routed := h.routed.register index
  token_lt := h.token_lt
  size_map := h.size_map
  size_fallback := h.size_fallback

theorem registered_redirect (t : Tracing) :
    t.redirect.copies.map TraceCopy.registered = t.copies.map TraceCopy.registered := by
  show (t.copies.map _).map TraceCopy.registered = _
  rw [Array.map_map]
  refine Array.map_congr_left fun c _ => ?_
  show (if c.registered then _ else c : TraceCopy).registered = c.registered
  split <;> rfl

theorem Matches.drop (h : t.Matches l) (token : Nat) :
    (t.drop token).Matches { l with live := l.live.filter (·.token ≠ token) } where
  live := congrArg (List.filter fun c : Context => c.token ≠ token) h.live
  begun := h.begun
  registered := (registered_redirect _).trans h.registered
  observer := by
    rw [Tracing.drop, h.live]
    rfl
  routed := h.routed.drop token
  token_lt := fun c hc => h.token_lt c (List.mem_filter.mp hc).1
  size_map := h.size_map
  size_fallback := h.size_fallback

theorem install?_of_size {map : CoverageMap} (hsize : map.size = mapSize)
    (observer : Option Observer) :
    t.install? map observer = some (redirect
      { t with maps := t.maps.push map, live := ⟨t.maps.size, observer⟩ :: t.live }, t.maps.size) :=
  if_pos hsize

/-- A map of the wrong size is refused. -/
theorem install?_of_ne {map : CoverageMap} (hsize : map.size ≠ mapSize)
    (observer : Option Observer) : t.install? map observer = none :=
  if_neg hsize

theorem Matches.install (h : t.Matches l) {map : CoverageMap} (hsize : map.size = mapSize)
    {observer : Option Observer} {token : Nat}
    (hinstall : t.install? map observer = some (t', token)) :
    t'.Matches { l with begun := l.begun + 1, live := ⟨l.begun, observer⟩ :: l.live } := by
  have hrouted := h.routed.install hinstall
  have hlive : (⟨t.maps.size, observer⟩ :: t.live : List Context)
      = ⟨l.begun, observer⟩ :: l.live := by
    rw [h.begun, h.live]
  rw [install?_of_size hsize] at hinstall
  cases hinstall
  refine ⟨hlive, ?_, (registered_redirect _).trans h.registered, ?_, hrouted, ?_, ?_,
    h.size_fallback⟩
  · show (t.maps.push map).size = l.begun + 1
    rw [Array.size_push, h.begun]
  · exact congrArg (List.findSome? fun c : Context => c.observer.map (c.token, ·)) hlive
  · -- tokens are given out in order
    intro c hc
    rcases List.mem_cons.mp hc with rfl | hold
    · exact Nat.lt_succ_self l.begun
    · exact Nat.lt_succ_of_lt (h.token_lt c hold)
  · intro token new hnew
    have hnew : (t.maps.push map)[token]? = some new := hnew
    rw [Array.getElem?_push] at hnew
    split at hnew
    · cases hnew
      exact hsize
    · exact h.size_map token new hnew

/-! ### Histories -/

/-- One operation keeps states and ledger in step. -/
theorem Matches.perform (h : t.Matches l) (op : Operation) :
    (t.perform op).Matches (l.enter op) := by
  cases op with
  | install map observer =>
    rw [Tracing.perform, Ledger.enter]
    by_cases hsize : map.size = mapSize
    · rw [if_pos hsize, install?_of_size hsize]
      exact h.install hsize (install?_of_size hsize observer)
    · rw [if_neg hsize, install?_of_ne hsize]
      exact h
  | drop token => exact h.drop token
  | clear token => exact h.clear token
  | addCopy => exact h.addCopy
  | register index => exact h.register index
  | hit x => exact h.hit x
  | reset => exact h.reset
  | resetCopy index => exact h.resetCopy index

theorem Matches.performAll (h : t.Matches l) (history : List Operation) :
    (t.performAll history).Matches (l.enterAll history) := by
  induction history generalizing t l with
  | nil => exact h
  | cons op rest ih => exact ih (h.perform op)

/-- Whatever state is reachable, some ledger is in step with it. -/
theorem Reachable.exists_matches (h : t.Reachable) : ∃ l, t.Matches l := by
  induction h with
  | start => exact ⟨_, matches_start⟩
  | addCopy _ ih => exact ih.imp' _ fun _ h => h.addCopy
  | register index _ ih => exact ih.imp' _ fun _ h => h.register index
  | hit x _ ih => exact ih.imp fun _ h => h.hit x
  | reset _ ih => exact ih.imp fun _ h => h.reset
  | resetCopy index _ ih => exact ih.imp fun _ h => h.resetCopy index
  | @install t t' map observer token hinstall _ ih =>
    obtain ⟨l, h⟩ := ih
    by_cases hsize : map.size = mapSize
    · exact ⟨_, h.install hsize hinstall⟩
    · rw [install?_of_ne hsize] at hinstall
      cases hinstall
  | drop token _ ih => exact ih.imp' _ fun _ h => h.drop token
  | clear token _ ih => exact ih.imp fun _ h => h.clear token

end Tracing

end BranchCoverage
