/-
Identifiers for branch sites.

An identifier is the low bits of a pseudorandom word.  One that was issued
before is drawn again, up to ten times; after that it is issued once more, so
collisions are rare but possible, and a generator never runs dry.
-/
import BranchCoverage.Identifier.Stream
import Std.Data.HashSet

namespace BranchCoverage.Identifier

/-- The number of bits of an identifier. -/
structure Width where
  bits : Nat
  pos : 1 ≤ bits := by decide
  le : bits ≤ 31 := by decide

namespace Width

/-- The width of so many bits, if identifiers can have it. -/
def ofBits? (bits : Nat) : Option Width :=
  if h : 1 ≤ bits ∧ bits ≤ 31 then some ⟨bits, h.1, h.2⟩ else none

/-- What is wrong with a width that identifiers cannot have. -/
def refusal : String :=
  "Identifier width must be between 1 and 31 bits"

/-- The width of the counter discipline. -/
def counter : Width := ⟨8, by decide, by decide⟩

/-- The width of the bitset discipline. -/
def bitset : Width := ⟨20, by decide, by decide⟩

/-- The bits of a word that an identifier keeps. -/
def mask (w : Width) : UInt32 :=
  (1 <<< UInt32.ofNat w.bits) - 1

end Width

/-- How often a word is drawn for one identifier at most. -/
def attempts : Nat := 10

/-- A generator of identifiers over a source of words. -/
structure Generator (ω : Type) where
  source : ω
  issued : Std.HashSet UInt32
  width : Width

namespace Generator

variable {ω : Type} [WordSource ω]

/-- A generator that has issued nothing yet. -/
def ofSource (source : ω) (width : Width) : Generator ω :=
  ⟨source, ∅, width⟩

/-- Draws until an identifier is new, `tries + 1` times at most. -/
def draw (width : Width) (issued : Std.HashSet UInt32) : Nat → ω → UInt32 × ω
  | 0, source =>
    let (word, source) := WordSource.next source
    (word &&& width.mask, source)
  | tries + 1, source =>
    let (word, source) := WordSource.next source
    let id := word &&& width.mask
    if issued.contains id then draw width issued tries source else (id, source)

/-- The next identifier. -/
def next (g : Generator ω) : UInt32 × Generator ω :=
  let (id, source) := draw g.width g.issued (attempts - 1) g.source
  (id, { g with source, issued := g.issued.insert id })

/-- The next identifiers, so many of them. -/
def take : Nat → Generator ω → List UInt32 × Generator ω
  | 0, g => ([], g)
  | n + 1, g =>
    let (id, g) := g.next
    let (ids, g) := take n g
    (id :: ids, g)

/-- The generator behind so many identifiers. -/
def skip : Nat → Generator ω → Generator ω
  | 0, g => g
  | n + 1, g => skip n g.next.2

end Generator

/-- The seed of the identifiers of every instrumentation run. -/
def seed : UInt64 := 0x130f4c29

/-- A generator over the words that every instrumentation run begins with. -/
def fresh (width : Width) : Generator Stream :=
  Generator.ofSource (Stream.ofSeed seed) width

end BranchCoverage.Identifier
