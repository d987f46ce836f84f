/-
Reports one behind another on a channel can be told apart.

A report is read in parts, each of which says how much of the channel it takes.
Two things are proved of every part.  Forwards, its bytes are taken whatever
stands behind them, and nothing less than all of them is (`Frames`).  Backwards,
what a part was read from are its bytes and no others (`Spells`).  Both go from
parts to what is read in turn (`Frames.bind`, `Spells.bind`), and so up to
reports and to rows of reports.

The one thing that cannot be told from a report is what was written for the
length of a text that is not there: any negative number reads like 0.
-/
import BranchCoverage.Proofs.Channel
import BranchCoverage.Proofs.Text.Utf8
import BranchCoverage.Remote.Protocol

namespace BranchCoverage

/-! ### Readers -/

/-- What reads something from a channel. -/
abbrev Source.Reader (α : Type) := Source → Except ProtocolError α × Source

namespace Source.Reader

variable {α β : Type}

/-- Reads nothing. -/
def done (x : α) : Reader α := fun s => (.ok x, s)

/-- Reads one thing after another. -/
def bind (p : Reader α) (f : α → Reader β) : Reader β := fun s =>
  match p s with
  | (.error e, s) => (.error e, s)
  | (.ok x, s) => f x s

/-- A reader whose failures are failures of the channel. -/
def ofChannel (p : Source → Except IoError α × Source) : Reader α := fun s =>
  match p s with
  | (.error e, s) => (.error (.io e), s)
  | (.ok x, s) => (.ok x, s)

/-! ### Forwards -/

/-- These bytes are read as the value whatever stands behind them, and a channel
that ends within them has ended too early. -/
structure Frames (p : Reader α) (bytes : List UInt8) (x : α) : Prop where
  takes : ∀ rest failure, p ⟨bytes ++ rest, failure⟩ = (.ok x, ⟨rest, failure⟩)
  refuses : ∀ part, part <+: bytes → part ≠ bytes →
    (p ⟨part, none⟩).1 = .error (.io .endOfInput)

variable {p : Reader α} {f : α → Reader β} {bytes bytes' : List UInt8} {x : α} {y : β}

theorem Frames.done (x : α) : Frames (Reader.done x) [] x where
  takes _ _ := rfl
  refuses _ hpart hne := absurd (List.prefix_nil.mp hpart) hne

/-- Behind the bytes of a first part, what is read is what comes next. -/
theorem Frames.bind_run (h : Frames p bytes x) (f : α → Reader β) (rest : List UInt8)
    (failure : Option String) : p.bind f ⟨bytes ++ rest, failure⟩ = f x ⟨rest, failure⟩ := by
  rw [Reader.bind, h.takes]

theorem Frames.bind (h : Frames p bytes x) (hf : Frames (f x) bytes' y) :
    Frames (p.bind f) (bytes ++ bytes') y where
  takes rest failure := by
    rw [List.append_assoc, h.bind_run]
    exact hf.takes rest failure
  refuses part hpart hne := by
    rw [Reader.bind]
    have hbytes : bytes <+: bytes ++ bytes' := List.prefix_append _ _
    by_cases hshort : part.length < bytes.length
    · -- the channel ends within the first of the two
      have hfirst : part <+: bytes :=
        List.prefix_of_prefix_length_le hpart hbytes (Nat.le_of_lt hshort)
      have hpartNe : part ≠ bytes := fun heq => absurd (heq ▸ hshort) (Nat.lt_irrefl _)
      have hrefused := h.refuses part hfirst hpartNe
      rcases hrun : p ⟨part, none⟩ with ⟨e | x', s⟩ <;> rw [hrun] at hrefused
      · obtain rfl := Except.error.inj hrefused
        rfl
      · cases hrefused
    · -- it ends within the second
      obtain ⟨tail, rfl⟩ :=
        List.prefix_of_prefix_length_le hbytes hpart (Nat.not_lt.mp hshort)
      rw [h.takes]
      exact hf.refuses tail ((List.prefix_append_right_inj bytes).mp hpart)
        fun heq => hne (congrArg (bytes ++ ·) heq)

/-- What is done with a value takes no more bytes. -/
theorem Frames.bind_done (h : Frames p bytes x) (g : α → β) :
    Frames (p.bind fun x => Reader.done (g x)) bytes (g x) := by
  have hboth := h.bind (f := fun x => Reader.done (g x)) (Frames.done (g x))
  rw [List.append_nil] at hboth
  exact hboth

/-- A first part of bytes that is not all of them is shorter. -/
theorem length_lt_of_part {part : List UInt8} (hpart : part <+: bytes) (hne : part ≠ bytes) :
    part.length < bytes.length :=
  Nat.lt_of_le_of_ne hpart.length_le fun heq => hne (hpart.eq_of_length heq)

theorem frames_readWord (word : Int32) :
    Frames (ofChannel Source.readWord) (Word.encode word) word where
  takes rest failure := by rw [ofChannel, readWord_encode]
  refuses part hpart hne := by
    rw [ofChannel, readWord_of_lt (length_lt_of_part hpart hne)]
    rfl

theorem frames_read {n : Nat} (h : bytes.length = n) :
    Frames (ofChannel (Source.read n)) bytes bytes where
  takes rest failure := by rw [ofChannel, read_append h]
  refuses part hpart hne := by
    rw [ofChannel, read_of_lt (h ▸ length_lt_of_part hpart hne)]
    rfl

/-! ### Backwards -/

/-- Whatever is read as a value stands before the rest in the channel, and these
are bytes that the value has. -/
def Spells (p : Reader α) (spelling : List UInt8 → α → Prop) : Prop :=
  ∀ s x s', p s = (.ok x, s') →
    ∃ bytes, s.bytes = bytes ++ s'.bytes ∧ s'.failure = s.failure ∧ spelling bytes x

theorem Spells.imp {spelling spelling' : List UInt8 → α → Prop} (h : Spells p spelling)
    (himp : ∀ bytes x, spelling bytes x → spelling' bytes x) : Spells p spelling' := by
  intro s x s' hrun
  obtain ⟨bytes, hbytes, hfailure, hspelled⟩ := h s x s' hrun
  exact ⟨bytes, hbytes, hfailure, himp bytes x hspelled⟩

theorem Spells.done (x : α) : Spells (Reader.done x) fun bytes y => bytes = [] ∧ y = x := by
  rintro s y s' ⟨⟩
  exact ⟨[], rfl, rfl, rfl, rfl⟩

theorem Spells.bind {spelling : List UInt8 → α → Prop} {spelling' : α → List UInt8 → β → Prop}
    (h : Spells p spelling) (hf : ∀ x, Spells (f x) (spelling' x)) :
    Spells (p.bind f) fun bytes y =>
      ∃ first second x, bytes = first ++ second ∧ spelling first x ∧ spelling' x second y := by
  intro s y s' hrun
  rw [Reader.bind] at hrun
  rcases hfirst : p s with ⟨e | x, s₁⟩ <;> rw [hfirst] at hrun
  · cases hrun
  · obtain ⟨first, hbytes, hfailure, hspelled⟩ := h s x s₁ hfirst
    obtain ⟨second, hbytes', hfailure', hspelled'⟩ := hf x s₁ y s' hrun
    refine ⟨first ++ second, ?_, hfailure'.trans hfailure, first, second, x, rfl, hspelled,
      hspelled'⟩
    rw [hbytes, hbytes', List.append_assoc]

theorem spells_readWord :
    Spells (ofChannel Source.readWord) fun bytes word => bytes = Word.encode word := by
  intro s word s' hrun
  rw [ofChannel] at hrun
  rcases hread : s.readWord with ⟨e | word', s₁⟩ <;> rw [hread] at hrun
  · cases hrun
  · cases hrun
    obtain ⟨hbytes, hfailure⟩ := bytes_of_readWord hread
    exact ⟨_, hbytes, hfailure, rfl⟩

theorem spells_read (n : Nat) :
    Spells (ofChannel (Source.read n)) fun bytes x => bytes = x ∧ x.length = n := by
  intro s x s' hrun
  rw [ofChannel] at hrun
  rcases hread : s.read n with ⟨e | x', s₁⟩ <;> rw [hread] at hrun
  · cases hrun
  · cases hrun
    obtain ⟨hbytes, hfailure⟩ := bytes_of_read hread
    exact ⟨_, hbytes, hfailure, rfl, length_of_read hread⟩

end Source.Reader

open Source.Reader (Frames Spells)

/-! ### Reports -/

namespace Report

variable {r : Report} {rs : List Report}

/-- A report that the other side reads: its map has the right size, and its text
is not too long. -/
structure Readable (r : Report) : Prop where
  size : r.coverage.size = mapSize
  locations_le : r.locations.utf8ByteSize ≤ maxLocations

/-- The length of the locations, as it is sent. -/
def length (r : Report) : Int32 :=
  Int32.ofNat r.locations.utf8ByteSize

/-- The bytes of a report with some word for the length of its locations. -/
def wire (r : Report) (length : Int32) : List UInt8 :=
  Word.encode r.fault ++ (r.coverage.toList ++ (Word.encode length ++
    Text.Utf8.encode r.locations))

/-- Reading a report is reading its four parts in turn. -/
theorem read_eq :
    read = (Source.Reader.ofChannel Source.readWord).bind fun fault =>
      (Source.Reader.ofChannel (Source.read mapSize)).bind fun coverage =>
        (Source.Reader.ofChannel Source.readWord).bind fun length =>
          Source.Reader.bind (readLocations length) fun locations =>
            .done ⟨fault, coverage.toArray, locations⟩ := by
  funext s
  simp only [read, Source.Reader.bind, Source.Reader.ofChannel, Source.Reader.done]
  rcases s.readWord with ⟨e | fault, s⟩
  · rfl
  dsimp only
  rcases s.read mapSize with ⟨e | coverage, s⟩
  · rfl
  dsimp only
  rcases s.readWord with ⟨e | length, s⟩
  · rfl
  dsimp only
  rcases readLocations length s with ⟨e | locations, s⟩ <;> rfl

/-- The word for a length that locations may have is this length. -/
theorem toInt_ofNat_of_le {n : Nat} (h : n ≤ maxLocations) : (Int32.ofNat n).toInt = n := by
  have hmax : maxLocations < 2 ^ 31 := by decide
  exact Int32.toInt_ofNat_of_lt (Nat.lt_of_le_of_lt h hmax)

/-- Reads nothing more, and gives the text of bytes. -/
def textOf (bytes : List UInt8) : Source.Reader String := fun s =>
  match Text.Utf8.decode bytes with
  | .ok text => (.ok text, s)
  | .error flaw => (.error (.locationText flaw), s)

/-- Locations of a length above zero are so many bytes, read as a text. -/
theorem readLocations_eq {length : Int32} (hpos : 0 < length.toInt)
    (hle : length.toInt.toNat ≤ maxLocations) :
    readLocations length
      = (Source.Reader.ofChannel (Source.read length.toInt.toNat)).bind textOf := by
  funext s
  rw [readLocations, if_neg (Int.not_le.mpr hpos), if_neg (Nat.not_lt.mpr hle),
    Source.Reader.bind, Source.Reader.ofChannel]
  rcases s.read length.toInt.toNat with ⟨e | bytes, s⟩ <;> rfl

/-- What may stand in front of locations: their length, or anything below zero if
there are none. -/
def Announces (length : Int32) (text : String) : Prop :=
  length = Int32.ofNat text.utf8ByteSize ∨ length < 0 ∧ text = ""

/-- All that is lost of what is announced is that it was below zero. -/
theorem Announces.eq_length {length : Int32} {text : String} (h : Announces length text)
    (hle : text.utf8ByteSize ≤ maxLocations) :
    (if length < 0 then 0 else length) = Int32.ofNat text.utf8ByteSize := by
  rcases h with rfl | ⟨hneg, rfl⟩
  · have hnonneg : ¬ Int32.ofNat text.utf8ByteSize < 0 := by
      rw [Int32.lt_iff_toInt_lt, toInt_ofNat_of_le hle]
      exact Int.not_lt.mpr (Int.natCast_nonneg _)
    exact if_neg hnonneg
  · exact if_pos hneg

theorem frames_readLocations {length : Int32} {text : String} (hlength : Announces length text)
    (hle : text.utf8ByteSize ≤ maxLocations) :
    Frames (readLocations length) (Text.Utf8.encode text) text := by
  by_cases hpos : 0 < length.toInt
  · -- as many bytes are read as the text has
    have hbytes : (Text.Utf8.encode text).length = length.toInt.toNat := by
      rcases hlength with rfl | ⟨hneg, -⟩
      · rw [toInt_ofNat_of_le hle, Text.Utf8.length_encode_text, Int.toNat_natCast]
      · exact absurd (Int32.lt_iff_toInt_lt.mp hneg) (Int.not_lt.mpr (Int.le_of_lt hpos))
    have htext : Frames (textOf (Text.Utf8.encode text)) [] text := by
      unfold textOf
      rw [Text.Utf8.decode_encode]
      exact .done text
    rw [readLocations_eq hpos (hbytes ▸ hle)]
    have hboth := (Source.Reader.frames_read hbytes).bind htext
    rw [List.append_nil] at hboth
    exact hboth
  · -- nothing is read, and there is nothing to read
    have hempty : text = "" := by
      rcases hlength with rfl | ⟨-, hempty⟩
      · rw [toInt_ofNat_of_le hle] at hpos
        exact String.utf8ByteSize_eq_zero_iff.mp (by omega)
      · exact hempty
    have hrun : readLocations length = Source.Reader.done "" :=
      funext fun s => if_pos (Int.not_lt.mp hpos)
    rw [hrun, hempty]
    exact .done ""

/-- A readable report is read from its bytes. -/
theorem frames_read (h : r.Readable) {length : Int32} (hlength : Announces length r.locations) :
    Frames read (r.wire length) r := by
  have hsize : r.coverage.toList.length = mapSize := h.size
  have hlocations := (frames_readLocations hlength h.locations_le).bind_done
    fun locations => (⟨r.fault, r.coverage.toList.toArray, locations⟩ : Report)
  have hreport : (⟨r.fault, r.coverage.toList.toArray, r.locations⟩ : Report) = r := by
    rw [Array.toArray_toList]
  rw [hreport] at hlocations
  rw [read_eq]
  refine (Source.Reader.frames_readWord r.fault).bind ?_
  refine (Source.Reader.frames_read hsize).bind ?_
  exact (Source.Reader.frames_readWord length).bind hlocations

theorem spells_textOf (bytes : List UInt8) :
    Spells (textOf bytes) fun none text => none = [] ∧ bytes = Text.Utf8.encode text := by
  intro s text s' hrun
  rw [textOf] at hrun
  rcases htext : Text.Utf8.decode bytes with flaw | text' <;> rw [htext] at hrun
  · cases hrun
  · cases hrun
    exact ⟨[], rfl, rfl, rfl, (Text.Utf8.encode_of_decode htext).symm⟩

/-- Locations are read from their bytes only, behind a word that announces them. -/
theorem spells_readLocations (length : Int32) :
    Spells (readLocations length) fun bytes text => bytes = Text.Utf8.encode text ∧
      text.utf8ByteSize ≤ maxLocations ∧ Announces length text := by
  by_cases hpos : 0 < length.toInt
  · by_cases hle : length.toInt.toNat ≤ maxLocations
    · -- the length of what was read is the one that was announced
      rw [readLocations_eq hpos hle]
      refine ((Source.Reader.spells_read _).bind spells_textOf).imp ?_
      rintro bytes text ⟨first, second, x, rfl, ⟨rfl, hlength⟩, rfl, rfl⟩
      rw [Text.Utf8.length_encode_text] at hlength
      refine ⟨List.append_nil _, hlength ▸ hle, .inl ?_⟩
      rw [hlength, ← Int32.ofInt_eq_ofNat, Int.toNat_of_nonneg (Int.le_of_lt hpos),
        Int32.ofInt_toInt]
    · -- a text that is too long is not read
      intro s text s' hrun
      rw [readLocations, if_neg (Int.not_le.mpr hpos), if_pos (Nat.not_le.mp hle)] at hrun
      cases hrun
  · -- nothing was read, and what announced it was 0 or below
    intro s text s' hrun
    rw [readLocations, if_pos (Int.not_lt.mp hpos)] at hrun
    cases hrun
    refine ⟨[], rfl, rfl, rfl, Nat.zero_le _, ?_⟩
    rcases Int.lt_or_eq_of_le (Int.not_lt.mp hpos) with hneg | hzero
    · exact .inr ⟨Int32.lt_iff_toInt_lt.mpr hneg, rfl⟩
    · exact .inl (Int32.toInt_inj.mp hzero)

/-- A report is read from its bytes only. -/
theorem spells_read :
    Spells read fun bytes r => r.Readable ∧
      ∃ length, bytes = r.wire length ∧ Announces length r.locations := by
  rw [read_eq]
  refine (Source.Reader.spells_readWord.bind fun fault =>
    (Source.Reader.spells_read mapSize).bind fun coverage =>
      Source.Reader.spells_readWord.bind fun length =>
        (spells_readLocations length).bind fun locations => Spells.done _).imp ?_
  rintro bytes r ⟨_, _, fault, rfl, rfl, _, _, coverage, rfl, ⟨rfl, hsize⟩, _, _, length, rfl, rfl,
    _, _, locations, rfl, ⟨rfl, hle, hlength⟩, rfl, rfl⟩
  refine ⟨⟨hsize, hle⟩, length, ?_, hlength⟩
  rw [List.append_nil]
  rfl

/-! ### Writing -/

/-- Written to a channel that has room, the report is these bytes. -/
def WrittenAs (r : Report) (bytes : List UInt8) : Prop :=
  ∀ o : Outlet, o.limit = none → r.write o = (.ok (), { o with sent := o.sent ++ bytes })

/-- A report has bytes if its map has the right size and its length fits in a word. -/
theorem encode_of_lt (hsize : r.coverage.size = mapSize)
    (hlt : r.locations.utf8ByteSize < 1 <<< 31) : r.encode = .ok (r.wire r.length) := by
  rw [encode, if_neg (not_not_intro hsize)]
  dsimp only
  rw [if_pos hlt, wire, List.append_assoc, List.append_assoc]
  rfl

theorem writtenAs_of_lt (hsize : r.coverage.size = mapSize)
    (hlt : r.locations.utf8ByteSize < 1 <<< 31) : r.WrittenAs (r.wire r.length) := by
  intro o ho
  rw [write, encode_of_lt hsize hlt]
  dsimp only
  rw [Outlet.write_of_limit ho]

theorem writtenAs_of_readable (h : r.Readable) : r.WrittenAs (r.wire r.length) :=
  writtenAs_of_lt h.size (Nat.lt_of_le_of_lt h.locations_le (by decide))

/-! ### Reports in a row -/

/-- Sends reports one after another. -/
def writeAll : List Report → Outlet → Except ProtocolError Unit × Outlet
  | [], o => (.ok (), o)
  | r :: rest, o =>
    match r.write o with
    | (.error e, o) => (.error e, o)
    | (.ok (), o) => writeAll rest o

/-- Reads so many reports. -/
def readAll : Nat → Source.Reader (List Report)
  | 0 => .done []
  | n + 1 => Source.Reader.bind read fun r => (readAll n).bind fun rest => .done (r :: rest)

/-- The bytes of reports in a row. -/
def wireAll (rs : List Report) : List UInt8 :=
  rs.flatMap fun r => r.wire r.length

theorem frames_readAll (h : ∀ r ∈ rs, r.Readable) : Frames (readAll rs.length) (wireAll rs) rs := by
  induction rs with
  | nil => exact .done []
  | cons r rest ih =>
    obtain ⟨hr, hrest⟩ := List.forall_mem_cons.mp h
    exact (frames_read hr (.inl rfl)).bind ((ih hrest).bind_done (r :: ·))

theorem writeAll_of_readable (h : ∀ r ∈ rs, r.Readable) {o : Outlet} (ho : o.limit = none) :
    writeAll rs o = (.ok (), { o with sent := o.sent ++ wireAll rs }) := by
  induction rs generalizing o with
  | nil =>
    rw [wireAll, List.flatMap_nil, List.append_nil]
    rfl
  | cons r rest ih =>
    obtain ⟨hr, hrest⟩ := List.forall_mem_cons.mp h
    have hbehind := ih hrest (o := { o with sent := o.sent ++ r.wire r.length }) ho
    rw [writeAll, writtenAs_of_readable hr o ho]
    dsimp only
    rw [hbehind, wireAll, wireAll, List.flatMap_cons, List.append_assoc]

/-- **Reports frame a channel without ambiguity.**  What was written in a row is
read in a row, whatever stands behind it; a report that is cut short is refused;
and what is read is what would be written, but that a length below zero comes
back as 0. -/
theorem frames_channel :
    (∀ rs : List Report, (∀ r ∈ rs, r.Readable) → ∃ bytes,
      (∀ o : Outlet, o.limit = none →
        writeAll rs o = (.ok (), { o with sent := o.sent ++ bytes })) ∧
      ∀ rest failure, readAll rs.length ⟨bytes ++ rest, failure⟩ = (.ok rs, ⟨rest, failure⟩)) ∧
    (∀ (r : Report) (bytes part : List UInt8), r.Readable → r.WrittenAs bytes → part <+: bytes →
      part ≠ bytes → (read ⟨part, none⟩).1 = .error (.io .endOfInput)) ∧
    (∀ (s s' : Source) (r : Report), read s = (.ok r, s') → ∃ length : Int32,
      s.bytes = r.wire length ++ s'.bytes ∧ s'.failure = s.failure ∧
        r.WrittenAs (r.wire (if length < 0 then 0 else length))) := by
  refine ⟨fun rs hrs => ?_, fun r bytes part hr hbytes hpart hne => ?_, fun s s' r hread => ?_⟩
  · exact ⟨wireAll rs, fun o ho => writeAll_of_readable hrs ho, (frames_readAll hrs).takes⟩
  · -- a report is written as its bytes, and as no others
    have hwire : bytes = r.wire r.length := by
      have hboth := (hbytes {} rfl).symm.trans (writtenAs_of_readable hr {} rfl)
      simpa using hboth
    subst hwire
    exact (frames_read hr (.inl rfl)).refuses part hpart hne
  · obtain ⟨_, hbytes, hfailure, hreadable, length, rfl, hlength⟩ := spells_read s r s' hread
    refine ⟨length, hbytes, hfailure, ?_⟩
    rw [hlength.eq_length hreadable.locations_le]
    exact writtenAs_of_readable hreadable

/-- A report with a text that has more bytes than characters in front of one with
none; the first cut off behind its fault; and the second with a length below zero. -/
theorem gauge_frames_channel :
    let gauge : Report := ⟨-2, .zero, "Größe;3\n"⟩
    let bare : Report := ⟨0, .zero, ""⟩
    let part := Word.encode (-2)
    let s : Source := ⟨bare.wire (-1) ++ [7], none⟩
    ((∀ r ∈ [gauge, bare], r.Readable) ∧ ∃ bytes,
      (∀ o : Outlet, o.limit = none →
        writeAll [gauge, bare] o = (.ok (), { o with sent := o.sent ++ bytes })) ∧
      ∀ rest failure, readAll 2 ⟨bytes ++ rest, failure⟩ = (.ok [gauge, bare], ⟨rest, failure⟩)) ∧
    (gauge.WrittenAs (gauge.wire gauge.length) ∧ part <+: gauge.wire gauge.length ∧
      part ≠ gauge.wire gauge.length ∧ (read ⟨part, none⟩).1 = .error (.io .endOfInput)) ∧
    read s = (.ok bare, ⟨[7], none⟩) ∧ ∃ length : Int32,
      s.bytes = bare.wire length ++ [7] ∧ s.failure = none ∧
        bare.WrittenAs (bare.wire (if length < 0 then 0 else length)) := by
  intro gauge bare part s
  have hgauge : gauge.Readable := ⟨Array.size_replicate, by decide⟩
  have hbare : bare.Readable := ⟨Array.size_replicate, by decide⟩
  have hall : ∀ r ∈ [gauge, bare], r.Readable :=
    List.forall_mem_cons.mpr ⟨hgauge, List.forall_mem_singleton.mpr hbare⟩
  have hwritten := writtenAs_of_readable hgauge
  have hpart : part <+: gauge.wire gauge.length := List.prefix_append _ _
  have hne : part ≠ gauge.wire gauge.length := by
    intro heq
    have hnil := List.self_eq_append_right.mp heq
    exact absurd (List.append_eq_nil_iff.mp (List.append_eq_nil_iff.mp hnil).2).1
      (List.cons_ne_nil _ _)
  have hread : read s = (.ok bare, ⟨[7], none⟩) :=
    (frames_read hbare (.inr ⟨by decide, rfl⟩)).takes [7] none
  obtain ⟨hrow, hcut, hback⟩ := frames_channel
  exact ⟨⟨hall, hrow _ hall⟩,
    ⟨hwritten, hpart, hne, hcut gauge _ part hgauge hwritten hpart hne⟩,
    hread, hback s ⟨[7], none⟩ bare hread⟩

end Report

end BranchCoverage
