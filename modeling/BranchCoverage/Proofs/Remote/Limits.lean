/-
How long the locations of a report may be, to its writer and to its reader.

A report is written if a word holds the length of its locations, but it is read
only if this length is `maxLocations` at most.  From one limit to the other stand
reports that an agent sends whole and that its controller refuses (`read_wire`,
`not_returns`); on either side of them the two agree (`returns_iff`).
-/
import BranchCoverage.Proofs.Remote.Framing
import BranchCoverage.Proofs.Step
import BranchCoverage.Remote.Agent
import BranchCoverage.Remote.Client

namespace BranchCoverage

namespace Report

variable {r : Report}

/-! ### Writing -/

/-- Of a report whose length no word holds there are no bytes. -/
theorem encode_of_le (hsize : r.coverage.size = mapSize)
    (hle : 1 <<< 31 ≤ r.locations.utf8ByteSize) :
    r.encode = .error (.locationLength r.locations.utf8ByteSize) := by
  rw [encode, if_neg (not_not_intro hsize)]
  exact if_neg (Nat.not_lt.mpr hle)

theorem write_of_le (hsize : r.coverage.size = mapSize)
    (hle : 1 <<< 31 ≤ r.locations.utf8ByteSize) (o : Outlet) :
    r.write o = (.error (.locationLength r.locations.utf8ByteSize), o) := by
  rw [write, encode_of_le hsize hle]

/-- What has been written are the bytes of the report. -/
theorem sent_of_write (hsize : r.coverage.size = mapSize) {o o' : Outlet}
    (h : r.write o = (.ok (), o')) :
    r.locations.utf8ByteSize < 1 <<< 31 ∧ o'.sent = o.sent ++ r.wire r.length := by
  rcases Nat.lt_or_ge r.locations.utf8ByteSize (1 <<< 31) with hlt | hle
  · refine ⟨hlt, ?_⟩
    rw [write, encode_of_lt hsize hlt] at h
    dsimp only at h
    rcases Outlet.write_cases (r.wire r.length) o with hwrite | ⟨e, part, -, hwrite⟩ <;>
      rw [hwrite] at h <;> cases h
    rfl
  · rw [write_of_le hsize hle] at h
    cases h

/-! ### Reading -/

/-- Locations that are announced as too long are left where they are. -/
theorem readLocations_of_lt {length : Int32} (h : maxLocations < length.toInt.toNat) (s : Source) :
    readLocations length s = (.error (.locationLength length.toInt), s) := by
  have hpos : ¬ length.toInt ≤ 0 := by
    intro hneg
    rw [Int.toNat_of_nonpos hneg] at h
    exact Nat.not_lt_zero _ h
  rw [readLocations, if_neg hpos, if_pos h]

/-- What is found where a report has been written: the report, or that it is too
long, with its locations still unread. -/
def found (r : Report) (rest : List UInt8) (failure : Option String) :
    Except ProtocolError Report × Source :=
  if r.locations.utf8ByteSize ≤ maxLocations then (.ok r, ⟨rest, failure⟩)
  else (.error (.locationLength r.locations.utf8ByteSize),
    ⟨Text.Utf8.encode r.locations ++ rest, failure⟩)

theorem read_wire (hsize : r.coverage.size = mapSize)
    (hlt : r.locations.utf8ByteSize < 1 <<< 31) (rest : List UInt8) (failure : Option String) :
    read ⟨r.wire r.length ++ rest, failure⟩ = r.found rest failure := by
  rcases Nat.lt_or_ge maxLocations r.locations.utf8ByteSize with hlong | hle
  · -- the reader goes on to the length, and no further
    have hcoverage : r.coverage.toList.length = mapSize := hsize
    have hlength : r.length.toInt = r.locations.utf8ByteSize := Int32.toInt_ofNat_of_lt hlt
    have hrefused : maxLocations < r.length.toInt.toNat := by
      rw [hlength, Int.toNat_natCast]
      exact hlong
    rw [found, if_neg (Nat.not_le.mpr hlong), read_eq, wire, List.append_assoc,
      (Source.Reader.frames_readWord r.fault).bind_run, List.append_assoc,
      (Source.Reader.frames_read hcoverage).bind_run, List.append_assoc,
      (Source.Reader.frames_readWord r.length).bind_run, Source.Reader.bind,
      readLocations_of_lt hrefused, hlength]
  · rw [found, if_pos hle]
    exact (frames_read ⟨hsize, hle⟩ (.inl rfl)).takes rest failure

theorem found_of_write (hsize : r.coverage.size = mapSize) {o o' : Outlet}
    (h : r.write o = (.ok (), o')) : ∃ bytes, o'.sent = o.sent ++ bytes ∧
      ∀ rest failure, read ⟨bytes ++ rest, failure⟩ = r.found rest failure := by
  obtain ⟨hlt, hsent⟩ := sent_of_write hsize h
  exact ⟨r.wire r.length, hsent, read_wire hsize hlt⟩

/-! ### The two limits -/

/-- Wherever the report has been written, it is what is read. -/
def Returns (r : Report) : Prop :=
  ∀ o o' : Outlet, r.write o = (.ok (), o') → ∃ bytes, o'.sent = o.sent ++ bytes ∧
    ∀ rest failure, read ⟨bytes ++ rest, failure⟩ = (.ok r, ⟨rest, failure⟩)

/-- A report that is written and too long to be read does not return. -/
theorem not_returns (hsize : r.coverage.size = mapSize)
    (hlt : r.locations.utf8ByteSize < 1 <<< 31) (hlong : maxLocations < r.locations.utf8ByteSize) :
    ¬ r.Returns := by
  intro hreturns
  have hwritten := writtenAs_of_lt hsize hlt {} rfl
  obtain ⟨bytes, hbytes, hread⟩ := hreturns {} _ hwritten
  obtain rfl : r.wire r.length = bytes := hbytes
  have hfound := (hread [] none).symm.trans (read_wire hsize hlt [] none)
  rw [found, if_neg (Nat.not_le.mpr hlong)] at hfound
  cases hfound

theorem returns_iff (hsize : r.coverage.size = mapSize) :
    r.Returns ↔ r.locations.utf8ByteSize ≤ maxLocations ∨ 1 <<< 31 ≤ r.locations.utf8ByteSize := by
  refine ⟨fun hreturns => ?_, fun hagree o o' hwrite => ?_⟩
  · rcases Nat.lt_or_ge r.locations.utf8ByteSize (1 <<< 31) with hlt | hle
    · exact .inl (Nat.not_lt.mp fun hlong => not_returns hsize hlt hlong hreturns)
    · exact .inr hle
  · -- what has been written is not beyond the limit of the writer
    obtain ⟨hlt, -⟩ := sent_of_write hsize hwrite
    have hle := hagree.resolve_right (Nat.not_le.mpr hlt)
    obtain ⟨bytes, hsent, hread⟩ := found_of_write hsize hwrite
    refine ⟨bytes, hsent, fun rest failure => ?_⟩
    rw [hread, found, if_pos hle]

/-! ### Agent and controller -/

/-- An agent that sends its report writes it. -/
theorem write_of_sendReport {σ : Type} {fault : Fault} {d d' : Desk σ}
    (h : Agent.sendReport fault d = .ok () d') :
    (d.process.report fault).write d.outgoing = (.ok (), d'.outgoing) := by
  have hget : (get : Agent.Serving σ (Desk σ)) d = .ok d d := rfl
  rw [Agent.sendReport, bind_of_ok hget] at h
  rw [write]
  rcases hencode : (d.process.report fault).encode with e | bytes <;> rw [hencode] at h
  · cases h
  · dsimp only at h ⊢
    rw [Agent.send] at h
    rcases hwrite : d.outgoing.write bytes with ⟨e | _, outgoing⟩ <;> rw [hwrite] at h <;> cases h
    rfl

/-- How far writer and reader agree on a report. -/
structure Limits (r : Report) : Prop where
  /-- A channel with room takes the report just if a word holds its length. -/
  written : ∀ o : Outlet, o.limit = none →
    ((r.write o).1 = .ok () ↔ r.locations.utf8ByteSize < 1 <<< 31)
  /-- Otherwise nothing of it is written, on any channel. -/
  refused : 1 <<< 31 ≤ r.locations.utf8ByteSize → ∀ o : Outlet,
    r.write o = (.error (.locationLength r.locations.utf8ByteSize), o)
  /-- Up to the limit of the reader it is read, and beyond that it is not. -/
  found : ∀ o o' : Outlet, r.write o = (.ok (), o') → ∃ bytes, o'.sent = o.sent ++ bytes ∧
    ∀ rest failure, read ⟨bytes ++ rest, failure⟩ = r.found rest failure
  /-- So it comes to the controller of an agent that sends it. -/
  answered : ∀ {σ : Type} (fault : Fault) (d d' : Desk σ), d.process.report fault = r →
    Agent.sendReport fault d = .ok () d' → ∃ bytes,
      d'.outgoing.sent = d.outgoing.sent ++ bytes ∧ ∀ rest failure outgoing,
        Link.receiveReport ⟨⟨bytes ++ rest, failure⟩, outgoing⟩ =
          if r.locations.utf8ByteSize ≤ maxLocations then .ok r ⟨⟨rest, failure⟩, outgoing⟩
          else .error (.locationLength r.locations.utf8ByteSize)
            ⟨⟨Text.Utf8.encode r.locations ++ rest, failure⟩, outgoing⟩
  /-- Between the limits, and only there, it is lost. -/
  returns : r.Returns ↔ r.locations.utf8ByteSize ≤ maxLocations ∨
    1 <<< 31 ≤ r.locations.utf8ByteSize

/-- **Writer and reader agree on all reports but those between their limits.**  A
report is written below 2 ^ 31 bytes of locations, and read up to `maxLocations` of
them; if there are more, what has been written is refused. -/
theorem limits (r : Report) (hsize : r.coverage.size = mapSize) : r.Limits where
  written o ho := by
    refine ⟨fun hok => (sent_of_write hsize (Prod.ext hok rfl)).1, fun hlt => ?_⟩
    rw [writtenAs_of_lt hsize hlt o ho]
  refused := write_of_le hsize
  found _ _ := found_of_write hsize
  answered fault d d' hreport hsend := by
    obtain ⟨bytes, hsent, hread⟩ := found_of_write hsize (hreport ▸ write_of_sendReport hsend)
    refine ⟨bytes, hsent, fun rest failure outgoing => ?_⟩
    rw [Link.receiveReport]
    dsimp only
    rw [hread, Report.found]
    by_cases hle : r.locations.utf8ByteSize ≤ maxLocations
    · rw [if_pos hle, if_pos hle]
    · rw [if_neg hle, if_neg hle]
  returns := returns_iff hsize

/-- A report whose text has more bytes than characters. -/
theorem gauge_limits :
    let gauge : Report := ⟨-2, .zero, "Größe;3\n"⟩
    gauge.coverage.size = mapSize ∧ gauge.Limits ∧ gauge.Returns := by
  intro gauge
  have hsize : gauge.coverage.size = mapSize := Array.size_replicate
  have hlimits := limits gauge hsize
  exact ⟨hsize, hlimits, hlimits.returns.mpr (.inl (by decide))⟩

/-- A text of so many letters has so many bytes. -/
theorem utf8ByteSize_replicate (n : Nat) :
    (String.ofList (List.replicate n 'A')).utf8ByteSize = n := by
  induction n with
  | zero => rfl
  | succ n ih =>
    rw [List.replicate_succ, String.ofList_cons, String.utf8ByteSize_append, ih]
    exact Nat.add_comm 1 n

/-- A report whose locations are one byte too long is written, and what is written is
refused. -/
theorem overlong_not_returned :
    let r : Report := ⟨0, .zero, String.ofList (List.replicate 67108865 'A')⟩
    r.coverage.size = mapSize ∧ (r.write {}).1 = .ok () ∧
      (read ⟨(r.write {}).2.sent, none⟩).1 = .error (.locationLength 67108865) ∧
      ¬ r.Returns := by
  -- nothing is asked of the text but how long it is
  have hall : ∀ text : String, text.utf8ByteSize = 67108865 →
      let r : Report := ⟨0, .zero, text⟩
      r.coverage.size = mapSize ∧ (r.write {}).1 = .ok () ∧
        (read ⟨(r.write {}).2.sent, none⟩).1 = .error (.locationLength 67108865) ∧
        ¬ r.Returns := by
    intro text hbytes r
    have hsize : r.coverage.size = mapSize := Array.size_replicate
    have hlt : r.locations.utf8ByteSize < 1 <<< 31 := lt_of_eq_of_lt hbytes (by decide)
    have hlong : maxLocations < r.locations.utf8ByteSize := lt_of_lt_of_eq (by decide) hbytes.symm
    have hwrite := writtenAs_of_lt hsize hlt {} rfl
    have hsent : (r.write {}).2.sent = r.wire r.length := by
      rw [hwrite]
      exact List.nil_append _
    have hread := read_wire hsize hlt [] none
    rw [List.append_nil, found, if_neg (Nat.not_le.mpr hlong), hbytes] at hread
    refine ⟨hsize, by rw [hwrite], ?_, not_returns hsize hlt hlong⟩
    rw [hsent, hread]
    rfl
  exact hall _ (utf8ByteSize_replicate _)

end Report

end BranchCoverage
