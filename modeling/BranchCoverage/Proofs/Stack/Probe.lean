/-
What the code of one probe does on the stack.

The pieces of a probe are run one after another: `run_hash` pushes the hash,
`run_cellAddress` the cell and its byte, `run_leaveTrace` moves the previous
location.  Together they give `run_code`: the code of a probe of any kind leaves
the stack as it was and records one hit of its discipline, as long as the trace
is ready for it.
-/
import BranchCoverage.Proofs.Stack.Machine
import BranchCoverage.Proofs.Stack.Word

namespace BranchCoverage

/-- The discipline that a probe of the kind follows. -/
def ProbeKind.discipline : ProbeKind → Discipline
  | .counter | .inline => .counter
  | .bitset | .inlineBitset => .bitset

namespace Stack.Machine

variable {traceType : TypeRef} {kind : ProbeKind} {stack : List Slot} {t : Tracing}
  {hash : UInt32}

/-! ### Pieces -/

theorem readField_memory (p : Probe) (m : Machine) :
    m.readField p.traceType p.memory = some (m.push (.address 0)) :=
  if_pos rfl

theorem readField_previous (p : Probe) (m : Machine) :
    m.readField p.traceType p.previous
      = some (m.push (.int m.tracing.primary.previous.toInt32)) := by
  have hne : p.previous ≠ ⟨p.traceType, TraceType.memoryField, TraceType.memoryType⟩ := by
    intro h
    have hname : TraceType.previousField = TraceType.memoryField := congrArg MemberRef.name h
    exact absurd hname (by decide)
  rw [readField, if_neg hne]
  exact if_pos rfl

theorem run_hash (p : Probe) (id : UInt32) (stack : List Slot) (t : Tracing) :
    (⟨stack, t⟩ : Machine).run p.traceType (p.hash id.toInt32)
      = some ⟨.int (edgeHash id t.primary.previous).toInt32 :: stack, t⟩ := by
  rw [Probe.hash, run_cons]
  show ((⟨_, t⟩ : Machine).run p.traceType _) = _
  rw [run_cons]
  show ((readField p.traceType _ p.previous).bind _) = _
  rw [readField_previous]
  rfl

theorem binary_of_eq {f : Int32 → Int32 → Option Int32} {left right value : Int32}
    (h : f left right = some value) :
    (⟨.int right :: .int left :: stack, t⟩ : Machine).binary f
      = some ⟨.int value :: stack, t⟩ := by
  show (f left right).map _ = _
  rw [h]
  rfl

theorem shift_of_lt (f : Int32 → Int32 → Int32) (value : Int32) {n : UInt32}
    (hn : n.toNat < 32) : shift f value n.toInt32 = some (f value n.toInt32) := by
  have hsmall : n.toNat < 2 ^ 31 := by omega
  have hint : n.toInt32.toInt = n.toNat :=
    BitVec.toInt_eq_toNat_of_msb (Word.msb_eq_false_iff.mpr hsmall)
  refine if_pos ⟨Int32.le_iff_toInt_le.mpr ?_, Int32.lt_iff_toInt_lt.mpr ?_⟩
  · rw [hint]
    exact Int.natCast_nonneg _
  · rw [hint]
    exact Int.ofNat_lt.mpr hn

/-- The cell that a hash means, at its offset from the beginning of the map. -/
theorem cell?_offset (hsize : t.sharedMap.size = mapSize) :
    (⟨stack, t⟩ : Machine).cell? (0 + (hash &&& mapMask).toInt32.toInt64)
      = some (hash &&& mapMask).toNat := by
  have hlt : (hash &&& mapMask).toNat < 2 ^ 16 := Word.toNat_and_mapMask_lt hash
  have hoffset : (0 + (hash &&& mapMask).toInt32.toInt64).toInt = (hash &&& mapMask).toNat := by
    rw [Int64.zero_add]
    exact Word.toInt_toInt64 (by omega)
  have hmap : t.sharedMap.size = 2 ^ 16 := hsize
  rw [cell?, hoffset, Int.toNat_natCast]
  refine if_pos ⟨Int.natCast_nonneg _, ?_⟩
  show ((hash &&& mapMask).toNat : Int) < t.sharedMap.size
  omega

theorem run_cellAddress (hsize : t.sharedMap.size = mapSize) {byte : UInt8}
    (hbyte : t.sharedMap[(hash &&& mapMask).toNat]? = some byte) :
    (⟨.int hash.toInt32 :: .address 0 :: stack, t⟩ : Machine).run traceType
        (Probe.cellAddress mapMask.toInt32)
      = some ⟨.int byte.toUInt32.toInt32
          :: .address (0 + (hash &&& mapMask).toInt32.toInt64) :: stack, t⟩ := by
  show (readByte ⟨.address (0 + (hash &&& mapMask).toInt32.toInt64)
    :: .address (0 + (hash &&& mapMask).toInt32.toInt64) :: stack, t⟩).bind some = _
  dsimp only [readByte]
  rw [cell?_offset hsize]
  show (t.sharedMap[(hash &&& mapMask).toNat]?.bind _).bind some = _
  rw [hbyte]
  rfl

/-- Writing back the new value of the byte that was read changes the cell that
the hash means. -/
theorem writeByte_offset (hsize : t.sharedMap.size = mapSize) {byte : UInt8}
    (hbyte : t.sharedMap[(hash &&& mapMask).toNat]? = some byte) {value : Int32}
    {f : UInt8 → UInt8} (hvalue : value.toUInt32.toUInt8 = f byte) :
    writeByte ⟨.int value :: .address (0 + (hash &&& mapMask).toInt32.toInt64) :: stack, t⟩
      = some ⟨stack, t.write t.primary.target (·.modify (hash &&& mapMask).toNat f)⟩ := by
  dsimp only [writeByte]
  rw [cell?_offset hsize, hvalue]
  refine congrArg (fun t => some (Machine.mk stack t)) (Tracing.write_congr ?_)
  exact Tracing.modify_const f hbyte

theorem run_leaveTrace (p : Probe) {id : UInt32} (hid : id.toNat < 2 ^ 31) (stack : List Slot)
    (t : Tracing) :
    (⟨stack, t⟩ : Machine).run p.traceType (p.leaveTrace id.toInt32)
      = some ⟨stack, { t with primary.previous := locationOf id }⟩ := by
  have hlocation : (id.toInt32 >>> 1).toUInt32 = locationOf id :=
    congrArg Int32.toUInt32 (Word.toInt32_shiftRight (n := 1) hid (by decide))
  rw [Probe.leaveTrace, run_cons]
  show (writeField p.traceType ⟨.int (id.toInt32 >>> 1) :: stack, t⟩ p.previous).bind some = _
  rw [writeField]
  show (if p.previous = p.previous then _ else _ : Option Machine).bind some = _
  rw [if_pos rfl, hlocation]
  rfl

/-! ### Probes -/

theorem run_append_of_eq {m m' : Machine} {first second : List Instruction}
    (h : m.run traceType first = some m') :
    m.run traceType (first ++ second) = m'.run traceType second := by
  rw [run_append, h]
  rfl

/-- What the pieces around the update of the cell do, whatever that is. -/
theorem run_update {p : Probe} {id : UInt32} (hid : id.toNat < 2 ^ 31) {d : Discipline}
    {update : List Instruction}
    (hupdate : (⟨.int (edgeHash id t.primary.previous).toInt32 :: .address 0 :: stack, t⟩
        : Machine).run p.traceType update
      = some ⟨stack, t.write t.primary.target (d.record (edgeHash id t.primary.previous))⟩) :
    (⟨stack, t⟩ : Machine).run p.traceType
        (⟨.ldsfld, .field p.memory⟩ :: p.hash id.toInt32 ++ update ++ p.leaveTrace id.toInt32)
      = some ⟨stack, t.hitPrimary d id⟩ := by
  have hload : (⟨stack, t⟩ : Machine).run p.traceType
      (⟨.ldsfld, .field p.memory⟩ :: p.hash id.toInt32)
        = some ⟨.int (edgeHash id t.primary.previous).toInt32 :: .address 0 :: stack, t⟩ := by
    rw [run_cons]
    show ((readField p.traceType _ p.memory).bind _) = _
    rw [readField_memory]
    exact run_hash p id _ t
  rw [run_append_of_eq ((run_append_of_eq hload).trans hupdate), run_leaveTrace p hid,
    Tracing.hitPrimary_eq]

theorem run_bump (hsize : t.sharedMap.size = mapSize) :
    (⟨.int hash.toInt32 :: .address 0 :: stack, t⟩ : Machine).run traceType
        (Probe.cellAddress mapMask.toInt32 ++ [⟨.ldcI4, .int 1⟩, ⟨.add, .none⟩, ⟨.stindI1, .none⟩])
      = some ⟨stack, t.write t.primary.target (Discipline.counter.record hash)⟩ := by
  have hlt : (hash &&& mapMask).toNat < t.sharedMap.size :=
    hsize ▸ Word.toNat_and_mapMask_lt hash
  have hbyte := Array.getElem?_eq_getElem hlt
  rw [run_append_of_eq (run_cellAddress hsize hbyte)]
  show (writeByte ⟨.int _ :: .address _ :: stack, t⟩).bind some = _
  rw [writeByte_offset (f := (· + 1)) hsize hbyte (Word.cut_succ _)]
  rfl

/-- Half of the update of a bitset: the hash without the bits that choose a bit. -/
theorem run_shift (hlt : hash.toNat < 2 ^ 31) :
    (⟨.int hash.toInt32 :: stack, t⟩ : Machine).run traceType [⟨.ldcI4, .int 4⟩, ⟨.shr, .none⟩]
      = some ⟨.int (hash >>> 4).toInt32 :: stack, t⟩ := by
  have hvalue := shift_of_lt (· >>> ·) hash.toInt32 (n := 4) (by decide)
  -- no sign comes in from the left
  rw [Word.toInt32_shiftRight hlt (by decide)] at hvalue
  show ((⟨.int (4 : UInt32).toInt32 :: .int hash.toInt32 :: stack, t⟩
    : Machine).binary (shift (· >>> ·))).bind some = _
  rw [binary_of_eq hvalue]
  rfl

/-- The other half: the bit that the low bits of the hash choose is set. -/
theorem run_setBit (hsize : t.sharedMap.size = mapSize) {cell : UInt32} {byte : UInt8}
    (hbyte : t.sharedMap[(cell &&& mapMask).toNat]? = some byte) :
    (⟨.int hash.toInt32 :: .int 1 :: .int byte.toUInt32.toInt32
        :: .address (0 + (cell &&& mapMask).toInt32.toInt64) :: stack, t⟩ : Machine).run traceType
        [⟨.ldcI4, .int 7⟩, ⟨.and, .none⟩, ⟨.shl, .none⟩, ⟨.or, .none⟩, ⟨.stindI1, .none⟩]
      = some ⟨stack, t.write t.primary.target
          (·.mark (cell &&& mapMask).toNat (hash &&& 7).toUInt8)⟩ := by
  have hbit : (hash &&& 7).toNat < 8 := Word.toNat_and_seven_lt hash
  have hcount : (hash &&& 7).toNat < 32 := by omega
  have hvalue := shift_of_lt (· <<< ·) 1 hcount
  show ((((⟨.int (hash &&& 7).toInt32 :: .int 1 :: .int byte.toUInt32.toInt32
      :: .address (0 + (cell &&& mapMask).toInt32.toInt64) :: stack, t⟩
    : Machine).binary (shift (· <<< ·))).bind fun m =>
      (m.binary fun x y => some (x ||| y)).bind fun m => m.writeByte.bind some)) = _
  rw [binary_of_eq hvalue]
  show (writeByte ⟨.int (byte.toUInt32.toInt32 ||| 1 <<< (hash &&& 7).toInt32)
      :: .address (0 + (cell &&& mapMask).toInt32.toInt64) :: stack, t⟩).bind some = _
  rw [writeByte_offset (f := (· ||| 1 <<< (hash &&& 7).toUInt8)) hsize hbyte
    (Word.cut_mark byte hbit)]
  rfl

theorem run_mark {p : Probe} {id : UInt32} (hsize : t.sharedMap.size = mapSize)
    (hlt : (edgeHash id t.primary.previous).toNat < 2 ^ 31) :
    (⟨.int (edgeHash id t.primary.previous).toInt32 :: .address 0 :: stack, t⟩
        : Machine).run p.traceType
        ([⟨.ldcI4, .int 4⟩, ⟨.shr, .none⟩] ++ Probe.cellAddress mapMask.toInt32
          ++ [⟨.ldcI4, .int 1⟩] ++ p.hash id.toInt32
          ++ [⟨.ldcI4, .int 7⟩, ⟨.and, .none⟩, ⟨.shl, .none⟩, ⟨.or, .none⟩, ⟨.stindI1, .none⟩])
      = some ⟨stack, t.write t.primary.target
          (Discipline.bitset.record (edgeHash id t.primary.previous))⟩ := by
  have hcell : ((edgeHash id t.primary.previous >>> 4) &&& mapMask).toNat < t.sharedMap.size :=
    hsize ▸ Word.toNat_and_mapMask_lt _
  have hbyte := Array.getElem?_eq_getElem hcell
  rw [List.append_assoc, List.append_assoc, List.append_assoc, run_append_of_eq (run_shift hlt),
    run_append_of_eq (run_cellAddress hsize hbyte)]
  -- the hash is worked out a second time, above the byte and a one
  show Machine.run p.traceType ⟨.int 1 :: .int _ :: .address _ :: stack, t⟩
    (p.hash id.toInt32 ++ _) = _
  rw [run_append_of_eq (run_hash p id _ t)]
  exact run_setBit hsize hbyte

/-- A call of a probe method records a hit of its discipline. -/
theorem run_callback {name : String} {d : Discipline} (h : Discipline.ofMethod? name = some d)
    (id : UInt32) (method : String) :
    (⟨stack, t⟩ : Machine).run traceType
        [⟨.ldcI4, .int id.toInt32⟩, ⟨.ldstr, .text method⟩,
          ⟨.call, .method ⟨traceType, name, TraceType.probeSignature⟩⟩]
      = some ⟨stack, t.hitPrimary d id⟩ := by
  have hcall : callProbe traceType ⟨.text method :: .int id.toInt32 :: stack, t⟩
      ⟨traceType, name, TraceType.probeSignature⟩ = some ⟨stack, t.hitPrimary d id⟩ := by
    dsimp only [callProbe]
    rw [h]
    exact if_pos rfl
  show (callProbe traceType ⟨.text method :: .int id.toInt32 :: stack, t⟩ _).bind some = _
  rw [hcall]
  rfl

/-- **The code of a probe records a hit** of the primary state, whatever else is
on the stack, and leaves that as it was. -/
theorem run_code (h : t.Ready) (kind : ProbeKind) {id : UInt32} (hid : id.toNat < 2 ^ 31)
    (traceType : TypeRef) (method : String) (stack : List Slot) :
    (⟨stack, t⟩ : Machine).run traceType ((⟨kind, traceType⟩ : Probe).code id method)
      = some ⟨stack, t.hitPrimary kind.discipline id⟩ := by
  cases kind with
  | counter =>
    have hmethod : Discipline.ofMethod? TraceType.counterMethod = some .counter := by decide
    exact run_callback hmethod id method
  | bitset =>
    have hmethod : Discipline.ofMethod? TraceType.bitsetMethod = some .bitset := by decide
    exact run_callback hmethod id method
  | inline => exact run_update hid (run_bump h.size)
  | inlineBitset => exact run_update hid (run_mark h.size (Word.toNat_xor_lt hid h.previous_lt))

end Stack.Machine

end BranchCoverage
