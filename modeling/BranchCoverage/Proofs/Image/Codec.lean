/-
Codecs read what they write.

`Codec.Reads` says of one value that the codec gets it back from its own bytes,
with so many levels left.  Simple values need none (`reads_text` and the others),
and a list, a record or a variant with a value one more than what is in it
(`reads_list`, `reads_record`, `reads_of`).  In a record the fields come in their
order, so when one is read the slots before it are full and those from it on are
empty (`takes_entries`).
-/
import BranchCoverage.Proofs.Image.Head

namespace BranchCoverage.Image

open Reader

variable {α β : Type}

/-- The codec reads the value back from its bytes, with so many levels left. -/
def Codec.Reads (c : Codec α) (depth : Nat) (x : α) : Prop :=
  Takes (c.read depth) (c.toValue x).write x

namespace Codec

/-! ### Simple values -/

theorem reads_text (depth : Nat) (s : String) : text.Reads depth s :=
  (takes_token_text depth s).bind_pure (.pure s)

theorem reads_boolean (depth : Nat) (b : Bool) : boolean.Reads depth b :=
  (takes_token_boolean depth b).bind_pure (.pure b)

/-- An integer of the range is read, if 64 bits have room for it. -/
theorem takes_readInteger (name : String) {low high n : Int} (depth : Nat)
    (hlow : -(2 ^ 63) ≤ n) (hhigh : n < 2 ^ 64) (hn : low ≤ n ∧ n ≤ high) :
    Takes (readInteger name low high depth) (writeInteger n) n := by
  refine (takes_token_integer depth hlow hhigh).bind_pure ?_
  dsimp only
  rw [if_pos hn]
  exact .pure n

theorem reads_uint16 (depth : Nat) (n : UInt16) : uint16.Reads depth n := by
  have hlt := n.toNat_lt
  have hread : Takes (readInteger "u16" 0 0xffff depth) (writeInteger n.toNat) (n.toNat : Int) :=
    takes_readInteger _ depth (by omega) (by omega) (by omega)
  have hvalue := hread.map fun i => UInt16.ofNat i.toNat
  rw [Int.toNat_natCast, UInt16.ofNat_toNat] at hvalue
  exact hvalue

theorem reads_uint32 (depth : Nat) (n : UInt32) : uint32.Reads depth n := by
  have hlt := n.toNat_lt
  have hread : Takes (readInteger "u32" 0 0xffffffff depth) (writeInteger n.toNat)
      (n.toNat : Int) := takes_readInteger _ depth (by omega) (by omega) (by omega)
  have hvalue := hread.map fun i => UInt32.ofNat i.toNat
  rw [Int.toNat_natCast, UInt32.ofNat_toNat] at hvalue
  exact hvalue

theorem reads_int32 (depth : Nat) (n : Int32) : int32.Reads depth n := by
  have hlow := n.le_toInt
  have hhigh := n.toInt_lt
  have hread : Takes (readInteger "i32" (-0x80000000) 0x7fffffff depth) (writeInteger n.toInt)
      n.toInt := takes_readInteger _ depth (by omega) (by omega) (by omega)
  have hvalue := hread.map Int32.ofInt
  rw [Int32.ofInt_toInt] at hvalue
  exact hvalue

theorem reads_index (depth : Nat) {n : Nat} (h : n < 2 ^ 64) : index.Reads depth n := by
  have hread : Takes (readInteger "usize" 0 0xffffffffffffffff depth) (writeInteger n) (n : Int) :=
    takes_readInteger _ depth (by omega) (by omega) (by omega)
  have hvalue := hread.map Int.toNat
  rw [Int.toNat_natCast] at hvalue
  exact hvalue

/-! ### Composite values -/

/-- Nothing is told from a value that is not nothing by its first byte. -/
theorem reads_optional {c : Codec α} {depth : Nat} {o : Option α}
    (hread : ∀ x ∈ o, c.Reads depth x) (hnull : ∀ x ∈ o, c.toValue x ≠ .null) :
    c.optional.Reads depth o := by
  cases o with
  | none => exact Takes.peek fun _ _ _ => rfl
  | some x =>
    obtain ⟨first, tail, hwrite, hfirst⟩ := Value.exists_write_eq (hnull x rfl)
    have hvalue : Takes (c.read depth) (first :: tail) x := hwrite ▸ hread x rfl
    show Takes (c.optional.read depth) (c.toValue x).write (some x)
    rw [hwrite]
    refine Takes.peek ?_
    rw [if_neg fun heq => hfirst (Option.some.inj heq)]
    exact hvalue.map some

/-- Every value has a byte at least. -/
theorem length_le_writeItems (vs : List Value) : vs.length ≤ (writeItems vs).length := by
  induction vs with
  | nil => exact Nat.le_refl 0
  | cons v rest ih =>
    have hpos := v.length_write_pos
    rw [writeItems, List.length_append, List.length_cons]
    omega

/-- The elements of a list are read in front of those before them. -/
theorem takes_items {c : Codec α} {depth : Nat} {xs : List α} (h : ∀ x ∈ xs, c.Reads depth x)
    (before : List α) :
    Takes (Extent.times (fun xs => return (← c.read depth) :: xs) xs.length before)
      (writeItems (xs.map c.toValue)) (xs.reverse ++ before) := by
  induction xs generalizing before with
  | nil => exact .pure before
  | cons x rest ih =>
    obtain ⟨hx, hrest⟩ := List.forall_mem_cons.mp h
    have hstep : Takes (do return (← c.read depth) :: before) (c.toValue x).write (x :: before) :=
      hx.bind_pure (.pure (x :: before))
    rw [List.map_cons, writeItems, List.reverse_cons, List.append_assoc]
    exact hstep.bind (ih hrest (x :: before))

/-- A list needs one level more than its elements. -/
theorem reads_list {c : Codec α} {depth : Nat} {xs : List α} (h : ∀ x ∈ xs, c.Reads depth x) :
    c.list.Reads (depth + 1) xs := by
  refine Takes.of_lt fun hlt => ?_
  have hcount := length_le_writeItems (xs.map c.toValue)
  show Takes (c.list.read (depth + 1)) (head arrayKind (xs.map c.toValue).length ++ _) xs
  have hlength : (head arrayKind (xs.map c.toValue).length
      ++ writeItems (xs.map c.toValue)).length < 2 ^ 64 := hlt
  rw [List.length_append] at hlength
  rw [List.length_map] at hcount hlength ⊢
  have hitems := takes_items h []
  rw [List.append_nil] at hitems
  refine (takes_token_array depth (by omega)).bind (hitems.bind_pure ?_)
  rw [List.reverse_reverse]
  exact .pure xs

end Codec

/-! ### Records -/

namespace Fields

/-- Every field reads back its value. -/
def Reads (depth : Nat) : {αs : List Type} → Fields αs → Row αs → Prop
  | _, .nil, _ => True
  | _, .cons _ codec rest, (x, row) => codec.Reads depth x ∧ rest.Reads depth row

/-- All slots with their values. -/
def full : {αs : List Type} → Row αs → Slots αs
  | [], _ => ()
  | _ :: _, (x, row) => (some x, full row)

theorem length_entries {αs : List Type} (fields : Fields αs) (row : Row αs) :
    (fields.entries row).length = fields.names.length := by
  induction fields with
  | nil => rfl
  | cons name codec rest ih =>
    obtain ⟨x, row⟩ := row
    exact congrArg (· + 1) (ih row)

/-- A record with all its slots full is whole. -/
theorem takes_complete {αs : List Type} (fields : Fields αs) (row : Row αs) :
    Takes (fields.complete (full row)) [] row := by
  induction fields with
  | nil => exact .pure ()
  | cons name codec rest ih =>
    obtain ⟨x, row⟩ := row
    exact (ih row).bind_pure (.pure (x, row))

/-- The name of a field is read as its place. -/
theorem takes_readField {before after : List String} {name : String} (depth : Nat)
    (h : name ∉ before) :
    Takes (readField (before ++ name :: after) depth) (writeText name) (some before.length) := by
  refine (takes_token_text depth name).bind_pure ?_
  have hbefore : before.findIdx? (· = name) = none :=
    List.findIdx?_eq_none_iff.mpr fun other hother => decide_eq_false fun heq => h (heq ▸ hother)
  have hplace : (before ++ name :: after).findIdx? (· = name) = some before.length := by
    rw [List.findIdx?_append, hbefore, List.findIdx?_cons, decide_eq_true rfl]
    simp
  dsimp only
  rw [hplace]
  exact .pure _

/-- The entries of some last fields of a record fill their slots one by one.
The fields of those slots are put into those of the whole record, where their
places come behind the ones `before`. -/
theorem takes_entries {σ : Type} {depth : Nat} {names : List String} {slot : Nat → σ → Reader σ}
    {αs : List Type} {fields : Fields αs} {row : Row αs} (other : σ → Reader σ)
    (hreads : fields.Reads depth row) (hnodup : names.Nodup) (before : List String)
    (hnames : names = before ++ fields.names) (put : Slots αs → σ)
    (hslot : ∀ i slots,
      slot (before.length + i) (put slots) = put <$> fields.readSlot depth i slots) :
    Takes (Extent.times (fun s => do
        match ← readField names depth with
        | some i => slot i s
        | none => other s) fields.names.length (put (Slots.empty αs)))
      (writeEntries (fields.entries row)) (put (full row)) := by
  -- by induction on the fields that are left: the first of them is read into its
  -- slot, and from then on it is one of those before, and `put` fills its slot
  induction fields generalizing before with
  | nil => exact .pure _
  | cons name codec rest ih =>
    obtain ⟨x, row⟩ := row
    obtain ⟨hx, hrest⟩ := hreads
    have hmiddle : names = before ++ name :: rest.names := hnames
    have hfield : Takes (readField names depth) (writeText name) (some before.length) := by
      have hapart := (List.nodup_append.mp (hmiddle ▸ hnodup)).2.2
      rw [hmiddle]
      exact takes_readField depth fun hmem => hapart name hmem name List.mem_cons_self rfl
    have hvalue : Takes (slot before.length (put (none, Slots.empty _))) (codec.toValue x).write
        (put (some x, Slots.empty _)) := by
      have hread : Takes ((Fields.cons name codec rest).readSlot depth 0 (none, Slots.empty _))
          (codec.toValue x).write (some x, Slots.empty _) := hx.bind_pure (.pure _)
      have hzero := hslot 0 (none, Slots.empty _)
      rw [Nat.add_zero] at hzero
      rw [hzero]
      exact hread.map put
    have hbehind := ih hrest (before ++ [name]) (by rw [hmiddle, List.append_assoc]; rfl)
      (fun slots => put (some x, slots)) fun i slots => by
        have hlength : (before ++ [name]).length + i = before.length + (i + 1) := by
          rw [List.length_append, List.length_singleton, Nat.add_assoc, Nat.add_comm 1 i]
        rw [hlength]
        exact (hslot (i + 1) (some x, slots)).trans (map_bind _ _ _)
    have hfirst : Takes (do
        match ← readField names depth with
        | some i => slot i (put (none, Slots.empty _))
        | none => other (put (none, Slots.empty _))) (writeText name ++ (codec.toValue x).write)
        (put (some x, Slots.empty _)) := hfield.bind hvalue
    show Takes _ (writeText name ++ ((codec.toValue x).write ++ writeEntries (rest.entries row))) _
    rw [← List.append_assoc]
    exact hfirst.bind hbehind

end Fields

namespace Codec

/-- Every entry has a byte at least. -/
theorem length_le_writeEntries (entries : List (String × Value)) :
    entries.length ≤ (writeEntries entries).length := by
  induction entries with
  | nil => exact Nat.le_refl 0
  | cons entry rest ih =>
    obtain ⟨key, v⟩ := entry
    have hkey : 0 < (writeText key).length := (Value.text key).length_write_pos
    rw [writeEntries, List.length_append, List.length_append, List.length_cons]
    omega

/-- A record needs one level more than its fields. -/
theorem reads_record {αs : List Type} {name : String} {fields : Fields αs} {toRow : α → Row αs}
    {ofRow : Row αs → α} {depth : Nat} {x : α} (hnames : fields.names.Nodup)
    (hrow : ofRow (toRow x) = x) (hreads : fields.Reads depth (toRow x)) :
    (Codec.record name fields toRow ofRow).Reads (depth + 1) x := by
  refine Takes.of_lt fun hlt => ?_
  have hcount := length_le_writeEntries (fields.entries (toRow x))
  show Takes ((Codec.record name fields toRow ofRow).read (depth + 1))
    (head mapKind (fields.entries (toRow x)).length ++ _) x
  have hlength : (head mapKind (fields.entries (toRow x)).length
      ++ writeEntries (fields.entries (toRow x))).length < 2 ^ 64 := hlt
  rw [List.length_append] at hlength
  rw [Fields.length_entries] at hcount hlength ⊢
  refine (takes_token_map depth (by omega)).bind ?_
  have hentries := Fields.takes_entries (fun slots => do ignore depth; pure slots) hreads hnames []
    rfl id fun i slots => by
      rw [List.length_nil, Nat.zero_add]
      exact (id_map _).symm
  refine hentries.bind_pure ?_
  have hwhole := (fields.takes_complete (toRow x)).map ofRow
  rw [hrow] at hwhole
  exact hwhole

/-! ### Choices -/

/-- A variant is found by its name. -/
theorem takes_readVariant {variants : List (Variant α)} {name : String} {v : Variant α}
    (depth : Nat) (h : variants.find? (·.name = name) = some v) :
    Takes (readVariant variants depth) (writeText name) v := by
  refine (takes_token_text depth name).bind_pure ?_
  dsimp only
  rw [h]
  exact .pure v

section

variable {variants : List (Variant α)} {toValue : α → Value} {name : String} {depth : Nat} {x : α}

/-- A variant without a value is read at any level. -/
theorem reads_plain (hvalue : toValue x = .text name)
    (hfind : variants.find? (·.name = name) = some (.plain name x)) :
    (Codec.choice variants toValue).Reads depth x := by
  have hvariant := takes_readVariant depth hfind
  obtain ⟨first, tail, hwrite, hlow, hhigh⟩ : ∃ first tail, writeText name = first :: tail ∧
      96 ≤ first.toNat ∧ first.toNat < 124 := by
    obtain ⟨first, tail, hhead, hlow, hhigh⟩ :=
      exists_head_eq textKind name.utf8ByteSize (by decide)
    exact ⟨first, tail ++ Text.Utf8.encode name, by rw [writeText, hhead, List.cons_append],
      hlow, hhigh⟩
  show Takes ((Codec.choice variants toValue).read depth) (toValue x).write x
  rw [hvalue, Value.write]
  rw [hwrite] at hvariant ⊢
  -- what begins like a text is neither an array nor a map
  have harray : ¬ (0x80 ≤ first ∧ first ≤ 0x9f) := by
    rintro ⟨harray, -⟩
    have hbyte : 128 ≤ first.toNat := UInt8.le_iff_toNat_le.mp harray
    omega
  have hmap : first ≠ 0xa1 := by
    rintro rfl
    have hbyte : (0xa1 : UInt8).toNat = 161 := rfl
    omega
  refine Takes.peek ?_
  dsimp only
  rw [if_neg harray, if_neg hmap]
  exact hvariant.bind_pure (.pure x)

/-- A variant with a value needs one level more than it. -/
theorem reads_of {codec : Codec β} {wrap : β → α} {y : β}
    (hvalue : toValue (wrap y) = .map [(name, codec.toValue y)])
    (hfind : variants.find? (·.name = name) = some (.of name codec wrap))
    (hread : codec.Reads depth y) : (Codec.choice variants toValue).Reads (depth + 1) (wrap y) := by
  have hvariant := takes_readVariant depth hfind
  have hboth : Takes (readVariant variants depth >>= Variant.valued depth)
      (writeText name ++ (codec.toValue y).write) (wrap y) := hvariant.bind (hread.map wrap)
  show Takes ((Codec.choice variants toValue).read (depth + 1)) (toValue (wrap y)).write (wrap y)
  have hbytes : (toValue (wrap y)).write
      = 0xa1 :: (writeText name ++ (codec.toValue y).write) := by
    rw [hvalue, Value.write, writeEntries, writeEntries, List.append_nil]
    rfl
  have hhead : Takes Reader.head (head mapKind 1) (.map (.counted 1)) := takes_map (by decide)
  rw [hbytes]
  refine Takes.peek ?_
  dsimp only
  rw [if_neg (by decide), if_pos rfl]
  exact hhead.bind hboth

end

/-! ### Whole images -/

/-- A value that is read back when no level is taken yet comes back from its image. -/
theorem decode_encode {c : Codec α} {x : α} (h : c.Reads maxDepth x)
    (hlength : (c.encode x).length < 2 ^ 64) : c.decode (c.encode x) = .ok x := by
  have hread : c.read maxDepth ⟨0, c.encode x⟩ = .ok (x, ⟨(c.encode x).length, []⟩) := by
    have hwhole := h 0 [] (by rwa [Nat.zero_add])
    rw [List.append_nil, Nat.zero_add] at hwhole
    exact hwhole
  rw [decode, hread]
  rfl

end Codec

end BranchCoverage.Image
