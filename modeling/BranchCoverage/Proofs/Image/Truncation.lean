/-
Images that break off, and images that go on.

Every codec here streams (`Codec.Streams`): what it makes of part of an image it makes of
all of it, or it reports the end.  So if an image is accepted, every shorter one that it
begins with is refused because it ends too early (`Codec.Streams.decode_of_cut`), and every
longer one that begins with it because of what trails behind it (`Codec.Streams.decode_append`).
That is said of all images that are accepted, the ones that are written among them
(`Module.refuses_toImage`).
-/
import BranchCoverage.Proofs.Image.RoundTrip
import BranchCoverage.Proofs.Image.Streaming

namespace BranchCoverage

namespace Image

open Reader (Streams Hungry Advances streams_token hungry_token advances_token streams_mismatch
  streams_grammar streams_unwanted)

variable {α β : Type}

/-! ### Codecs -/

/-- The codec never judges what it has not read, and never takes nothing for a value. -/
structure Codec.Streams (c : Codec α) : Prop where
  streams : ∀ depth, Reader.Streams (c.read depth)
  hungry : ∀ depth, Hungry (c.read depth)
  advances : ∀ depth, Advances (c.read depth)

namespace Codec

/-- What begins with a token streams if what follows does. -/
theorem streams_of_token {c : Codec α} {next : Nat → Token → Reader α}
    (hread : ∀ depth, c.read depth = Reader.token depth >>= next depth)
    (hnext : ∀ depth t, Reader.Streams (next depth t)) : c.Streams where
  streams depth := by
    rw [hread]
    exact (streams_token depth).bind (hnext depth)
  hungry depth := by
    rw [hread]
    exact (hungry_token depth).bind
  advances depth := by
    rw [hread]
    exact (advances_token depth).bind (hnext depth)

/-- What is made of a value does not matter. -/
theorem Streams.of_map {c : Codec α} {c' : Codec β} {f : α → β} (h : c.Streams)
    (hread : ∀ depth, c'.read depth = f <$> c.read depth) : c'.Streams where
  streams depth := by
    rw [hread]
    exact (h.streams depth).map f
  hungry depth := by
    rw [hread]
    exact (h.hungry depth).map f
  advances depth := by
    rw [hread]
    exact (h.advances depth).map f

theorem streams_text : text.Streams := by
  refine streams_of_token (fun _ => rfl) fun _ t => ?_
  split
  · exact .pure _
  · split
    · exact .pure _
    · exact streams_mismatch _
  · exact streams_unwanted _ _

theorem streams_boolean : boolean.Streams := by
  refine streams_of_token (fun _ => rfl) fun _ t => ?_
  split
  · exact .pure _
  · exact streams_unwanted _ _

/-- The integers of a range. -/
theorem streams_integer {c : Codec α} {name : String} {low high : Int} {f : Int → α}
    (hread : ∀ depth, c.read depth = f <$> readInteger name low high depth) : c.Streams := by
  have hinteger : (⟨.integer, readInteger name low high, none⟩ : Codec Int).Streams := by
    refine streams_of_token (fun _ => rfl) fun _ t => ?_
    split
    · exact .ite (.pure _) (streams_mismatch _)
    · exact streams_unwanted _ _
  exact hinteger.of_map hread

theorem streams_uint16 : uint16.Streams := streams_integer fun _ => rfl

theorem streams_uint32 : uint32.Streams := streams_integer fun _ => rfl

theorem streams_int32 : int32.Streams := streams_integer fun _ => rfl

theorem streams_index : index.Streams := streams_integer fun _ => rfl

/-- Nothing is told from a value by the next byte, and where there is none the value is
asked for. -/
theorem Streams.optional {c : Codec α} (h : c.Streams) : c.optional.Streams where
  streams depth := by
    refine Reader.Streams.peek ((h.hungry depth).map some) fun b => ?_
    exact .ite ((Reader.streams_byte _).bind fun _ => .pure _) ((h.streams depth).map some)
  hungry depth := .peek ((h.hungry depth).map some)
  advances depth := by
    refine Reader.Advances.peek fun b => ?_
    exact .ite ((Reader.advances_byte _).bind fun _ => .pure _) ((h.advances depth).map some)

theorem Streams.list {c : Codec α} (h : c.Streams) : c.list.Streams := by
  refine streams_of_token (fun _ => rfl) fun _ t => ?_
  split
  · next extent depth =>
    refine Reader.Streams.bind (Extent.streams_fold .array (fun xs => ?_) (fun xs => ?_) extent [])
      fun _ => .pure _
    · exact (h.streams depth).bind fun _ => .pure _
    · exact (h.advances depth).bind fun _ => .pure _
  · exact streams_unwanted _ _

end Codec

/-! ### Records -/

namespace Fields

/-- Every field has a codec that streams. -/
def Streams : {αs : List Type} → Fields αs → Prop
  | _, .nil => True
  | _, .cons _ codec rest => codec.Streams ∧ rest.Streams

variable {αs : List Type} {fields : Fields αs}

theorem Streams.readRow (h : fields.Streams) (record : String) (count depth found : Nat)
    (extent : Extent) : Reader.Streams (fields.readRow record count depth found extent) := by
  induction fields generalizing found extent with
  | nil => exact .pure _
  | cons name codec rest ih =>
    obtain ⟨hcodec, hrest⟩ := h
    refine (Extent.streams_next? .array extent).bind fun next => ?_
    cases next with
    | none => exact streams_mismatch _
    | some extent =>
      exact (hcodec.streams depth).bind fun _ => (ih hrest _ extent).bind fun _ => .pure _

theorem Streams.readSlot (h : fields.Streams) (depth i : Nat) (slots : Slots αs) :
    Reader.Streams (fields.readSlot depth i slots) := by
  induction fields generalizing i with
  | nil => exact .pure _
  | cons name codec rest ih =>
    obtain ⟨hcodec, hrest⟩ := h
    obtain ⟨slot, slots⟩ := slots
    cases i with
    | zero =>
      cases slot with
      | none => exact (hcodec.streams depth).bind fun _ => .pure _
      | some _ => exact streams_mismatch _
    | succ i => exact (ih hrest i slots).bind fun _ => .pure _

theorem streams_complete (fields : Fields αs) (slots : Slots αs) :
    Reader.Streams (fields.complete slots) := by
  induction fields with
  | nil => exact .pure _
  | cons name codec rest ih =>
    obtain ⟨slot, slots⟩ := slots
    rw [complete]
    split
    · exact streams_mismatch _
    · exact (ih slots).bind fun _ => .pure _

end Fields

/-- What is made of the name or number of a field. -/
theorem streams_fieldOf (names : List String) (t : Token) :
    Streams (match t with
      | .text name => pure (names.findIdx? (· = name))
      | .bytes name => pure (names.findIdx? (Text.Utf8.encode · = name))
      | .integer n =>
        if n < 0 then Reader.mismatch (.type (.integer n) "field identifier")
        else pure (if n.toNat < names.length then some n.toNat else none)
      | t => Reader.unwanted t "field identifier") := by
  split
  · exact .pure _
  · exact .pure _
  · exact .ite (streams_mismatch _) (.pure _)
  · exact streams_unwanted _ _

theorem streams_readField (names : List String) (depth : Nat) : Streams (readField names depth) :=
  (streams_token depth).bind (streams_fieldOf names)

theorem advances_readField (names : List String) (depth : Nat) : Advances (readField names depth) :=
  (advances_token depth).bind (streams_fieldOf names)

/-- The value of a field is read into its slot, and that of another name passed over. -/
theorem streams_entry {αs : List Type} {fields : Fields αs} (h : fields.Streams) (depth : Nat)
    (slots : Slots αs) (place : Option Nat) : Reader.Streams (match place with
      | some i => fields.readSlot depth i slots
      | none => do
        Reader.ignore depth
        pure slots) := by
  cases place with
  | none => exact (Reader.streams_ignore depth).bind fun _ => .pure _
  | some i => exact h.readSlot depth i slots

/-- A record streams if its fields do, in whatever way it is written. -/
theorem Codec.streams_record {name : String} {αs : List Type} {fields : Fields αs}
    {toRow : α → Row αs} {ofRow : Row αs → α} (h : fields.Streams) :
    (Codec.record name fields toRow ofRow).Streams := by
  refine streams_of_token (fun _ => rfl) fun _ t => ?_
  split
  · next extent depth =>
    refine (h.readRow name _ depth 0 extent).bind fun row => ?_
    exact (Extent.streams_close .array row.2).bind fun _ => .pure _
  · next extent depth =>
    have hentries := Extent.streams_fold .map
      (fun slots => (streams_readField fields.names depth).bind (streams_entry h depth slots))
      (fun slots => (advances_readField fields.names depth).bind (streams_entry h depth slots))
      extent (Slots.empty αs)
    exact hentries.bind fun slots => (fields.streams_complete slots).map ofRow
  · exact streams_unwanted _ _

/-! ### Choices -/

/-- What the variant carries is read by a reader that streams. -/
def Variant.Streams : Variant α → Prop
  | .plain _ _ => True
  | .carrying _ read => ∀ depth, Reader.Streams (read depth)

namespace Variant

theorem streams_of {name : String} {codec : Codec β} {wrap : β → α} (h : codec.Streams) :
    (Variant.of name codec wrap).Streams :=
  fun depth => (h.streams depth).map wrap

theorem streams_bare (v : Variant α) : Reader.Streams v.bare := by
  cases v with
  | plain name x => exact .pure _
  | carrying name read => exact streams_mismatch _

theorem Streams.valued {v : Variant α} (h : v.Streams) (depth : Nat) :
    Reader.Streams (v.valued depth) := by
  cases v with
  | plain name x =>
    refine (streams_token depth).bind fun t => ?_
    split
    · exact .pure _
    · exact streams_unwanted _ _
  | carrying name read => exact h depth

end Variant

variable {variants : List (Variant α)}

/-- The variant that a token names. -/
def variantOf (variants : List (Variant α)) : Token → Reader (Variant α)
  | .text name =>
    match variants.find? (·.name = name) with
    | some v => pure v
    | none => Reader.mismatch (.unknownVariant name (variants.map Variant.name))
  | .bytes name =>
    match variants.find? (Text.Utf8.encode ·.name = name) with
    | some v => pure v
    | none => Reader.mismatch (.unknownVariant (Text.Utf8.decodeLossy ⟨name.toArray⟩)
        (variants.map Variant.name))
  | .integer n =>
    if n < 0 then Reader.mismatch (.type (.integer n) "variant identifier")
    else
      match variants[n.toNat]? with
      | some v => pure v
      | none =>
        Reader.mismatch (.value (.integer n) s!"variant index 0 <= i < {variants.length}")
  | t => Reader.unwanted t "variant identifier"

theorem readVariant_eq (variants : List (Variant α)) (depth : Nat) :
    readVariant variants depth = Reader.token depth >>= variantOf variants :=
  rfl

theorem streams_variantOf (variants : List (Variant α)) (t : Token) :
    Streams (variantOf variants t) := by
  cases t with
  | text name =>
    rw [variantOf]
    split
    · exact .pure _
    · exact streams_mismatch _
  | bytes name =>
    rw [variantOf]
    split
    · exact .pure _
    · exact streams_mismatch _
  | integer n =>
    refine .ite (streams_mismatch _) ?_
    split
    · exact .pure _
    · exact streams_mismatch _
  | _ => exact streams_unwanted _ _

/-- A variant that is named is one of those that there are. -/
theorem mem_of_variantOf {t : Token} {p p' : Position} {v : Variant α}
    (h : variantOf variants t p = .ok (v, p')) : v ∈ variants := by
  cases t with
  | text name =>
    rw [variantOf] at h
    rcases hfind : variants.find? (·.name = name) with - | w <;> rw [hfind] at h <;> cases h
    exact List.mem_of_find?_eq_some hfind
  | bytes name =>
    rw [variantOf] at h
    rcases hfind : variants.find? (Text.Utf8.encode ·.name = name) with - | w <;>
      rw [hfind] at h <;> cases h
    exact List.mem_of_find?_eq_some hfind
  | integer n =>
    rw [variantOf] at h
    by_cases hn : n < 0
    · rw [if_pos hn] at h
      cases h
    · rw [if_neg hn] at h
      rcases hget : variants[n.toNat]? with - | w <;> rw [hget] at h <;> cases h
      exact List.mem_of_getElem? hget
  | _ => cases h

theorem streams_readVariant (variants : List (Variant α)) (depth : Nat) :
    Streams (readVariant variants depth) :=
  (streams_token depth).bind (streams_variantOf variants)

theorem advances_readVariant (variants : List (Variant α)) (depth : Nat) :
    Advances (readVariant variants depth) :=
  (advances_token depth).bind (streams_variantOf variants)

/-- What follows a variant has to stream for those only that there are. -/
theorem streams_readVariant_bind {next : Variant α → Reader β} (depth : Nat)
    (hnext : ∀ v ∈ variants, Streams (next v)) : Streams (readVariant variants depth >>= next) := by
  refine (streams_readVariant variants depth).bind_of fun p v p' hok => hnext v ?_
  rw [readVariant_eq] at hok
  rcases htoken : Reader.token depth p with e | ⟨t, q⟩
  · rw [Reader.bind_of_error htoken] at hok
    cases hok
  · rw [Reader.bind_of_ok htoken] at hok
    exact mem_of_variantOf hok

namespace Codec

/-- What follows the head of a variant in an array. -/
def element (variants : List (Variant α)) (depth : Nat) : Head → Reader α
  | .array extent =>
    Reader.enter depth fun depth => do
      match ← extent.next? .array with
      | none => Reader.grammar .tooShort
      | some extent =>
        let v ← readVariant variants depth
        match ← extent.next? .array with
        | none => Reader.grammar v.lonely
        | some extent =>
          let x ← v.valued depth
          extent.close .array
          pure x
  | _ => Reader.grammar .unexpected

theorem streams_element (h : ∀ v ∈ variants, v.Streams) (depth : Nat) (head : Head) :
    Reader.Streams (element variants depth head) := by
  cases head with
  | array extent =>
    refine Reader.streams_enter depth fun depth => ?_
    refine (Extent.streams_next? .array extent).bind fun next => ?_
    cases next with
    | none => exact streams_grammar _
    | some extent =>
      refine streams_readVariant_bind depth fun v hv => ?_
      refine (Extent.streams_next? .array extent).bind fun next => ?_
      cases next with
      | none => exact streams_grammar _
      | some extent =>
        exact ((h v hv).valued depth).bind fun _ =>
          (Extent.streams_close .array extent).bind fun _ => .pure _
  | _ => exact streams_grammar _

/-- A choice streams if its variants do, in whatever way they are written. -/
theorem streams_choice {toValue : α → Value} (h : ∀ v ∈ variants, v.Streams) :
    (Codec.choice variants toValue).Streams := by
  have hentry : ∀ depth, Reader.Streams (Reader.enter depth fun depth => do
      let v ← readVariant variants depth
      v.valued depth) := fun depth =>
    Reader.streams_enter depth fun depth =>
      streams_readVariant_bind depth fun v hv => (h v hv).valued depth
  constructor
  · intro depth
    refine .peek (Reader.hungry_ended _) fun first => ?_
    exact .ite (Reader.streams_head.bind (streams_element h depth))
      (.ite (Reader.streams_head.bind fun _ => hentry depth)
        ((streams_readVariant variants depth).bind Variant.streams_bare))
  · exact fun depth => .peek (Reader.hungry_ended _)
  · intro depth
    refine Reader.Advances.peek fun first => ?_
    cases first with
    | none => exact fun p x p' hok => nomatch hok
    | some first =>
      exact .ite (Reader.advances_head.bind (streams_element h depth))
        (.ite (Reader.advances_head.bind fun _ => hentry depth)
          ((advances_readVariant variants depth).bind Variant.streams_bare))

theorem streams_names {all : List α} {name : α → String} : (Codec.names all name).Streams := by
  refine streams_choice fun v hv => ?_
  obtain ⟨x, -, rfl⟩ := List.mem_map.mp hv
  exact trivial

/-! ### Whole images -/

section

variable {c : Codec α} {image : List UInt8} {x : α}

theorem exists_of_decode (h : c.decode image = .ok x) :
    ∃ offset, c.read maxDepth ⟨0, image⟩ = .ok (x, ⟨offset, []⟩) := by
  rw [decode] at h
  split at h
  · cases h
  · next y p hread =>
    split at h
    · next hempty =>
      cases h
      refine ⟨p.offset, ?_⟩
      rw [hread, ← List.isEmpty_iff.mp hempty]
    · cases h

/-- Whatever an accepted image begins with, short of all of it, ends too early. -/
theorem Streams.decode_of_cut (hc : c.Streams) (h : c.decode image = .ok x) {part : List UInt8}
    (hpart : part <+: image) (hne : part ≠ image) :
    ∃ inside, c.decode part = .error (.ended inside part.length) := by
  obtain ⟨offset, hread⟩ := exists_of_decode h
  obtain ⟨more, rfl⟩ := hpart
  have hmore : more ≠ [] := fun hnil => hne (by rw [hnil, List.append_nil])
  have hsize : (⟨0, part⟩ : Position).size = part.length := Nat.zero_add _
  rcases hpartly : c.read maxDepth ⟨0, part⟩ with e | ⟨y, p⟩
  · rcases (hc.streams maxDepth).refused hpartly with ⟨inside, rfl⟩ | hall
    · refine ⟨inside, ?_⟩
      rw [decode, hpartly, hsize]
    · -- an error that stays would have refused the whole image
      cases hread.symm.trans (hall more)
  · -- a value of the part would have left the rest of the image unread
    have hwhole := hread.symm.trans (((hc.streams maxDepth).taken hpartly).2 more)
    have hrest : [] = p.rest ++ more :=
      congrArg (fun q : α × Position => q.2.rest) (Except.ok.inj hwhole)
    exact absurd (List.append_eq_nil_iff.mp hrest.symm).2 hmore

/-- Whatever an accepted image is followed by trails behind it. -/
theorem Streams.decode_append (hc : c.Streams) (h : c.decode image = .ok x) {more : List UInt8}
    (hmore : more ≠ []) :
    c.decode (image ++ more) = .error (.grammar .trailing (image.length + 1)) := by
  obtain ⟨offset, hread⟩ := exists_of_decode h
  obtain ⟨hbehind, hextend⟩ := (hc.streams maxDepth).taken hread
  have hoffset : offset = image.length := by
    have hsize : offset + 0 = 0 + image.length := hbehind.size
    omega
  have hlonger : c.read maxDepth ⟨0, image ++ more⟩ = .ok (x, ⟨offset, more⟩) := hextend more
  rw [decode, hlonger]
  dsimp only
  rw [if_neg fun hempty => hmore (List.isEmpty_iff.mp hempty), hoffset]

end

end Codec

end Image

/-! ### Images of modules -/

open Image (Codec)
open Image.Codec (streams_text streams_boolean streams_uint16 streams_uint32 streams_int32
  streams_index streams_names streams_record streams_choice)
open Image.Variant (streams_of)

theorem Scope.streams : Scope.codec.Streams :=
  streams_choice (List.forall_mem_cons.mpr ⟨trivial,
    List.forall_mem_singleton.mpr (streams_of streams_text)⟩)

theorem TypeRef.streams : TypeRef.codec.Streams :=
  streams_record ⟨streams_text, streams_text, Scope.streams, trivial⟩

theorem MemberRef.streams : MemberRef.codec.Streams :=
  streams_record ⟨TypeRef.streams, streams_text, streams_text, trivial⟩

theorem Operand.streams : Operand.codec.Streams := by
  refine streams_choice ?_
  simp only [List.forall_mem_cons, List.not_mem_nil, false_implies, implies_true, and_true]
  exact ⟨trivial, streams_of streams_int32, streams_of streams_text, streams_of streams_uint16,
    streams_of streams_uint16, streams_of MemberRef.streams, streams_of MemberRef.streams,
    streams_of streams_index, streams_of streams_index.list⟩

theorem Instruction.streams : Instruction.codec.Streams :=
  streams_record ⟨streams_names, Operand.streams, trivial⟩

theorem ExceptionHandler.streams : ExceptionHandler.codec.Streams :=
  streams_record ⟨streams_names, streams_index, streams_index, streams_index, streams_index,
    streams_index.optional, trivial⟩

theorem MethodBody.streams : MethodBody.codec.Streams :=
  streams_record ⟨streams_uint16, streams_text.list, Instruction.streams.list,
    ExceptionHandler.streams.list, trivial⟩

theorem Version.streams : Version.codec.Streams :=
  streams_record ⟨streams_uint16, streams_uint16, streams_uint16, streams_uint16, trivial⟩

theorem AssemblyRef.streams : AssemblyRef.codec.Streams :=
  streams_record ⟨streams_text, Version.streams, trivial⟩

theorem FieldDef.streams : FieldDef.codec.Streams :=
  streams_record ⟨streams_text, streams_text, streams_boolean, trivial⟩

theorem MethodDef.streams : MethodDef.codec.Streams :=
  streams_record ⟨streams_text, streams_text, streams_text.list, streams_boolean, streams_names,
    MethodBody.streams.optional, trivial⟩

theorem TypeDef.streams : TypeDef.codec.Streams :=
  streams_record ⟨streams_text, streams_text, TypeRef.streams.optional, streams_boolean,
    streams_boolean, FieldDef.streams.list, MethodDef.streams.list, trivial⟩

namespace Module

theorem streams : Module.codec.Streams :=
  streams_record ⟨streams_text, Version.streams, streams_uint32, AssemblyRef.streams.list,
    TypeDef.streams.list, trivial⟩

/-- **The image of a module is the image of that module only**: it is refused as soon as a
byte at its end is missing, because the image ends too early, and if a byte follows it,
because of what trails behind.  So no image begins with another one. -/
theorem refuses_toImage {m : Module} (hindexed : m.Indexed) (hlength : m.toImage.length < 2 ^ 64) :
    m.toImage ≠ [] ∧
    (∀ part, part <+: m.toImage → part ≠ m.toImage →
      ∃ inside, ofImage? part = .error (.ended inside part.length)) ∧
    (∀ more, more ≠ [] →
      ofImage? (m.toImage ++ more) = .error (.grammar .trailing (m.toImage.length + 1))) ∧
    (∀ m' : Module, m'.Indexed → m'.toImage <+: m.toImage → m' = m) := by
  have hread : ofImage? m.toImage = .ok m := Codec.decode_encode (reads 115 hindexed) hlength
  refine ⟨List.ne_nil_of_length_pos (Module.codec.toValue m).length_write_pos,
    fun part hpart hne => streams.decode_of_cut hread hpart hne,
    fun more hmore => streams.decode_append hread hmore, fun m' hindexed' hcut => ?_⟩
  have hread' : ofImage? m'.toImage = .ok m' :=
    Codec.decode_encode (reads 115 hindexed') (Nat.lt_of_le_of_lt hcut.length_le hlength)
  by_cases heq : m'.toImage = m.toImage
  · rw [heq, hread] at hread'
    exact (Except.ok.inj hread').symm
  · -- what is read as another module does not end too early
    obtain ⟨inside, hended⟩ := streams.decode_of_cut hread hcut heq
    cases hread'.symm.trans hended

/-- A module with a method, whose image is cut off within the name of a field, is not there
at all, or is followed by its own first byte. -/
theorem lever_refuses_toImage :
    let body : MethodBody :=
      { maxStack := 2
        locals := ["int"]
        instructions := [⟨.ldcI4, .int (-300)⟩, ⟨.switch, .targets [0, 2]⟩, ⟨.ret, .none⟩]
        handlers := [⟨.finally, 0, 1, 1, 2, none⟩] }
    let m : Module :=
      { name := "Hebel"
        version := {}
        flags := 1
        references := []
        types := [
          { space := "Größe", name := "Lever", base := none,
            methods := [⟨"Throw", "void", ["int"], true, .il, some body⟩] }] }
    let part := m.toImage.take 360
    let more := m.toImage.take 1
    (m.Indexed ∧ m.toImage.length < 2 ^ 64) ∧
      (part <+: m.toImage ∧ part ≠ m.toImage ∧
        ∃ inside, ofImage? part = .error (.ended inside 360)) ∧
      (∃ inside, ofImage? [] = .error (.ended inside 0)) ∧
      (more ≠ [] ∧
        ofImage? (m.toImage ++ more) = .error (.grammar .trailing (m.toImage.length + 1))) ∧
      ∀ m' : Module, m'.Indexed → m'.toImage <+: m.toImage → m' = m := by
  intro body m part more
  have hindexed : m.Indexed := by
    unfold Indexed
    decide
  have hlength : m.toImage.length < 2 ^ 64 := by decide +kernel
  have hlonger : 360 < m.toImage.length := by decide +kernel
  have hpart : part.length = 360 := List.length_take_of_le (Nat.le_of_lt hlonger)
  have hcut : part <+: m.toImage := List.take_prefix _ _
  have hne : part ≠ m.toImage := fun heq => by
    rw [← heq, hpart] at hlonger
    exact Nat.lt_irrefl _ hlonger
  have hmore : more ≠ [] := by decide +kernel
  obtain ⟨hnil, hshort, hlong, hother⟩ := refuses_toImage hindexed hlength
  exact ⟨⟨hindexed, hlength⟩, ⟨hcut, hne, hpart ▸ hshort part hcut hne⟩,
    hshort [] List.nil_prefix hnil.symm, ⟨hmore, hlong more hmore⟩, hother⟩

end Module

end BranchCoverage
