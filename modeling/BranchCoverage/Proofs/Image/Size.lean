/-
How large an image is at least.

What a value is made of is written among its bytes, so no part of it is larger
than the whole (`Part.length_le`).  A body therefore has no more instructions
than the image of its module has bytes, and the indices of a valid one are below
both.
-/
import BranchCoverage.Proofs.Image.RoundTrip
import BranchCoverage.Proofs.Module.Validity

namespace BranchCoverage

open Image (Codec Value)

namespace Image.Value

/-- A value is an element of an array, or what a map has under one of its keys. -/
inductive Part : Value → Value → Prop where
  | item {v : Value} {items : List Value} (h : v ∈ items) : Part v (.array items)
  | entry {key : String} {v : Value} {entries : List (String × Value)} (h : (key, v) ∈ entries) :
      Part v (.map entries)

theorem length_write_le_of_mem {v : Value} {items : List Value} (h : v ∈ items) :
    v.write.length ≤ (writeItems items).length := by
  induction items with
  | nil => cases h
  | cons first rest ih =>
    rw [writeItems, List.length_append]
    rcases List.mem_cons.mp h with rfl | hrest
    · exact Nat.le_add_right _ _
    · exact Nat.le_trans (ih hrest) (Nat.le_add_left _ _)

theorem length_write_le_of_mem_entries {key : String} {v : Value} {entries : List (String × Value)}
    (h : (key, v) ∈ entries) : v.write.length ≤ (writeEntries entries).length := by
  induction entries with
  | nil => cases h
  | cons first rest ih =>
    obtain ⟨other, w⟩ := first
    rw [writeEntries, List.length_append, List.length_append]
    rcases List.mem_cons.mp h with heq | hrest
    · cases heq
      omega
    · have := ih hrest
      omega

/-- A part is not larger than the whole. -/
theorem Part.length_le {v w : Value} (h : v.Part w) : v.write.length ≤ w.write.length := by
  cases h with
  | item h =>
    rw [write, List.length_append]
    exact Nat.le_trans (length_write_le_of_mem h) (Nat.le_add_left _ _)
  | entry h =>
    rw [write, List.length_append]
    exact Nat.le_trans (length_write_le_of_mem_entries h) (Nat.le_add_left _ _)

/-- An array has no more elements than bytes. -/
theorem length_le_write_array (items : List Value) :
    items.length ≤ (Value.array items).write.length := by
  rw [write, List.length_append]
  exact Nat.le_trans (Codec.length_le_writeItems items) (Nat.le_add_left _ _)

end Image.Value

open Image.Value (Part)

/-- An element of a list is a part of it. -/
theorem Image.Codec.part_list {α : Type} (c : Codec α) {x : α} {xs : List α} (h : x ∈ xs) :
    (c.toValue x).Part (c.list.toValue xs) :=
  .item (List.mem_map_of_mem h)

namespace Module

variable {m : Module}

/-- A body has no more instructions than the image of its module has bytes. -/
theorem length_le_toImage {t : TypeDef} {d : MethodDef} {b : MethodBody} (ht : t ∈ m.types)
    (hd : d ∈ t.methods) (hb : d.body = some b) : b.length ≤ m.toImage.length := by
  -- where the keys of the parts are in their maps, from the inside out
  have hinstructions : Part (Instruction.codec.list.toValue b.instructions)
      (MethodBody.codec.toValue b) := .entry (.tail _ (.tail _ (.head _)))
  have hbody : Part (MethodBody.codec.toValue b) (MethodDef.codec.toValue d) := by
    have hentry : Part (MethodBody.codec.optional.toValue d.body) (MethodDef.codec.toValue d) :=
      .entry (.tail _ (.tail _ (.tail _ (.tail _ (.tail _ (.head _))))))
    rwa [hb] at hentry
  have hmethods : Part (MethodDef.codec.list.toValue t.methods) (TypeDef.codec.toValue t) :=
    .entry (.tail _ (.tail _ (.tail _ (.tail _ (.tail _ (.tail _ (.head _)))))))
  have htypes : Part (TypeDef.codec.list.toValue m.types) (Module.codec.toValue m) :=
    .entry (.tail _ (.tail _ (.tail _ (.tail _ (.head _)))))
  calc b.length
      = (b.instructions.map Instruction.codec.toValue).length := (List.length_map _).symm
    _ ≤ (Instruction.codec.list.toValue b.instructions).write.length :=
      Value.length_le_write_array _
    _ ≤ (MethodBody.codec.toValue b).write.length := hinstructions.length_le
    _ ≤ (MethodDef.codec.toValue d).write.length := hbody.length_le
    _ ≤ (MethodDef.codec.list.toValue t.methods).write.length :=
      (Codec.part_list _ hd).length_le
    _ ≤ (TypeDef.codec.toValue t).write.length := hmethods.length_le
    _ ≤ (TypeDef.codec.list.toValue m.types).write.length := (Codec.part_list _ ht).length_le
    _ ≤ m.toImage.length := htypes.length_le

end Module

/-- No index that a valid body holds is beyond its end. -/
theorem MethodBody.Valid.index_le {b : MethodBody} (h : b.Valid) :
    ∀ i ∈ b.indices, i ≤ b.length := by
  refine List.forall_mem_append.mpr ⟨fun i hi => ?_, fun i hi => ?_⟩
  · obtain ⟨instruction, hmem, htarget⟩ := List.mem_flatMap.mp hi
    exact Nat.le_of_lt (h.target_lt instruction hmem i htarget)
  · obtain ⟨r, hmem, hindex⟩ := List.mem_flatMap.mp hi
    obtain ⟨htry, hhandler, htryEnd, hhandlerEnd, hfilter⟩ := h.proper r hmem
    rcases List.mem_append.mp hindex with hbound | hstart
    · simp only [List.mem_cons, List.not_mem_nil, or_false] at hbound
      omega
    · have := hfilter i (Option.mem_toList.mp hstart)
      omega

namespace Module

/-- A valid module holds no index that its image has no word for. -/
theorem indexed_of_validate {m : Module} (h : m.validate = .ok ())
    (hlength : m.toImage.length < 2 ^ 64) : m.Indexed := by
  intro t ht d hd b hb index hindex
  have hv : b.Valid :=
    validate_eq_ok_iff.mp h (t.methodName d, b) (mem_bodies.mpr ⟨t, ht, d, hd, hb, rfl⟩)
  calc index ≤ b.length := hv.index_le index hindex
    _ ≤ m.toImage.length := length_le_toImage ht hd hb
    _ < 2 ^ 64 := hlength

end Module

end BranchCoverage
