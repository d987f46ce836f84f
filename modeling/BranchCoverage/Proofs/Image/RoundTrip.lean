/-
Modules survive storage.

One lemma for each codec says how many levels it needs (`Scope.reads` to
`Module.reads`, from the inside out), every time for any number of levels left
beyond those.  A module needs twelve, which is fewer than an image may nest, so
what was stored is what comes back (`ofImage?_toImage`).  Instructions and
handlers hold indices, which are words of 64 bits in an image, and no image is
longer than such a word can count.
-/
import BranchCoverage.Module.Image
import BranchCoverage.Proofs.Image.Codec

namespace BranchCoverage

open Image (Codec Fields Variant Value)
open Image.Codec (reads_text reads_boolean reads_uint16 reads_uint32 reads_int32 reads_index
  reads_optional reads_list reads_record reads_plain reads_of)

/-- A type of names is read at any level, if every name stands for one value. -/
theorem Image.Codec.reads_names {α : Type} {all : List α} {name : α → String} {x : α} {depth : Nat}
    (hnodup : (all.map name).Nodup) (hx : x ∈ all) : (Codec.names all name).Reads depth x := by
  refine reads_plain rfl ?_
  induction all with
  | nil => cases hx
  | cons y rest ih =>
    obtain ⟨hfresh, hrest⟩ := List.nodup_cons.mp hnodup
    rcases List.mem_cons.mp hx with rfl | hx
    · exact List.find?_cons_of_pos (decide_eq_true rfl)
    · have hother : name y ≠ name x := fun heq => hfresh (heq ▸ List.mem_map_of_mem hx)
      rw [List.map_cons, List.find?_cons_of_neg]
      · exact ih hrest hx
      · exact fun heq => hother (of_decide_eq_true heq)

/-! ### References -/

theorem Scope.reads (depth : Nat) (s : Scope) : Scope.codec.Reads (depth + 1) s := by
  cases s with
  | here => exact reads_plain rfl rfl
  | assembly name => exact reads_of rfl rfl (reads_text depth name)

theorem TypeRef.reads (depth : Nat) (t : TypeRef) : TypeRef.codec.Reads (depth + 2) t :=
  reads_record (by decide) rfl ⟨reads_text _ _, reads_text _ _, Scope.reads depth _, trivial⟩

theorem MemberRef.reads (depth : Nat) (r : MemberRef) : MemberRef.codec.Reads (depth + 3) r :=
  reads_record (by decide) rfl ⟨TypeRef.reads depth _, reads_text _ _, reads_text _ _, trivial⟩

/-! ### Bodies -/

/-- The indices that a region holds. -/
def ExceptionHandler.indices (h : ExceptionHandler) : List Nat :=
  [h.tryStart, h.tryEnd, h.handlerStart, h.handlerEnd] ++ h.filterStart.toList

/-- The indices that the instructions and regions of a body hold. -/
def MethodBody.indices (b : MethodBody) : List Nat :=
  b.instructions.flatMap Instruction.targets ++ b.handlers.flatMap ExceptionHandler.indices

theorem OpCode.reads (depth : Nat) (o : OpCode) : OpCode.codec.Reads depth o :=
  Codec.reads_names (by decide) (by cases o <;> decide)

theorem Operand.reads (depth : Nat) {o : Operand} (h : ∀ index ∈ o.branchTargets, index < 2 ^ 64) :
    Operand.codec.Reads (depth + 4) o := by
  cases o with
  | none => exact reads_plain rfl rfl
  | int value => exact reads_of rfl rfl (reads_int32 _ value)
  | text value => exact reads_of rfl rfl (reads_text _ value)
  | «variable» index => exact reads_of rfl rfl (reads_uint16 _ index)
  | argument index => exact reads_of rfl rfl (reads_uint16 _ index)
  | field member => exact reads_of rfl rfl (MemberRef.reads depth member)
  | method member => exact reads_of rfl rfl (MemberRef.reads depth member)
  | target index => exact reads_of rfl rfl (reads_index _ (h index List.mem_cons_self))
  | targets indices =>
    exact reads_of rfl rfl (reads_list fun index hindex => reads_index _ (h index hindex))

theorem Instruction.reads (depth : Nat) {i : Instruction}
    (h : ∀ index ∈ i.targets, index < 2 ^ 64) : Instruction.codec.Reads (depth + 5) i :=
  reads_record (by decide) rfl ⟨OpCode.reads _ _, Operand.reads depth h, trivial⟩

theorem HandlerKind.reads (depth : Nat) (k : HandlerKind) : HandlerKind.codec.Reads depth k :=
  Codec.reads_names (by decide) (by cases k <;> decide)

theorem ExceptionHandler.reads (depth : Nat) {h : ExceptionHandler}
    (hsmall : ∀ index ∈ h.indices, index < 2 ^ 64) :
    ExceptionHandler.codec.Reads (depth + 1) h := by
  simp only [ExceptionHandler.indices, List.cons_append, List.nil_append,
    List.forall_mem_cons] at hsmall
  obtain ⟨htry, htryEnd, hstart, hend, hfilter⟩ := hsmall
  exact reads_record (by decide) rfl
    ⟨HandlerKind.reads _ _, reads_index _ htry, reads_index _ htryEnd, reads_index _ hstart,
      reads_index _ hend, reads_optional
        (fun index hindex => reads_index _ (hfilter index (Option.mem_toList.mpr hindex)))
        fun _ _ => Value.noConfusion, trivial⟩

theorem MethodBody.reads (depth : Nat) {b : MethodBody} (h : ∀ index ∈ b.indices, index < 2 ^ 64) :
    MethodBody.codec.Reads (depth + 7) b := by
  obtain ⟨htargets, hregions⟩ := List.forall_mem_append.mp h
  refine reads_record (by decide) rfl ⟨reads_uint16 _ _, reads_list fun s _ => reads_text _ s,
    reads_list fun i hi => Instruction.reads depth fun index hindex => ?_,
    reads_list fun r hr => ExceptionHandler.reads _ fun index hindex => ?_, trivial⟩
  · exact htargets index (List.mem_flatMap.mpr ⟨i, hi, hindex⟩)
  · exact hregions index (List.mem_flatMap.mpr ⟨r, hr, hindex⟩)

/-! ### Definitions -/

theorem Version.reads (depth : Nat) (v : Version) : Version.codec.Reads (depth + 1) v :=
  reads_record (by decide) rfl
    ⟨reads_uint16 _ _, reads_uint16 _ _, reads_uint16 _ _, reads_uint16 _ _, trivial⟩

theorem AssemblyRef.reads (depth : Nat) (r : AssemblyRef) : AssemblyRef.codec.Reads (depth + 2) r :=
  reads_record (by decide) rfl ⟨reads_text _ _, Version.reads _ _, trivial⟩

theorem FieldDef.reads (depth : Nat) (f : FieldDef) : FieldDef.codec.Reads (depth + 1) f :=
  reads_record (by decide) rfl ⟨reads_text _ _, reads_text _ _, reads_boolean _ _, trivial⟩

theorem CodeType.reads (depth : Nat) (c : CodeType) : CodeType.codec.Reads depth c :=
  Codec.reads_names (by decide) (by cases c <;> decide)

theorem MethodDef.reads (depth : Nat) {d : MethodDef}
    (h : ∀ b ∈ d.body, ∀ index ∈ b.indices, index < 2 ^ 64) :
    MethodDef.codec.Reads (depth + 8) d :=
  reads_record (by decide) rfl
    ⟨reads_text _ _, reads_text _ _, reads_list fun s _ => reads_text _ s, reads_boolean _ _,
      CodeType.reads _ _,
      reads_optional (fun b hb => MethodBody.reads depth (h b hb)) fun _ _ => Value.noConfusion,
      trivial⟩

theorem TypeDef.reads (depth : Nat) {t : TypeDef}
    (h : ∀ d ∈ t.methods, ∀ b ∈ d.body, ∀ index ∈ b.indices, index < 2 ^ 64) :
    TypeDef.codec.Reads (depth + 10) t :=
  reads_record (by decide) rfl
    ⟨reads_text _ _, reads_text _ _,
      reads_optional (fun base _ => TypeRef.reads _ base) fun _ _ => Value.noConfusion,
      reads_boolean _ _, reads_boolean _ _, reads_list fun f _ => FieldDef.reads _ f,
      reads_list fun d hd => MethodDef.reads depth (h d hd), trivial⟩

namespace Module

/-- Every index that the module holds is a word of 64 bits. -/
def Indexed (m : Module) : Prop :=
  ∀ t ∈ m.types, ∀ d ∈ t.methods, ∀ b ∈ d.body, ∀ index ∈ b.indices, index < 2 ^ 64

theorem reads (depth : Nat) {m : Module} (h : m.Indexed) : Module.codec.Reads (depth + 12) m :=
  reads_record (by decide) rfl
    ⟨reads_text _ _, Version.reads _ _, reads_uint32 _ _,
      reads_list fun r _ => AssemblyRef.reads _ r,
      reads_list fun t ht => TypeDef.reads depth (h t ht), trivial⟩

/-- **A module comes back from its image.** -/
theorem ofImage?_toImage {m : Module} (hindexed : m.Indexed) (hlength : m.toImage.length < 2 ^ 64) :
    ofImage? m.toImage = .ok m := by
  have hread : Module.codec.read Image.maxDepth ⟨0, m.toImage⟩
      = .ok (m, ⟨m.toImage.length, []⟩) := by
    have h := reads 115 hindexed 0 [] (by rwa [Nat.zero_add])
    rw [List.append_nil, Nat.zero_add] at h
    exact h
  rw [ofImage?, Codec.decode, hread]
  rfl

/-- A core library of one type, whose method has a region, a switch and a
constant below zero. -/
theorem switchyard_ofImage?_toImage :
    let body : MethodBody :=
      { maxStack := 300
        locals := ["int", ""]
        instructions :=
          [⟨.ldcI4, .int (-70000)⟩, ⟨.switch, .targets [0, 4, 4294967296]⟩, ⟨.ldloc, .variable 1⟩,
            ⟨.call, .method ⟨⟨"System", "Console", .assembly "mscorlib"⟩, "Write", "void(string)"⟩⟩,
            ⟨.ret, .none⟩]
        handlers := [⟨.filter, 0, 2, 3, 5, some 2⟩] }
    let m : Module :=
      { name := "Größe"
        version := ⟨4, 0, 30319, 65535⟩
        flags := 4294967295
        references := [⟨"System", {}⟩]
        types := [
          { space := "Yard", name := "Switch/Lever", base := some ⟨"System", "Object", .here⟩,
            fields := [⟨"count", "int", true⟩],
            methods := [⟨"Throw", "void", ["int", "string"], false, .il, some body⟩,
              ⟨"Rest", "void", [], true, .native, none⟩] }] }
    m.Indexed ∧ m.toImage.length < 2 ^ 64 ∧ ofImage? m.toImage = .ok m := by
  intro body m
  have hindexed : m.Indexed := by
    unfold Indexed
    decide
  have hlength : m.toImage.length < 2 ^ 64 := by decide +kernel
  exact ⟨hindexed, hlength, ofImage?_toImage hindexed hlength⟩

end Module

end BranchCoverage
