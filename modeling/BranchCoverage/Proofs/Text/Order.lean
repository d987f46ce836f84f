/-
The order of texts is that of their bytes.

Of two characters the greater one is not written with fewer bytes.  If it is written with
more, its leading byte is greater; if with as many, the bits of the two are compared from
the highest on (`encodeChar_append_lt`).  So a text that is smaller, character by
character, has the smaller bytes (`encode_lt_encode`).
-/
import Mathlib.Data.List.Lex
import Mathlib.Tactic.SplitIfs
import BranchCoverage.Text.Utf8

namespace BranchCoverage.Text.Utf8

/-- The bytes of a text are those of its characters, one after another. -/
theorem encode_eq_flatMap (s : String) :
    encode s = s.toList.flatMap String.utf8EncodeChar := by
  have hbytes : s.toUTF8 = (s.toList.flatMap String.utf8EncodeChar).toByteArray := by
    conv => lhs; rw [← String.ofList_toList (s := s)]
    rfl
  rw [encode, hbytes, List.data_toByteArray]

theorem cons_lt_cons_of_le {a b : Nat} {xs ys : List UInt8} (hb : b < 256) (hle : a ≤ b)
    (hrest : a = b → xs < ys) : UInt8.ofNat a :: xs < UInt8.ofNat b :: ys := by
  rcases Nat.lt_or_eq_of_le hle with hlt | rfl
  · refine List.Lex.rel (UInt8.lt_iff_toNat_lt.mpr ?_)
    rwa [UInt8.toNat_ofNat_of_lt' (Nat.lt_trans hlt hb), UInt8.toNat_ofNat_of_lt' hb]
  · exact List.Lex.cons (hrest rfl)

/-- Whatever follows, the smaller character has the smaller bytes. -/
theorem encodeChar_append_lt {c d : Char} (h : c < d) (xs ys : List UInt8) :
    String.utf8EncodeChar c ++ xs < String.utf8EncodeChar d ++ ys := by
  have hlt : c.val.toNat < d.val.toNat := h
  have hd : d.val.toNat < 1114112 := by
    rcases d.valid with hd | hd <;> omega
  rw [String.utf8EncodeChar, String.utf8EncodeChar]
  generalize c.val.toNat = m at *
  generalize d.val.toNat = n at *
  split_ifs
  -- the greater one is not written with fewer bytes
  all_goals try (exfalso; omega)
  -- only where there are as many can the leading bytes be the same
  all_goals refine cons_lt_cons_of_le (by omega) (by omega) fun _ => ?_
  all_goals try (exfalso; omega)
  · exact cons_lt_cons_of_le (by omega) (by omega) fun _ => by omega
  · refine cons_lt_cons_of_le (by omega) (by omega) fun _ => ?_
    exact cons_lt_cons_of_le (by omega) (by omega) fun _ => by omega
  · refine cons_lt_cons_of_le (by omega) (by omega) fun _ => ?_
    refine cons_lt_cons_of_le (by omega) (by omega) fun _ => ?_
    exact cons_lt_cons_of_le (by omega) (by omega) fun _ => by omega

theorem flatMap_encodeChar_lt {cs ds : List Char} (h : cs < ds) :
    cs.flatMap String.utf8EncodeChar < ds.flatMap String.utf8EncodeChar := by
  induction h with
  | @nil d ds =>
    rw [List.flatMap_nil, List.flatMap_cons]
    rcases hbytes : String.utf8EncodeChar d with - | ⟨byte, bytes⟩
    · exact absurd hbytes String.utf8EncodeChar_ne_nil
    · exact List.Lex.nil
  | rel hlt =>
    rw [List.flatMap_cons, List.flatMap_cons]
    exact encodeChar_append_lt hlt _ _
  | cons _ ih =>
    rw [List.flatMap_cons, List.flatMap_cons]
    exact List.append_left_lt ih

/-- **The smaller text has the smaller bytes.** -/
theorem encode_lt_encode {s t : String} (h : s < t) : encode s < encode t := by
  rw [encode_eq_flatMap, encode_eq_flatMap]
  exact flatMap_encodeChar_lt (String.lt_iff.mp h)

end BranchCoverage.Text.Utf8
