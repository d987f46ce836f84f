/-
Words on a channel, and what a read or write of one can come to.

A word read where one was written is the same word (`readWord_encode`), and what
is read as a word are its bytes (`bytes_of_readWord`).  A write that fails has
sent a first part of its bytes (`write_cases`), which is never all of them
(`length_sent_of_error`).
-/
import BranchCoverage.Channel.Basic

namespace BranchCoverage

/-! ### Words -/

namespace Word

/-- The bytes of a number hold all its bits. -/
theorem or_bytes (u : UInt32) :
    u.toUInt8.toUInt32 ||| ((u >>> 8).toUInt8.toUInt32 <<< 8) |||
      ((u >>> 16).toUInt8.toUInt32 <<< 16) ||| ((u >>> 24).toUInt8.toUInt32 <<< 24) = u := by
  have h8 : UInt32.toBitVec 8 % 32 = 8#32 := by decide
  have h16 : UInt32.toBitVec 16 % 32 = 16#32 := by decide
  have h24 : UInt32.toBitVec 24 % 32 = 24#32 := by decide
  apply UInt32.toBitVec_inj.mp
  refine BitVec.eq_of_getLsbD_eq fun i hi => ?_
  simp only [UInt32.toBitVec_or, UInt32.toBitVec_shiftLeft, UInt32.toBitVec_shiftRight,
    UInt8.toBitVec_toUInt32, UInt32.toBitVec_toUInt8, h8, h16, h24, BitVec.shiftLeft_eq',
    BitVec.ushiftRight_eq', BitVec.toNat_ofNat, BitVec.getLsbD_or, BitVec.getLsbD_shiftLeft,
    BitVec.getLsbD_setWidth, BitVec.getLsbD_ushiftRight, Nat.reducePow, Nat.reduceMod]
  -- each bit is found in the one byte that it belongs to
  grind

/-- The bytes of a word stand for it. -/
theorem ofList?_encode (word : Int32) : ofList? (encode word) = some word :=
  congrArg (some ∘ UInt32.toInt32) (or_bytes word.toUInt32)

/-- The bytes of the word of four bytes are these four. -/
theorem encode_ofBytes (a b c d : UInt8) : encode (ofBytes a b c d) = [a, b, c, d] := by
  have h8 : UInt32.toBitVec 8 % 32 = 8#32 := by decide
  have h16 : UInt32.toBitVec 16 % 32 = 16#32 := by decide
  have h24 : UInt32.toBitVec 24 % 32 = 24#32 := by decide
  show [UInt32.toUInt8 _, UInt32.toUInt8 _, UInt32.toUInt8 _, UInt32.toUInt8 _] = _
  simp only [List.cons.injEq, and_true, ← UInt8.toBitVec_inj]
  refine ⟨?_, ?_, ?_, ?_⟩
  all_goals
    refine BitVec.eq_of_getLsbD_eq fun i hi => ?_
    simp only [ofBytes, UInt32.toUInt32_toInt32, UInt32.toBitVec_or, UInt32.toBitVec_shiftLeft,
      UInt32.toBitVec_shiftRight, UInt8.toBitVec_toUInt32, UInt32.toBitVec_toUInt8, h8, h16, h24,
      BitVec.shiftLeft_eq', BitVec.ushiftRight_eq', BitVec.toNat_ofNat, BitVec.getLsbD_or,
      BitVec.getLsbD_shiftLeft, BitVec.getLsbD_setWidth, BitVec.getLsbD_ushiftRight,
      Nat.reducePow, Nat.reduceMod]
    grind

theorem length_encode (word : Int32) : (encode word).length = 4 :=
  rfl

theorem length_flatMap_encode (words : List Int32) :
    (words.flatMap encode).length = 4 * words.length := by
  induction words with
  | nil => rfl
  | cons word rest ih =>
    rw [List.flatMap_cons, List.length_append, ih, List.length_cons, length_encode]
    omega

end Word

/-! ### Reading and writing -/

namespace Source

/-- A word that was written is read. -/
theorem readWord_encode (word : Int32) (rest : List UInt8) (failure : Option String) :
    readWord ⟨Word.encode word ++ rest, failure⟩ = (.ok word, ⟨rest, failure⟩) := by
  have hword : some (Word.ofBytes _ _ _ _) = some word := Word.ofList?_encode word
  show (Except.ok (Word.ofBytes _ _ _ _), (⟨rest, failure⟩ : Source)) = _
  rw [Option.some.inj hword]

/-- What is read as a word are its bytes. -/
theorem bytes_of_readWord {s s' : Source} {word : Int32} (h : s.readWord = (.ok word, s')) :
    s.bytes = Word.encode word ++ s'.bytes ∧ s'.failure = s.failure := by
  obtain ⟨bytes, failure⟩ := s
  rcases bytes with - | ⟨a, - | ⟨b, - | ⟨c, - | ⟨d, rest⟩⟩⟩⟩
  · cases h
  · cases h
  · cases h
  · cases h
  · cases h
    exact ⟨congrArg (· ++ rest) (Word.encode_ofBytes a b c d).symm, rfl⟩

/-- Of fewer than four bytes no word is read. -/
theorem readWord_of_lt {s : Source} (h : s.bytes.length < 4) :
    s.readWord = (.error s.exhausted, { s with bytes := [] }) := by
  obtain ⟨bytes, failure⟩ := s
  match bytes, h with
  | [], _ => rfl
  | [_], _ => rfl
  | [_, _], _ => rfl
  | [_, _, _], _ => rfl

/-- Bytes that were written are read. -/
theorem read_append {n : Nat} {bytes : List UInt8} (h : bytes.length = n) (rest : List UInt8)
    (failure : Option String) :
    read n ⟨bytes ++ rest, failure⟩ = (.ok bytes, ⟨rest, failure⟩) := by
  have hle : n ≤ (bytes ++ rest).length := by
    rw [List.length_append, h]
    exact Nat.le_add_right _ _
  rw [read, if_pos hle]
  dsimp only
  rw [List.take_left' h, List.drop_left' h]

/-- What is read are the first bytes. -/
theorem bytes_of_read {n : Nat} {s s' : Source} {bytes : List UInt8}
    (h : s.read n = (.ok bytes, s')) : s.bytes = bytes ++ s'.bytes ∧ s'.failure = s.failure := by
  rw [read] at h
  split at h
  · cases h
    exact ⟨(List.take_append_drop n s.bytes).symm, rfl⟩
  · cases h

/-- Of fewer bytes than asked for none are read. -/
theorem read_of_lt {n : Nat} {s : Source} (h : s.bytes.length < n) :
    s.read n = (.error s.exhausted, { s with bytes := [] }) :=
  if_neg (Nat.not_le.mpr h)

/-- A read that succeeds gives as many bytes as it was asked for. -/
theorem length_of_read {n : Nat} {s s' : Source} {bytes : List UInt8}
    (h : s.read n = (.ok bytes, s')) : bytes.length = n := by
  rw [read] at h
  split at h
  · next hle =>
    cases h
    exact List.length_take_of_le hle
  · cases h

end Source

namespace Outlet

/-- A write sends all its bytes, or fails and has sent the first of them. -/
theorem write_cases (bytes : List UInt8) (o : Outlet) :
    o.write bytes = (.ok (), { o with sent := o.sent ++ bytes }) ∨
      ∃ e part, part <+: bytes ∧
        o.write bytes = (.error e, { o with sent := o.sent ++ part }) := by
  obtain ⟨sent, limit⟩ := o
  rcases limit with - | limit
  · exact .inl rfl
  rw [write]
  dsimp only
  split
  · exact .inl rfl
  split
  · exact .inr ⟨_, _, List.take_prefix _ _, rfl⟩
  · have hnone : sent ++ [] = sent := List.append_nil sent
    exact .inr ⟨.broken limit.reason, [], List.nil_prefix, by rw [hnone]⟩

/-- A write that fails has not sent its last byte. -/
theorem length_sent_of_error {bytes : List UInt8} {o o' : Outlet} {e : IoError}
    (hne : bytes ≠ []) (h : o.write bytes = (.error e, o')) :
    o'.sent.length < o.sent.length + bytes.length := by
  have hpos := List.length_pos_iff.mpr hne
  obtain ⟨sent, limit⟩ := o
  rcases limit with - | limit
  · cases h
  rw [write] at h
  dsimp only at h ⊢
  split at h
  · cases h
  split at h
  · cases h
    rw [List.length_append, List.length_take]
    omega
  · cases h
    exact Nat.lt_add_of_pos_right hpos

/-- What is sent has room. -/
theorem le_room_of_ok {bytes : List UInt8} {o o' : Outlet} {limit : Limit}
    (hlimit : o.limit = some limit) (h : o.write bytes = (.ok (), o')) :
    o.sent.length + bytes.length ≤ limit.room := by
  rw [write, hlimit] at h
  dsimp only at h
  split at h
  · next hroom => exact hroom
  split at h <;> cases h

/-- A write fails for want of room. -/
theorem exists_limit_of_error {bytes : List UInt8} {o o' : Outlet} {e : IoError}
    (h : o.write bytes = (.error e, o')) :
    ∃ limit, o.limit = some limit ∧ limit.room < o.sent.length + bytes.length ∧
      e = .broken limit.reason := by
  rcases hlimit : o.limit with - | limit <;> rw [write, hlimit] at h
  · cases h
  dsimp only at h
  split at h
  · cases h
  · next hroom =>
    refine ⟨limit, rfl, Nat.lt_of_not_le hroom, ?_⟩
    split at h <;> cases h <;> rfl

/-- A word is sent, or some of its bytes are and not all. -/
theorem writeWord_cases (word : Int32) (o : Outlet) :
    o.writeWord word = (.ok (), { o with sent := o.sent ++ Word.encode word }) ∨
      ∃ e part, part <+: Word.encode word ∧ part.length < 4 ∧
        o.writeWord word = (.error e, { o with sent := o.sent ++ part }) := by
  rcases write_cases (Word.encode word) o with hwrite | ⟨e, part, hpart, hwrite⟩
  · exact .inl hwrite
  · refine .inr ⟨e, part, hpart, ?_, hwrite⟩
    have hne : Word.encode word ≠ [] := List.cons_ne_nil _ _
    have hlength := length_sent_of_error hne hwrite
    rw [List.length_append, Word.length_encode] at hlength
    omega

/-- Without a limit nothing fails. -/
theorem write_of_limit {o : Outlet} (h : o.limit = none) (bytes : List UInt8) :
    o.write bytes = (.ok (), { o with sent := o.sent ++ bytes }) := by
  rw [write, h]

end Outlet

end BranchCoverage
