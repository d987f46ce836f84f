/-
What a reader makes of an image that goes on.

A reader that has only part of an image comes to a value or an error that all of the image
gives as well, or it runs into the end (`Streams`).  It may look ahead only if it reports
the end where there is nothing to look at (`Streams.peek`).  Everything here is read in
turn from parts that stream (`Streams.bind`); only where something is repeated up to a
closing byte does the number of rounds depend on the length of the image, and there it
matters that every round takes a byte (`Advances`, `streams_repeatFully`).
-/
import BranchCoverage.Proofs.Image.Head

namespace BranchCoverage.Image

namespace Position

/-- The length of the image, as far as it is there. -/
def size (p : Position) : Nat :=
  p.offset + p.rest.length

/-- The same position, when more of the image is there. -/
def extend (p : Position) (more : List UInt8) : Position :=
  ⟨p.offset, p.rest ++ more⟩

/-- One position is behind another one, in the same image. -/
structure Behind (p' p : Position) : Prop where
  size : p'.size = p.size
  length_le : p'.rest.length ≤ p.rest.length

theorem Behind.refl (p : Position) : p.Behind p :=
  ⟨rfl, Nat.le_refl _⟩

theorem Behind.trans {p p' p'' : Position} (h : p''.Behind p') (h' : p'.Behind p) : p''.Behind p :=
  ⟨h.size.trans h'.size, Nat.le_trans h.length_le h'.length_le⟩

end Position

namespace Reader

variable {α β σ : Type} {r : Reader α} {next : α → Reader β} {p p' : Position} {x : α}

/-! ### Readers in turn -/

theorem bind_of_ok (h : r p = .ok (x, p')) : (r >>= next) p = next x p' := by
  show (r p >>= fun q => next q.1 q.2) = _
  rw [h]
  rfl

theorem bind_of_error {e : ImageError} (h : r p = .error e) : (r >>= next) p = .error e := by
  show (r p >>= fun q => next q.1 q.2) = _
  rw [h]
  rfl

/-- What the reader makes of a part of an image it makes of all of it, unless it reports
that the image ends where the part does. -/
structure Streams (r : Reader α) : Prop where
  taken : ∀ {p x p'}, r p = .ok (x, p') →
    p'.Behind p ∧ ∀ more, r (p.extend more) = .ok (x, p'.extend more)
  refused : ∀ {p e}, r p = .error e →
    (∃ inside, e = .ended inside p.size) ∨ ∀ more, r (p.extend more) = .error e

/-- At the end of the image the reader reports just that. -/
def Hungry (r : Reader α) : Prop :=
  ∀ p : Position, p.rest = [] → ∃ inside, r p = .error (.ended inside p.size)

/-- The reader takes a byte at least. -/
def Advances (r : Reader α) : Prop :=
  ∀ p x p', r p = .ok (x, p') → p'.rest.length < p.rest.length

/-- What follows has to stream for the values only that it may follow. -/
theorem Streams.bind_of (h : Streams r) (hnext : ∀ p x p', r p = .ok (x, p') → Streams (next x)) :
    Streams (r >>= next) where
  taken := by
    intro p y p'' hrun
    rcases hr : r p with e | ⟨x, p'⟩
    · rw [bind_of_error hr] at hrun
      cases hrun
    · rw [bind_of_ok hr] at hrun
      obtain ⟨hbehind, hextend⟩ := h.taken hr
      obtain ⟨hbehind', hextend'⟩ := (hnext _ _ _ hr).taken hrun
      exact ⟨hbehind'.trans hbehind, fun more => (bind_of_ok (hextend more)).trans (hextend' more)⟩
  refused := by
    intro p e hrun
    rcases hr : r p with e' | ⟨x, p'⟩
    · rw [bind_of_error hr] at hrun
      cases hrun
      exact (h.refused hr).imp_right fun hall more => bind_of_error (hall more)
    · rw [bind_of_ok hr] at hrun
      obtain ⟨hbehind, hextend⟩ := h.taken hr
      rw [← hbehind.size]
      exact ((hnext _ _ _ hr).refused hrun).imp_right
        fun hall more => (bind_of_ok (hextend more)).trans (hall more)

theorem Streams.bind (h : Streams r) (hnext : ∀ x, Streams (next x)) : Streams (r >>= next) :=
  h.bind_of fun _ x _ _ => hnext x

theorem Streams.pure (x : α) : Streams (Pure.pure x : Reader α) where
  taken := by
    rintro p _ _ ⟨⟩
    exact ⟨.refl p, fun _ => rfl⟩
  refused := by
    rintro p e ⟨⟩

theorem Streams.map (f : α → β) (h : Streams r) : Streams (f <$> r) :=
  h.bind fun x => .pure (f x)

theorem Streams.ite {c : Prop} [Decidable c] {r r' : Reader α} (h : Streams r) (h' : Streams r') :
    Streams (if c then r else r') := by
  split
  · exact h
  · exact h'

/-- Where the image ends a look ahead is one at nothing, and has to end the reading. -/
theorem Streams.peek {next : Option UInt8 → Reader β} (hnone : Hungry (next none))
    (hsome : ∀ b, Streams (next (some b))) : Streams (Reader.peek >>= next) := by
  have hrun : ∀ p : Position, (Reader.peek >>= next) p = next p.rest.head? p := fun _ => rfl
  -- there is nothing to look at, or the next byte, which is also the next one of more
  have hcases : ∀ p : Position,
      (∃ inside, (Reader.peek >>= next) p = .error (.ended inside p.size)) ∨
      ∃ b, (Reader.peek >>= next) p = next (some b) p ∧
        ∀ more, (Reader.peek >>= next) (p.extend more) = next (some b) (p.extend more) := by
    rintro ⟨offset, - | ⟨b, rest⟩⟩
    · exact .inl (hnone ⟨offset, []⟩ rfl)
    · exact .inr ⟨b, hrun _, fun _ => hrun _⟩
  constructor
  · intro p y p' hok
    rcases hcases p with ⟨inside, hended⟩ | ⟨b, hb, hmore⟩
    · rw [hended] at hok
      cases hok
    · obtain ⟨hbehind, hextend⟩ := (hsome b).taken (hb.symm.trans hok)
      exact ⟨hbehind, fun more => (hmore more).trans (hextend more)⟩
  · intro p e herror
    rcases hcases p with ⟨inside, hended⟩ | ⟨b, hb, hmore⟩
    · exact .inl ⟨inside, Except.error.inj (herror.symm.trans hended)⟩
    · exact ((hsome b).refused (hb.symm.trans herror)).imp_right
        fun hall more => (hmore more).trans (hall more)

theorem Hungry.bind (h : Hungry r) : Hungry (r >>= next) := by
  intro p hrest
  obtain ⟨inside, hended⟩ := h p hrest
  exact ⟨inside, bind_of_error hended⟩

theorem Hungry.map (f : α → β) (h : Hungry r) : Hungry (f <$> r) := by
  have hbind : Hungry (r >>= fun x => Pure.pure (f x)) := h.bind
  exact hbind

theorem Hungry.peek {next : Option UInt8 → Reader β} (h : Hungry (next none)) :
    Hungry (Reader.peek >>= next) := by
  intro p hrest
  show ∃ inside, next p.rest.head? p = _
  rw [hrest]
  exact h p hrest

theorem Advances.bind (h : Advances r) (hnext : ∀ x, Streams (next x)) : Advances (r >>= next) := by
  intro p y p'' hrun
  rcases hr : r p with e | ⟨x, p'⟩
  · rw [bind_of_error hr] at hrun
    cases hrun
  · rw [bind_of_ok hr] at hrun
    exact Nat.lt_of_le_of_lt ((hnext x).taken hrun).1.length_le (h p x p' hr)

theorem Advances.ite {c : Prop} [Decidable c] {r r' : Reader α} (h : Advances r)
    (h' : Advances r') : Advances (if c then r else r') := by
  split
  · exact h
  · exact h'

theorem Advances.peek {next : Option UInt8 → Reader β} (h : ∀ b, Advances (next b)) :
    Advances (Reader.peek >>= next) :=
  fun p y p' hok => h p.rest.head? p y p' hok

theorem Advances.map (f : α → β) (h : Advances r) : Advances (f <$> r) :=
  h.bind fun x => .pure (f x)

/-! ### Repetition -/

section

variable {step : σ → Reader (σ × Bool)}

theorem streams_repeatWhile (hstep : ∀ s, Streams (step s)) (limit : Nat) (s : σ) :
    Streams (repeatWhile step limit s) := by
  induction limit generalizing s with
  | zero => exact .pure s
  | succ limit ih => exact (hstep s).bind fun _ => .ite (ih _) (.pure _)

/-- Where every round takes a byte, more rounds than there are bytes make no difference. -/
theorem repeatWhile_eq
    (hadvances : ∀ s p s' p', step s p = .ok ((s', true), p') → p'.rest.length < p.rest.length)
    {limit limit' : Nat} {p : Position} (s : σ) (h : p.rest.length < limit)
    (h' : p.rest.length < limit') :
    repeatWhile step limit s p = repeatWhile step limit' s p := by
  induction limit generalizing limit' s p with
  | zero => cases h
  | succ limit ih =>
    cases limit' with
    | zero => cases h'
    | succ limit' =>
      rw [repeatWhile, repeatWhile]
      rcases hrun : step s p with e | ⟨⟨s', more⟩, p'⟩
      · rw [bind_of_error hrun, bind_of_error hrun]
      · rw [bind_of_ok hrun, bind_of_ok hrun]
        cases more with
        | false => rfl
        | true =>
          have hlt := hadvances s p s' p' hrun
          exact ih s' (by omega) (by omega)

theorem streams_repeatFully (hstep : ∀ s, Streams (step s))
    (hadvances : ∀ s p s' p', step s p = .ok ((s', true), p') → p'.rest.length < p.rest.length)
    (s : σ) : Streams (repeatFully step s) := by
  -- rounds enough for what comes are enough for what is there
  have hmore : ∀ (p : Position) (more : List UInt8), repeatFully step s p
      = repeatWhile step ((p.extend more).rest.length + 1) s p := by
    intro p more
    refine repeatWhile_eq hadvances s (Nat.lt_succ_self _) ?_
    rw [Position.extend, List.length_append]
    omega
  have hall := fun limit => streams_repeatWhile hstep limit s
  constructor
  · intro p x p' hok
    refine ⟨((hall _).taken hok).1, fun more => ?_⟩
    rw [hmore p more] at hok
    exact ((hall _).taken hok).2 more
  · intro p e herror
    by_cases hended : ∃ inside, e = .ended inside p.size
    · exact .inl hended
    · refine .inr fun more => ?_
      rw [hmore p more] at herror
      exact ((hall _).refused herror).resolve_left hended more

end

/-! ### Bytes -/

/-- An error that does not depend on what comes. -/
theorem streams_of_error {e : Position → ImageError} (h : ∀ p, r p = .error (e p))
    (hextend : ∀ p more, e (p.extend more) = e p) : Streams r where
  taken := by
    intro p x p' hok
    cases (h p).symm.trans hok
  refused := by
    intro p e' herror
    obtain rfl := Except.error.inj ((h p).symm.trans herror)
    exact .inr fun more => (h _).trans (congrArg Except.error (hextend p more))

theorem streams_mismatch (m : Mismatch) : Streams (mismatch m : Reader α) :=
  streams_of_error (fun _ => rfl) fun _ _ => rfl

theorem streams_grammar (flaw : Flaw) : Streams (grammar flaw : Reader α) :=
  streams_of_error (e := fun p => .grammar flaw p.offset) (fun _ => rfl) fun _ _ => rfl

theorem hungry_ended (inside : Inside) : Hungry (ended inside : Reader α) :=
  fun _ _ => ⟨inside, rfl⟩

theorem hungry_byte (inside : Inside) : Hungry (byte inside) := by
  rintro ⟨offset, rest⟩ rfl
  exact ⟨inside, rfl⟩

theorem advances_byte (inside : Inside) : Advances (byte inside) := by
  rintro ⟨offset, - | ⟨b, rest⟩⟩ x p' ⟨⟩
  exact Nat.lt_succ_self _

theorem streams_byte (inside : Inside) : Streams (byte inside) where
  taken := by
    rintro ⟨offset, - | ⟨b, rest⟩⟩ x p' ⟨⟩
    have hsize : offset + 1 + rest.length = offset + (rest.length + 1) := by omega
    exact ⟨⟨hsize, Nat.le_succ _⟩, fun _ => rfl⟩
  refused := by
    rintro ⟨offset, - | ⟨b, rest⟩⟩ e ⟨⟩
    exact .inl ⟨inside, rfl⟩

theorem bytes_eq (n : Nat) (p : Position) : bytes n p = if n ≤ p.rest.length
    then .ok (p.rest.take n, ⟨p.offset + n, p.rest.drop n⟩) else .error (.ended .value p.size) := by
  have hlength : (p.rest.take n).length = n ↔ n ≤ p.rest.length := by
    rw [List.length_take]
    omega
  rw [bytes]
  simp only [hlength]
  rfl

theorem streams_bytes (n : Nat) : Streams (bytes n) where
  taken := by
    intro p x p' hok
    rw [bytes_eq] at hok
    split at hok
    · next hle =>
      cases hok
      refine ⟨⟨?_, ?_⟩, fun more => ?_⟩
      · simp only [Position.size, List.length_drop]
        omega
      · rw [List.length_drop]
        exact Nat.sub_le _ _
      · have hle' : n ≤ (p.extend more).rest.length := by
          rw [Position.extend, List.length_append]
          omega
        rw [bytes_eq, if_pos hle', Position.extend, List.take_append_of_le_length hle,
          List.drop_append_of_le_length hle]
        rfl
    · cases hok
  refused := by
    intro p e herror
    rw [bytes_eq] at herror
    split at herror
    · cases herror
    · exact .inl ⟨.value, (Except.error.inj herror).symm⟩

theorem streams_number (n : Nat) : Streams (number n) :=
  (streams_bytes n).bind fun _ => .pure _

/-! ### Heads -/

theorem streams_argument (info : Nat) : Streams (argument info) :=
  .ite (.pure _) <| .ite (streams_number 1) <| .ite (streams_number 2) <|
    .ite (streams_number 4) <| .ite (streams_number 8) (streams_grammar _)

theorem streams_extent (info : Nat) : Streams (extent info) :=
  .ite (.pure _) ((streams_argument info).map _)

theorem streams_simple (info : Nat) : Streams (simple info) :=
  .ite (.pure _) <| .ite (.pure _) <| .ite (.pure _) <| .ite ((streams_number 2).map _) <|
    .ite ((streams_number 4).map _) <| .ite ((streams_number 8).map _) <|
      .ite (streams_grammar _) (streams_grammar _)

/-- What follows the first byte of a head. -/
theorem streams_headOf (kind info : Nat) : Streams (headOf kind info) :=
  .ite ((streams_argument info).map _) <| .ite ((streams_argument info).map _) <|
    .ite ((streams_extent info).map _) <| .ite ((streams_extent info).map _) <|
      .ite ((streams_extent info).map _) <| .ite ((streams_extent info).map _) <|
        .ite ((streams_argument info).map _) (streams_simple info)

theorem streams_head : Streams head :=
  (streams_byte _).bind fun _ => streams_headOf _ _

theorem hungry_head : Hungry head :=
  (hungry_byte _).bind

theorem advances_head : Advances head :=
  (advances_byte _).bind fun _ => streams_headOf _ _

/-! ### Strings -/

section

variable (kind : Nat) (pieces : List (List UInt8))

/-- What follows the first byte of a piece. -/
theorem streams_piece (first : Nat) :
    Streams (if first = 0xff then Pure.pure (pieces, false)
      else if first / 32 = kind ∧ first % 32 < 28 then do
        let piece ← bytes (← argument (first % 32))
        Pure.pure (piece :: pieces, true)
      else grammar .unexpected) :=
  .ite (.pure _) <|
    .ite ((streams_argument _).bind fun _ => (streams_bytes _).bind fun _ => .pure _)
      (streams_grammar _)

theorem streams_chunk : Streams (chunk kind pieces) :=
  (streams_byte _).bind fun _ => streams_piece kind pieces _

theorem advances_chunk : Advances (chunk kind pieces) :=
  (advances_byte _).bind fun _ => streams_piece kind pieces _

theorem streams_chunks : Streams (chunks kind) := by
  have hchunks := streams_repeatFully (streams_chunk kind)
    (fun pieces _ _ _ => advances_chunk kind pieces _ _ _) []
  exact hchunks.bind fun _ => .pure _

end

theorem streams_byteString (extent : Extent) : Streams (byteString extent) := by
  cases extent with
  | counted n => exact streams_bytes n
  | «open» => exact streams_chunks bytesKind

theorem streams_decodeText (content : List UInt8) : Streams (decodeText content) := by
  rcases hcontent : Text.Utf8.decode content with flaw | text
  · refine streams_of_error
      (e := fun p => .grammar .invalidUtf8 (p.offset - (content.length - flaw.validUpTo)))
      (fun p => ?_) fun _ _ => rfl
    rw [decodeText, hcontent]
  · have hrun : decodeText content = Pure.pure text := by
      funext p
      rw [decodeText, hcontent]
      rfl
    rw [hrun]
    exact .pure text

theorem streams_textString (extent : Extent) : Streams (textString extent) := by
  cases extent with
  | counted n =>
    refine Streams.bind ?_ streams_decodeText
    -- whether the length is out of range depends on the position only
    constructor
    · intro p x p' hok
      split at hok
      · cases hok
      · next hroom =>
        obtain ⟨hbehind, hextend⟩ := (streams_bytes n).taken hok
        exact ⟨hbehind, fun more => (if_neg hroom).trans (hextend more)⟩
    · intro p e herror
      split at herror
      · next hfull => exact .inr fun more => (if_pos hfull).trans herror
      · next hroom =>
        exact ((streams_bytes n).refused herror).imp_right
          fun hall more => (if_neg hroom).trans (hall more)
  | «open» => exact (streams_chunks textKind).bind streams_decodeText

/-! ### Tokens -/

theorem streams_enter {inside : Nat → Reader α} (depth : Nat)
    (h : ∀ depth, Streams (inside depth)) : Streams (enter depth inside) := by
  cases depth with
  | zero => exact streams_grammar _
  | succ depth => exact h depth

theorem streams_tokenOf (depth : Nat) (h : Head) : Streams (tokenOf depth h) := by
  cases h with
  | unsigned n => exact .pure _
  | negative n => exact .pure _
  | bytes extent => exact (streams_byteString extent).map _
  | text extent => exact (streams_textString extent).map _
  | array extent => exact streams_enter depth fun _ => .pure _
  | map extent => exact streams_enter depth fun _ => .pure _
  | tag => exact streams_grammar _
  | boolean b => exact .pure _
  | null => exact .pure _
  | float value => exact .pure _

/-- What follows the head of a value, where a tag has another value behind it. -/
theorem streams_behind {depth : Nat} (htoken : Streams (token depth)) (h : Head) :
    Streams (match h with
      | .tag => token depth
      | h => tokenOf (depth + 1) h) := by
  split
  · exact htoken
  · exact streams_tokenOf _ _

theorem streams_token (depth : Nat) : Streams (token depth) := by
  induction depth with
  | zero => exact streams_head.bind (streams_tokenOf 0)
  | succ depth ih => exact streams_head.bind (streams_behind ih)

theorem hungry_token (depth : Nat) : Hungry (token depth) := by
  cases depth with
  | zero => exact hungry_head.bind
  | succ depth => exact hungry_head.bind

theorem advances_token (depth : Nat) : Advances (token depth) := by
  cases depth with
  | zero => exact advances_head.bind (streams_tokenOf 0)
  | succ depth => exact advances_head.bind (streams_behind (streams_token depth))

theorem streams_unwanted (t : Token) (wanted : String) : Streams (unwanted t wanted : Reader α) :=
  streams_mismatch _

end Reader

/-! ### Elements -/

namespace Extent

open Reader (Streams Advances)

variable {σ : Type}

theorem streams_next? (inside : Inside) (extent : Extent) : Streams (extent.next? inside) := by
  cases extent with
  | counted n => cases n <;> exact .pure _
  | «open» => exact .peek (Reader.hungry_ended inside) fun _ => .pure _

theorem streams_close (inside : Inside) (extent : Extent) : Streams (extent.close inside) := by
  cases extent with
  | counted n =>
    cases n with
    | zero => exact .pure _
    | succ n => exact Reader.streams_grammar _
  | «open» => exact (Reader.streams_byte _).bind fun _ => .ite (.pure _) (Reader.streams_grammar _)

theorem streams_times {step : σ → Reader σ} (h : ∀ s, Streams (step s)) (n : Nat) (s : σ) :
    Streams (times step n s) := by
  induction n generalizing s with
  | zero => exact .pure s
  | succ n ih => exact (h s).bind ih

/-- A round of an array or map without a count: the closing byte, or an element. -/
def round (inside : Inside) (step : σ → Reader σ) (s : σ) : Reader (σ × Bool) := do
  match ← Extent.open.next? inside with
  | none => pure (s, false)
  | some _ => pure (← step s, true)

theorem streams_round (inside : Inside) {step : σ → Reader σ} (h : ∀ s, Streams (step s)) (s : σ) :
    Streams (round inside step s) := by
  refine (streams_next? inside .open).bind fun next => ?_
  cases next with
  | none => exact .pure _
  | some _ => exact (h s).bind fun _ => .pure _

/-- A round that is not the last one takes an element. -/
theorem advances_round {inside : Inside} {step : σ → Reader σ}
    (hadvances : ∀ s, Advances (step s)) (s : σ) (p : Position) (s' : σ) (p' : Position)
    (hok : round inside step s p = .ok ((s', true), p')) : p'.rest.length < p.rest.length := by
  rw [round] at hok
  rcases hnext : Extent.open.next? inside p with e | ⟨next, q⟩
  · rw [Reader.bind_of_error hnext] at hok
    cases hok
  · rw [Reader.bind_of_ok hnext] at hok
    cases next with
    | none => cases hok
    | some _ =>
      have hstep : Advances (step s >>= fun s => pure (s, true)) :=
        (hadvances s).bind fun _ => .pure _
      have hbehind := ((streams_next? inside .open).taken hnext).1
      exact Nat.lt_of_lt_of_le (hstep _ _ _ hok) hbehind.length_le

theorem streams_fold (inside : Inside) {step : σ → Reader σ} (h : ∀ s, Streams (step s))
    (hadvances : ∀ s, Advances (step s)) (extent : Extent) (s : σ) :
    Streams (extent.fold inside step s) := by
  cases extent with
  | counted n => exact streams_times h n s
  | «open» =>
    have hrounds : Streams (Reader.repeatFully (round inside step) s) :=
      Reader.streams_repeatFully (streams_round inside h) (advances_round hadvances) s
    exact hrounds.bind fun _ => (streams_close inside .open).bind fun _ => .pure _

end Extent

namespace Reader

/-- Behind a token of a value that is passed over, its parts are passed over. -/
theorem streams_ignoredBehind {limit : Nat}
    (h : ∀ depth, Streams (ignored limit depth) ∧ Advances (ignored limit depth)) (t : Token) :
    Streams (match t with
      | .sequence extent depth => extent.fold .array (fun _ => ignored limit depth) ()
      | .mapping extent depth =>
        extent.fold .map (fun _ => do ignored limit depth; ignored limit depth) ()
      | _ => Pure.pure ()) := by
  split
  · next extent depth =>
    exact Extent.streams_fold .array (fun _ => (h depth).1) (fun _ => (h depth).2) extent ()
  · next extent depth =>
    exact Extent.streams_fold .map (fun _ => (h depth).1.bind fun _ => (h depth).1)
      (fun _ => (h depth).2.bind fun _ => (h depth).1) extent ()
  · exact .pure _

/-- A value that is passed over is read like any other. -/
theorem streams_ignored (limit depth : Nat) :
    Streams (ignored limit depth) ∧ Advances (ignored limit depth) := by
  induction limit generalizing depth with
  | zero => exact ⟨streams_grammar _, fun _ _ _ hok => nomatch hok⟩
  | succ limit ih =>
    exact ⟨(streams_token depth).bind (streams_ignoredBehind ih),
      (advances_token depth).bind (streams_ignoredBehind ih)⟩

theorem streams_ignore (depth : Nat) : Streams (ignore depth) :=
  (streams_ignored _ _).1

end Reader

end BranchCoverage.Image
