/-
Conversations of a controller with an agent.

A controller may send what it likes.  Any bytes are a conversation: some tests, each
a start and the request for its report, and then a conclusion (`exists_bytes_eq`).
The conclusion says which word is the first that is out of place, or missing, and how
an agent that serves the connection comes to its end (`Conclusion.result`).
-/
import BranchCoverage.Proofs.Channel
import BranchCoverage.Remote.Agent

namespace BranchCoverage

theorem Command.ofCode_of_ne {code : Int32} (h : ∀ c : Command, c.code ≠ code) :
    ofCode code = .error (.unknownCommand code) := by
  have hstop : ¬ code = 0 := fun heq => h .stop heq.symm
  have hcollect : ¬ code = 1 := fun heq => h .startWithLocations heq.symm
  have hstart : ¬ code = 2 := fun heq => h .start heq.symm
  rw [ofCode, if_neg hstop, if_neg hcollect, if_neg hstart]

/-! ### Conversations -/

/-- What a controller sends behind its last test. -/
inductive Conclusion where
  /-- It leaves, perhaps with a part of a word. -/
  | left (rest : List UInt8) (short : rest.length < 4)
  /-- It says stop, and nobody hears what it says afterwards. -/
  | stopped (rest : List UInt8)
  | unknownCommand (code : Int32) (rest : List UInt8) (unknown : ∀ c : Command, c.code ≠ code)
  /-- It leaves after a start, perhaps with a part of a word. -/
  | cut (collect : Bool) (rest : List UInt8) (short : rest.length < 4)
  /-- After a start it asks for something else than the report. -/
  | unknownRequest (collect : Bool) (code : Int32) (rest : List UInt8)
      (unknown : code ≠ statusRequest)

namespace Conclusion

/-- What is sent. -/
def bytes : Conclusion → List UInt8
  | left rest _ => rest
  | stopped rest => Word.encode Command.stop.code ++ rest
  | unknownCommand code rest _ => Word.encode code ++ rest
  | cut collect rest _ => Word.encode (Command.starting collect).code ++ rest
  | unknownRequest collect code rest _ =>
    Word.encode (Command.starting collect).code ++ (Word.encode code ++ rest)

/-- Whether there is a start in it, which the agent answers. -/
def starts : Conclusion → Bool
  | left .. | stopped .. | unknownCommand .. => false
  | cut .. | unknownRequest .. => true

/-- How the connection ends, after so many tests.  On one that is broken, and has not
simply ended, reading fails for that reason. -/
def result (failure : Option String) (tests : Nat) : Conclusion → Except Interruption Nat
  | left .. =>
    match failure with
    | none => .ok tests
    | some reason => .error (.protocol (.io (.broken reason)))
  | stopped .. => .ok tests
  | unknownCommand code .. => .error (.protocol (.unknownCommand code))
  | cut .. => .error (.protocol (.io (Source.exhausted ⟨[], failure⟩)))
  | unknownRequest _ code .. => .error (.protocol (.unknownCommand code))

end Conclusion

/-- What a controller sends: tests, each with or without locations, and a
conclusion. -/
structure Conversation where
  tests : List Bool
  conclusion : Conclusion

namespace Conversation

/-- The words of a test. -/
def exchange (collect : Bool) : List UInt8 :=
  Word.encode (Command.starting collect).code ++ Word.encode statusRequest

/-- What is sent. -/
def bytes (c : Conversation) : List UInt8 :=
  c.tests.flatMap exchange ++ c.conclusion.bytes

theorem exists_word {bytes : List UInt8} (h : 4 ≤ bytes.length) :
    ∃ word rest, bytes = Word.encode word ++ rest ∧ bytes.length = rest.length + 4 := by
  match bytes, h with
  | a :: b :: c :: d :: rest, _ =>
    refine ⟨Word.ofBytes a b c d, rest, ?_, rfl⟩
    rw [Word.encode_ofBytes]
    rfl

theorem exists_command (code : Int32) :
    code = Command.stop.code ∨ (∃ collect, code = (Command.starting collect).code) ∨
      ∀ c : Command, c.code ≠ code := by
  by_cases hstop : code = 0
  · exact .inl hstop
  by_cases hcollect : code = 1
  · exact .inr (.inl ⟨true, hcollect⟩)
  by_cases hstart : code = 2
  · exact .inr (.inl ⟨false, hstart⟩)
  refine .inr (.inr ?_)
  intro c hc
  cases c with
  | stop => exact hstop hc.symm
  | startWithLocations => exact hcollect hc.symm
  | start => exact hstart hc.symm

/-- **Any bytes are a conversation.** -/
theorem exists_bytes_eq (bytes : List UInt8) : ∃ c : Conversation, c.bytes = bytes := by
  -- by induction on how many bytes there are: a test takes eight of them
  induction hn : bytes.length using Nat.strongRecOn generalizing bytes with
  | ind n ih =>
    rcases Nat.lt_or_ge bytes.length 4 with hshort | hlong
    · exact ⟨⟨[], .left bytes hshort⟩, rfl⟩
    obtain ⟨word, rest, rfl, hlength⟩ := exists_word hlong
    rcases exists_command word with rfl | ⟨collect, rfl⟩ | hunknown
    · exact ⟨⟨[], .stopped rest⟩, rfl⟩
    · rcases Nat.lt_or_ge rest.length 4 with hshort | hlong
      · exact ⟨⟨[], .cut collect rest hshort⟩, rfl⟩
      obtain ⟨request, rest, rfl, hlength'⟩ := exists_word hlong
      by_cases hrequest : request = statusRequest
      · obtain ⟨c, hc⟩ := ih rest.length (by omega) rest rfl
        refine ⟨⟨collect :: c.tests, c.conclusion⟩, ?_⟩
        rw [hrequest, ← hc]
        simp [Conversation.bytes, exchange]
      · exact ⟨⟨[], .unknownRequest collect request rest hrequest⟩, rfl⟩
    · exact ⟨⟨[], .unknownCommand word rest hunknown⟩, rfl⟩

theorem length_tests_le (c : Conversation) : c.tests.length ≤ c.bytes.length := by
  have htests : c.tests.length ≤ (c.tests.flatMap exchange).length := by
    induction c.tests with
    | nil => exact Nat.le_refl 0
    | cons collect rest ih =>
      have hexchange : (exchange collect).length = 8 := rfl
      rw [List.flatMap_cons, List.length_append, List.length_cons, hexchange]
      omega
  rw [bytes, List.length_append]
  exact Nat.le_add_right_of_le htests

/-- The answers to a conversation: a process id and a report for each test, and the
process id once more for a start that was not a test in the end. -/
def answers (pid : Int32) (c : Conversation) (reports : List (List UInt8)) : List UInt8 :=
  reports.flatMap (Word.encode pid ++ ·) ++ if c.conclusion.starts then Word.encode pid else []

end Conversation

end BranchCoverage
