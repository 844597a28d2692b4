/-
A driver that answers from a script: every raw call takes the next reply
and leaves exactly what the reply says, whether or not it makes sense.
After the last reply every call completes and transfers nothing. It is
the driver to hold a session against anything a driver might do.
-/
import InstrumentBus.Bus

namespace InstrumentBus

/-- The answer to one raw call. Each kind of call uses the parts that
concern it. -/
structure ScriptedReply where
  registers : Registers
  -- the descriptor an open is answered with
  descriptor : Int
  -- the status byte a serial poll is answered with
  byte : UInt8
  -- the bytes a read puts into its buffer
  data : List UInt8
  -- the words a discovery puts into its buffer
  words : List UInt16
  deriving DecidableEq, Repr

namespace ScriptedReply

/-- The reply to a call that completes and transfers nothing. -/
def standard : ScriptedReply := ⟨.completed 0, 1, 0, [], []⟩

end ScriptedReply

/-- A driver that answers from a script. -/
structure Scripted where
  replies : List ScriptedReply
  registers : Registers
  deriving DecidableEq, Repr

namespace Scripted

/-- A script of which nothing has been used yet. -/
def ofReplies (replies : List ScriptedReply) : Scripted := ⟨replies, .clear⟩

/-- The reply to the next call. -/
def reply (s : Scripted) : ScriptedReply := s.replies.headD .standard

/-- The script after the next call. -/
def next (s : Scripted) : Scripted := ⟨s.replies.tail, s.reply.registers⟩

/-- What the driver says about an error code. -/
def errorText (code : Int) : String := "scripted error " ++ toString code

theorem length_replies_next {s : Scripted} (h : s.next.registers.unfinished = true) :
    s.next.replies.length < s.replies.length := by
  obtain ⟨replies, registers⟩ := s
  cases replies with
  | nil =>
    simp [next, reply, ScriptedReply.standard, Registers.completed, Registers.unfinished] at h
  | cons r rest => simp [next]

instance : RawBus Scripted where
  openDevice s _ := (s.next, s.reply.descriptor)
  takeOffline s _ _ := s.next
  write s _ _ := s.next
  read s _ buffer := (s.next, fillFront buffer s.reply.data)
  clear s _ := s.next
  serialPoll s _ := (s.next, s.reply.byte)
  discover s _ _ buffer := (s.next, fillFront buffer s.reply.words)
  registers := registers
  errorText _ code := errorText code
  version _ := "scripted"
  pending s := s.replies.length
  length_read s _ buffer := length_fillFront buffer s.reply.data
  length_discover s _ _ buffer := length_fillFront buffer s.reply.words
  pending_read _ _ _ h := length_replies_next h

end Scripted

end InstrumentBus
