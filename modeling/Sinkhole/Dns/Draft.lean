import Sinkhole.Dns.Message

/-!
# Putting a message together

A draft is a message to be: queries and replies are made by filling one in. A
response code set on it makes the message a response, whatever its flags were.
-/

namespace Sinkhole
namespace Dns

/-- A message that is being put together. It never gets authority or additional
records. -/
structure Draft where
  id : UInt16 := 0
  flags : Flags := {}
  questions : List Question := []
  answers : List Record := []
  responseCode : Option ResponseCode := none
  deriving DecidableEq

namespace Draft

/-- A query that asks for recursion. -/
def query : Draft :=
  { flags := { recursionDesired := true } }

/-- A reply to a query: it keeps the id, the operation code, two of the flags and
the first question, and says that recursion is available. -/
def replyTo (query : Message) : Draft :=
  { id := query.id
    flags := {
      response := true
      opcode := query.flags.opcode
      recursionDesired := query.flags.recursionDesired
      recursionAvailable := true
      checkingDisabled := query.flags.checkingDisabled }
    questions := query.questions.take 1 }

/-- Set the id. -/
def withId (draft : Draft) (id : UInt16) : Draft :=
  { draft with id }

/-- Set the flags. -/
def withFlags (draft : Draft) (flags : Flags) : Draft :=
  { draft with flags }

/-- Add a question after those already there. -/
def addQuestion (draft : Draft) (question : Question) : Draft :=
  { draft with questions := draft.questions ++ [question] }

/-- Add answers after those already there. -/
def addAnswers (draft : Draft) (answers : List Record) : Draft :=
  { draft with answers := draft.answers ++ answers }

/-- Make the message a response with a code. -/
def withResponse (draft : Draft) (responseCode : ResponseCode) : Draft :=
  { draft with responseCode := some responseCode }

/-- The flags of the finished message. -/
def finalFlags (draft : Draft) : Flags :=
  match draft.responseCode with
  | none => draft.flags
  | some responseCode => { draft.flags with response := true, rcode := responseCode.code }

/-- The finished message. -/
def build (draft : Draft) : Message :=
  { id := draft.id
    flags := draft.finalFlags
    questions := draft.questions
    answers := draft.answers }

end Draft
end Dns
end Sinkhole
