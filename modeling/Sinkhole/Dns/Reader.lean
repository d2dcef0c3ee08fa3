import Sinkhole.Dns.BigEndian
import Sinkhole.Dns.Name
import Sinkhole.Dns.Piece
import Sinkhole.Dns.RecordType
import Sinkhole.Dns.Header

/-!
# Reading a message

A reader is a message with a position in it. Reading either takes what it needs
and moves past it, or fails and says why; the position is part of the outcome in
both cases, because reading may go on after a failure.

A name may end in a pointer to an earlier place of the message, where the rest of
it stands. Pointers only go backwards and at most sixty-four are followed. The
position moves past the name as it stands, up to the first pointer, no matter what
was followed from there.
-/

namespace Sinkhole
namespace Dns

/-- The most pointers followed in one name. -/
def maxPointers : Nat := 64

/-- Why a piece of a message could not be read. -/
inductive ReadError
  | underflow (position : Nat) (piece : Piece) (needed available : Nat)
  | nameOutside (position size : Nat)
  | pointerCut (position : Nat)
  | pointerLoop (position : Nat)
  | pointerForward (target position : Nat)
  | labelCut (position needed available : Nat)
  | label (position : Nat) (error : LabelError)
  | labelKind (bits : UInt8) (position : Nat)
  | textTooLong
  | name (error : NameError)
  | opcode (code : UInt8)
  | fixedLength (rtype : RecordType) (declared : Nat)
  | dataLength (rtype : RecordType) (consumed declared : Nat)
  deriving DecidableEq

namespace ReadError

/-- The report of a failed reading. -/
def message : ReadError → String
  | .underflow position piece needed available =>
      "buffer underflow at pos " ++ toString position ++ " while reading " ++
        piece.text ++ ": need " ++ toString needed ++ " bytes, have " ++
        toString available
  | .nameOutside position size =>
      "qname out of bounds at pos " ++ toString position ++ " (buf len " ++
        toString size ++ ")"
  | .pointerCut position =>
      "truncated compression pointer at pos " ++ toString position
  | .pointerLoop position =>
      "qname compression pointer loop at pos " ++ toString position
  | .pointerForward target position =>
      "forward compression pointer " ++ toString target ++ " at pos " ++
        toString position
  | .labelCut position needed available =>
      "label overruns buffer at pos " ++ toString position ++ ": need " ++
        toString needed ++ " bytes, have " ++ toString available
  | .label position error =>
      "invalid label at pos " ++ toString position ++ ": " ++ error.message
  | .labelKind bits position =>
      "unsupported label type 0x" ++ octetText bits ++ " at pos " ++ toString position
  | .textTooLong => "qname exceeds " ++ toString maxNameLength ++ " bytes"
  | .name error => error.message
  | .opcode code => Opcode.unassigned code
  | .fixedLength rtype declared =>
      rtype.text ++ " record with rdlength " ++ toString declared
  | .dataLength rtype consumed declared =>
      rtype.text ++ " rdata consumed " ++ toString consumed ++
        " bytes, rdlength is " ++ toString declared

end ReadError

/-- A message and a position in it. -/
structure Reader where
  buffer : Array UInt8
  position : Nat := 0

/-- Reading moves the reader, whether it succeeds or fails. -/
abbrev Read := EStateM ReadError Reader

namespace Reader

/-- The number of octets not read yet. -/
def remaining (reader : Reader) : Nat :=
  reader.buffer.size - reader.position

/-- Take the next octets. On failure the reader does not move. -/
def take (piece : Piece) (count : Nat) : Read (Vector UInt8 count) := fun reader =>
  if enough : count ≤ reader.remaining then
    .ok
      ⟨reader.buffer.extract reader.position (reader.position + count), by
        unfold remaining at enough
        rw [Array.size_extract]
        omega⟩
      { reader with position := reader.position + count }
  else
    .error (.underflow reader.position piece count reader.remaining) reader

/-- Read one octet. -/
def octet : Read UInt8 := do
  let octets ← take .octet 1
  pure octets[0]

/-- Read a number of two octets. -/
def word : Read UInt16 := do
  let octets ← take .word 2
  pure (Dns.word octets[0] octets[1])

/-- Read a number of four octets. -/
def longWord : Read UInt32 := do
  let octets ← take .longWord 4
  pure (Dns.longWord octets[0] octets[1] octets[2] octets[3])

/-- Read octets as they are. -/
def octets (count : Nat) : Read (List UInt8) := do
  let octets ← take .octets count
  pure octets.toList

/-- Follow a name from a position of the buffer, with `pointers` more pointers
allowed and `length` characters of its text already read. The result is the labels
from here on and the position just past the name as it stands here. -/
def follow (buffer : Array UInt8) (position pointers length : Nat) :
    Except ReadError (List Label × Nat) :=
  if inside : position < buffer.size then
    let lead := buffer[position]
    if lead = 0 then
      .ok ([], position + 1)
    else if lead < 0x40 then
      let start := position + 1
      let stop := start + lead.toNat
      if stop ≤ buffer.size then
        match Label.ofOctets (buffer.extract start stop).toList with
        | .error error => .error (.label start error)
        | .ok label =>
            let extended := length + label.octets.length + 1
            if extended ≤ maxNameLength then
              match follow buffer stop pointers extended with
              | .error error => .error error
              | .ok (labels, next) => .ok (label :: labels, next)
            else
              .error .textTooLong
      else
        .error (.labelCut start lead.toNat (buffer.size - start))
    else if lead < 0xC0 then
      .error (.labelKind (lead &&& 0xC0) position)
    else if second : position + 1 < buffer.size then
      match pointers with
      | 0 => .error (.pointerLoop position)
      | pointers + 1 =>
          let target := lead.toNat % 64 * 256 + buffer[position + 1].toNat
          if target < position then
            match follow buffer target pointers length with
            | .error error => .error error
            | .ok (labels, _) => .ok (labels, position + 2)
          else
            .error (.pointerForward target position)
    else
      .error (.pointerCut position)
  else
    .error (.nameOutside position buffer.size)
  termination_by (pointers, buffer.size - position)

/-- Read a name. The reader moves past it as soon as its end is known, which is
before the length of the whole name is checked. -/
def name : Read Name := fun reader =>
  match follow reader.buffer reader.position maxPointers 0 with
  | .error error => .error error reader
  | .ok (labels, next) =>
      let moved := { reader with position := next }
      match Name.ofLabels? labels with
      | some name => .ok name moved
      | none =>
          let text := String.ofList (labels.flatMap fun label => label.characters ++ ['.'])
          .error (.name (.tooLong (wireLength labels) text)) moved

/-- Read the flags of a message. -/
def flags : Read Flags := do
  match Flags.ofBits (← word) with
  | .ok flags => pure flags
  | .error code => throw (.opcode code)

/-- Where the reader stands. -/
def currentPosition : Read Nat := fun reader =>
  .ok reader.position reader

/-- Read a number of entries, one after the other. -/
def entries {α : Type} (count : Nat) (entry : Read α) : Read (List α) :=
  (List.replicate count ()).mapM fun _ => entry

end Reader
end Dns
end Sinkhole
