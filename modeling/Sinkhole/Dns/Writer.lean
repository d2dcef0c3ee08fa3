import Sinkhole.Dns.BigEndian
import Sinkhole.Dns.Name
import Sinkhole.Dns.Piece

/-!
# Writing a message

A writer is the octets written so far and a limit on their number. Each of its
operations appends one piece or changes octets in place, and one that fails leaves
the octets as they were. What is made of several pieces keeps those written before
a failure.
-/

namespace Sinkhole
namespace Dns

/-- The largest message: the prefix that carries its length on a stream has two
octets. -/
def maxMessageLength : Nat := 65535

/-- Why a piece of a message could not be written. -/
inductive WriteError
  | overflow (piece : Piece) (needed current limit : Nat)
  | emptyLabel (text : String)
  | labelTooLong (label : String)
  | nameTooLong (length : Nat) (text : String)
  | positionTooLarge
  | overwriteOutside (position length written : Nat)
  | sectionTooLong (length : Nat)
  | dataTooLong
  deriving DecidableEq

namespace WriteError

/-- The report of a failed writing. -/
def message : WriteError → String
  | .overflow piece needed current limit =>
      "buffer overflow while writing " ++ piece.text ++ ": need=" ++ toString needed ++
        " current_len=" ++ toString current ++ " max_len=" ++ toString limit
  | .emptyLabel text => "empty label in qname '" ++ text ++ "'"
  | .labelTooLong label => "label '" ++ label ++ "' exceeds 63 bytes"
  | .nameTooLong length text =>
      "qname too long (" ++ toString length ++ " bytes): '" ++ text ++ "'"
  | .positionTooLarge => "length overflow"
  | .overwriteOutside position length written =>
      "overwrite out of bounds: pos=" ++ toString position ++ " len=" ++
        toString length ++ " written=" ++ toString written
  | .sectionTooLong length => "too many records in section: " ++ toString length
  | .dataTooLong => "number too large to fit in target type"

end WriteError

/-- The octets written so far and the most there may be. -/
structure Writer where
  written : Array UInt8 := #[]
  limit : Nat := maxMessageLength

/-- Writing changes the writer, whether it succeeds or fails. -/
abbrev Write := EStateM WriteError Writer

/-- Change octets in place, from a position on. -/
def replaceFrom (octets : Array UInt8) (position : Nat) : List UInt8 → Array UInt8
  | [] => octets
  | octet :: rest =>
      replaceFrom (octets.setIfInBounds position octet) (position + 1) rest

namespace Writer

/-- The number of octets written. -/
def position : Write Nat := fun writer =>
  .ok writer.written.size writer

/-- Append a piece, if it fits below the limit. -/
def append (piece : Piece) (octets : List UInt8) : Write Unit := fun writer =>
  let current := writer.written.size
  if current + octets.length ≤ writer.limit then
    .ok () { writer with written := writer.written ++ octets }
  else
    .error (.overflow piece octets.length current writer.limit) writer

/-- Write one octet. -/
def octet (value : UInt8) : Write Unit :=
  append .octet [value]

/-- Write a number of two octets. -/
def word (value : UInt16) : Write Unit :=
  append .word (wordOctets value)

/-- Write a number of four octets. -/
def longWord (value : UInt32) : Write Unit :=
  append .longWord (longWordOctets value)

/-- Write octets as they are. -/
def octets (values : List UInt8) : Write Unit :=
  append .octets values

/-- Write a name. The root is a single octet. -/
def name (name : Name) : Write Unit :=
  if name.isRoot then octet 0 else append .name name.wire

/-- A text without the dots at its end. -/
def withoutDots (text : List Char) : List Char :=
  (text.reverse.dropWhile (· == '.')).reverse

/-- The fault of one label of a dotted text, if it has one. -/
def labelFault? (text : String) (label : List Char) : Option WriteError :=
  if label.isEmpty then some (.emptyLabel text)
  else if maxLabelLength < (Text.utf8 label).length then
    some (.labelTooLong (String.ofList label))
  else none

/-- Write a name given as text, which need not be that of a legal name: its labels
are the UTF-8 octets between the dots, and dots at its end do not count. -/
def dotted (text : String) : Write Unit :=
  let bare := withoutDots text.toList
  if bare.isEmpty then
    octet 0
  else
    let labels := bare.splitOn '.'
    match labels.findSome? (labelFault? text) with
    | some error => throw error
    | none =>
        let wire := labels.map fun label =>
          UInt8.ofNat (Text.utf8 label).length :: Text.utf8 label
        let octets := wire.flatten ++ [0]
        if octets.length ≤ maxNameLength then append .name octets
        else throw (.nameTooLong octets.length text)

/-- Change octets that were written before. -/
def overwrite (position : Nat) (octets : List UInt8) : Write Unit := fun writer =>
  if UInt64.size ≤ position + octets.length then
    .error .positionTooLarge writer
  else if position + octets.length ≤ writer.written.size then
    .ok () { writer with written := replaceFrom writer.written position octets }
  else
    .error (.overwriteOutside position octets.length writer.written.size) writer

end Writer
end Dns
end Sinkhole
