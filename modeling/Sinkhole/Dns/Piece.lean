/-!
# Pieces of a message

The kinds of piece that a message is read and written in. Errors name them.
-/

namespace Sinkhole
namespace Dns

/-- A piece that is read or written in one go. -/
inductive Piece
  | octet
  | word
  | longWord
  | octets
  | name
  deriving DecidableEq

/-- The name of a piece in a report. -/
def Piece.text : Piece → String
  | .octet => "u8"
  | .word => "u16"
  | .longWord => "u32"
  | .octets => "raw bytes"
  | .name => "qname"

end Dns
end Sinkhole
