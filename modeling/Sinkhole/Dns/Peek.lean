import Sinkhole.Dns.BigEndian
import Sinkhole.Dns.Header

/-!
# Looking at the header of an unread message

A message whose body cannot be read may still have a header that can. These look
at its first octets alone.
-/

namespace Sinkhole
namespace Dns

/-- The id in the first two octets. -/
def peekId? (octets : Array UInt8) : Option UInt16 :=
  match octets[0]?, octets[1]? with
  | some high, some low => some (word high low)
  | _, _ => none

/-- The operation code in the third octet, if it has a meaning. -/
def peekOpcode? (octets : Array UInt8) : Option Opcode :=
  octets[2]?.bind fun octet => Opcode.ofCode? (UInt8.ofNat (octet.toNat / 8 % 16))

/-- Whether the third octet asks for recursion. -/
def peekRecursionDesired (octets : Array UInt8) : Bool :=
  octets[2]?.any fun octet => octet.toNat % 2 == 1

/-- Whether the third octet marks a truncated message. -/
def peekTruncated (octets : Array UInt8) : Bool :=
  octets[2]?.any fun octet => octet.toNat / 2 % 2 == 1

/-- Whether the third octet marks a response. -/
def peekResponse (octets : Array UInt8) : Bool :=
  octets[2]?.any fun octet => octet.toNat / 128 % 2 == 1

end Dns
end Sinkhole
