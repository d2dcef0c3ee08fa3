/-!
# The bits of a message header

Operation codes, response codes, and the sixteen bits that hold them together with
the flags. Bit fifteen is the response bit, then come four bits of operation code,
seven single bits, and four bits of response code. An operation code without a
meaning is refused; a response code is kept as a number.
-/

namespace Sinkhole
namespace Dns

/-- What a query asks a server to do. -/
inductive Opcode
  | query
  | inverseQuery
  | status
  | notify
  | update
  | statefulOperations
  deriving DecidableEq

namespace Opcode

/-- All operation codes. -/
def all : List Opcode :=
  [.query, .inverseQuery, .status, .notify, .update, .statefulOperations]

/-- The number of an operation code. -/
def code : Opcode → UInt8
  | .query => 0
  | .inverseQuery => 1
  | .status => 2
  | .notify => 4
  | .update => 5
  | .statefulOperations => 6

/-- The operation code with a number. -/
def ofCode? : UInt8 → Option Opcode
  | 0 => some .query
  | 1 => some .inverseQuery
  | 2 => some .status
  | 4 => some .notify
  | 5 => some .update
  | 6 => some .statefulOperations
  | _ => none

@[simp] theorem ofCode?_code (opcode : Opcode) : ofCode? opcode.code = some opcode := by
  cases opcode <;> rfl

/-- The report of a number that is no operation code. -/
def unassigned (code : UInt8) : String :=
  "No discriminant in enum `DnsOpcode` matches the value `" ++
    toString code.toNat ++ "`"

end Opcode

/-- What a server says about a query. -/
inductive ResponseCode
  | noError
  | formatError
  | serverFailure
  | nonexistentName
  | notImplemented
  | refused
  | nameExists
  | setExists
  | setMissing
  | notAuthoritative
  | notInZone
  deriving DecidableEq

namespace ResponseCode

/-- All response codes. -/
def all : List ResponseCode :=
  [.noError, .formatError, .serverFailure, .nonexistentName, .notImplemented,
    .refused, .nameExists, .setExists, .setMissing, .notAuthoritative, .notInZone]

/-- The number of a response code. -/
def code : ResponseCode → UInt8
  | .noError => 0
  | .formatError => 1
  | .serverFailure => 2
  | .nonexistentName => 3
  | .notImplemented => 4
  | .refused => 5
  | .nameExists => 6
  | .setExists => 7
  | .setMissing => 8
  | .notAuthoritative => 9
  | .notInZone => 10

/-- The response code with a number. -/
def ofCode? (code : UInt8) : Option ResponseCode :=
  all.find? fun response => response.code == code

@[simp] theorem ofCode?_code (response : ResponseCode) :
    ofCode? response.code = some response := by
  cases response <;> rfl

/-- The mnemonic of a response code. -/
def text : ResponseCode → String
  | .noError => "NOERROR"
  | .formatError => "FORMERR"
  | .serverFailure => "SERVFAIL"
  | .nonexistentName => "NXDOMAIN"
  | .notImplemented => "NOTIMP"
  | .refused => "REFUSED"
  | .nameExists => "YXDOMAIN"
  | .setExists => "YXRRSET"
  | .setMissing => "NXRRSET"
  | .notAuthoritative => "NOTAUTH"
  | .notInZone => "NOTZONE"

/-- The report of a number that is no response code. -/
def unassigned (code : UInt8) : String :=
  "No discriminant in enum `DnsResponseCode` matches the value `" ++
    toString code.toNat ++ "`"

end ResponseCode

/-- The flags of a message. Only the low four bits of `rcode` are written. -/
structure Flags where
  response : Bool := false
  opcode : Opcode := .query
  authoritative : Bool := false
  truncated : Bool := false
  recursionDesired : Bool := false
  recursionAvailable : Bool := false
  reserved : Bool := false
  authenticated : Bool := false
  checkingDisabled : Bool := false
  rcode : UInt8 := 0
  deriving DecidableEq

namespace Flags

/-- The flags as sixteen bits. -/
def bits (flags : Flags) : UInt16 :=
  UInt16.ofNat
    (flags.response.toNat * 32768 + flags.opcode.code.toNat * 2048 +
      flags.authoritative.toNat * 1024 + flags.truncated.toNat * 512 +
      flags.recursionDesired.toNat * 256 + flags.recursionAvailable.toNat * 128 +
      flags.reserved.toNat * 64 + flags.authenticated.toNat * 32 +
      flags.checkingDisabled.toNat * 16 + flags.rcode.toNat % 16)

/-- The operation code among sixteen bits. -/
def opcodeBits (bits : UInt16) : UInt8 :=
  UInt8.ofNat (bits.toNat / 2048 % 16)

/-- Whether the bit of the given weight is set. -/
def isSet (bits : UInt16) (weight : Nat) : Bool :=
  bits.toNat / weight % 2 == 1

/-- The flags that sixteen bits hold, or the number that is no operation code. -/
def ofBits (bits : UInt16) : Except UInt8 Flags :=
  match Opcode.ofCode? (opcodeBits bits) with
  | none => .error (opcodeBits bits)
  | some opcode =>
      .ok {
        response := isSet bits 32768
        opcode
        authoritative := isSet bits 1024
        truncated := isSet bits 512
        recursionDesired := isSet bits 256
        recursionAvailable := isSet bits 128
        reserved := isSet bits 64
        authenticated := isSet bits 32
        checkingDisabled := isSet bits 16
        rcode := UInt8.ofNat (bits.toNat % 16) }

/-- The response code among the flags. -/
def responseCode? (flags : Flags) : Option ResponseCode :=
  ResponseCode.ofCode? flags.rcode

end Flags
end Dns
end Sinkhole
