import Sinkhole.Dns.Name
import Sinkhole.Dns.RecordType
import Sinkhole.Net.Address

/-!
# Questions and records

The entries of a message's sections, and the line of text in which each is shown:
its fields between tabs, names fully qualified, and data of an unknown layout as
its number of octets.
-/

namespace Sinkhole
namespace Dns

/-- An entry of the question section. -/
structure Question where
  qname : Name
  qtype : RecordType
  qclass : RecordClass
  deriving DecidableEq

/-- The data of a record. -/
inductive RData
  | raw (octets : List UInt8)
  | ipv4 (address : Net.Ipv4)
  | ipv6 (address : Net.Ipv6)
  | name (other : Name)
  | soa
      (primary : Name)
      (mailbox : Name)
      (serial refresh retry expire minimum : UInt32)
  | mx (priority : UInt16) (host : Name)
  | srv (priority weight port : UInt16) (target : Name)
  deriving DecidableEq

/-- A resource record. -/
structure Record where
  name : Name
  rtype : RecordType
  rclass : RecordClass
  ttl : UInt32
  rdata : RData
  deriving DecidableEq

/-- The layout that data has. -/
def RData.layout : RData → Layout
  | .raw _ => .raw
  | .ipv4 _ => .ipv4
  | .ipv6 _ => .ipv6
  | .name _ => .name
  | .soa .. => .soa
  | .mx .. => .mx
  | .srv .. => .srv

/-- Texts with a tab between each two. -/
def tabbed (fields : List String) : String :=
  "\t".intercalate fields

/-- Texts with a space between each two. -/
def spaced (fields : List String) : String :=
  " ".intercalate fields

/-- A question as a line of text. -/
def Question.text (question : Question) : String :=
  tabbed [question.qname.fqdn, question.qclass.text, question.qtype.text]

/-- Data as text. -/
def RData.text : RData → String
  | .raw octets => "\\# " ++ toString octets.length
  | .ipv4 address => address.text
  | .ipv6 address => address.text
  | .name other => other.fqdn
  | .soa primary mailbox serial refresh retry expire minimum =>
      spaced
        [primary.fqdn, mailbox.fqdn, toString serial.toNat, toString refresh.toNat,
          toString retry.toNat, toString expire.toNat, toString minimum.toNat]
  | .mx priority host => spaced [toString priority.toNat, host.fqdn]
  | .srv priority weight port target =>
      spaced
        [toString priority.toNat, toString weight.toNat, toString port.toNat,
          target.fqdn]

/-- A record as a line of text. -/
def Record.text (record : Record) : String :=
  tabbed
    [record.name.fqdn, toString record.ttl.toNat, record.rclass.text,
      record.rtype.text, record.rdata.text]

end Dns
end Sinkhole
