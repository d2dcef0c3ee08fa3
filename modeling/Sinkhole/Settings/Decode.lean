import Sinkhole.Settings.Basic
import Sinkhole.Toml.Document

/-!
# Settings in a document

A section is a table, and its settings go by name; or it is an array, and they go by
position. What is not set has a standard value, and what has another name is passed
over, if all the numbers in it can be read. A choice is named by a text, or by the
only key of a table under which there is nothing.
-/

namespace Sinkhole
namespace Settings

open Toml

/-- Where the settings of a section are found, by name and position. -/
abbrev Section := String → Nat → Option Value

/-- Whether all entries but the known ones can be read. -/
def othersAreReadable (known : List String) (entries : Entries) : Bool :=
  entriesAreReadable (entries.filter fun entry => !known.contains entry.1)

/-- A value as a section with the given names. A point in time is a section in which
nothing is set. -/
def section? (known : List String) : Value → Option Section
  | .table _ entries =>
      if othersAreReadable known entries then some fun name _ => entries.lookup name
      else none
  | .array _ elements => some fun _ index => elements[index]?
  | .moment => some fun _ _ => none
  | _ => none

/-- Read a setting, which has a standard value where it is missing. -/
def Section.get
    {α : Type}
    (fields : Section)
    (name : String)
    (index : Nat)
    (read : Value → Option α)
    (standard : α) :
    Option α :=
  match fields name index with
  | some value => read value
  | none => some standard

/-- Read a text. -/
def readText : Value → Option String
  | .text content => some content
  | _ => none

/-- Read a truth value. -/
def readTruth : Value → Option Bool
  | .truth value => some value
  | _ => none

/-- Read a number below a bound. -/
def readNumber (bound : Nat) : Value → Option Nat
  | .integer value =>
      if 0 ≤ value && value < bound then some value.toNat else none
  | _ => none

/-- Read a port. -/
def readPort (value : Value) : Option UInt16 :=
  (readNumber 65536 value).map UInt16.ofNat

/-- Read a number of milliseconds. -/
def readMillis (value : Value) : Option UInt64 :=
  (readNumber UInt64.size value).map UInt64.ofNat

/-- Read an address. -/
def readAddress : Value → Option Net.Address
  | .text content => Net.Address.parse? content
  | _ => none

/-- Read a list of addresses. -/
def readAddresses : Value → Option (List Net.Address)
  | .array _ elements => elements.mapM readAddress
  | _ => none

/-- Whether there is nothing in a value. -/
def isEmptyValue : Value → Bool
  | .array _ elements => elements.isEmpty
  | .table _ entries => entries.isEmpty
  | _ => false

/-- Read a choice among named values. -/
def readChoice {α : Type} (choices : List (String × α)) : Value → Option α
  | .text name => choices.lookup name
  | .table _ [(name, inner)] => if isEmptyValue inner then choices.lookup name else none
  | _ => none

/-- The names of the levels of a log. -/
def levelNames : List (String × Log.Level) :=
  [("trace", .trace), ("debug", .debug), ("info", .info), ("warn", .warn), ("error", .error)]

/-- The names of the forms of a log. -/
def formatNames : List (String × LogFormat) :=
  [("text", .text), ("json", .json)]

/-- The names of the transports. -/
def transportNames : List (String × Transport) :=
  [("udp", .udp), ("tcp", .tcp), ("tls", .tls)]

/-- The names in the section of the server. -/
def serverNames : List String :=
  ["ip", "udp_port", "tcp_port", "log_level", "log_format", "tcp_idle_timeout_ms"]

/-- The names in the section of the nameservers. -/
def upstreamNames : List String :=
  ["nameservers", "transport", "tls_server_name", "port", "dial_timeout_ms",
    "read_timeout_ms", "write_timeout_ms"]

/-- The names in the section of the blocked names. -/
def blockingNames : List String := ["path", "strict"]

/-- Read the section of the server. -/
def readServer (value : Value) : Option Server := do
  let fields ← section? serverNames value
  let standard : Server := {}
  let address ← fields.get "ip" 0 readAddress standard.address
  let udpPort ← fields.get "udp_port" 1 (fun value => (readPort value).map some) none
  let tcpPort ← fields.get "tcp_port" 2 (fun value => (readPort value).map some) none
  let logLevel ← fields.get "log_level" 3 (readChoice levelNames) standard.logLevel
  let logFormat ← fields.get "log_format" 4 (readChoice formatNames) standard.logFormat
  let tcpIdleMillis ← fields.get "tcp_idle_timeout_ms" 5 readMillis standard.tcpIdleMillis
  pure { address, udpPort, tcpPort, logLevel, logFormat, tcpIdleMillis }

/-- Read the section of the nameservers. -/
def readUpstream (value : Value) : Option Upstream := do
  let fields ← section? upstreamNames value
  let standard : Upstream := {}
  let nameservers ← fields.get "nameservers" 0 readAddresses standard.nameservers
  let transport ← fields.get "transport" 1 (readChoice transportNames) standard.transport
  let tlsServerName ←
    fields.get "tls_server_name" 2 (fun value => (readText value).map some) none
  let port ← fields.get "port" 3 (fun value => (readPort value).map some) none
  let dialMillis ← fields.get "dial_timeout_ms" 4 readMillis standard.dialMillis
  let readMillis' ← fields.get "read_timeout_ms" 5 readMillis standard.readMillis
  let writeMillis ← fields.get "write_timeout_ms" 6 readMillis standard.writeMillis
  pure {
    nameservers, transport, tlsServerName, port, dialMillis
    readMillis := readMillis', writeMillis }

/-- Read the section of the blocked names. -/
def readBlocking (value : Value) : Option Blocking := do
  let fields ← section? blockingNames value
  let path ← fields.get "path" 0 (fun value => (readText value).map some) none
  let strict ← fields.get "strict" 1 readTruth false
  pure { path, strict }

/-- The names of the sections. -/
def sectionNames : List String := ["server", "upstream", "blocklist"]

/-- Read settings from a value. -/
def ofValue? (value : Value) : Option Settings := do
  let sections ← section? sectionNames value
  let server ← sections.get "server" 0 readServer .standard
  let upstream ← sections.get "upstream" 1 readUpstream .standard
  let blocking ← sections.get "blocklist" 2 readBlocking {}
  pure { server, upstream, blocking }

/-- Read settings from the text of a document. -/
def parse? (text : String) : Option Settings := do
  let table ← Toml.parse? text
  ofValue? table.value

end Settings
end Sinkhole
