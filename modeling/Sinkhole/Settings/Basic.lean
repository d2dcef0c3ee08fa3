import Sinkhole.Log.Event
import Sinkhole.Net.Endpoint
import Sinkhole.Text.Blank

/-!
# Settings

What an operator can choose: where the server listens and how it logs, which
nameservers it asks and how, and which names it blocks. A section that is there but
says nothing is not the same as one that is missing: the latter has settings with
which the server can run.
-/

namespace Sinkhole
namespace Settings

/-- The form of the lines in the log. -/
inductive LogFormat
  | text
  | json
  deriving DecidableEq

/-- How queries go to the nameservers. -/
inductive Transport
  | udp
  | tcp
  | tls
  deriving DecidableEq

/-- Where the server listens, and how it logs. A port that is missing or zero means
no listener. -/
structure Server where
  address : Net.Address := .ipv4 .unspecified
  udpPort : Option UInt16 := none
  tcpPort : Option UInt16 := none
  logLevel : Log.Level := .info
  logFormat : LogFormat := .text
  tcpIdleMillis : UInt64 := 10000
  deriving DecidableEq

/-- Which nameservers are asked, and how. -/
structure Upstream where
  nameservers : List Net.Address := []
  transport : Transport := .udp
  tlsServerName : Option String := none
  port : Option UInt16 := none
  dialMillis : UInt64 := 2000
  readMillis : UInt64 := 2000
  writeMillis : UInt64 := 2000
  deriving DecidableEq

/-- Which names are blocked: a file with a pattern a line, and whether a refused line
ends the program. -/
structure Blocking where
  path : Option String := none
  strict : Bool := false
  deriving DecidableEq

/-- The settings of the server where nothing is said about it. -/
def Server.standard : Server :=
  { udpPort := some 53, tcpPort := some 53 }

/-- The nameservers where nothing is said about them. -/
def Upstream.standard : Upstream :=
  { nameservers := [.ipv4 (.ofOctets 1 1 1 1), .ipv4 (.ofOctets 8 8 8 8)] }

/-- The port of a listener, if there is to be one. -/
def listenPort? (port : Option UInt16) : Option UInt16 :=
  port.filter (· ≠ 0)

namespace Server

/-- The port for datagrams. -/
def udpListen (server : Server) : Option UInt16 :=
  listenPort? server.udpPort

/-- The port for connections. -/
def tcpListen (server : Server) : Option UInt16 :=
  listenPort? server.tcpPort

end Server

/-- The port on which nameservers answer a transport. -/
def Transport.usualPort : Transport → UInt16
  | .udp | .tcp => 53
  | .tls => 853

namespace Upstream

/-- The port that is asked. -/
def askedPort (upstream : Upstream) : UInt16 :=
  upstream.port.getD upstream.transport.usualPort

/-- The endpoints that are asked, each once, in the order in which they are first
named. -/
def endpoints (upstream : Upstream) : List Net.Endpoint :=
  (upstream.nameservers.map fun address =>
    ({ address, port := upstream.askedPort } : Net.Endpoint)).eraseDups

end Upstream
end Settings

/-- All that an operator can choose. -/
structure Settings where
  server : Settings.Server := .standard
  upstream : Settings.Upstream := .standard
  blocking : Settings.Blocking := {}
  deriving DecidableEq

namespace Settings

/-- Why the server cannot run with some settings. -/
inductive Defect
  | noListener
  | noNameserver
  | noServerName
  deriving DecidableEq

/-- The report of settings with which the server cannot run. -/
def Defect.message : Defect → String
  | .noListener => "at least one port for TCP or UDP must be specified"
  | .noNameserver => "at least one nameserver required"
  | .noServerName => "upstream.tls_server_name is required for the tls transport"

/-- Whether a name is given that is not blank. -/
def hasServerName (upstream : Upstream) : Bool :=
  upstream.tlsServerName.any fun name => !(Text.trimmed name.toList).isEmpty

/-- Find out whether the server can run with some settings. -/
def defect? (settings : Settings) : Option Defect :=
  if settings.server.udpListen.isNone && settings.server.tcpListen.isNone then
    some .noListener
  else if settings.upstream.nameservers.isEmpty then
    some .noNameserver
  else if settings.upstream.transport = .tls && !hasServerName settings.upstream then
    some .noServerName
  else
    none

end Settings
end Sinkhole
