import Sinkhole.Server.Listeners
import Sinkhole.Startup.BlockedNames
import Sinkhole.Startup.Configuration
import Sinkhole.Text.Quoted
import Sinkhole.Upstream.Exchange

/-!
# Starting

From its settings the program finds out whether it can run, which nameservers it
asks in turn, which names it blocks, how it asks, and where it listens, in this
order. The first of these that fails ends it. What is logged before the settings are
known is lost.
-/

namespace Sinkhole

/-- A server that is ready to run. -/
structure Service where
  settings : Settings
  blocklist : Blocklist
  rotation : Rotation Net.Endpoint
  carrier : Upstream.Carrier
  listeners : Server.Listeners

/-- What starting comes to: the settings, if they could be had, the file that is
written, the service or the failure to start, and what there is to log. -/
structure Startup where
  settings : Option Settings := none
  written : Option String := none
  result : Except Failure Service
  events : Array Log.Event := #[]

namespace Startup

/-- The name of a transport in the log. -/
def transportText : Settings.Transport → String
  | .udp => "Udp"
  | .tcp => "Tcp"
  | .tls => "Tls"

/-- Texts in a row between brackets. -/
def bracketed (texts : List String) : String :=
  "[" ++ ", ".intercalate texts ++ "]"

/-- The event of the nameservers that are asked. -/
def usingNameservers (settings : Settings) : Log.Event :=
  { level := .info
    message := "using upstream nameservers"
    fields :=
      [("nameservers",
          .text (bracketed (settings.upstream.endpoints.map Net.Endpoint.text))),
        ("transport", .text (transportText settings.upstream.transport))] }

/-- A path that may be missing, as it is logged. -/
def pathText : Option String → String
  | none => "None"
  | some path => "Some(" ++ Text.quoted path ++ ")"

/-- The event of the names that are blocked. -/
def blocking (path : Option String) (blocklist : Blocklist) (stats : LoadStats) : Log.Event :=
  { level := .info
    message := "blocking " ++ toString blocklist.size ++ " domains"
    fields :=
      [("path", .text (pathText path)), ("inserted", .number stats.inserted),
        ("skipped", .number stats.skipped)] }

/-- The failure of settings with which the server cannot run. -/
def defectFailure (defect : Settings.Defect) : Failure :=
  { cause := defect.message }

/-- The carrier that settings ask for. -/
def carrier
    (read : Net.ServerName.Reading)
    (upstream : Settings.Upstream) :
    Except Failure Upstream.Carrier :=
  match upstream.transport, upstream.tlsServerName with
  | .udp, _ => .ok .datagram
  | .tcp, _ => .ok .stream
  | .tls, some name => Upstream.Carrier.secure? read name
  | .tls, none => .error (defectFailure .noServerName)

/-- The listeners that settings ask for. -/
def listeners (server : Settings.Server) : Server.Listeners :=
  { address := server.address
    datagramPort := server.udpListen
    streamPort := server.tcpListen }

/-- Start with the names that are blocked. -/
def withNames
    (read : Net.ServerName.Reading)
    (settings : Settings)
    (rotation : Rotation Net.Endpoint)
    (names : BlockedNames) :
    Except Failure Service × Array Log.Event :=
  match names.result with
  | .error error =>
      (.error (error.startFailure (settings.blocking.path.getD "")), names.events)
  | .ok (blocklist, stats) =>
      let events := names.events.push (blocking settings.blocking.path blocklist stats)
      match carrier read settings.upstream with
      | .error failure => (.error failure, events)
      | .ok carrier =>
          (.ok {
            settings, blocklist, rotation, carrier
            listeners := listeners settings.server },
            events)

/-- Start with settings. -/
def withSettings
    (convert : String → Option String)
    (read : Net.ServerName.Reading)
    (file : String → File)
    (settings : Settings) :
    Except Failure Service × Array Log.Event :=
  match settings.defect? with
  | some defect => (.error (defectFailure defect), #[])
  | none =>
      match Rotation.ofArray? settings.upstream.endpoints.toArray with
      | none =>
          (.error { contexts := ["building upstream selector"], cause := Rotation.needsItems },
            #[])
      | some rotation =>
          let names := BlockedNames.ofSettings convert settings.blocking file
          let (result, events) := withNames read settings rotation names
          (result, #[usingNameservers settings] ++ events)

/-- Start from the configuration file, against the writing of which there may be a
reason, and the other files. -/
def ofFiles
    (convert : String → Option String)
    (read : Net.ServerName.Reading)
    (configuration : File)
    (hindrance : Option String)
    (file : String → File) :
    Startup :=
  let configuration := Configuration.ofFile configuration hindrance
  let written := configuration.written
  match configuration.result with
  | .error error => { written, result := .error error.failure }
  | .ok settings =>
      let (result, events) := withSettings convert read file settings
      { settings := some settings, written, result, events }

/-- A text that goes on in further lines at an indentation. -/
def indented (first other : String) (text : String) : String :=
  first ++ ("\n" ++ other).intercalate (text.splitOn "\n")

/-- The report of a failure to start: its description, and below it what caused it,
numbered if there is more than one cause. -/
def report (failure : Failure) : String :=
  let causes := failure.chain.tail
  let lines :=
    match causes with
    | [cause] => [indented "    " "    " cause]
    | causes =>
        causes.mapIdx fun index cause =>
          let number := toString index
          let padding := "".pushn ' ' (5 - number.length)
          indented (padding ++ number ++ ": ") "       " cause
  let description := "Error: " ++ failure.chain.head?.getD "" ++ "\n"
  if causes.isEmpty then description
  else description ++ "\nCaused by:\n" ++ String.join (lines.map (· ++ "\n"))

end Startup
end Sinkhole
