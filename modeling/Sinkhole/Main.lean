import Std.Async
import Std.Time
import Sinkhole.Idna.Name
import Sinkhole.Log.Line
import Sinkhole.Resolver.RequestId
import Sinkhole.Server.Datagram
import Sinkhole.Server.Stream
import Sinkhole.Startup.Service

/-!
# The program

The program finds its settings, starts, and serves until it is told to stop. What is
done with a request is decided elsewhere. Here octets, times and reports go back and
forth between that and the system.

The system offers no secured connections to the program, so an exchange over one fails
where it would be secured.
-/

namespace Sinkhole
namespace Program

open Std.Async

/-! ### Reports of the system -/

/-- The code and the words in a report. -/
def codeAndWords? : IO.Error → Option (UInt32 × String)
  | .otherError code words
  | .resourceBusy code words
  | .resourceVanished code words
  | .unsupportedOperation code words
  | .hardwareFault code words
  | .unsatisfiedConstraints code words
  | .illegalOperation code words
  | .protocolError code words
  | .timeExpired code words
  | .interrupted _ code words
  | .noFileOrDirectory _ code words
  | .alreadyExists _ code words
  | .invalidArgument _ code words
  | .permissionDenied _ code words
  | .resourceExhausted _ code words
  | .inappropriateType _ code words
  | .noSuchThing _ code words => some (code, words)
  | .unexpectedEof | .userError _ => none

/-- The reason in a report. Codes of the network are negative. -/
def reason (error : IO.Error) : String :=
  match codeAndWords? error with
  | some (code, words) =>
      let code := min code.toNat (UInt32.size - code.toNat)
      words ++ " (os error " ++ toString code ++ ")"
  | none => toString error

/-! ### Files -/

/-- The variable of the environment that names the configuration file. -/
def pathVariable : String := "SINKHOLE_CONFIG"

/-- Where the configuration file is if nothing names it. -/
def usualPath : String := "config.toml"

/-- Look for a file and read it. -/
def findFile (path : String) : IO File := do
  match ← (IO.FS.Handle.mk path .read).toBaseIO with
  | .error (.noFileOrDirectory ..) => pure .missing
  | .error error => pure (.closed (reason error))
  | .ok handle =>
      match ← handle.readBinToEnd.toBaseIO with
      | .ok octets => pure (.whole octets.toList)
      | .error error => pure (.broken [] (reason error))

/-- Write the configuration file if there is none. The reason that it cannot be written
comes back. -/
def writeConfiguration (path : String) (written : Option String) : IO (Option String) := do
  match written with
  | none => pure none
  | some text =>
      match ← (IO.FS.writeFile path text).toBaseIO with
      | .ok _ => pure none
      | .error error => pure (some (reason error))

/-- Start from the configuration file at a path. -/
def start (path : String) : IO Startup := do
  let file ← findFile path
  let configuration := Configuration.ofFile file none
  let hindrance ← writeConfiguration path configuration.written
  let list ←
    match configuration.result.toOption.bind (·.blocking.path) with
    | none => pure .missing
    | some path => findFile path
  pure (Startup.ofFiles Idna.toAscii? Net.ServerName.read file hindrance fun _ => list)

/-! ### The log -/

/-- The time as it is written in the log. -/
def timeText : IO String := do
  let now ← Std.Time.Timestamp.now
  let now := Std.Time.DateTime.ofTimestamp now Std.Time.TimeZone.ZoneRules.UTC
  pure (now.format "uuuu-MM-dd'T'HH:mm:ss.SSSSSS'Z'")

/-- Write the events that the settings ask for. -/
def log (server : Settings.Server) (events : Array Log.Event) : IO Unit := do
  let time ← timeText
  for event in events do
    if event.isShown server.logLevel then
      IO.println <|
        match server.logFormat with
        | .json => event.jsonLine (some time)
        | .text => event.textLine (some time)
  (← IO.getStdout).flush

/-! ### Addresses -/

/-- An endpoint as the system knows it. -/
def socketAddress (endpoint : Net.Endpoint) : Std.Net.SocketAddress :=
  match endpoint.address with
  | .ipv4 address => .v4 ⟨⟨address.octets⟩, endpoint.port⟩
  | .ipv6 address =>
      let segment (index : Fin 8) : UInt16 :=
        UInt16.ofNat (address.groups.getD index.val 0)
      .v6 ⟨⟨Vector.ofFn segment⟩, endpoint.port⟩

/-- An endpoint that the system reports. -/
def endpointOf : Std.Net.SocketAddress → Net.Endpoint
  | .v4 socket => { address := .ipv4 ⟨socket.addr.octets⟩, port := socket.port }
  | .v6 socket =>
      let groups := socket.addr.segments.toList.map UInt16.toNat
      let address := (Net.Ipv6.ofGroups? groups).getD .unspecified
      { address := .ipv6 address, port := socket.port }

/-- The endpoint from which a query to an upstream goes out: any address of the same
family, and a port that the system chooses. -/
def anyEndpoint (upstream : Net.Endpoint) : Net.Endpoint :=
  match upstream.address with
  | .ipv4 _ => { address := .ipv4 .unspecified, port := 0 }
  | .ipv6 _ => { address := .ipv6 .unspecified, port := 0 }

/-! ### Waiting -/

/-- Wait for what is selected, for so many milliseconds at most. -/
def waitFor
    {α : Type}
    (millis : Nat)
    (selector : Selector α) :
    Async (Except Upstream.Trouble α) := do
  try
    let limit ← Selector.sleep (.ofNat millis)
    Selectable.one
      #[.case selector fun value => pure (.ok value),
        .case limit fun _ => pure (.error .elapsed)]
  catch error => pure (.error (.failed (reason error)))

/-- Do something, for so many milliseconds at most. -/
def within (millis : Nat) (action : Async Unit) : Async (Option Upstream.Trouble) :=
  let finish : Async (Option Upstream.Trouble) := do
    try
      action
      pure none
    catch error => pure (some (.failed (reason error)))
  let expire : Async (Option Upstream.Trouble) := do
    sleep (.ofNat millis)
    pure (some .elapsed)
  Async.race finish expire

/-- Read from a connection until there is enough, going on from some octets. If there
never is, the trouble comes with what was read. -/
def readUntil
    (client : TCP.Socket.Client)
    (millis : Nat)
    (enough : List UInt8 → Bool)
    (octets : List UInt8) :
    Async (List UInt8 × Option Upstream.Trouble) := do
  let deadline := (← IO.monoMsNow) + millis
  let mut octets := octets
  let mut trouble : Option Upstream.Trouble := none
  repeat
    if enough octets || trouble.isSome then break
    let left := deadline - (← IO.monoMsNow)
    match ← waitFor left (client.recvSelector 4096) with
    | .ok (some more) => octets := octets ++ more.toList
    | .ok none => trouble := some (.failed Upstream.earlyEnd)
    | .error reported => trouble := some reported
  pure (octets, trouble)

/-- Whether a stream begins with a whole frame. -/
def hasFrame (octets : List UInt8) : Bool :=
  match Dns.Frame.cut octets with
  | .whole .. => true
  | _ => false

/-- Read the length and then the body of a frame, each within the time given. -/
def readFrame
    (client : TCP.Socket.Client)
    (millis : Nat)
    (octets : List UInt8) :
    Async (List UInt8 × Option Upstream.Trouble) := do
  let (octets, trouble) ← readUntil client millis (fun octets => 2 ≤ octets.length) octets
  if trouble.isSome then pure (octets, trouble)
  else readUntil client millis hasFrame octets

/-! ### Links to the upstreams -/

/-- What a datagram socket does during an exchange. -/
def datagramLink
    (settings : Settings.Upstream)
    (query : Array UInt8)
    (upstream : Net.Endpoint) :
    Async Upstream.DatagramLink := do
  try
    let socket ← UDP.Socket.mk
    socket.bind (socketAddress (anyEndpoint upstream))
    socket.connect (socketAddress upstream)
    match ← within settings.writeMillis.toNat (socket.send ⟨query⟩) with
    | some trouble => pure { sending := some trouble }
    | none =>
        let deadline := (← IO.monoMsNow) + settings.readMillis.toNat
        let mut link : Upstream.DatagramLink := {}
        repeat
          let left := deadline - (← IO.monoMsNow)
          match ← waitFor left (socket.recvSelector Upstream.maxReceived.toUInt64) with
          | .ok (octets, _) =>
              link := { link with arrivals := link.arrivals ++ [octets.data] }
              if Upstream.Datagram.isResponse octets.data then break
          | .error trouble =>
              link := { link with ending := trouble }
              break
        pure link
  catch error => pure { opening := some (reason error) }

/-- The reason that a connection is not secured. -/
def noSecurity : String := "secured connections are not supported"

/-- What a connection does during an exchange. -/
def streamLink
    (settings : Settings.Upstream)
    (query : Array UInt8)
    (upstream : Net.Endpoint) :
    Async Upstream.StreamLink := do
  try
    let client ← TCP.Socket.Client.mk
    match ← within settings.dialMillis.toNat (client.connect (socketAddress upstream)) with
    | some trouble => pure { connecting := some trouble }
    | none =>
        match settings.transport, Dns.Frame.around? query.toList with
        | .tls, _ | _, none => pure { securing := some (.failed noSecurity) }
        | _, some frame =>
            match ← within settings.writeMillis.toNat (client.send ⟨frame.toArray⟩) with
            | some trouble => pure { sending := some trouble }
            | none =>
                let (octets, trouble) ← readFrame client settings.readMillis.toNat []
                client.shutdown
                pure {
                  arriving := octets
                  ending := trouble.getD (.failed Upstream.earlyEnd) }
  catch error => pure { connecting := some (.failed (reason error)) }

/-- What the network does during an exchange. A connection is made only if the exchange
comes to one. -/
def links
    (settings : Settings.Upstream)
    (query : Array UInt8)
    (upstream : Net.Endpoint) :
    Async Upstream.Links := do
  match settings.transport with
  | .udp =>
      let datagram ← datagramLink settings query upstream
      if (Upstream.Datagram.select? datagram.arrivals).any Dns.peekTruncated then
        pure { datagram, stream := ← streamLink settings query upstream }
      else
        pure { datagram }
  | .tcp | .tls => pure { stream := ← streamLink settings query upstream }

/-! ### Serving -/

/-- A service that runs. All requests share one rotation. -/
structure Running where
  service : Service
  rotation : IO.Ref (Rotation Net.Endpoint)

/-- What chance provides for one query, before any time has passed. -/
def chance : IO Chance := do
  let requestId : Except Failure String ←
    match ← (IO.getRandomBytes RequestId.size.toUSize).toBaseIO with
    | .ok octets => pure (.ok (RequestId.text octets.toList))
    | .error error =>
        pure (.error {
          contexts := ["reading from the OS random source"]
          cause := reason error })
  pure {
    requestId
    transactionId := UInt16.ofNat (← IO.rand 0 65535)
    elapsedMillis := 0 }

namespace Running

/-- Write events as the settings of the service ask for them. -/
def log (running : Running) (events : Array Log.Event) : IO Unit :=
  Program.log running.service.settings.server events

/-- Handle a request. If it is cleared it takes its turn with the upstreams. -/
def handle (running : Running) (request : Request) : Async Handled := do
  let service := running.service
  let policy := service.blocklist.policy
  let started ← IO.monoMsNow
  let chance ← chance
  let timed : IO Chance := do
    pure { chance with elapsedMillis := UInt64.ofNat ((← IO.monoMsNow) - started) }
  match (Judgement.ofRequest policy chance.requestId request).verdict with
  | .cleared query question =>
      let rotation ← running.rotation.modifyGet fun rotation => (rotation, rotation.advance)
      let outbound := outboundQuery chance.transactionId query question
      let links ←
        match outbound.encode with
        | .ok octets => links service.settings.upstream octets rotation.current
        | .error _ => pure {}
      let exchange := Upstream.exchange service.carrier fun _ => links
      pure (Sinkhole.handle policy exchange (← timed) rotation request)
  | .failed _ | .blocked _ =>
      let rotation ← running.rotation.get
      let exchange := Upstream.exchange service.carrier fun _ => {}
      pure (Sinkhole.handle policy exchange (← timed) rotation request)

/-- Answer a datagram. -/
def answerDatagram
    (running : Running)
    (socket : UDP.Socket)
    (client : Net.Endpoint)
    (octets : Array UInt8) :
    Async Unit := do
  let handled ← running.handle (Server.datagramRequest client octets)
  let served := Server.sendDatagram client handled
  running.log served.events
  if let some octets := served.sent then
    socket.send ⟨octets⟩ (some (socketAddress client))

/-- Answer datagrams as they come. -/
def serveDatagrams (running : Running) (socket : UDP.Socket) : Async Unit := do
  repeat
    let (octets, sender) ← socket.recv Server.maxRequest.toUInt64
    if let some sender := sender then
      background (running.answerDatagram socket (endpointOf sender) octets.data)

/-- How the client's side of a connection ended. -/
def endingOf : Upstream.Trouble → Server.StreamEnding
  | .elapsed => .silent
  | .failed reason => if reason = Upstream.earlyEnd then .closed else .failed reason

/-- Answer the frames of one connection. -/
def serveConnection (running : Running) (socket : TCP.Socket.Client) : Async Unit := do
  let client := endpointOf (← socket.getPeerName)
  let millis := running.service.settings.server.tcpIdleMillis.toNat
  let mut octets : List UInt8 := []
  repeat
    let (arrived, trouble) ← readFrame socket millis octets
    let ending := endingOf (trouble.getD .elapsed)
    match Dns.Frame.cut arrived with
    | .noLength =>
        running.log (Server.endingBetween client ending)
        break
    | .noBody =>
        running.log #[Server.connectionFailed client ending.reason]
        break
    | .whole body rest =>
        octets := rest
        let handled ← running.handle { arrival := .stream, client, octets := body.toArray }
        running.log handled.events
        match handled.reply.mapM Server.replyFrame with
        | .ok none => continue
        | .ok (some frame) => socket.send ⟨frame.toArray⟩
        | .error error =>
            running.log #[Server.connectionFailed client error.message]
            break
  socket.shutdown

/-- Answer connections as they come. -/
def serveConnections (running : Running) (server : TCP.Socket.Server) : Async Unit := do
  repeat
    let socket ← server.accept
    background (running.serveConnection socket)

end Running

/-- How many connections may wait to be answered. -/
def maxWaiting : UInt32 := 1024

/-- Set up one listener. What it does from then on comes back. -/
def listen
    (running : Running)
    (arrival : Arrival)
    (endpoint : Net.Endpoint) :
    IO (Except String (Async Unit)) := do
  let setUp : IO (Async Unit) := do
    match arrival with
    | .datagram =>
        let socket ← UDP.Socket.mk
        socket.bind (socketAddress endpoint)
        pure (running.serveDatagrams socket)
    | .stream =>
        let server ← TCP.Socket.Server.mk
        server.bind (socketAddress endpoint)
        server.listen maxWaiting
        pure (running.serveConnections server)
  match ← setUp.toBaseIO with
  | .ok serve => pure (.ok serve)
  | .error error => pure (.error (reason error))

/-- Wait until the program is told to stop. -/
def stopped : Async Unit := do
  let interrupt ← Signal.Waiter.mk .sigint false
  let terminate ← Signal.Waiter.mk .sigterm false
  Selectable.one
    #[.case interrupt.selector fun _ => pure (), .case terminate.selector fun _ => pure ()]

/-- Report the failure of the server. -/
def fail (running : Running) (reason : String) : IO UInt32 := do
  running.log #[{ level := .error, message := "DNS server exited with error: " ++ reason }]
  IO.eprint (Startup.report { cause := reason })
  pure 1

/-- Serve until a listener fails or the program is told to stop. -/
def serve (running : Running) (activities : List (Async Unit)) : IO UInt32 := do
  let finish (activity : Async Unit) : Async (Option String) := do
    try
      activity
      pure none
    catch error => pure (some (reason error))
  match ← (Async.raceAll ((stopped :: activities).map finish)).block with
  | some reason => fail running reason
  | none =>
      running.log #[{ level := .info, message := "Shutting down DNS server..." }]
      pure 0

/-- Run a service: set up its listeners, then serve. -/
def run (service : Service) : IO UInt32 := do
  let running : Running := { service, rotation := ← IO.mkRef service.rotation }
  let mut activities : List (Async Unit) := []
  let mut refused : Option (Arrival × String) := none
  for (arrival, endpoint) in service.listeners.endpoints do
    if refused.isNone then
      match ← listen running arrival endpoint with
      | .ok activity => activities := activities ++ [activity]
      | .error reason => refused := some (arrival, reason)
  let refusal (arrival : Arrival) (_ : Net.Endpoint) : Option String :=
    (refused.filter fun (refused, _) => refused == arrival).map Prod.snd
  let (result, events) := Server.Listeners.start refusal service.listeners
  running.log events
  match result with
  | .ok _ => serve running activities
  | .error error => fail running error.message

/-- Start from the configuration file and run what comes of it. -/
def execute : IO UInt32 := do
  let path := (← IO.getEnv pathVariable).getD usualPath
  let startup ← start path
  if let some settings := startup.settings then
    log settings.server startup.events
  match startup.result with
  | .ok service => run service
  | .error failure =>
      IO.eprint (Startup.report failure)
      pure 1

end Program
end Sinkhole

/-- The program. -/
def main : IO UInt32 :=
  Sinkhole.Program.execute
