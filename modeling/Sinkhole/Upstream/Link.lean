import Sinkhole.Failure

/-!
# Links to an upstream

A link is what the network does during one exchange: whether the other side can be
reached, what arrives from it, and what happens when nothing more arrives. Every
wait has a limit.
-/

namespace Sinkhole
namespace Upstream

/-- How a wait ends without what was waited for: its time is over, or the system
reports a reason. -/
inductive Trouble
  | elapsed
  | failed (reason : String)
  deriving DecidableEq

/-- The cause of a failure when time is over. -/
def timeOver : String := "deadline has elapsed"

/-- The reason when the other side ends a stream too soon. -/
def earlyEnd : String := "early eof"

/-- The failure that a wait ends in. Only when time is over does it say what was
waited for. -/
def Trouble.failure (waitingFor : String) : Trouble → Failure
  | .elapsed => { contexts := [waitingFor], cause := timeOver }
  | .failed reason => { cause := reason }

/-- A datagram socket: whether it can be opened towards the upstream, whether the
query can be sent, what arrives, and how the wait for more ends. -/
structure DatagramLink where
  opening : Option String := none
  sending : Option Trouble := none
  arrivals : List (Array UInt8) := []
  ending : Trouble := .elapsed
  deriving DecidableEq

/-- A connection: whether it comes about, whether it can be secured where that is
asked for, whether the query can be written, the octets that arrive, and how the
wait for more ends. -/
structure StreamLink where
  connecting : Option Trouble := none
  securing : Option Trouble := none
  sending : Option Trouble := none
  arriving : List UInt8 := []
  ending : Trouble := .failed earlyEnd
  deriving DecidableEq

/-- What the network does for the sockets of either kind. -/
structure Links where
  datagram : DatagramLink := {}
  stream : StreamLink := {}
  deriving DecidableEq

/-- The report when no route leads to the other side. -/
def networkUnreachable : String := "Network is unreachable (os error 101)"

/-- The links of a host without a network. -/
def Links.unreachable : Links :=
  { datagram := { opening := some networkUnreachable }
    stream := { connecting := some (.failed networkUnreachable) } }

end Upstream
end Sinkhole
