import Sinkhole.Resolver.Dispatch

/-!
# Queries handled at the same time

Several queries may be under way at once, and they share one rotation of upstreams.
The handling of a query goes through its stages one step at a time: it is judged,
it may take a turn from the rotation, it asks the upstream that it got, and at some
later time the exchange ends, well or badly. Between two steps of one query any others
may make theirs. A schedule says whose step is next; the history keeps who took which
turn and who asked what.
-/

namespace Sinkhole

open Dns

/-- How far the handling of a query has come. -/
inductive Handling
  | received (chance : Chance) (request : Request)
  | cleared (transactionId : UInt16) (query : Message) (question : Question)
  | ready (query : Message) (question : Question) (call : Call)
  | asking (query : Message) (question : Question) (call : Call)
  | finished (result : Except ResolveError Message)

/-- Queries under way, the rotation that they share, and what they did to it and to
the upstreams, the latest last. Each query goes by its index. -/
structure Traffic where
  handlings : List Handling
  rotation : Rotation Net.Endpoint
  turns : List (Nat × Net.Endpoint) := []
  calls : List (Nat × Call) := []

/-- An entry of a schedule: the query whose step is next, and what an exchange comes to
that ends with this step. -/
structure Move where
  index : Nat
  exchange : Exchange

namespace Handling

/-- The stage after judging a request. -/
def judged
    (policy : Policy)
    (chance : Chance)
    (request : Request) :
    Handling :=
  match (Judgement.ofRequest policy chance.requestId request).verdict with
  | .failed error => .finished (.error error)
  | .blocked reply => .finished (.ok reply)
  | .cleared query question => .cleared chance.transactionId query question

/-- The stage after the end of an exchange. -/
def settled
    (exchange : Exchange)
    (query : Message)
    (question : Question)
    (call : Call) :
    Handling :=
  .finished
    (Settlement.ofExchange query question call
      (exchange call.query call.upstream).result).result

end Handling

namespace Traffic

/-- Put the handling of one query at another stage. -/
def put (traffic : Traffic) (index : Nat) (handling : Handling) : Traffic :=
  { traffic with handlings := traffic.handlings.set index handling }

@[simp] theorem handlings_put (traffic : Traffic) (index : Nat) (handling : Handling) :
    (traffic.put index handling).handlings = traffic.handlings.set index handling :=
  rfl

@[simp] theorem rotation_put (traffic : Traffic) (index : Nat) (handling : Handling) :
    (traffic.put index handling).rotation = traffic.rotation :=
  rfl

@[simp] theorem turns_put (traffic : Traffic) (index : Nat) (handling : Handling) :
    (traffic.put index handling).turns = traffic.turns :=
  rfl

@[simp] theorem calls_put (traffic : Traffic) (index : Nat) (handling : Handling) :
    (traffic.put index handling).calls = traffic.calls :=
  rfl

/-- One step of a query. A query that is finished, or that does not exist, makes none. -/
def step (policy : Policy) (traffic : Traffic) (move : Move) : Traffic :=
  match traffic.handlings[move.index]? with
  | some (.received chance request) =>
      traffic.put move.index (.judged policy chance request)
  | some (.cleared transactionId query question) =>
      let (upstream, rotation) := traffic.rotation.next
      let call := Call.on transactionId query question upstream
      let next := traffic.put move.index (.ready query question call)
      { next with rotation, turns := traffic.turns ++ [(move.index, upstream)] }
  | some (.ready query question call) =>
      let next := traffic.put move.index (.asking query question call)
      { next with calls := traffic.calls ++ [(move.index, call)] }
  | some (.asking query question call) =>
      traffic.put move.index (.settled move.exchange query question call)
  | some (.finished _) | none => traffic

/-- The steps of a schedule, one after the other. -/
def run (policy : Policy) (traffic : Traffic) (schedule : List Move) : Traffic :=
  schedule.foldl (step policy) traffic

@[simp] theorem run_nil (policy : Policy) (traffic : Traffic) :
    traffic.run policy [] = traffic :=
  rfl

@[simp] theorem run_cons
    (policy : Policy)
    (traffic : Traffic)
    (move : Move)
    (schedule : List Move) :
    traffic.run policy (move :: schedule) = (traffic.step policy move).run policy schedule :=
  rfl

/-- Requests that have all come in and of which none has been looked at. -/
def ofRequests
    (rotation : Rotation Net.Endpoint)
    (requests : List (Chance × Request)) :
    Traffic :=
  { handlings := requests.map fun (chance, request) => .received chance request
    rotation }

end Traffic
end Sinkhole
