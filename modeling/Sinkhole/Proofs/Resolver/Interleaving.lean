import Sinkhole.Proofs.Resolver.Decision
import Sinkhole.Proofs.Resolver.Rotation
import Sinkhole.Resolver.Interleaving

/-!
# Turns and calls of queries under way together

However the steps of the queries are mixed, the turns that they take are those of one
rotation in the order of the steps, and each query takes a turn and makes a call as if it
were alone: once if it is to be forwarded, and otherwise not at all. How an exchange ends
has no influence on either.

Two facts hold after every step. The turns so far are what the rotation serves to their
takers, and each query has the turns and the calls that belong to its stage.
-/

namespace Sinkhole

open Dns

/-! ## Who did what -/

/-- What a history holds of the query with the given index. -/
def entriesOf {β : Type} (index : Nat) (history : List (Nat × β)) : List β :=
  (history.filter fun entry => entry.1 = index).map Prod.snd

@[simp] theorem entriesOf_nil {β : Type} (index : Nat) :
    entriesOf index ([] : List (Nat × β)) = [] :=
  rfl

@[simp] theorem entriesOf_append_self
    {β : Type}
    (index : Nat)
    (history : List (Nat × β))
    (entry : β) :
    entriesOf index (history ++ [(index, entry)]) = entriesOf index history ++ [entry] := by
  simp [entriesOf]

@[simp] theorem entriesOf_append_of_ne
    {β : Type}
    {index other : Nat}
    (different : other ≠ index)
    (history : List (Nat × β))
    (entry : β) :
    entriesOf index (history ++ [(other, entry)]) = entriesOf index history := by
  simp [entriesOf, different]

/-! ## Queries that go on to an upstream -/

/-- An upstream is to be asked about a request: an identifier was to be had for it, and it
holds a query whose first question is about the address of a name that is not blocked. -/
structure Forwarded (policy : Policy) (chance : Chance) (request : Request) : Prop where
  identified : ∃ requestId, chance.requestId = .ok requestId
  asks : ∃ query question, Asks request query question ∧ question.qclass = .internet ∧
    (question.qtype = .a ∨ question.qtype = .aaaa) ∧
    policy question.qname.canonical = false

/-- The requests about which an upstream is asked are those that are cleared. -/
theorem forwarded_iff
    {policy : Policy}
    {chance : Chance}
    {request : Request} :
    Forwarded policy chance request ↔
      ∃ query question, (Judgement.ofRequest policy chance.requestId request).verdict =
        .cleared query question := by
  constructor
  · rintro ⟨⟨requestId, identified⟩, query, question, asks, internet, address, unlisted⟩
    refine ⟨query, question, ?_⟩
    rw [identified, asks.verdict_of_address internet address, unlisted]
    rfl
  · rintro ⟨query, question, judged⟩
    obtain ⟨identified, read, first, internet, ⟨rdata, data⟩, unlisted⟩ :=
      Judgement.exists_of_verdict_cleared judged
    have address := (blockedData?_eq_some_iff.mp data).1
    exact ⟨identified, query, question, ⟨read, first⟩, internet, address, unlisted⟩

/-! ## What belongs to a stage -/

/-- What a query has done by a stage of its handling: the turns that it has taken and the
calls that it has made. The stage at the end is what dispatching the request alone comes
to, when the upstream does what it did at the end of the exchange. -/
inductive Account (policy : Policy) (schedule : List Move) (index : Nat) :
    Option (Chance × Request) → Option Handling → List Net.Endpoint → List Call → Prop
  | absent : Account policy schedule index none none [] []
  | received (chance : Chance) (request : Request) :
      Account policy schedule index (some (chance, request)) (some (.received chance request))
        [] []
  | cleared
      {chance : Chance}
      {request : Request}
      {query : Message}
      {question : Question}
      (judged : (Judgement.ofRequest policy chance.requestId request).verdict =
        .cleared query question) :
      Account policy schedule index (some (chance, request))
        (some (.cleared chance.transactionId query question)) [] []
  | ready
      {chance : Chance}
      {request : Request}
      {query : Message}
      {question : Question}
      (judged : (Judgement.ofRequest policy chance.requestId request).verdict =
        .cleared query question)
      (taken : Rotation Net.Endpoint) :
      Account policy schedule index (some (chance, request))
        (some (.ready query question
          (Call.on chance.transactionId query question taken.current)))
        [taken.current] []
  | asking
      {chance : Chance}
      {request : Request}
      {query : Message}
      {question : Question}
      (judged : (Judgement.ofRequest policy chance.requestId request).verdict =
        .cleared query question)
      (taken : Rotation Net.Endpoint) :
      Account policy schedule index (some (chance, request))
        (some (.asking query question
          (Call.on chance.transactionId query question taken.current)))
        [taken.current] [Call.on chance.transactionId query question taken.current]
  | finished
      {move : Move}
      (scheduled : move ∈ schedule)
      (own : move.index = index)
      (chance : Chance)
      (request : Request)
      (taken : Rotation Net.Endpoint) :
      Account policy schedule index (some (chance, request))
        (some (.finished (dispatch policy move.exchange chance taken request).result))
        ((dispatch policy move.exchange chance taken request).call.toList.map Call.upstream)
        (dispatch policy move.exchange chance taken request).call.toList

/-- What holds of traffic throughout a run: the turns are what the rotation serves to their
takers, and the account of every query is in order. -/
structure Traffic.InOrder
    (policy : Policy)
    (start : Rotation Net.Endpoint)
    (requests : List (Chance × Request))
    (schedule : List Move)
    (traffic : Traffic) : Prop where
  served : start.serve (traffic.turns.map Prod.fst) = (traffic.turns, traffic.rotation)
  accounts : ∀ index, Account policy schedule index requests[index]? traffic.handlings[index]?
    (entriesOf index traffic.turns) (entriesOf index traffic.calls)

section

variable {policy : Policy} {start : Rotation Net.Endpoint} {requests : List (Chance × Request)}
  {schedule : List Move} {traffic : Traffic} {move : Move}

/-- The stage of a query after it has been put there. -/
theorem Traffic.getElem?_handlings_put
    {index : Nat}
    {before : Handling}
    (handled : traffic.handlings[index]? = some before)
    (handling : Handling) :
    (traffic.put index handling).handlings[index]? = some handling := by
  rw [handlings_put]
  exact List.getElem?_set_self (List.getElem?_eq_some_iff.mp handled).1

/-- Judging a request settles it, or clears it. -/
theorem Account.judged
    (scheduled : move ∈ schedule)
    (rotation : Rotation Net.Endpoint)
    (chance : Chance)
    (request : Request) :
    Account policy schedule move.index (some (chance, request))
      (some (.judged policy chance request)) [] [] := by
  -- What is settled at once asks nobody, so any rotation will do for dispatching it.
  have ended : Account policy schedule move.index (some (chance, request)) _ _ _ :=
    .finished scheduled rfl chance request rotation
  rw [result_dispatch, call_dispatch] at ended
  rw [Handling.judged]
  cases judged : (Judgement.ofRequest policy chance.requestId request).verdict with
  | failed error =>
      rw [judged] at ended
      exact ended
  | blocked reply =>
      rw [judged] at ended
      exact ended
  | cleared query question => exact .cleared judged

/-- The end of its exchange settles a query. -/
theorem Account.settled
    (scheduled : move ∈ schedule)
    {chance : Chance}
    {request : Request}
    {query : Message}
    {question : Question}
    (judged : (Judgement.ofRequest policy chance.requestId request).verdict =
      .cleared query question)
    (taken : Rotation Net.Endpoint) :
    let call := Call.on chance.transactionId query question taken.current
    Account policy schedule move.index (some (chance, request))
      (some (.settled move.exchange query question call)) [taken.current] [call] := by
  have ended : Account policy schedule move.index (some (chance, request)) _ _ _ :=
    .finished scheduled rfl chance request taken
  rw [result_dispatch, call_dispatch, judged] at ended
  exact ended

/-- A step of a query takes its account from one stage to the next. -/
theorem Account.step
    (scheduled : move ∈ schedule)
    {entry : Option (Chance × Request)}
    {handling : Option Handling}
    {turns : List Net.Endpoint}
    {calls : List Call}
    (account : Account policy schedule move.index entry handling turns calls)
    (handled : traffic.handlings[move.index]? = handling)
    (taken : entriesOf move.index traffic.turns = turns)
    (made : entriesOf move.index traffic.calls = calls) :
    Account policy schedule move.index entry
      (traffic.step policy move).handlings[move.index]?
      (entriesOf move.index (traffic.step policy move).turns)
      (entriesOf move.index (traffic.step policy move).calls) := by
  rw [Traffic.step, handled]
  cases account with
  | absent =>
      rw [handled, taken, made]
      exact .absent
  | received chance request =>
      rw [Traffic.getElem?_handlings_put handled, Traffic.turns_put, Traffic.calls_put, taken,
        made]
      exact .judged scheduled traffic.rotation chance request
  | cleared judged =>
      have ready := Traffic.getElem?_handlings_put handled
      dsimp only
      rw [ready, entriesOf_append_self, taken, Traffic.calls_put, made]
      exact .ready judged traffic.rotation
  | ready judged rotation =>
      have asking := Traffic.getElem?_handlings_put handled
      dsimp only
      rw [asking, entriesOf_append_self, made, Traffic.turns_put, taken]
      exact .asking judged rotation
  | asking judged rotation =>
      rw [Traffic.getElem?_handlings_put handled, Traffic.turns_put, Traffic.calls_put, taken,
        made]
      exact .settled scheduled judged rotation
  | finished earlier own chance request rotation =>
      rw [handled, taken, made]
      exact .finished earlier own chance request rotation

/-- A step of one query leaves the others where they are. -/
theorem Traffic.step_of_ne
    {index : Nat}
    (other : move.index ≠ index)
    (policy : Policy)
    (traffic : Traffic) :
    (traffic.step policy move).handlings[index]? = traffic.handlings[index]? ∧
      entriesOf index (traffic.step policy move).turns = entriesOf index traffic.turns ∧
      entriesOf index (traffic.step policy move).calls = entriesOf index traffic.calls := by
  rw [Traffic.step]
  split <;> simp [other]

/-- A step takes no turn, or the next one. -/
theorem Traffic.served_step
    (served : start.serve (traffic.turns.map Prod.fst) = (traffic.turns, traffic.rotation)) :
    start.serve ((traffic.step policy move).turns.map Prod.fst) =
      ((traffic.step policy move).turns, (traffic.step policy move).rotation) := by
  rw [Traffic.step]
  -- Only a query that has been cleared takes a turn.
  split
  case h_2 transactionId query question handled =>
    change start.serve ((traffic.turns ++ [(move.index, traffic.rotation.current)]).map Prod.fst) =
      (traffic.turns ++ [(move.index, traffic.rotation.current)], traffic.rotation.advance)
    rw [List.map_append, Rotation.serve_append, served]
    rfl
  all_goals exact served

/-- What holds throughout a run is kept by every step of it. -/
theorem Traffic.InOrder.step
    (inOrder : traffic.InOrder policy start requests schedule)
    (scheduled : move ∈ schedule) :
    (traffic.step policy move).InOrder policy start requests schedule := by
  refine ⟨served_step inOrder.served, fun index => ?_⟩
  by_cases same : move.index = index
  · subst same
    exact (inOrder.accounts move.index).step scheduled rfl rfl rfl
  · obtain ⟨handled, taken, made⟩ := step_of_ne same policy traffic
    rw [handled, taken, made]
    exact inOrder.accounts index

/-- What holds throughout a run holds after any steps of its schedule. -/
theorem Traffic.InOrder.run
    {moves : List Move}
    (inOrder : traffic.InOrder policy start requests schedule)
    (scheduled : moves ⊆ schedule) :
    (traffic.run policy moves).InOrder policy start requests schedule := by
  induction moves generalizing traffic with
  | nil => exact inOrder
  | cons move moves hypothesis =>
      obtain ⟨first, further⟩ := List.cons_subset.mp scheduled
      rw [run_cons]
      exact hypothesis (inOrder.step first) further

theorem Traffic.inOrder_ofRequests
    (policy : Policy)
    (start : Rotation Net.Endpoint)
    (requests : List (Chance × Request))
    (schedule : List Move) :
    (ofRequests start requests).InOrder policy start requests schedule := by
  refine ⟨rfl, fun index => ?_⟩
  rw [ofRequests, List.getElem?_map]
  cases requests[index]? with
  | none => exact .absent
  | some entry => exact .received entry.1 entry.2

/-- The histories of turns and calls only grow. -/
theorem Traffic.prefix_step (policy : Policy) (traffic : Traffic) (move : Move) :
    traffic.turns <+: (traffic.step policy move).turns ∧
      traffic.calls <+: (traffic.step policy move).calls := by
  rw [step]
  split <;> simp

theorem Traffic.prefix_run (policy : Policy) (traffic : Traffic) (schedule : List Move) :
    traffic.turns <+: (traffic.run policy schedule).turns ∧
      traffic.calls <+: (traffic.run policy schedule).calls := by
  induction schedule generalizing traffic with
  | nil => exact ⟨List.prefix_rfl, List.prefix_rfl⟩
  | cons move schedule hypothesis =>
      have first := prefix_step policy traffic move
      have further := hypothesis (traffic.step policy move)
      exact ⟨first.1.trans further.1, first.2.trans further.2⟩

/-! ## Queries come to an end -/

/-- The number of steps that a query can still make. -/
def Handling.stepsLeft : Handling → Nat
  | .received _ _ => 4
  | .cleared _ _ _ => 3
  | .ready _ _ _ => 2
  | .asking _ _ _ => 1
  | .finished _ => 0

theorem Handling.stepsLeft_judged_le (policy : Policy) (chance : Chance) (request : Request) :
    (judged policy chance request).stepsLeft ≤ 3 := by
  rw [judged]
  split <;> simp [stepsLeft]

/-- The number of steps that the query with the given index can still make. -/
def Traffic.stepsLeft (traffic : Traffic) (index : Nat) : Nat :=
  match traffic.handlings[index]? with
  | some handling => handling.stepsLeft
  | none => 0

/-- A step brings a query nearer to its end. -/
theorem Traffic.stepsLeft_step_self (policy : Policy) (traffic : Traffic) (move : Move) :
    (traffic.step policy move).stepsLeft move.index ≤ traffic.stepsLeft move.index - 1 := by
  cases handled : traffic.handlings[move.index]? with
  | none => simp only [step, stepsLeft, handled, Nat.zero_sub, Nat.le_refl]
  | some handling =>
      cases handling with
      | received chance request =>
          have judged := Handling.stepsLeft_judged_le policy chance request
          simp only [step, stepsLeft, handled, getElem?_handlings_put handled]
          exact judged
      | cleared transactionId query question =>
          have ready := getElem?_handlings_put handled
          simp only [step, stepsLeft, handled, ready, Handling.stepsLeft, Nat.le_refl]
      | ready query question call =>
          have asking := getElem?_handlings_put handled
          simp only [step, stepsLeft, handled, asking, Handling.stepsLeft, Nat.le_refl]
      | asking query question call =>
          have settled := getElem?_handlings_put handled
          simp only [step, stepsLeft, handled, settled, Handling.settled, Handling.stepsLeft,
            Nat.le_refl]
      | finished result =>
          simp only [step, stepsLeft, handled, Handling.stepsLeft, Nat.zero_sub, Nat.le_refl]

theorem Traffic.stepsLeft_run
    (policy : Policy)
    (traffic : Traffic)
    (schedule : List Move)
    (index : Nat) :
    (traffic.run policy schedule).stepsLeft index ≤
      traffic.stepsLeft index - schedule.countP fun move => move.index = index := by
  induction schedule generalizing traffic with
  | nil => exact Nat.le_refl _
  | cons move schedule hypothesis =>
      have further := hypothesis (traffic.step policy move)
      rw [run_cons, List.countP_cons]
      by_cases same : move.index = index
      · subst same
        have first := stepsLeft_step_self policy traffic move
        simp only [decide_true, if_true]
        omega
      · have first : (traffic.step policy move).stepsLeft index = traffic.stepsLeft index := by
          rw [stepsLeft, (step_of_ne same policy traffic).1]
          rfl
        simp only [same, decide_false, Bool.false_eq_true, if_false]
        omega

end

/-! ## Turns and calls of a run -/

section

variable {policy : Policy} {schedule : List Move} {index : Nat} {chance : Chance}
  {request : Request} {handling : Option Handling} {turns : List Net.Endpoint}
  {calls : List Call}

theorem Account.length_le_one
    {entry : Option (Chance × Request)}
    (account : Account policy schedule index entry handling turns calls) :
    turns.length ≤ 1 ∧ calls.length ≤ 1 := by
  cases account with
  | finished _ _ chance request taken =>
      rw [List.length_map, and_self, Option.length_toList]
      split <;> decide
  | _ => simp

theorem Account.eq_nil_of_absent
    (account : Account policy schedule index none handling turns calls) :
    turns = [] ∧ calls = [] := by
  cases account
  exact ⟨rfl, rfl⟩

/-- A request that is not to be forwarded takes no turn and makes no call. -/
theorem Account.eq_nil
    (account : Account policy schedule index (some (chance, request)) handling turns calls)
    (kept : ¬Forwarded policy chance request) :
    turns = [] ∧ calls = [] := by
  have uncleared : ∀ query question,
      (Judgement.ofRequest policy chance.requestId request).verdict ≠
        .cleared query question := by
    intro query question judged
    exact kept (forwarded_iff.mpr ⟨query, question, judged⟩)
  cases account with
  | received => exact ⟨rfl, rfl⟩
  | cleared judged => exact absurd judged (uncleared _ _)
  | ready judged => exact absurd judged (uncleared _ _)
  | asking judged => exact absurd judged (uncleared _ _)
  | finished _ _ _ _ taken =>
      rw [call_dispatch]
      split
      · exact ⟨rfl, rfl⟩
      · exact ⟨rfl, rfl⟩
      next judged => exact absurd judged (uncleared _ _)

/-- A request that is to be forwarded has in the end taken one turn and made one call, to
the upstream whose turn it was. -/
theorem Account.exists_call
    {result : Except ResolveError Message}
    (account : Account policy schedule index (some (chance, request)) (some (.finished result))
      turns calls)
    (forwarded : Forwarded policy chance request) :
    ∃ call, turns = [call.upstream] ∧ calls = [call] := by
  obtain ⟨query, question, judged⟩ := forwarded_iff.mp forwarded
  cases account with
  | finished _ _ _ _ taken =>
      rw [call_dispatch, judged]
      exact ⟨_, rfl, rfl⟩

/-- A request that has come to its end has the result of dispatching it alone, when the
upstream does what it did at one of the steps of the request. -/
theorem Account.exists_dispatch
    {result : Except ResolveError Message}
    (account : Account policy schedule index (some (chance, request)) (some (.finished result))
      turns calls) :
    ∃ move ∈ schedule, move.index = index ∧
      ∃ taken, (dispatch policy move.exchange chance taken request).result = result := by
  cases account with
  | finished scheduled own _ _ taken => exact ⟨_, scheduled, own, taken, rfl⟩

end

/-- After four steps of its own a query has come to its end. -/
theorem Traffic.exists_finished
    {policy : Policy}
    {start : Rotation Net.Endpoint}
    {requests : List (Chance × Request)}
    {schedule : List Move}
    {index : Nat}
    {chance : Chance}
    {request : Request}
    (present : requests[index]? = some (chance, request))
    (enough : 4 ≤ schedule.countP fun move => move.index = index) :
    ∃ result, ((ofRequests start requests).run policy schedule).handlings[index]? =
      some (.finished result) := by
  let traffic := (ofRequests start requests).run policy schedule
  have inOrder : traffic.InOrder policy start requests schedule :=
    (inOrder_ofRequests policy start requests schedule).run (List.Subset.refl schedule)
  have account := inOrder.accounts index
  rw [present] at account
  have received : (ofRequests start requests).stepsLeft index = 4 := by
    simp [ofRequests, stepsLeft, present, Handling.stepsLeft]
  have left : traffic.stepsLeft index = 0 := by
    have run : traffic.stepsLeft index ≤ _ := stepsLeft_run policy _ schedule index
    rw [received, Nat.sub_eq_zero_of_le enough] at run
    exact Nat.le_zero.mp run
  change ∃ result, traffic.handlings[index]? = some (.finished result)
  cases handled : traffic.handlings[index]? with
  | none =>
      rw [handled] at account
      cases account
  | some handling =>
      rw [stepsLeft, handled] at left
      cases handling with
      | finished result => exact ⟨result, rfl⟩
      | received => cases left
      | cleared => cases left
      | ready => cases left
      | asking => cases left

/-- What a run comes to for one request of it. Four steps bring the request to its end, and
then it has the result of dispatching it alone. At all times it has taken one turn and made
one call at most, and none of either unless it is to be forwarded. In the end a request that
is to be forwarded has taken one turn and made one call, to the upstream of that turn. -/
structure Traffic.Outcome
    (policy : Policy)
    (schedule : List Move)
    (index : Nat)
    (chance : Chance)
    (request : Request)
    (traffic : Traffic) : Prop where
  ends : (4 ≤ schedule.countP fun move => move.index = index) →
    ∃ result, traffic.handlings[index]? = some (.finished result)
  result : ∀ result, traffic.handlings[index]? = some (.finished result) →
    ∃ move ∈ schedule, move.index = index ∧
      ∃ taken, (dispatch policy move.exchange chance taken request).result = result
  atMostOnce : (entriesOf index traffic.turns).length ≤ 1 ∧
    (entriesOf index traffic.calls).length ≤ 1
  never : ¬Forwarded policy chance request →
    entriesOf index traffic.turns = [] ∧ entriesOf index traffic.calls = []
  once : Forwarded policy chance request →
    ∀ result, traffic.handlings[index]? = some (.finished result) →
      ∃ call, entriesOf index traffic.turns = [call.upstream] ∧
        entriesOf index traffic.calls = [call]

/-- In every run of queries that share a rotation, each turn goes to the item whose place it
is, whoever takes it and however exchanges end, and each query takes turns and makes calls
as it should. What has been taken and called stays so in any longer run. -/
theorem turns_of_run
    {items : Array Net.Endpoint}
    {start : Rotation Net.Endpoint}
    (made : Rotation.ofArray? items = some start)
    (policy : Policy)
    (requests : List (Chance × Request))
    (schedule : List Move) :
    let traffic := (Traffic.ofRequests start requests).run policy schedule
    (∀ position taker upstream, traffic.turns[position]? = some (taker, upstream) →
        items[position % items.size]? = some upstream) ∧
      traffic.rotation.items = items ∧
      traffic.rotation.cursor.val = traffic.turns.length % items.size ∧
      (∀ further, traffic.turns <+: (traffic.run policy further).turns ∧
        traffic.calls <+: (traffic.run policy further).calls) ∧
      (∀ index, requests[index]? = none →
        entriesOf index traffic.turns = [] ∧ entriesOf index traffic.calls = []) ∧
      ∀ index chance request, requests[index]? = some (chance, request) →
        traffic.Outcome policy schedule index chance request := by
  intro traffic
  obtain ⟨rfl, first⟩ := Rotation.exists_of_ofArray?_eq_some made
  have inOrder : traffic.InOrder policy start requests schedule :=
    (Traffic.inOrder_ofRequests policy start requests schedule).run (List.Subset.refl schedule)
  refine ⟨?_, ?_, ?_, Traffic.prefix_run policy traffic, ?_, ?_⟩
  · intro position taker upstream taken
    have served : (start.serve (traffic.turns.map Prod.fst)).1[position]? =
        some (taker, upstream) := by
      rw [inOrder.served]
      exact taken
    have item := Rotation.getElem?_items_of_serve served
    rwa [first, Nat.zero_add] at item
  · have items_eq := Rotation.items_serve (traffic.turns.map Prod.fst) start
    rwa [inOrder.served] at items_eq
  · have cursor_eq := Rotation.cursor_serve (traffic.turns.map Prod.fst) start
    rwa [inOrder.served, first, Nat.zero_add, List.length_map] at cursor_eq
  · intro index absent
    have account := inOrder.accounts index
    rw [absent] at account
    exact account.eq_nil_of_absent
  · intro index chance request present
    have account := inOrder.accounts index
    rw [present] at account
    refine ⟨Traffic.exists_finished present, ?_, account.length_le_one, account.eq_nil, ?_⟩
    · intro result finished
      rw [finished] at account
      exact account.exists_dispatch
    · intro forwarded result finished
      rw [finished] at account
      exact account.exists_call forwarded

/-- Two queries and a request that cannot be read, mixed, while no exchange succeeds. -/
theorem turns_of_run_mixed :
    let first : Net.Endpoint := { address := .ipv4 .unspecified, port := 53 }
    let second : Net.Endpoint := { address := .ipv4 .unspecified, port := 5353 }
    let start : Rotation Net.Endpoint := { items := #[first, second], cursor := ⟨0, by decide⟩ }
    let chance : Chance := { requestId := .ok "0", transactionId := 7, elapsedMillis := 1 }
    let readable : Request := ⟨.datagram, first, letterOctets⟩
    let garbled : Request := ⟨.datagram, first, #[0]⟩
    let requests := [(chance, readable), (chance, garbled), (chance, readable)]
    let schedule := [0, 2, 2, 1, 0, 2, 2, 0, 1, 0].map fun index =>
      (⟨index, fun _ _ => { result := .error { cause := "timed out" } }⟩ : Move)
    let traffic := (Traffic.ofRequests start requests).run (fun _ => false) schedule
    Rotation.ofArray? #[first, second] = some start ∧
      (∃ call, entriesOf 0 traffic.turns = [call.upstream] ∧
        entriesOf 0 traffic.calls = [call]) ∧
      (entriesOf 1 traffic.turns = [] ∧ entriesOf 1 traffic.calls = []) ∧
      ∃ call, entriesOf 2 traffic.turns = [call.upstream] ∧
        entriesOf 2 traffic.calls = [call] := by
  intro first second start chance readable garbled requests schedule traffic
  have made : Rotation.ofArray? #[first, second] = some start := rfl
  have accounts := (turns_of_run made (fun _ => false) requests schedule).2.2.2.2.2
  have forwarded : Forwarded (fun _ => false) chance readable :=
    ⟨⟨"0", rfl⟩, letterQuery, letterQuery.questions[0], ⟨decode_letterOctets, rfl⟩, rfl,
      Or.inl rfl, rfl⟩
  have kept : ¬Forwarded (fun _ => false) chance garbled := by
    rintro ⟨_, query, question, asks, _⟩
    have unread : (Message.decode #[0]).isOk = false := by decide
    have read : Message.decode #[0] = .ok query := asks.read
    rw [read] at unread
    cases unread
  have zero := accounts 0 chance readable rfl
  have two := accounts 2 chance readable rfl
  refine ⟨made, ?_, (accounts 1 chance garbled rfl).never kept, ?_⟩
  · obtain ⟨result, finished⟩ := zero.ends (by decide)
    exact zero.once forwarded result finished
  · obtain ⟨result, finished⟩ := two.ends (by decide)
    exact two.once forwarded result finished

end Sinkhole
