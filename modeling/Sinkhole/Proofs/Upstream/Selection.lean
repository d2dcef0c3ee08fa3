import Mathlib.Algebra.GroupWithZero.Nat
import Mathlib.Tactic.MkIffOfInductiveProp
import Sinkhole.Proofs.Dns.Header
import Sinkhole.Upstream.Exchange

/-!
# The datagram that decides

Many datagrams may come back for one query, and one of them decides the exchange: the first
that has a whole header with the bit of a response in it. What comes before it and behind it is
as good as not sent. Another bit says whether the response is cut short. Then it is not read,
and the exchange is what the same query comes to over a connection.

Both bits are looked at before a datagram is read, and reading it gives the same flags.
-/

namespace Sinkhole

/-! ## Bits of the header -/

namespace Dns

/-- The third octet has a bit, by its number from the lowest. -/
def HasBit (octets : Array UInt8) (bit : Nat) : Prop :=
  ∃ octet, octets[2]? = some octet ∧ octet.toNat.testBit bit = true

theorem hasBit_iff {octets : Array UInt8} {bit : Nat} :
    HasBit octets bit ↔
      octets[2]?.any (fun octet => octet.toNat / 2 ^ bit % 2 == 1) = true := by
  rw [Option.any_eq_true, HasBit]
  simp only [Nat.testBit_eq_decide_div_mod_eq, decide_eq_true_eq, beq_iff_eq]

theorem peekResponse_iff {octets : Array UInt8} : peekResponse octets = true ↔ HasBit octets 7 := by
  rw [hasBit_iff]
  rfl

theorem peekTruncated_iff {octets : Array UInt8} :
    peekTruncated octets = true ↔ HasBit octets 1 := by
  rw [hasBit_iff]
  rfl

end Dns

namespace Upstream

open Dns

/-- A response that is given was decoded. -/
theorem exists_of_decodeResponse_eq_ok
    {octets : Array UInt8}
    {response : Message}
    (read : decodeResponse octets = .ok response) :
    Message.decode octets = .ok response := by
  unfold decodeResponse at read
  split at read
  · next decoded =>
      cases read
      exact decoded
  · cases read

namespace Datagram

/-! ## The first that counts -/

/-- A datagram counts: it has a whole header, and is marked as a response. -/
@[mk_iff]
structure Counts (datagram : Array UInt8) : Prop where
  long : headerLength ≤ datagram.size
  response : HasBit datagram 7

theorem isResponse_iff {datagram : Array UInt8} :
    isResponse datagram = true ↔ Counts datagram := by
  rw [isResponse, Bool.and_eq_true, decide_eq_true_iff, peekResponse_iff, counts_iff]

/-- A datagram counts when the part of it that is taken does. -/
theorem isResponse_extract (datagram : Array UInt8) :
    isResponse (datagram.extract 0 maxReceived) = isResponse datagram := by
  have third : (datagram.extract 0 maxReceived)[2]? = datagram[2]? := by
    rw [Array.getElem?_extract, Nat.zero_add]
    split
    · rfl
    · next outside =>
        rw [maxReceived] at outside
        exact (Array.getElem?_eq_none (by omega)).symm
  have long_iff : headerLength ≤ (datagram.extract 0 maxReceived).size ↔
      headerLength ≤ datagram.size := by
    rw [Array.size_extract, headerLength, maxReceived]
    omega
  rw [isResponse, isResponse, peekResponse, peekResponse, third, decide_eq_decide.mpr long_iff]

variable
  {before after : List (Array UInt8)}
  {response : Array UInt8}

/-- The first datagram that counts is selected. -/
theorem select?_of_counts
    (ignored : ∀ datagram ∈ before, ¬Counts datagram)
    (counts : Counts response)
    (short : response.size ≤ maxReceived) :
    select? (before ++ response :: after) = some response := by
  have whole : response.extract 0 maxReceived = response := Array.extract_eq_self_of_le short
  have skipped : (before.map fun datagram => datagram.extract 0 maxReceived).find? isResponse =
      none := by
    rw [List.find?_eq_none, List.forall_mem_map]
    intro datagram member
    rw [isResponse_extract, isResponse_iff]
    exact ignored datagram member
  rw [select?, List.map_append, List.find?_append, skipped, Option.none_or, List.map_cons, whole,
    List.find?_cons_of_pos (isResponse_iff.mpr counts)]

/-- Nothing is selected when no datagram counts. -/
theorem select?_of_not_counts
    {arrivals : List (Array UInt8)}
    (ignored : ∀ datagram ∈ arrivals, ¬Counts datagram) :
    select? arrivals = none := by
  rw [select?, List.find?_eq_none, List.forall_mem_map]
  intro datagram member
  rw [isResponse_extract, isResponse_iff]
  exact ignored datagram member

/-! ## What the exchange comes to -/

variable
  {arrivals others : List (Array UInt8)}
  (stream : StreamLink)
  {query : Message}
  (upstream : Net.Endpoint)

/-- Only the datagram that is selected makes a difference. -/
theorem ask_congr (same : select? arrivals = select? others) :
    ask { datagram := { arrivals }, stream } query upstream =
      ask { datagram := { arrivals := others }, stream } query upstream := by
  simp only [ask, roundTrip, same]

/-- The selected datagram is read, or the query is repeated over a connection. -/
theorem result_of_selected
    {octets : Array UInt8}
    (encoded : query.encode = .ok octets)
    (selected : select? arrivals = some response) :
    (ask { datagram := { arrivals }, stream } query upstream).result =
      if peekTruncated response then (Stream.ask stream none query upstream).result
      else decodeResponse response := by
  simp only [ask, encoded, roundTrip, selected]
  split <;> rfl

/-- Without a datagram to select the time runs out. -/
theorem result_of_silence
    {octets : Array UInt8}
    (encoded : query.encode = .ok octets)
    (silent : select? arrivals = none) :
    (ask { datagram := { arrivals }, stream } query upstream).result =
      .error {
        contexts := ["udp exchange with " ++ upstream.text, "recv timeout"]
        cause := timeOver } := by
  simp only [ask, encoded, roundTrip, silent]
  rfl

/-- The bits that are looked at are the flags that are read. -/
theorem flags_of_decode
    {message : Message}
    (decoded : Message.decode response = .ok message) :
    (message.flags.response = true ↔ HasBit response 7) ∧
      (message.flags.truncated = true ↔ HasBit response 1) := by
  have header := hasHeader_of_decode decoded
  rw [header.response_eq, header.truncated_eq, peekResponse_iff, peekTruncated_iff]
  exact ⟨Iff.rfl, Iff.rfl⟩

/-- An exchange of a query is decided by one response: by what it says if it is whole, and by the
same query over a connection if it is cut short. -/
structure DecidedBy
    (stream : StreamLink)
    (query : Message)
    (upstream : Net.Endpoint)
    (response : Array UInt8)
    (result : Except Failure Message) : Prop where
  whole : ¬HasBit response 1 → result = decodeResponse response
  cut : HasBit response 1 → result = (Stream.ask stream none query upstream).result
  /-- The flags of a message that comes from the response are those that were looked at. -/
  flags : ¬HasBit response 1 → ∀ message, result = .ok message →
    message.flags.response = true ∧ message.flags.truncated = false

theorem decidedBy_of_counts
    {octets : Array UInt8}
    (encoded : query.encode = .ok octets)
    (ignored : ∀ datagram ∈ before, ¬Counts datagram)
    (counts : Counts response)
    (short : response.size ≤ maxReceived) :
    DecidedBy stream query upstream response
      (ask { datagram := { arrivals := before ++ response :: after }, stream } query
        upstream).result := by
  have selected : select? (before ++ response :: after) = some response :=
    select?_of_counts ignored counts short
  rw [result_of_selected stream upstream encoded selected]
  refine ⟨?_, ?_, ?_⟩
  · intro whole
    rw [if_neg (mt peekTruncated_iff.mp whole)]
  · intro cut
    rw [if_pos (peekTruncated_iff.mpr cut)]
  · intro whole message read
    rw [if_neg (mt peekTruncated_iff.mp whole)] at read
    obtain ⟨response_iff, truncated_iff⟩ := flags_of_decode (exists_of_decodeResponse_eq_ok read)
    exact ⟨response_iff.mpr counts.response, Bool.eq_false_iff.mpr (mt truncated_iff.mp whole)⟩

/-- The first datagram that counts decides the exchange, whatever else arrives before it and behind
it. If none counts the time runs out, and if the query cannot be written nothing is waited for. -/
theorem first_response_decides
    (stream : StreamLink)
    (query : Message)
    (upstream : Net.Endpoint) :
    let trip (arrivals : List (Array UInt8)) : Trip :=
      ask { datagram := { arrivals }, stream } query upstream
    (∀ before response after, (∀ datagram ∈ before, ¬Counts datagram) → Counts response →
      response.size ≤ maxReceived →
        (∀ others more, (∀ datagram ∈ others, ¬Counts datagram) →
          trip (others ++ response :: more) = trip (before ++ response :: after)) ∧
        ∀ octets, query.encode = .ok octets →
          DecidedBy stream query upstream response (trip (before ++ response :: after)).result) ∧
    (∀ arrivals, (∀ datagram ∈ arrivals, ¬Counts datagram) →
      ∀ octets, query.encode = .ok octets →
        (trip arrivals).result =
          .error {
            contexts := ["udp exchange with " ++ upstream.text, "recv timeout"]
            cause := timeOver }) ∧
    ∀ error, query.encode = .error error →
      ∀ arrivals, (trip arrivals).result = .error (writeFailure error) := by
  intro trip
  refine ⟨?_, ?_, ?_⟩
  · intro before response after ignored counts short
    constructor
    · intro others more othersIgnored
      apply ask_congr
      rw [select?_of_counts othersIgnored counts short, select?_of_counts ignored counts short]
    · intro octets encoded
      exact decidedBy_of_counts stream upstream encoded ignored counts short
  · intro arrivals ignored octets encoded
    exact result_of_silence stream upstream encoded (select?_of_not_counts ignored)
  · intro error unwritten arrivals
    simp only [trip, ask, unwritten, Trip.unsent]

/-- A datagram without a whole header and the query itself come before a response, and another
response that is cut short behind it. The other way round the query is repeated. -/
theorem first_response_decides_noise :
    let query : Message := { id := 7 }
    let upstream : Net.Endpoint := { address := .ipv4 .unspecified, port := 53 }
    let runt : Array UInt8 := #[0, 7, 0x80]
    let echo : Array UInt8 := #[0, 7, 0, 0, 0, 0, 0, 0, 0, 0, 0, 0]
    let whole : Array UInt8 := #[0, 7, 0x80, 0, 0, 0, 0, 0, 0, 0, 0, 0]
    let cut : Array UInt8 := #[0, 7, 0x82, 0, 0, 0, 0, 0, 0, 0, 0, 0]
    let result (arrivals : List (Array UInt8)) :=
      (ask { datagram := { arrivals }, stream := {} } query upstream).result
    result [runt, echo, whole, cut] = .ok { id := 7, flags := { response := true } } ∧
      result [echo, whole] = result [runt, echo, whole, cut] ∧
      result [echo, cut, whole] = (Stream.ask {} none query upstream).result := by
  intro query upstream runt echo whole cut result
  have encoded : query.encode = .ok echo := by decide +kernel
  have decided := (first_response_decides {} query upstream).1
  have ignored : ∀ datagram ∈ [runt, echo], ¬Counts datagram := by
    intro datagram member
    rw [← isResponse_iff]
    revert datagram
    decide
  have echoIgnored : ∀ datagram ∈ [echo], ¬Counts datagram :=
    fun datagram member => ignored datagram (List.mem_cons_of_mem _ member)
  obtain ⟨same, own⟩ := decided [runt, echo] whole [cut] ignored
    (isResponse_iff.mp (by decide)) (by decide)
  obtain ⟨_, repeated⟩ := decided [echo] cut [whole] echoIgnored
    (isResponse_iff.mp (by decide)) (by decide)
  refine ⟨?_, congrArg Trip.result (same [echo] [] echoIgnored), ?_⟩
  · refine ((own echo encoded).whole ?_).trans (by decide +kernel)
    rw [← peekTruncated_iff]
    decide
  · exact (repeated echo encoded).cut (peekTruncated_iff.mp (by decide))

end Datagram
end Upstream
end Sinkhole
