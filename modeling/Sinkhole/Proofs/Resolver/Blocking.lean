import Sinkhole.Proofs.Blocklist.DomainNames
import Sinkhole.Proofs.Blocklist.Loading
import Sinkhole.Proofs.Resolver.Decision

/-!
# From a list to an answer

A name goes two ways: as a line of a list it becomes an exact name, and as labels in a
message it becomes the key of a look-up. Both ways end at the same canonical form, so a query
for a name that is listed gets the blocked answer, however the two spell the name.
-/

namespace Sinkhole

open Dns

/-- A query for the address of a name that is listed on an accepted ASCII line without
wildcards is answered with the address of all zeros, under the name as the query spells it.
Neither the choice of an upstream nor an exchange has a part in it. -/
theorem listed_name_blocked
    {convert : String → Option String}
    {source : ListSource}
    {octets : List UInt8}
    {entry : BlockEntry}
    (listed : octets ∈ source.lines)
    (ascii : Text.allAscii (lineText octets).toList = true)
    (concrete : Pattern.mentions (lineText octets) '*' = false)
    (accepted : ListLine.ofOctets convert octets = .entry entry)
    (before : Blocklist)
    {chance : Chance}
    {requestId : String}
    (identified : chance.requestId = .ok requestId)
    {request : Request}
    {query : Message}
    {question : Question}
    (asks : Asks request query question)
    (internet : question.qclass = .internet)
    (address : question.qtype = .a ∨ question.qtype = .aaaa)
    (agrees : Pattern.Agrees (lineText octets) question.qname.text) :
    let policy := (Blocklist.load convert .lenient source before).blocklist.policy
    ∃ resolution : Resolution,
      resolution.result = .ok (query.replyWith .noError [zeroRecord question]) ∧
        resolution.call = none ∧
        ∀ (σ : Type) (choose : Chooser σ) (exchange : Exchange) (state : σ),
          resolve policy choose exchange chance state request = (resolution, state) := by
  intro policy
  obtain ⟨legal, notRoot, _⟩ :=
    BlockEntry.accepted_iff.mp ⟨entry, ListLine.ofText_eq_entry ascii accepted⟩
  have same : Pattern.canonical (lineText octets) =
      Pattern.canonical question.qname.canonical := by
    rw [← Pattern.canonical_eq_of_agrees legal notRoot agrees, Pattern.canonical_canonical]
  have blocked : policy question.qname.canonical = true :=
    Blocklist.contains_load_lenient listed ascii concrete accepted same before
  have judged : (Judgement.ofRequest policy chance.requestId request).verdict =
      .blocked (query.replyWith .noError [zeroRecord question]) := by
    rw [identified, asks.verdict_of_address internet address, if_pos blocked]
  let judgement := Judgement.ofRequest policy chance.requestId request
  refine ⟨{
    result := .ok (query.replyWith .noError [zeroRecord question])
    summary := judgement.summary
    events := judgement.events }, rfl, rfl, ?_⟩
  intro σ choose exchange state
  exact resolve_of_blocked judged choose state

/-- A list with a wildcard in a wrong place, the name in capitals with blanks around it, and
a line at which the reading fails. -/
theorem listed_name_blocked_letter :
    let line : List UInt8 := [0x20, 0x41, 0x2E, 0x0D]
    let source : ListSource :=
      { octets := [0x2A, 0x62, 0x0A] ++ line ++ [0x0A, 0x63], failure := some "device gone" }
    let policy := (Blocklist.load (fun _ => none) .lenient source {}).blocklist.policy
    let upstream : Net.Endpoint := { address := .ipv4 .unspecified, port := 53 }
    let request : Request := ⟨.datagram, upstream, letterOctets⟩
    let chance : Chance := { requestId := .ok "0", transactionId := 7, elapsedMillis := 1 }
    line ∈ source.lines ∧ ListLine.ofOctets (fun _ => none) line = .entry (.name "a.") ∧
      ∃ resolution : Resolution,
        resolution.result =
            .ok (letterQuery.replyWith .noError [zeroRecord letterQuery.questions[0]]) ∧
          resolution.call = none ∧
          ∀ (σ : Type) (choose : Chooser σ) (exchange : Exchange) (state : σ),
            resolve policy choose exchange chance state request = (resolution, state) := by
  intro line source policy upstream request chance
  have listed : line ∈ source.lines := by decide
  have accepted : ListLine.ofOctets (fun _ => none) line = .entry (.name "a.") := by
    decide +kernel
  have asks : Asks request letterQuery letterQuery.questions[0] := ⟨decode_letterOctets, rfl⟩
  exact ⟨listed, accepted, listed_name_blocked listed (by decide +kernel) (by decide +kernel)
    accepted {} rfl asks rfl (Or.inl rfl) (by decide +kernel)⟩

end Sinkhole
