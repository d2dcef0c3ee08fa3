import Sinkhole.Proofs.Dns.Parts
import Sinkhole.Proofs.Dns.Reencoding

/-!
# Where a message ends

What is read depends on the octets before the place where the reader stops and on no others.
For a name that is not plain, since its pointers lead away: but they lead back, and from there
it never goes on past the pointer that it came from. So octets that start with a message give
that message whatever stands behind it, and give none at all when its end is cut off.
-/

namespace Sinkhole
namespace Dns

/-- The same octets stand before a place. -/
def AgreeBelow (stop : Nat) (octets other : Array UInt8) : Prop :=
  ∀ place < stop, other[place]? = octets[place]?

namespace AgreeBelow

variable {octets other : Array UInt8} {start stop : Nat}

theorem mono (agree : AgreeBelow stop octets other) (start_le : start ≤ stop) :
    AgreeBelow start octets other :=
  fun place before => agree place (Nat.lt_of_lt_of_le before start_le)

/-- There are as many octets as agree. -/
theorem le_size (agree : AgreeBelow stop octets other) (stop_le : stop ≤ octets.size) :
    stop ≤ other.size := by
  cases stop with
  | zero => exact Nat.zero_le _
  | succ last =>
      have last_eq := agree last (Nat.lt_succ_self last)
      rw [Array.getElem?_eq_getElem stop_le] at last_eq
      exact (Array.getElem?_eq_some_iff.mp last_eq).1

theorem extract_eq (agree : AgreeBelow stop octets other) (stop_le : stop ≤ octets.size) :
    other.extract start stop = octets.extract start stop := by
  have enough := agree.le_size stop_le
  apply Array.ext_getElem?
  intro index
  rw [Array.getElem?_extract, Array.getElem?_extract, Nat.min_eq_left enough,
    Nat.min_eq_left stop_le]
  split
  · next inside => exact agree _ (by omega)
  · rfl

theorem standsAt
    {piece : List UInt8}
    (agree : AgreeBelow (start + piece.length) octets other)
    (stands : StandsAt octets start piece) :
    StandsAt other start piece := by
  rw [StandsAt, List.prefix_iff_getElem?] at stands ⊢
  intro index inside
  rw [← stands index inside, List.getElem?_drop, List.getElem?_drop, Array.getElem?_toList,
    Array.getElem?_toList]
  exact agree _ (Nat.add_lt_add_left inside start)

end AgreeBelow

/-! ## Names -/

namespace Follows

variable {octets other : Array UInt8} {place pointers length next : Nat} {labels : List Label}

theorem lt_next (follows : Follows octets place pointers length labels next) : place < next := by
  induction follows with
  | ending _ => exact Nat.lt_succ_self _
  | label _ _ _ _ hypothesis => omega
  | pointer _ _ _ _ _ _ => omega

theorem next_le_size (follows : Follows octets place pointers length labels next) :
    next ≤ octets.size := by
  induction follows with
  | ending found => exact (Array.getElem?_eq_some_iff.mp found).1
  | label _ _ _ _ hypothesis => exact hypothesis
  | pointer _ second _ _ _ _ => exact (Array.getElem?_eq_some_iff.mp second).1

/-- A name that starts before a pointer, or at it, ends behind the pointer at the latest: a label
cannot go over it, because its first octet may not stand in a label. -/
theorem next_le_of_pointer
    (follows : Follows octets place pointers length labels next)
    {mark : Nat}
    {high : UInt8}
    (found : octets[mark]? = some high)
    (pointing : 0xC0 ≤ high)
    (place_le : place ≤ mark) :
    next ≤ mark + 2 := by
  induction follows with
  | ending _ => omega
  | pointer _ _ _ _ _ _ => omega
  | @label place _ _ _ label rest lead stands _ _ hypothesis =>
      apply hypothesis
      by_contra beyond
      rw [Nat.not_le] at beyond
      rcases Nat.eq_or_lt_of_le place_le with rfl | behind
      · rw [lead, Option.some.injEq] at found
        have short := label.lead_lt
        rw [found] at short
        exact absurd (UInt8.le_trans (by decide) pointing) (UInt8.not_le.mpr short)
      · obtain ⟨index, rfl⟩ := Nat.exists_eq_add_of_lt behind
        have inside : index < label.octets.length := by omega
        have own := List.prefix_iff_getElem?.mp stands index inside
        rw [List.getElem?_drop, Array.getElem?_toList, Nat.add_right_comm, found,
          Option.some.injEq] at own
        have legal := toNat_lt_of_isLabelOctet (label.legal _ (List.getElem_mem inside))
        rw [← own] at legal
        have high_le := UInt8.le_iff_toNat_le.mp pointing
        exact absurd (Nat.lt_of_le_of_lt high_le legal) (by decide)

/-- A name is followed in the same way where the octets before its end are the same. -/
theorem congr
    (follows : Follows octets place pointers length labels next)
    (agree : AgreeBelow next octets other) :
    Follows other place pointers length labels next := by
  induction follows with
  | @ending place _ _ found =>
      rw [← agree place (Nat.lt_succ_self place)] at found
      exact .ending found
  | @label place _ _ _ label _ lead stands fits rest hypothesis =>
      have behind := rest.lt_next
      rw [← agree place (by omega)] at lead
      exact .label lead ((agree.mono behind.le).standsAt stands) fits (hypothesis agree)
  | @pointer place _ _ _ _ _ _ first second pointing backward rest hypothesis =>
      have next_le := rest.next_le_of_pointer first pointing backward.le
      rw [← agree place (by omega)] at first
      rw [← agree (place + 1) (by omega)] at second
      exact .pointer first second pointing backward (hypothesis (agree.mono next_le))

end Follows

/-! ## Pieces -/

/-- A piece is read from one place to another, and the octets before the second are all that it
takes. -/
structure ReadsTo
    {α : Type}
    (read : Read α)
    (octets : Array UInt8)
    (start : Nat)
    (value : α)
    (stop : Nat) : Prop where
  start_le : start ≤ stop
  stop_le : stop ≤ octets.size
  read_eq : ∀ other, AgreeBelow stop octets other →
    read { buffer := other, position := start } =
      .ok value { buffer := other, position := stop }

/-- Whatever is read does not depend on what stands behind it. -/
structure Local {α : Type} (read : Read α) : Prop where
  exists_stop
    {octets : Array UInt8}
    {start : Nat}
    {value : α}
    {next : Reader}
    (inside : start ≤ octets.size)
    (succeeded : read { buffer := octets, position := start } = .ok value next) :
    ∃ stop, next = { buffer := octets, position := stop } ∧
      ReadsTo read octets start value stop

namespace Local

theorem of_pure {α : Type} (value : α) : Local (pure value) where
  exists_stop inside succeeded := by
    cases succeeded
    exact ⟨_, rfl, Nat.le_refl _, inside, fun _ _ => rfl⟩

theorem of_throw {α : Type} (error : ReadError) : Local (throw error : Read α) where
  exists_stop _ succeeded := by cases succeeded

/-- One piece after the other. -/
theorem bind
    {α β : Type}
    {first : Read α}
    {second : α → Read β}
    (firstLocal : Local first)
    (secondLocal : ∀ value, Local (second value)) :
    Local (first >>= second) where
  exists_stop inside succeeded := by
    obtain ⟨value, between, firstRead, secondRead⟩ := exists_of_bind_eq_ok succeeded
    obtain ⟨middle, rfl, toMiddle⟩ := firstLocal.exists_stop inside firstRead
    obtain ⟨stop, rfl, toStop⟩ := (secondLocal value).exists_stop toMiddle.stop_le secondRead
    refine ⟨stop, rfl, Nat.le_trans toMiddle.start_le toStop.start_le, toStop.stop_le, ?_⟩
    intro other agree
    have firstAgain := toMiddle.read_eq other (agree.mono toStop.start_le)
    have secondAgain := toStop.read_eq other agree
    simp only [Bind.bind, EStateM.bind, firstAgain, secondAgain]

theorem take (piece : Piece) (count : Nat) : Local (Reader.take piece count) where
  exists_stop {octets start value next} inside succeeded := by
    unfold Reader.take at succeeded
    split at succeeded
    · next enough =>
        cases succeeded
        simp only [Reader.remaining] at enough
        have stop_le : start + count ≤ octets.size := by omega
        refine ⟨start + count, rfl, Nat.le_add_right _ _, stop_le, ?_⟩
        intro other agree
        have long := agree.le_size stop_le
        have otherEnough :
            count ≤ ({ buffer := other, position := start } : Reader).remaining := by
          simp only [Reader.remaining]
          omega
        rw [Reader.take, dif_pos otherEnough]
        simp only [agree.extract_eq stop_le]
    · cases succeeded

theorem currentPosition : Local Reader.currentPosition where
  exists_stop inside succeeded := by
    cases succeeded
    exact ⟨_, rfl, Nat.le_refl _, inside, fun _ _ => rfl⟩

theorem name : Local Reader.name where
  exists_stop {octets start value next} inside succeeded := by
    unfold Reader.name at succeeded
    split at succeeded
    · cases succeeded
    · next labels stop followed =>
        dsimp only at succeeded followed
        have follows := follows_of_follow followed
        split at succeeded
        · next whole =>
            cases succeeded
            refine ⟨stop, rfl, follows.lt_next.le, follows.next_le_size, ?_⟩
            intro other agree
            simp only [Reader.name, (follows.congr agree).follow_eq_ok, whole]
        · cases succeeded

end Local

/-- What holds of single steps in this way holds of every reading. -/
theorem Composed.local_read {α : Type} {read : Read α} (composed : Composed read) : Local read := by
  induction composed with
  | value value => exact .of_pure value
  | failure error => exact .of_throw error
  | take piece count => exact .take piece count
  | name => exact .name
  | position => exact .currentPosition
  | bind _ _ firstLocal secondLocal => exact firstLocal.bind secondLocal

/-! ## Messages -/

namespace Message

/-- A message ends at a place of some octets: all octets that agree with them before the place
give the message, and none of them may be missing. -/
structure EndsAt (message : Message) (octets : Array UInt8) (stop : Nat) : Prop where
  stop_le : stop ≤ octets.size
  decode_eq : ∀ other, AgreeBelow stop octets other → decode other = .ok message
  decode_take : ∀ length < stop, ∃ error, decode (octets.take length) = .error error

/-- The octets that are not cut off are the same. -/
theorem agreeBelow_take (octets : Array UInt8) (length : Nat) :
    AgreeBelow length (octets.take length) octets := by
  intro place before
  simp [Array.take, Array.getElem?_extract, before]

/-- A message that is read ends where the reader stops. -/
theorem endsAt_of_read
    {octets : Array UInt8}
    {message : Message}
    {next : Reader}
    (messageRead : read { buffer := octets } = .ok message next) :
    message.EndsAt octets next.position := by
  obtain ⟨stop, rfl, readsTo⟩ := composed_read.local_read.exists_stop (Nat.zero_le _) messageRead
  refine ⟨readsTo.stop_le, ?_, ?_⟩
  · intro other agree
    simp only [decode, EStateM.run, readsTo.read_eq other agree]
  · intro length cut
    cases decoded : decode (octets.take length) with
    | error error => exact ⟨error, rfl⟩
    | ok shorter =>
        -- What is read from fewer octets is read again from all of them, and stops there too.
        exfalso
        obtain ⟨early, shorterRead, _⟩ := exists_of_decode decoded
        obtain ⟨earlyStop, rfl, readsEarly⟩ :=
          composed_read.local_read.exists_stop (Nat.zero_le _) shorterRead
        have early_le : earlyStop ≤ length := by
          have stop_le := readsEarly.stop_le
          simp only [Array.take, Array.size_extract] at stop_le
          omega
        have again := readsEarly.read_eq octets ((agreeBelow_take octets length).mono early_le)
        rw [messageRead] at again
        cases again
        exact absurd cut (Nat.not_lt.mpr early_le)

/-- Every message that is decoded ends at some place of the octets, and what is written for a
well-formed message is that message to the last octet. -/
theorem decode_boundary :
    (∀ (octets : Array UInt8) (message : Message),
        decode octets = .ok message → ∃ stop, message.EndsAt octets stop) ∧
      ∀ (message : Message) (octets : Array UInt8),
        message.WellFormed → message.encode = .ok octets → message.EndsAt octets octets.size := by
  constructor
  · intro octets message decoded
    obtain ⟨next, messageRead, _⟩ := exists_of_decode decoded
    exact ⟨next.position, endsAt_of_read messageRead⟩
  · intro message octets wellFormed encoded
    obtain ⟨short, rfl⟩ := encode_eq_ok_iff.mp encoded
    have whole := message.reads wellFormed short [] []
    simp only [Reader.between, List.nil_append, List.append_nil, List.length_nil] at whole
    exact endsAt_of_read whole

/-- A question about the root name, and the same with an octet behind it. -/
theorem decode_boundary_root :
    let message : Message := { id := 4660, questions := [⟨.root, .ns, .internet⟩] }
    let octets : Array UInt8 := #[18, 52, 0, 0, 0, 1, 0, 0, 0, 0, 0, 0, 0, 0, 2, 0, 1]
    message.EndsAt octets 17 ∧ decode (octets.push 9) = .ok message ∧
      ∃ stop, message.EndsAt (octets.push 9) stop := by
  intro message octets
  have wellFormed : message.WellFormed := ⟨by decide, by decide, by decide⟩
  have encoded : message.encode = .ok octets := encode_eq_ok_iff.mpr ⟨by decide, by decide⟩
  have ends := decode_boundary.2 message octets wellFormed encoded
  have decoded : decode (octets.push 9) = .ok message := by
    apply ends.decode_eq
    intro place before
    rw [Array.getElem?_push_lt before, Array.getElem?_eq_getElem before]
  exact ⟨ends, decoded, decode_boundary.1 _ _ decoded⟩

end Message
end Dns
end Sinkhole
