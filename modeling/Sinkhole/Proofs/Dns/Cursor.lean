import Sinkhole.Proofs.Dns.Boundary
import Sinkhole.Proofs.Dns.NameTrail

/-!
# Where the reader stands

Readings may follow each other in any order, and go on after one that has failed, from wherever
the reader then stands. The reader never leaves the octets and never steps back, whatever is read
and whether it succeeds. So whenever octets are taken, they are there. A record that is read ends
where the length of its data says.

A single reading that fails leaves the reader where it was, with one exception. The characters of
a name are counted while its labels are read, and the octets that it takes only when its end is
known. A name of 256 octets passes the first count and not the second, and by then the reader has
moved.
-/

namespace Sinkhole
namespace Dns

/-! ## Moving on -/

namespace Reader

/-- The reader after a reading, whether it succeeded or failed. -/
def after {α : Type} (reader : Reader) (read : Read α) : Reader :=
  match read reader with
  | .ok _ next | .error _ next => next

theorem after_of_ok
    {α : Type}
    {reader next : Reader}
    {read : Read α}
    {value : α}
    (succeeded : read reader = .ok value next) :
    reader.after read = next := by
  rw [after, succeeded]

theorem after_of_error
    {α : Type}
    {reader next : Reader}
    {read : Read α}
    {error : ReadError}
    (failed : read reader = .error error next) :
    reader.after read = next := by
  rw [after, failed]

/-- A second reading starts from where the first has led, if that succeeded. -/
theorem after_bind_of_ok
    {α β : Type}
    {reader next : Reader}
    {first : Read α}
    {value : α}
    (second : α → Read β)
    (succeeded : first reader = .ok value next) :
    reader.after (first >>= second) = next.after (second value) := by
  simp only [after, Bind.bind, EStateM.bind, succeeded]

theorem after_bind_of_error
    {α β : Type}
    {reader next : Reader}
    {first : Read α}
    {error : ReadError}
    (second : α → Read β)
    (failed : first reader = .error error next) :
    reader.after (first >>= second) = next := by
  simp only [after, Bind.bind, EStateM.bind, failed]

/-- A reader has moved on in its octets: it stands where it stood or behind that, and not outside
of them. -/
structure Onward (reader next : Reader) : Prop where
  buffer_eq : next.buffer = reader.buffer
  position_le : reader.position ≤ next.position
  position_le_size : next.position ≤ next.buffer.size

namespace Onward

theorem refl {reader : Reader} (inside : reader.position ≤ reader.buffer.size) :
    reader.Onward reader :=
  ⟨rfl, Nat.le_refl _, inside⟩

theorem trans
    {reader between next : Reader}
    (first : reader.Onward between)
    (second : between.Onward next) :
    reader.Onward next :=
  ⟨second.buffer_eq.trans first.buffer_eq, Nat.le_trans first.position_le second.position_le,
    second.position_le_size⟩

theorem take
    (piece : Piece)
    (count : Nat)
    {reader : Reader}
    (inside : reader.position ≤ reader.buffer.size) :
    reader.Onward (reader.after (Reader.take piece count)) := by
  by_cases enough : count ≤ reader.remaining
  · have moved : reader.after (Reader.take piece count) =
        { reader with position := reader.position + count } := by
      simp only [after, Reader.take, dif_pos enough]
    rw [moved]
    rw [remaining] at enough
    exact ⟨rfl, Nat.le_add_right _ _, show reader.position + count ≤ reader.buffer.size by omega⟩
  · have stayed : reader.after (Reader.take piece count) = reader := by
      simp only [after, Reader.take, dif_neg enough]
    rw [stayed]
    exact refl inside

theorem name {reader : Reader} (inside : reader.position ≤ reader.buffer.size) :
    reader.Onward (reader.after Reader.name) := by
  cases followed : follow reader.buffer reader.position maxPointers 0 with
  | error error =>
      have stayed : reader.after Reader.name = reader := by
        simp only [after, Reader.name, followed]
      rw [stayed]
      exact refl inside
  | ok found =>
      obtain ⟨labels, stop⟩ := found
      -- The reader moves in the same way when the name then turns out to be too long.
      have moved : reader.after Reader.name = { reader with position := stop } := by
        cases whole : Name.ofLabels? labels <;> simp only [after, Reader.name, followed, whole]
      have follows := follows_of_follow followed
      rw [moved]
      exact ⟨rfl, follows.lt_next.le, follows.next_le_size⟩

end Onward
end Reader

/-- A reading that starts from a reader touches only octets that are there. Whenever some are
taken, the reader is not outside of its octets, so that those left can be counted, and the ones
that are taken end inside. Following a name looks at octets only where there are some, and comes
to the same whatever the other octets are. -/
inductive Guarded : {α : Type} → Reader → Read α → Prop
  | value {α : Type} (reader : Reader) (value : α) : Guarded reader (pure value)
  | failure {α : Type} (reader : Reader) (error : ReadError) : Guarded reader (throw error : Read α)
  | name
      {reader : Reader}
      (inside : ∀ index, Looks reader.buffer reader.position maxPointers 0 index →
        index < reader.buffer.size)
      (enough : ∀ buffer : Array UInt8, buffer.size = reader.buffer.size →
        (∀ index, Looks reader.buffer reader.position maxPointers 0 index →
          buffer[index]? = reader.buffer[index]?) →
        Reader.follow buffer reader.position maxPointers 0 =
          Reader.follow reader.buffer reader.position maxPointers 0) :
      Guarded reader Reader.name
  | position (reader : Reader) : Guarded reader Reader.currentPosition
  | take
      {reader : Reader}
      {piece : Piece}
      {count : Nat}
      (inside : reader.position ≤ reader.buffer.size)
      (whole : count ≤ reader.remaining → reader.position + count ≤ reader.buffer.size) :
      Guarded reader (Reader.take piece count)
  | bind
      {α β : Type}
      {reader : Reader}
      {first : Read α}
      {second : α → Read β}
      (firstGuarded : Guarded reader first)
      (secondGuarded :
        ∀ value next, first reader = .ok value next → Guarded next (second value)) :
      Guarded reader (first >>= second)

namespace Composed

variable {α : Type} {read : Read α} {reader : Reader}

/-- Whatever is read, the reader moves on inside its octets. -/
theorem onward
    (composed : Composed read)
    (inside : reader.position ≤ reader.buffer.size) :
    reader.Onward (reader.after read) := by
  induction composed generalizing reader with
  | value value => exact .refl inside
  | failure error => exact .refl inside
  | take piece count => exact .take piece count inside
  | name => exact .name inside
  | position => exact .refl inside
  | @bind _ _ first second _ _ firstOnward secondOnward =>
      have moved := firstOnward inside
      cases done : first reader with
      | ok value next =>
          rw [Reader.after_of_ok done] at moved
          rw [Reader.after_bind_of_ok second done]
          exact moved.trans (secondOnward value moved.position_le_size)
      | error error next =>
          rw [Reader.after_of_error done] at moved
          rwa [Reader.after_bind_of_error second done]

/-- Whatever is read touches only octets that are there. -/
theorem guarded
    (composed : Composed read)
    (inside : reader.position ≤ reader.buffer.size) :
    Guarded reader read := by
  induction composed generalizing reader with
  | value value => exact .value reader value
  | failure error => exact .failure reader error
  | take piece count =>
      refine .take inside fun enough => ?_
      rw [Reader.remaining] at enough
      omega
  | name => exact .name (fun _ looks => looks.lt_size) fun _ => follow_congr
  | position => exact .position reader
  | bind firstComposed _ firstGuarded secondGuarded =>
      refine .bind (firstGuarded inside) fun value next succeeded => secondGuarded value ?_
      have moved := firstComposed.onward inside
      rw [Reader.after_of_ok succeeded] at moved
      exact moved.position_le_size

end Composed

/-! ## Readings in a row -/

/-- One reading, of whatever kind. -/
inductive Reading
  | octet
  | word
  | longWord
  | octets (count : Nat)
  | name
  | flags
  | question
  | record
  | rdata (rtype : RecordType) (declared : Nat)

namespace Reading

/-- What a reading gives when it succeeds. -/
def Value : Reading → Type
  | .octet => UInt8
  | .word => UInt16
  | .longWord => UInt32
  | .octets _ => List UInt8
  | .name => Name
  | .flags => Flags
  | .question => Question
  | .record => Record
  | .rdata .. => RData

/-- Do a reading. -/
def read : (reading : Reading) → Read reading.Value
  | .octet => Reader.octet
  | .word => Reader.word
  | .longWord => Reader.longWord
  | .octets count => Reader.octets count
  | .name => Reader.name
  | .flags => Reader.flags
  | .question => Question.read
  | .record => Record.read
  | .rdata rtype declared => RData.read rtype declared

theorem composed_read (reading : Reading) : Composed reading.read := by
  cases reading with
  | octet => exact .octet
  | word => exact .word
  | longWord => exact .longWord
  | octets count => exact .octets count
  | name => exact .name
  | flags => exact .flags
  | question => exact Question.composed_read
  | record => exact Record.composed_read
  | rdata rtype declared => exact RData.composed_read rtype declared

end Reading

namespace Reader

/-- The reader after some readings in a row, each from where the one before has left it. -/
def afterAll (reader : Reader) (readings : List Reading) : Reader :=
  readings.foldl (fun reader reading => reader.after reading.read) reader

theorem afterAll_append (reader : Reader) (earlier later : List Reading) :
    reader.afterAll (earlier ++ later) = (reader.afterAll earlier).afterAll later :=
  List.foldl_append

theorem onward_afterAll
    {reader : Reader}
    (inside : reader.position ≤ reader.buffer.size)
    (readings : List Reading) :
    reader.Onward (reader.afterAll readings) := by
  induction readings generalizing reader with
  | nil => exact .refl inside
  | cons reading readings hypothesis =>
      have moved := reading.composed_read.onward inside
      exact moved.trans (hypothesis moved.position_le_size)

end Reader

/-! ## Data and its length -/

/-- Data that is read ends where its declared length says. -/
theorem RData.next_of_read
    {reader next : Reader}
    {rtype : RecordType}
    {declared : Nat}
    {rdata : RData}
    (inside : reader.position ≤ reader.buffer.size)
    (succeeded : read rtype declared reader = .ok rdata next) :
    next = { reader with position := reader.position + declared } := by
  obtain ⟨_, _, here, rest⟩ := exists_of_bind_eq_ok succeeded
  cases here
  obtain ⟨laidOut, moved, laidOutRead, rest⟩ := exists_of_bind_eq_ok rest
  obtain ⟨_, _, there, rest⟩ := exists_of_bind_eq_ok rest
  cases there
  have onward := (composed_readLayout rtype declared).onward inside
  rw [Reader.after_of_ok laidOutRead] at onward
  dsimp only at rest
  split at rest
  · obtain ⟨_, _, refused, _⟩ := exists_of_bind_eq_ok rest
    cases refused
  · next whole =>
      cases rest
      have position_le := onward.position_le
      have position_eq : next.position = reader.position + declared := by omega
      rw [← position_eq, ← onward.buffer_eq]

/-- A record that is read has its owner in front, and its data ten octets behind the owner. Two
octets before the data say how long it is, and the reader stops exactly behind it. -/
theorem Record.exists_of_read
    {reader next : Reader}
    {record : Record}
    (inside : reader.position ≤ reader.buffer.size)
    (succeeded : read reader = .ok record next) :
    ∃ stop declared, Reader.name reader = .ok record.name { reader with position := stop } ∧
      StandsAt reader.buffer (stop + 8) (wordOctets declared) ∧
      next = { reader with position := stop + 10 + declared.toNat } := by
  obtain ⟨name, behindName, nameRead, rest⟩ := exists_of_bind_eq_ok succeeded
  obtain ⟨rtype, behindType, typeRead, rest⟩ := exists_of_bind_eq_ok rest
  obtain ⟨rclass, behindClass, classRead, rest⟩ := exists_of_bind_eq_ok rest
  obtain ⟨ttl, behindTtl, ttlRead, rest⟩ := exists_of_bind_eq_ok rest
  obtain ⟨declared, behindLength, lengthRead, rest⟩ := exists_of_bind_eq_ok rest
  obtain ⟨rdata, behindData, dataRead, rest⟩ := exists_of_bind_eq_ok rest
  cases rest
  have nameOnward := Composed.name.onward inside
  rw [Reader.after_of_ok nameRead] at nameOnward
  obtain ⟨buffer, stop⟩ := behindName
  obtain rfl : buffer = reader.buffer := nameOnward.buffer_eq
  have headPasses := ((Passes.word typeRead).append (.word classRead)).append (.longWord ttlRead)
  obtain rfl := headPasses.next_eq
  have lengthPasses := Passes.word lengthRead
  obtain rfl := lengthPasses.next_eq
  refine ⟨stop, declared, nameRead, lengthPasses.stands, ?_⟩
  exact RData.next_of_read (lengthPasses.stands.stop_le_size (List.cons_ne_nil _ _)) dataRead

/-- Readings follow each other in any order, whether they succeed or not. The reader moves on
inside the octets all the way, those that it has read and those that are left are always all of
them, and each reading touches only octets that are there. Data that is read ends where the
length says that was given for it, and a record where the length says that stands in it. -/
theorem readings_stay_inside (octets : Array UInt8) :
    (∀ earlier later : List Reading,
        (Reader.afterAll { buffer := octets } earlier).Onward
          (Reader.afterAll { buffer := octets } (earlier ++ later))) ∧
      ∀ earlier : List Reading,
        let reader := Reader.afterAll { buffer := octets } earlier
        reader.buffer = octets ∧ reader.position ≤ octets.size ∧
          reader.position + reader.remaining = octets.size ∧
          (∀ reading : Reading, Guarded reader reading.read) ∧
          (∀ rtype declared rdata next, RData.read rtype declared reader = .ok rdata next →
            next.position = reader.position + declared) ∧
          ∀ record next, Record.read reader = .ok record next →
            ∃ stop declared,
              Reader.name reader = .ok record.name { buffer := octets, position := stop } ∧
                StandsAt octets (stop + 8) (wordOctets declared) ∧
                next.position = stop + 10 + declared.toNat := by
  have start (readings : List Reading) :
      Reader.Onward { buffer := octets } (Reader.afterAll { buffer := octets } readings) :=
    Reader.onward_afterAll (Nat.zero_le _) readings
  refine ⟨fun earlier later => ?_, fun earlier => ?_⟩
  · rw [Reader.afterAll_append]
    exact Reader.onward_afterAll (start earlier).position_le_size later
  · intro reader
    have inside : reader.position ≤ reader.buffer.size := (start earlier).position_le_size
    have buffer_eq : reader.buffer = octets := (start earlier).buffer_eq
    rw [← buffer_eq]
    refine ⟨rfl, inside, Nat.add_sub_cancel' inside, ?_, ?_, ?_⟩
    · exact fun reading => reading.composed_read.guarded inside
    · intro rtype declared rdata next succeeded
      rw [RData.next_of_read inside succeeded]
    · intro record next succeeded
      obtain ⟨stop, declared, nameRead, stands, rfl⟩ := Record.exists_of_read inside succeeded
      exact ⟨stop, declared, nameRead, stands, rfl⟩

/-- A name, and behind it a record of an address that points back to it. -/
def pointedOctets : Array UInt8 :=
  #[1, 97, 0, 192, 0, 0, 1, 0, 1, 0, 0, 0, 60, 0, 4, 9, 9, 9, 9]

/-- The record is read behind the name, after a reading that has failed. -/
theorem readings_stay_inside_pointed :
    let reader := Reader.afterAll { buffer := pointedOctets } [.octets 99, .name]
    ∃ record next, Record.read reader = .ok record next ∧ next.position = 19 ∧
      ∃ stop declared,
        Reader.name reader = .ok record.name { buffer := pointedOctets, position := stop } ∧
          StandsAt pointedOctets (stop + 8) (wordOctets declared) ∧
          next.position = stop + 10 + declared.toNat := by
  intro reader
  have letter : LabelOctets [97] :=
    ⟨Nat.le_refl 1, show 1 ≤ 63 by decide, List.forall_mem_singleton.mpr (by decide)⟩
  have plain : Trail pointedOctets 0 [.label [97]] 2 :=
    .step (.label letter rfl (by decide)) (.ending rfl)
  have pointed : Trail pointedOctets 3 [.pointer 3, .label [97]] 2 :=
    .step (.pointer rfl rfl (by decide) (by decide)) plain
  obtain ⟨_, _, nameRead⟩ := Legible.exists_name ⟨plain, by decide, by decide⟩
  obtain ⟨owner, _, ownerRead⟩ := Legible.exists_name ⟨pointed, by decide, by decide⟩
  have reader_eq : reader = { buffer := pointedOctets, position := 3 } :=
    Reader.after_of_ok nameRead
  have recordRead : Record.read reader =
      .ok ⟨owner, .a, .internet, 60, .ipv4 ⟨#v[9, 9, 9, 9]⟩⟩
        { buffer := pointedOctets, position := 19 } := by
    rw [reader_eq]
    simp only [Record.read, Bind.bind, EStateM.bind, ownerRead]
    rfl
  obtain ⟨_, _, _, _, _, records⟩ := (readings_stay_inside pointedOctets).2 [.octets 99, .name]
  exact ⟨_, _, recordRead, rfl, records _ _ recordRead⟩

/-! ## Readings that fail -/

/-- A reading is of a single piece: octets, a number or a name. -/
def Reading.isSingle : Reading → Bool
  | .octet | .word | .longWord | .octets _ | .name => true
  | .flags | .question | .record | .rdata .. => false

/-- The reader does not move when there are not enough octets to be taken. -/
theorem Reader.eq_of_taken_eq_error
    {α : Type}
    {piece : Piece}
    {count : Nat}
    {make : Vector UInt8 count → α}
    {reader next : Reader}
    {error : ReadError}
    (failed : (take piece count >>= fun octets => pure (make octets)) reader = .error error next) :
    next = reader := by
  by_cases enough : count ≤ reader.remaining
  · simp [Bind.bind, EStateM.bind, take, enough, pure, EStateM.pure] at failed
  · simp only [Bind.bind, EStateM.bind, take, dif_neg enough] at failed
    cases failed
    rfl

/-- The labels that are found take at most one octet more than a name may. -/
theorem Follows.wireLength_le
    {octets : Array UInt8}
    {place pointers length next : Nat}
    {labels : List Label}
    (follows : Follows octets place pointers length labels next)
    (short : length ≤ maxNameLength) :
    length + wireLength labels ≤ maxNameLength + 1 := by
  induction follows with
  | ending _ => exact Nat.succ_le_succ short
  | label _ _ fits _ hypothesis =>
      have rest_le := hypothesis fits
      rw [wireLength_cons]
      omega
  | pointer _ _ _ _ _ hypothesis => exact hypothesis short

/-- A name takes one octet too many: a trail starts at its place with at most sixty-four pointers,
and its labels take 256 octets as a name. -/
structure Overlong (octets : Array UInt8) (place : Nat) (segments : List Segment) (last : Nat) :
    Prop where
  trail : Trail octets place segments last
  pointers_le : Segment.pointers segments ≤ 64
  size_eq : Segment.size segments = 256

/-- A name that takes one octet too many is refused when the reader is behind it. -/
theorem Overlong.name_eq_error
    {octets : Array UInt8}
    {place last : Nat}
    {segments : List Segment}
    (overlong : Overlong octets place segments last) :
    place < Segment.resume segments last ∧
      ∃ text, Reader.name { buffer := octets, position := place } =
        .error (.name (.tooLong 256 text))
          { buffer := octets, position := Segment.resume segments last } := by
  have size_eq := overlong.size_eq
  have short : 0 + Segment.size segments ≤ 256 := by omega
  have few : Segment.pointers segments ≤ maxPointers := overlong.pointers_le
  obtain ⟨labels, labels_eq, follows⟩ := overlong.trail.exists_follows few short
  rw [size_eq_wireLength labels_eq] at size_eq
  have refused : Name.ofLabels? labels = none := by
    rw [Name.ofLabels?, dif_neg]
    rw [size_eq]
    decide
  refine ⟨follows.lt_next, ?_⟩
  simp only [Reader.name, follows.follow_eq_ok, refused, size_eq]
  exact ⟨_, rfl⟩

/-- A name that is refused leaves the reader where it was unless it takes one octet too many. -/
theorem Reader.eq_or_exists_overlong
    {reader next : Reader}
    {error : ReadError}
    (failed : name reader = .error error next) :
    next = reader ∨ ∃ segments last, Overlong reader.buffer reader.position segments last := by
  unfold name at failed
  split at failed
  · cases failed
    exact Or.inl rfl
  · next labels stop followed =>
      right
      have follows := follows_of_follow followed
      obtain ⟨segments, last, trail, few, labels_eq, _⟩ := follows.exists_trail
      refine ⟨segments, last, trail, few, ?_⟩
      rw [size_eq_wireLength labels_eq.symm]
      dsimp only at failed
      split at failed
      · cases failed
      · next refused =>
          have atMost := follows.wireLength_le (Nat.zero_le _)
          have tooLong : ¬wireLength labels ≤ maxNameLength := by
            intro fits
            rw [Name.ofLabels?, dif_pos fits] at refused
            cases refused
          rw [maxNameLength] at atMost tooLong
          omega

/-! ### A name of 256 octets -/

/-- The segments of labels that are written without a pointer. -/
def plainSegments (labels : List Label) : List Segment :=
  labels.map fun label => .label label.octets

theorem labels_plainSegments (labels : List Label) :
    Segment.labels (plainSegments labels) = labels.map Label.octets := by
  rw [Segment.labels, plainSegments, List.filterMap_map, ← List.filterMap_eq_map]
  rfl

theorem pointers_plainSegments (labels : List Label) :
    Segment.pointers (plainSegments labels) = 0 := by
  rw [Segment.pointers, plainSegments, List.countP_eq_zero]
  simp [Segment.isPointer]

theorem resume_plainSegments (labels : List Label) (last : Nat) :
    Segment.resume (plainSegments labels) last = last + 1 := by
  induction labels with
  | nil => rfl
  | cons label rest hypothesis => exact hypothesis

/-- Labels that are written one behind the other are a trail. -/
theorem trail_plainSegments (labels : List Label) (before : List UInt8) :
    Trail (before ++ (labels.flatMap Label.wire ++ [0])).toArray before.length
      (plainSegments labels) (before.length + (labels.flatMap Label.wire).length) := by
  induction labels generalizing before with
  | nil => exact .ending (by simp)
  | cons label rest hypothesis =>
      have behind := hypothesis (before ++ label.wire)
      have octets_eq : before ++ label.wire ++ (rest.flatMap Label.wire ++ [0]) =
          before ++ ((label :: rest).flatMap Label.wire ++ [0]) := by
        simp only [List.flatMap_cons, List.append_assoc]
      have last_eq : (before ++ label.wire).length + (rest.flatMap Label.wire).length =
          before.length + ((label :: rest).flatMap Label.wire).length := by
        simp only [List.flatMap_cons, List.length_append, Nat.add_assoc]
      have next_eq : (before ++ label.wire).length = before.length + 1 + label.octets.length := by
        rw [List.length_append, Label.length_wire]
        omega
      rw [octets_eq, last_eq, next_eq] at behind
      refine .step (.label (labelOctets_iff.mpr ⟨label, rfl⟩) (by simp [Label.wire]) ?_) behind
      simp [StandsAt, Label.wire]

/-- Written labels that take 256 octets as a name take one too many. -/
theorem overlong_of_wireLength
    {labels : List Label}
    (full : wireLength labels = 256) :
    Overlong (labels.flatMap Label.wire ++ [0]).toArray 0 (plainSegments labels)
      (labels.flatMap Label.wire).length := by
  have trail := trail_plainSegments labels []
  rw [List.nil_append, List.length_nil, Nat.zero_add] at trail
  refine ⟨trail, ?_, ?_⟩
  · rw [pointers_plainSegments]
    exact Nat.zero_le _
  · rw [size_eq_wireLength (labels_plainSegments labels).symm, full]

/-- A label of the letter `a` alone. -/
def Label.filled (count : Nat) (positive : 0 < count) (short : count ≤ maxLabelLength) : Label where
  octets := List.replicate count 97
  nonempty := by
    rw [ne_eq, List.replicate_eq_nil_iff]
    exact Nat.ne_of_gt positive
  length_le := by rwa [List.length_replicate]
  legal octet member := by
    rw [List.eq_of_mem_replicate member]
    decide

/-- Three labels of sixty-three octets and one of sixty-two. -/
def overlongLabels : List Label :=
  let longest := Label.filled 63 (by decide) (by decide)
  [longest, longest, longest, .filled 62 (by decide) (by decide)]

theorem wireLength_overlongLabels : wireLength overlongLabels = 256 := by
  decide

/-- A name of 256 octets is refused, and the reader has moved from its start to its end. -/
theorem overlong_name_moves_reader :
    let octets := (overlongLabels.flatMap Label.wire ++ [0]).toArray
    ∃ error, Reader.name { buffer := octets, position := 0 } =
      .error error { buffer := octets, position := 256 } := by
  intro octets
  have overlong := overlong_of_wireLength wireLength_overlongLabels
  obtain ⟨_, text, refused⟩ := overlong.name_eq_error
  rw [resume_plainSegments] at refused
  rw [length_flatMap_wire, wireLength_overlongLabels] at refused
  exact ⟨_, refused⟩

/-! ### What a failure leaves -/

/-- A single reading that fails leaves the reader where it was, except for one that comes to a
name of 256 octets. Such a name is always refused, and the reader then stands behind it. -/
theorem failed_reading_keeps_place_iff (octets : Array UInt8) (place : Nat) :
    (∀ (reading : Reading) (error : ReadError) (next : Reader),
        reading.isSingle = true →
          reading.read { buffer := octets, position := place } = .error error next →
            (next.position = place ↔
              ¬(reading = .name ∧ ∃ segments last, Overlong octets place segments last))) ∧
      ∀ segments last, Overlong octets place segments last →
        place < Segment.resume segments last ∧
          ∃ text, Reader.name { buffer := octets, position := place } =
            .error (.name (.tooLong 256 text))
              { buffer := octets, position := Segment.resume segments last } := by
  refine ⟨fun reading error next single failed => ⟨?_, fun notOverlong => ?_⟩, ?_⟩
  · rintro stayed ⟨rfl, segments, last, overlong⟩
    obtain ⟨moved, text, refused⟩ := overlong.name_eq_error
    have same := refused.symm.trans failed
    cases same
    exact absurd stayed (Nat.ne_of_gt moved)
  · have kept : next = { buffer := octets, position := place } := by
      cases reading with
      | octet | word | longWord | octets count => exact Reader.eq_of_taken_eq_error failed
      | name =>
          exact (Reader.eq_or_exists_overlong failed).resolve_right fun overlong =>
            notOverlong ⟨rfl, overlong⟩
      | flags | question | record | rdata => cases single
    rw [kept]
  · exact fun segments last overlong => overlong.name_eq_error

/-- A number that is cut off leaves the reader in its place, and a name of 256 octets does not. -/
theorem failed_reading_keeps_place_iff_cut :
    (∃ error next, Reader.word { buffer := #[1, 97], position := 1 } = .error error next ∧
        next.position = 1) ∧
      ∃ error next,
        Reader.name { buffer := (overlongLabels.flatMap Label.wire ++ [0]).toArray } =
            .error error next ∧
          next.position ≠ 0 := by
  constructor
  · have cut : Reader.word { buffer := #[1, 97], position := 1 } =
        .error (.underflow 1 .word 2 1) { buffer := #[1, 97], position := 1 } :=
      rfl
    obtain ⟨places, _⟩ := failed_reading_keeps_place_iff #[1, 97] 1
    refine ⟨_, _, cut, (places .word _ _ rfl cut).mpr ?_⟩
    rintro ⟨isName, -⟩
    cases isName
  · have overlong := overlong_of_wireLength wireLength_overlongLabels
    obtain ⟨places, names⟩ := failed_reading_keeps_place_iff
      (overlongLabels.flatMap Label.wire ++ [0]).toArray 0
    obtain ⟨_, text, refused⟩ := names _ _ overlong
    refine ⟨_, _, refused, fun stayed => ?_⟩
    exact (places .name _ _ rfl refused).mp stayed ⟨rfl, _, _, overlong⟩

end Dns
end Sinkhole
