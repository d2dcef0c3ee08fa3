import Sinkhole.Proofs.Dns.Decoding

/-!
# Following a name

A name is followed from place to place of a message. At each of them the name ends, or it goes
on behind a label, or it goes on at an earlier place that a pointer points to. The module puts
this as a relation with three cases; all that is known of names that can be followed to their
end comes from them. Where octets are looked at on the way, whether the name has an end or not,
is a relation of the same kind. All those places are inside, and no other octets matter.
-/

namespace Sinkhole
namespace Dns

/-! ## Octets in place -/

/-- The given octets stand at a place of a message. -/
def StandsAt (octets : Array UInt8) (place : Nat) (piece : List UInt8) : Prop :=
  piece <+: octets.toList.drop place

instance (octets : Array UInt8) (place : Nat) (piece : List UInt8) :
    Decidable (StandsAt octets place piece) :=
  inferInstanceAs (Decidable (piece <+: _))

namespace StandsAt

variable {octets : Array UInt8} {place : Nat} {piece first second : List UInt8}

theorem append
    (firstStands : StandsAt octets place first)
    (secondStands : StandsAt octets (place + first.length) second) :
    StandsAt octets place (first ++ second) := by
  obtain ⟨rest, split⟩ := firstStands
  rw [StandsAt, ← split, List.prefix_append_right_inj]
  rwa [StandsAt, ← List.drop_drop, ← split, List.drop_left] at secondStands

theorem singleton {octet : UInt8} (found : octets[place]? = some octet) :
    StandsAt octets place [octet] := by
  obtain ⟨inside, rfl⟩ := Array.getElem?_eq_some_iff.mp found
  refine ⟨octets.toList.drop (place + 1), ?_⟩
  rw [List.singleton_append, ← Array.getElem_toList]
  exact List.getElem_cons_drop _

theorem extract (octets : Array UInt8) (place count : Nat) :
    StandsAt octets place (octets.extract place (place + count)).toList := by
  rw [StandsAt, Array.toList_extract, List.extract_eq_take_drop]
  exact List.take_prefix _ _

/-- There is room for one piece of a length at a place. -/
theorem unique
    (firstStands : StandsAt octets place first)
    (secondStands : StandsAt octets place second)
    (length_eq : first.length = second.length) :
    first = second :=
  (List.prefix_of_prefix_length_le firstStands secondStands (Nat.le_of_eq length_eq)).eq_of_length
    length_eq

/-- A piece ends inside the message. -/
theorem stop_le_size (stands : StandsAt octets place piece) (nonempty : piece ≠ []) :
    place + piece.length ≤ octets.size := by
  have length_le := List.IsPrefix.length_le stands
  have positive := List.length_pos_iff.mpr nonempty
  simp only [List.length_drop, Array.length_toList] at length_le
  omega

/-- The octets between the start and the end of a piece are the piece. -/
theorem extract_eq (stands : StandsAt octets place piece) :
    (octets.extract place (place + piece.length)).toList = piece := by
  rw [Array.toList_extract, List.extract_eq_take_drop, Nat.add_sub_cancel_left]
  exact (List.prefix_iff_eq_take.mp stands).symm

end StandsAt

/-! ## From place to place -/

/-- The place that a pointer points to. -/
def pointerTarget (high low : UInt8) : Nat :=
  high.toNat % 64 * 256 + low.toNat

/-- A name is followed from a place to its end, with a number of pointers allowed and a number of
characters of its text read before: the name ends there, or it goes on behind a label, or it
goes on where a pointer points to. In the end it has these labels, and the position past it is
known from what stands at the place, no matter where a pointer leads. -/
inductive Follows (octets : Array UInt8) : Nat → Nat → Nat → List Label → Nat → Prop
  | ending
      {place pointers length : Nat}
      (found : octets[place]? = some 0) :
      Follows octets place pointers length [] (place + 1)
  | label
      {place pointers length next : Nat}
      {label : Label}
      {rest : List Label}
      (found : octets[place]? = some (UInt8.ofNat label.octets.length))
      (stands : StandsAt octets (place + 1) label.octets)
      (fits : length + label.octets.length + 1 ≤ maxNameLength)
      (follows : Follows octets (place + 1 + label.octets.length) pointers
        (length + label.octets.length + 1) rest next) :
      Follows octets place pointers length (label :: rest) next
  | pointer
      {place pointers length next : Nat}
      {high low : UInt8}
      {labels : List Label}
      (first : octets[place]? = some high)
      (second : octets[place + 1]? = some low)
      (pointing : 0xC0 ≤ high)
      (backward : pointerTarget high low < place)
      (follows : Follows octets (pointerTarget high low) pointers length labels next) :
      Follows octets place (pointers + 1) length labels (place + 2)

/-- A label that is taken has as many octets as its first one says, and they stand behind that. -/
theorem standsAt_of_taken
    {octets : Array UInt8}
    {start count : Nat}
    {label : Label}
    (whole : start + count ≤ octets.size)
    (taken : Label.ofOctets (octets.extract start (start + count)).toList = .ok label) :
    label.octets.length = count ∧ StandsAt octets start label.octets := by
  have octets_eq := Label.ofOctets_eq_ok_iff.mp taken
  constructor
  · rw [← octets_eq, Array.length_toList, Array.size_extract]
    omega
  · rw [← octets_eq]
    exact .extract _ _ _

theorem follows_of_follow
    {octets : Array UInt8}
    {place pointers length next : Nat}
    {labels : List Label}
    (followed : Reader.follow octets place pointers length = .ok (labels, next)) :
    Follows octets place pointers length labels next := by
  fun_induction Reader.follow octets place pointers length generalizing labels next
  case case1 inside lead zero =>
    cases followed
    apply Follows.ending
    rw [← zero]
    exact Array.getElem?_eq_getElem inside
  case case4 place _ _ inside lead _ _ _ stop whole label taken _ fits _ _ restFollowed
      hypothesis =>
    cases followed
    obtain ⟨length_eq, stands⟩ := standsAt_of_taken whole taken
    have stop_eq : place + 1 + label.octets.length = stop := by
      rw [length_eq]
    apply Follows.label ?_ stands fits
    · rw [stop_eq]
      exact hypothesis restFollowed
    · rw [length_eq, UInt8.ofNat_toNat]
      exact Array.getElem?_eq_getElem inside
  case case10 inside _ _ _ pointing second _ _ backward _ _ restFollowed hypothesis =>
    cases followed
    apply Follows.pointer (Array.getElem?_eq_getElem inside) (Array.getElem?_eq_getElem second)
      (UInt8.not_lt.mp pointing) backward
    exact hypothesis restFollowed
  -- In all other cases following the name fails.
  all_goals cases followed

theorem Follows.follow_eq_ok
    {octets : Array UInt8}
    {place pointers length next : Nat}
    {labels : List Label}
    (follows : Follows octets place pointers length labels next) :
    Reader.follow octets place pointers length = .ok (labels, next) := by
  induction follows with
  | ending found =>
      obtain ⟨inside, lead_eq⟩ := Array.getElem?_eq_some_iff.mp found
      rw [Reader.follow]
      simp [inside, lead_eq]
  | @label place pointers length next label rest found stands fits _ followed =>
      obtain ⟨inside, lead_eq⟩ := Array.getElem?_eq_some_iff.mp found
      have whole := stands.stop_le_size label.nonempty
      have taken : Label.ofOctets label.octets = .ok label := Label.ofOctets_eq_ok_iff.mpr rfl
      rw [Reader.follow]
      simp only [inside, lead_eq, label.lead_ne_zero, label.lead_lt, label.toNat_lead, whole,
        stands.extract_eq, taken, fits, followed, dite_true, if_true, if_false]
  | @pointer place pointers length next high low labels first second pointing backward _ followed =>
      obtain ⟨inside, high_eq⟩ := Array.getElem?_eq_some_iff.mp first
      obtain ⟨secondInside, low_eq⟩ := Array.getElem?_eq_some_iff.mp second
      have nonzero : high ≠ 0 := by
        rintro rfl
        exact absurd pointing (by decide)
      have not_short : ¬high < 0x40 := UInt8.not_lt.mpr (UInt8.le_trans (by decide) pointing)
      have not_kind : ¬high < 0xC0 := UInt8.not_lt.mpr pointing
      rw [pointerTarget] at backward followed
      rw [Reader.follow]
      simp only [inside, secondInside, high_eq, low_eq, nonzero, not_short, not_kind, backward,
        followed, dite_true, if_true, if_false]

/-! ## Where octets are looked at -/

/-- Following a name from a place looks at an octet: the first one, the second one of a pointer,
those of a label, and whatever is looked at from where the name goes on. -/
inductive Looks (octets : Array UInt8) : Nat → Nat → Nat → Nat → Prop
  | first
      {place pointers length : Nat}
      (inside : place < octets.size) :
      Looks octets place pointers length place
  | second
      {place pointers length : Nat}
      {high : UInt8}
      (found : octets[place]? = some high)
      (pointing : 0xC0 ≤ high)
      (inside : place + 1 < octets.size) :
      Looks octets place pointers length (place + 1)
  | label
      {place pointers length index : Nat}
      {lead : UInt8}
      (found : octets[place]? = some lead)
      (short : lead < 0x40)
      (whole : place + 1 + lead.toNat ≤ octets.size)
      (start_le : place + 1 ≤ index)
      (lt_stop : index < place + 1 + lead.toNat) :
      Looks octets place pointers length index
  | behind
      {place pointers length index : Nat}
      {label : Label}
      (found : octets[place]? = some (UInt8.ofNat label.octets.length))
      (stands : StandsAt octets (place + 1) label.octets)
      (fits : length + label.octets.length + 1 ≤ maxNameLength)
      (looks : Looks octets (place + 1 + label.octets.length) pointers
        (length + label.octets.length + 1) index) :
      Looks octets place pointers length index
  | target
      {place pointers length index : Nat}
      {high low : UInt8}
      (first : octets[place]? = some high)
      (second : octets[place + 1]? = some low)
      (pointing : 0xC0 ≤ high)
      (backward : pointerTarget high low < place)
      (looks : Looks octets (pointerTarget high low) pointers length index) :
      Looks octets place (pointers + 1) length index

/-- An octet that is looked at is there. -/
theorem Looks.lt_size
    {octets : Array UInt8}
    {place pointers length index : Nat}
    (looks : Looks octets place pointers length index) :
    index < octets.size := by
  induction looks with
  | first inside => exact inside
  | second _ _ inside => exact inside
  | label _ _ whole _ lt_stop => exact Nat.lt_of_lt_of_le lt_stop whole
  | behind _ _ _ _ hypothesis => exact hypothesis
  | target _ _ _ _ _ hypothesis => exact hypothesis

/-- Octets that agree at an index have the same one there. -/
theorem getElem_eq_of_agree
    {octets other : Array UInt8}
    {index : Nat}
    (insideOther : index < other.size)
    (inside : index < octets.size)
    (agree : other[index]? = octets[index]?) :
    other[index] = octets[index] := by
  rwa [Array.getElem?_eq_getElem insideOther, Array.getElem?_eq_getElem inside,
    Option.some.injEq] at agree

/-- Octets that agree all along a stretch have the same stretch. -/
theorem extract_eq_of_agree
    {octets other : Array UInt8}
    {start stop : Nat}
    (size_eq : other.size = octets.size)
    (agree : ∀ index, start ≤ index → index < stop → other[index]? = octets[index]?) :
    other.extract start stop = octets.extract start stop := by
  apply Array.ext_getElem?
  intro offset
  simp only [Array.getElem?_extract, size_eq]
  split
  · exact agree _ (Nat.le_add_right _ _) (by omega)
  · rfl

/-- How a name is followed depends on the octets that are looked at, and on no others. -/
theorem follow_congr
    {octets other : Array UInt8}
    {place pointers length : Nat}
    (size_eq : other.size = octets.size)
    (agree : ∀ index, Looks octets place pointers length index →
      other[index]? = octets[index]?) :
    Reader.follow other place pointers length = Reader.follow octets place pointers length := by
  -- Both sides take one step. What a test of it reads is looked at, so the test has one result.
  rw [Reader.follow, Reader.follow.eq_def octets]
  simp only [size_eq]
  refine dite_congr rfl (fun inside => ?_) fun _ => rfl
  have found : octets[place]? = some octets[place] := Array.getElem?_eq_getElem inside
  have first_eq := getElem_eq_of_agree (size_eq ▸ inside) inside (agree _ (.first inside))
  simp only [first_eq]
  refine ite_congr rfl (fun _ => rfl) fun _ => ?_
  refine ite_congr rfl (fun short => ?label) fun _ => ite_congr rfl (fun _ => rfl) fun kind => ?_
  case label =>
    refine ite_congr rfl (fun whole => ?_) fun _ => rfl
    rw [extract_eq_of_agree size_eq fun index start_le lt_stop =>
      agree index (.label found short whole start_le lt_stop)]
    cases taken : Label.ofOctets
      (octets.extract (place + 1) (place + 1 + octets[place].toNat)).toList with
    | error error => rfl
    | ok label =>
        refine ite_congr rfl (fun fits => ?_) fun _ => rfl
        obtain ⟨length_eq, stands⟩ := standsAt_of_taken whole taken
        rw [← length_eq]
        have found : octets[place]? = some (UInt8.ofNat label.octets.length) := by
          rw [length_eq, UInt8.ofNat_toNat, found]
        rw [follow_congr size_eq fun index looks => agree index (.behind found stands fits looks)]
  refine dite_congr rfl (fun inside => ?_) fun _ => rfl
  have pointing := UInt8.not_lt.mp kind
  have second_eq :=
    getElem_eq_of_agree (size_eq ▸ inside) inside (agree _ (.second found pointing inside))
  simp only [second_eq]
  cases pointers with
  | zero => rfl
  | succ pointers =>
      refine ite_congr rfl (fun backward => ?_) fun _ => rfl
      have second := Array.getElem?_eq_getElem inside
      rw [← pointerTarget] at backward ⊢
      rw [follow_congr size_eq fun index looks =>
        agree index (.target found second pointing backward looks)]
  termination_by (pointers, octets.size - place)

end Dns
end Sinkhole
