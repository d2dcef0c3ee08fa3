import Sinkhole.Dns.Frame

/-!
# Streams of frames

Frames that are put one behind the other are cut apart again, whatever their bodies are, and
the front of a frame that is left at the end is not mistaken for one.
-/

namespace Sinkhole
namespace Dns
namespace Frame

/-- The frames around bodies, one behind the other. -/
def joined (bodies : List (List UInt8)) : List UInt8 :=
  bodies.flatMap fun body => wordOctets (UInt16.ofNat body.length) ++ body

/-- The front of a frame without all of it. It may have no octets at all. -/
def Incomplete (tail : List UInt8) : Prop :=
  ∃ body missing, missing ≠ [] ∧ around? body = some (tail ++ missing)

@[simp] theorem joined_nil : joined [] = [] := rfl

theorem incomplete_nil : Incomplete [] :=
  ⟨[], [0, 0], List.cons_ne_nil _ _, rfl⟩

theorem around?_of_short
    {body : List UInt8}
    (short : body.length ≤ maxMessageLength) :
    around? body = some (wordOctets (UInt16.ofNat body.length) ++ body) := by
  rw [around?, if_pos short]

/-- The first of some frames is cut off. -/
theorem cut_joined_cons
    {body : List UInt8}
    (short : body.length ≤ maxMessageLength)
    (bodies : List (List UInt8))
    (tail : List UInt8) :
    cut (joined (body :: bodies) ++ tail) = .whole body (joined bodies ++ tail) := by
  rw [joined, List.flatMap_cons, List.append_assoc]
  exact cut_append (around?_of_short short) _

/-- A frame is cut off whatever comes in behind it. -/
theorem cut_append_of_whole
    {stream body rest : List UInt8}
    (whole : cut stream = .whole body rest)
    (more : List UInt8) :
    cut (stream ++ more) = .whole body (rest ++ more) := by
  match stream with
  | [] | [_] => simp [cut] at whole
  | high :: low :: octets =>
      simp only [cut] at whole
      split at whole
      · next enough =>
          injection whole with body_eq rest_eq
          subst body_eq rest_eq
          have stillEnough : (word high low).toNat ≤ (octets ++ more).length := by
            rw [List.length_append]
            omega
          simp only [List.cons_append, cut, if_pos stillEnough]
          rw [List.take_append_of_le_length enough, List.drop_append_of_le_length enough]
      · cases whole

/-- No frame is cut off the front of one. -/
theorem cut_ne_whole_of_incomplete
    {tail : List UInt8}
    (incomplete : Incomplete tail)
    (body rest : List UInt8) :
    cut tail ≠ .whole body rest := by
  intro whole
  obtain ⟨other, missing, nonempty, framed⟩ := incomplete
  have extended := cut_append_of_whole whole missing
  have alone := cut_append framed []
  rw [List.append_nil, extended] at alone
  injection alone with _ rest_eq
  exact nonempty (List.append_eq_nil_iff.mp rest_eq).2

/-- Frames are cut apart into the bodies that they were put around. -/
theorem cutAll_joined
    {bodies : List (List UInt8)}
    (short : ∀ body ∈ bodies, body.length ≤ maxMessageLength)
    {tail : List UInt8}
    (incomplete : Incomplete tail) :
    cutAll (joined bodies ++ tail) = (bodies, tail) := by
  induction bodies with
  | nil =>
      rw [joined_nil, List.nil_append, cutAll]
      split
      · next body rest whole => exact absurd whole (cut_ne_whole_of_incomplete incomplete body rest)
      · rfl
      · rfl
  | cons body rest hypothesis =>
      rw [List.forall_mem_cons] at short
      have whole := cut_joined_cons short.1 rest tail
      rw [cutAll]
      split
      · next other left cut =>
          rw [whole] at cut
          cases cut
          rw [hypothesis short.2]
      · next cut => simp [whole] at cut
      · next cut => simp [whole] at cut

end Frame
end Dns
end Sinkhole
