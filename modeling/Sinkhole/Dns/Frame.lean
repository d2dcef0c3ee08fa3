import Sinkhole.Dns.Writer

/-!
# Messages on a stream

On a stream a message is the body of a frame: two octets with its length come
before it. A stream of frames is cut at the first of them, or ends in the middle of
a length or of a body.
-/

namespace Sinkhole
namespace Dns
namespace Frame

/-- The frame around a body, unless the body is too long for one. -/
def around? (body : List UInt8) : Option (List UInt8) :=
  if body.length ≤ maxMessageLength then
    some (wordOctets (UInt16.ofNat body.length) ++ body)
  else
    none

/-- What a stream begins with: a whole frame, less than a length, or a length
without all of its body. -/
inductive Front
  | whole (body rest : List UInt8)
  | noLength
  | noBody
  deriving DecidableEq

/-- Cut the first frame off a stream. -/
def cut : List UInt8 → Front
  | high :: low :: rest =>
      let length := (word high low).toNat
      if length ≤ rest.length then .whole (rest.take length) (rest.drop length)
      else .noBody
  | _ => .noLength

/-- What comes after the first frame is shorter than the stream. -/
theorem length_rest_lt
    {stream body rest : List UInt8}
    (whole : cut stream = .whole body rest) :
    rest.length < stream.length := by
  match stream with
  | [] | [_] => simp [cut] at whole
  | high :: low :: octets =>
      simp only [cut] at whole
      split at whole
      · injection whole with _ rest_eq
        subst rest_eq
        simp only [List.length_drop, List.length_cons]
        omega
      · cases whole

/-- The first frame of a stream is the one that was put in front of it. -/
theorem cut_append
    {body frame : List UInt8}
    (framed : around? body = some frame)
    (rest : List UInt8) :
    cut (frame ++ rest) = .whole body rest := by
  unfold around? at framed
  split at framed
  case isTrue short =>
    cases framed
    have length_eq :
        (word (UInt8.ofNat ((UInt16.ofNat body.length).toNat / 256))
          (UInt8.ofNat (UInt16.ofNat body.length).toNat)).toNat = body.length := by
      simp only [maxMessageLength] at short
      rw [word_wordOctets, UInt16.toNat_ofNat']
      omega
    simp only [wordOctets, List.cons_append, List.nil_append, cut, length_eq]
    simp
  case isFalse => cases framed

/-- The frames at the front of a stream, and what is left after the last whole
one. -/
def cutAll (stream : List UInt8) : List (List UInt8) × List UInt8 :=
  match _ : cut stream with
  | .whole body rest =>
      let (bodies, left) := cutAll rest
      (body :: bodies, left)
  | .noLength | .noBody => ([], stream)
termination_by stream.length
decreasing_by exact length_rest_lt (by assumption)

end Frame
end Dns
end Sinkhole
