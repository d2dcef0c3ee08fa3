import Sinkhole.Dns.Message

/-!
# The parts of a reading

Whatever is read of a message is read in few single steps: some octets are taken, a name is
followed, the position is asked for, or the reading gives up. What holds of each of these, and of
two readings in a row when it holds of both, holds of every reading. Which steps a reading takes
is written down here once.
-/

namespace Sinkhole
namespace Dns

/-- A reading is put together from single steps. -/
inductive Composed : {α : Type} → Read α → Prop
  | value {α : Type} (value : α) : Composed (pure value)
  | failure {α : Type} (error : ReadError) : Composed (throw error : Read α)
  | take (piece : Piece) (count : Nat) : Composed (Reader.take piece count)
  | name : Composed Reader.name
  | position : Composed Reader.currentPosition
  | bind
      {α β : Type}
      {first : Read α}
      {second : α → Read β}
      (firstComposed : Composed first)
      (secondComposed : ∀ value, Composed (second value)) :
      Composed (first >>= second)

namespace Composed

/-- Octets, and what is made of them. -/
theorem taken
    {α : Type}
    (piece : Piece)
    {count : Nat}
    (make : Vector UInt8 count → α) :
    Composed (Reader.take piece count >>= fun octets => pure (make octets)) :=
  (take piece count).bind fun _ => value _

theorem octet : Composed Reader.octet :=
  taken .octet _

theorem word : Composed Reader.word :=
  taken .word _

theorem longWord : Composed Reader.longWord :=
  taken .longWord _

theorem octets (count : Nat) : Composed (Reader.octets count) :=
  taken .octets _

theorem flags : Composed Reader.flags := by
  unfold Reader.flags
  refine word.bind fun bits => ?_
  split
  · exact value _
  · exact failure _

theorem entries
    {α : Type}
    {entry : Read α}
    (entryComposed : Composed entry)
    (count : Nat) :
    Composed (Reader.entries count entry) := by
  unfold Reader.entries
  induction count with
  | zero => exact value _
  | succ count hypothesis =>
      rw [List.replicate_succ, List.mapM_cons]
      exact entryComposed.bind fun _ => hypothesis.bind fun _ => value _

end Composed

theorem Question.composed_read : Composed Question.read :=
  Composed.name.bind fun _ => Composed.word.bind fun _ => Composed.word.bind fun _ => .value _

namespace RData

theorem composed_readLayout (rtype : RecordType) (declared : Nat) :
    Composed (readLayout rtype declared) := by
  unfold readLayout
  cases rtype.layout with
  | ipv4 | ipv6 =>
      dsimp only
      split
      · exact (Composed.failure _).bind fun _ => Composed.taken _ _
      · exact Composed.taken _ _
  | name => exact Composed.name.bind fun _ => .value _
  | soa =>
      refine Composed.name.bind fun _ => Composed.name.bind fun _ => ?_
      refine Composed.longWord.bind fun _ => Composed.longWord.bind fun _ => ?_
      refine Composed.longWord.bind fun _ => Composed.longWord.bind fun _ => ?_
      exact Composed.longWord.bind fun _ => .value _
  | mx => exact Composed.word.bind fun _ => Composed.name.bind fun _ => .value _
  | srv =>
      refine Composed.word.bind fun _ => Composed.word.bind fun _ => Composed.word.bind fun _ => ?_
      exact Composed.name.bind fun _ => .value _
  | raw => exact (Composed.octets _).bind fun _ => .value _

theorem composed_read (rtype : RecordType) (declared : Nat) : Composed (read rtype declared) := by
  unfold read
  refine Composed.position.bind fun start => (composed_readLayout rtype declared).bind
    fun rdata => Composed.position.bind fun stop => ?_
  dsimp only
  split
  · exact (Composed.failure _).bind fun _ => .value _
  · exact .value _

end RData

theorem Record.composed_read : Composed Record.read :=
  Composed.name.bind fun _ => Composed.word.bind fun _ => Composed.word.bind fun _ =>
    Composed.longWord.bind fun _ => Composed.word.bind fun _ =>
    (RData.composed_read _ _).bind fun _ => .value _

theorem Message.composed_read : Composed Message.read :=
  Composed.word.bind fun _ => Composed.flags.bind fun _ => Composed.word.bind fun _ =>
    Composed.word.bind fun _ => Composed.word.bind fun _ => Composed.word.bind fun _ =>
    (Question.composed_read.entries _).bind fun _ =>
    (Record.composed_read.entries _).bind fun _ =>
    (Record.composed_read.entries _).bind fun _ =>
    (Record.composed_read.entries _).bind fun _ => .value _

end Dns
end Sinkhole
