import Sinkhole.Resolver.Rotation

/-!
# A rotation behind a lock

Takers that run at the same time share a rotation, and a lock lets one of them inside at a
time. To be handed an item a taker enters, which it can do only while nobody is inside;
reads the item under the cursor; moves the cursor on; and leaves with the item. Between two
steps of one taker any others may try theirs. Who finds somebody else inside has to wait, so
nothing happens.
-/

namespace Sinkhole

/-- How far the taker has come who is inside, with the item that it has read and the place
of the item. -/
inductive Passage (α : Type)
  | entered
  | read (place : Nat) (item : α)
  | moved (place : Nat) (item : α)

/-- An item that was handed out, from which place, and who left with it. -/
structure Turn (τ α : Type) where
  taker : τ
  place : Nat
  item : α

/-- A rotation, the taker inside, and the turns so far, the latest last. -/
structure Turnstile (τ α : Type) where
  rotation : Rotation α
  inside : Option (τ × Passage α) := none
  turns : List (Turn τ α) := []

namespace Turnstile

variable {τ α : Type} [DecidableEq τ]

/-- One step of a taker. -/
def step (turnstile : Turnstile τ α) (taker : τ) : Turnstile τ α :=
  match turnstile.inside with
  | none => { turnstile with inside := some (taker, .entered) }
  | some (holder, passage) =>
      if taker = holder then
        match passage with
        | .entered =>
            let place := turnstile.rotation.cursor.val
            { turnstile with inside := some (holder, .read place turnstile.rotation.current) }
        | .read place item =>
            { turnstile with
              rotation := turnstile.rotation.advance
              inside := some (holder, .moved place item) }
        | .moved place item =>
            { turnstile with
              inside := none
              turns := turnstile.turns ++ [{ taker := holder, place, item }] }
      else
        turnstile

/-- The steps of a schedule, one after the other. -/
def run (turnstile : Turnstile τ α) (schedule : List τ) : Turnstile τ α :=
  schedule.foldl step turnstile

@[simp] theorem run_nil (turnstile : Turnstile τ α) : turnstile.run [] = turnstile :=
  rfl

@[simp] theorem run_cons (turnstile : Turnstile τ α) (taker : τ) (schedule : List τ) :
    turnstile.run (taker :: schedule) = (turnstile.step taker).run schedule :=
  rfl

theorem run_append (turnstile : Turnstile τ α) (schedule further : List τ) :
    turnstile.run (schedule ++ further) = (turnstile.run schedule).run further :=
  List.foldl_append

end Turnstile
end Sinkhole
