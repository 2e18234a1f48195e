import Mathlib.Tactic.Common

namespace BoundedFifo

/-!
# A bounded first-in first-out queue

The abstract queue that a ring buffer is meant to be: batches of items enter
at one end as long as they fit, and batches leave at the other end in the same
order.
-/

variable {Item : Type}

/-- One visible change of the queue. -/
inductive Action (Item : Type) where
  | enqueue (items : List Item) : Action Item
  | dequeue (items : List Item) : Action Item

/-- The queue contents that a list of actions leaves behind. -/
inductive Runs (capacity : Nat) :
    List (Action Item) → List Item → Prop where
  | start :
      Runs capacity [] []
  | enqueue
      {actions : List (Action Item)}
      {queue items : List Item} :
      Runs capacity actions queue →
      queue.length + items.length ≤ capacity →
      Runs capacity (actions ++ [.enqueue items]) (queue ++ items)
  | dequeue
      {actions : List (Action Item)}
      {queue items : List Item} :
      Runs capacity actions (items ++ queue) →
      Runs capacity (actions ++ [.dequeue items]) queue

/-- Everything that entered, in order. -/
def enqueued : List (Action Item) → List Item
  | [] =>
      []
  | .enqueue items :: rest =>
      items ++ enqueued rest
  | .dequeue _ :: rest =>
      enqueued rest

/-- Everything that left, in order. -/
def dequeued : List (Action Item) → List Item
  | [] =>
      []
  | .enqueue _ :: rest =>
      dequeued rest
  | .dequeue items :: rest =>
      items ++ dequeued rest

/-- What was enqueued first comes first. -/
@[simp] theorem enqueued_append
    (first second : List (Action Item)) :
    enqueued (first ++ second) = enqueued first ++ enqueued second := by
  induction first with
  | nil =>
      rfl
  | cons action rest inductionHypothesis =>
      cases action with
      | enqueue items =>
          simp [enqueued, inductionHypothesis]
      | dequeue items =>
          simpa [enqueued] using inductionHypothesis

/-- What was dequeued first comes first. -/
@[simp] theorem dequeued_append
    (first second : List (Action Item)) :
    dequeued (first ++ second) = dequeued first ++ dequeued second := by
  induction first with
  | nil =>
      rfl
  | cons action rest inductionHypothesis =>
      cases action with
      | enqueue items =>
          simpa [dequeued] using inductionHypothesis
      | dequeue items =>
          simp [dequeued, inductionHypothesis]

namespace Runs

variable {capacity : Nat}
variable {actions : List (Action Item)}
variable {queue : List Item}

/-- Nothing is lost, duplicated or reordered on the way through the queue. -/
theorem conservation (runs : Runs capacity actions queue) :
    enqueued actions = dequeued actions ++ queue := by
  induction runs with
  | start =>
      rfl
  | enqueue _ _ inductionHypothesis =>
      simp [enqueued, dequeued, inductionHypothesis]
  | dequeue _ inductionHypothesis =>
      simp [enqueued, dequeued, inductionHypothesis]

/-- The queue never holds more than its capacity. -/
theorem length_le (runs : Runs capacity actions queue) :
    queue.length ≤ capacity := by
  induction runs with
  | start =>
      exact Nat.zero_le capacity
  | enqueue _ fits _ =>
      simpa using fits
  | dequeue _ inductionHypothesis =>
      rw [List.length_append] at inductionHypothesis
      omega

end Runs

end BoundedFifo
