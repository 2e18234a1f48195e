import AfXdp.Interleaving
import Mathlib.Order.WellFounded

/-!
# Progress under fair schedules

A system takes events one at a time; some of them are steps of a thread.  In a
fair run no thread that could take a step from some point on is left out for
ever.  The rule of this module turns a well-founded measure into progress:
whatever happens, the measure does not grow, and in every state there is one
thread whose next step makes it smaller.
-/

namespace FairSchedule

/-- What the events do, and whose they are. -/
structure System (State Event Thread : Type) where
  step : Event → State → Option State
  thread : Event → Option Thread

variable {State Event Thread : Type}

namespace System

variable (system : System State Event Thread)

/-- The thread can take a step now. -/
def Enabled (thread : Thread) (state : State) : Prop :=
  ∃ event after,
    system.thread event = some thread ∧
      system.step event state = some after

end System

/-- An infinite run from any state. -/
structure Run (system : System State Event Thread) where
  state : Nat → State
  event : Nat → Event
  valid : ∀ time, system.step (event time) (state time) = some (state (time + 1))

namespace Run

variable {system : System State Event Thread}

/-- A thread that stays able to take a step takes one. -/
def Fair (run : Run system) : Prop :=
  ∀ thread start,
    (∀ time, start ≤ time → system.Enabled thread (run.state time)) →
    ∃ time, start ≤ time ∧ system.thread (run.event time) = some thread

/-- What every step preserves holds from some point on. -/
theorem always
    (run : Run system)
    {invariant : State → Prop}
    (preserved :
      ∀ {event before after},
        system.step event before = some after →
        invariant before →
        invariant after)
    {start : Nat}
    (initially : invariant (run.state start)) :
    ∀ time, start ≤ time → invariant (run.state time) := by
  intro time later
  induction time, later using Nat.le_induction with
  | base =>
      exact initially
  | succ time _ inductionHypothesis =>
      exact preserved (run.valid time) inductionHypothesis

end Run

/-! ## The rule -/

/--
A way to the goal.  `helper` is the thread that brings the goal nearer; every
other event either does so too or leaves the measure and the helper as they
are.
-/
structure Way
    (system : System State Event Thread)
    (goal : State → Prop)
    (Measure : Type) where
  invariant : State → Prop
  below : Measure → Measure → Prop
  wellFounded : WellFounded below
  measure : State → Measure
  helper : State → Thread
  preserved :
    ∀ {event before after},
      system.step event before = some after →
      invariant before →
      invariant after
  enabled :
    ∀ {state},
      invariant state →
      ¬ goal state →
      system.Enabled (helper state) state
  onward :
    ∀ {event before after},
      system.step event before = some after →
      invariant before →
      ¬ goal before →
      goal after ∨
        below (measure after) (measure before) ∨
        measure after = measure before ∧
          helper after = helper before ∧
          system.thread event ≠ some (helper before)

namespace Way

variable {system : System State Event Thread}
variable {goal : State → Prop}
variable {Measure : Type}

/-- As long as nothing gets nearer, the same thread is waited for. -/
theorem stays
    (way : Way system goal Measure)
    (run : Run system)
    {start : Nat}
    (invariant : way.invariant (run.state start))
    (away : ∀ time, start ≤ time → ¬ goal (run.state time))
    (still :
      ∀ time,
        start ≤ time →
        ¬ way.below (way.measure (run.state time))
          (way.measure (run.state start))) :
    ∀ time,
      start ≤ time →
      way.measure (run.state time) = way.measure (run.state start) ∧
        way.helper (run.state time) = way.helper (run.state start) ∧
        system.thread (run.event time) ≠
          some (way.helper (run.state start)) := by
  have kept := run.always way.preserved invariant
  have moved
      (time : Nat)
      (later : start ≤ time)
      (same :
        way.measure (run.state time) = way.measure (run.state start) ∧
          way.helper (run.state time) = way.helper (run.state start)) :
      way.measure (run.state (time + 1)) =
          way.measure (run.state start) ∧
        way.helper (run.state (time + 1)) =
          way.helper (run.state start) ∧
        system.thread (run.event time) ≠
          some (way.helper (run.state start)) := by
    rcases way.onward (run.valid time) (kept time later)
        (away time later) with reached | nearer | ⟨measure, helper, other⟩
    · exact absurd reached (away (time + 1) (Nat.le_succ_of_le later))
    · rw [same.1] at nearer
      exact absurd nearer (still (time + 1) (Nat.le_succ_of_le later))
    · rw [same.2] at other helper
      rw [same.1] at measure
      exact ⟨measure, helper, other⟩
  have all :
      ∀ time,
        start ≤ time →
        way.measure (run.state time) = way.measure (run.state start) ∧
          way.helper (run.state time) =
            way.helper (run.state start) := by
    intro time later
    induction time, later using Nat.le_induction with
    | base =>
        exact ⟨rfl, rfl⟩
    | succ time later inductionHypothesis =>
        obtain ⟨measure, helper, _⟩ :=
          moved time later inductionHypothesis
        exact ⟨measure, helper⟩
  intro time later
  exact ⟨(all time later).1, (all time later).2,
    (moved time later (all time later)).2.2⟩

/-- In a fair run the goal is reached, or at least comes nearer. -/
theorem nearer
    (way : Way system goal Measure)
    {run : Run system}
    (fair : run.Fair)
    {start : Nat}
    (invariant : way.invariant (run.state start)) :
    (∃ time, start ≤ time ∧ goal (run.state time)) ∨
      ∃ time,
        start ≤ time ∧
          way.below (way.measure (run.state time))
            (way.measure (run.state start)) := by
  by_contra stuck
  push Not at stuck
  obtain ⟨away, still⟩ := stuck
  have same := way.stays run invariant away still
  have kept := run.always way.preserved invariant
  obtain ⟨time, later, acts⟩ :=
    fair (way.helper (run.state start)) start fun time later => by
      have enabled := way.enabled (kept time later) (away time later)
      rw [(same time later).2.1] at enabled
      exact enabled
  exact (same time later).2.2 acts

/-- In a fair run the goal is reached from every state of the invariant. -/
theorem reaches
    (way : Way system goal Measure)
    {run : Run system}
    (fair : run.Fair)
    {start : Nat}
    (invariant : way.invariant (run.state start)) :
    ∃ time, start ≤ time ∧ goal (run.state time) := by
  -- By induction on the measure, with the starting point free.
  generalize distance : way.measure (run.state start) = measure
  induction measure using way.wellFounded.induction generalizing start with
  | h measure inductionHypothesis =>
      subst distance
      rcases way.nearer fair invariant with reached | ⟨time, later, nearer⟩
      · exact reached
      · have kept := run.always way.preserved invariant time later
        obtain ⟨end_, after, reached⟩ :=
          inductionHypothesis _ nearer kept rfl
        exact ⟨end_, later.trans after, reached⟩

end Way

/-! ## Runs that come to rest -/

/-- A state that some event of nobody leaves as it is. -/
structure System.Rest
    (system : System State Event Thread)
    (idle : Event)
    (state : State) : Prop where
  unchanged : system.step idle state = some state
  stuck : ∀ thread, ¬ system.Enabled thread state

/-- Stay in a state of rest for ever. -/
def Run.resting
    {system : System State Event Thread}
    {idle : Event}
    {state : State}
    (rest : system.Rest idle state) :
    Run system where
  state _ := state
  event _ := idle
  valid _ := rest.unchanged

/-- A system at rest owes nobody a step. -/
theorem Run.resting_fair
    {system : System State Event Thread}
    {idle : Event}
    {state : State}
    (rest : system.Rest idle state) :
    (Run.resting rest).Fair := by
  intro thread start able
  exact absurd (able start (Nat.le_refl start)) (rest.stuck thread)

/-- Put one event before a run. -/
def Run.cons
    {system : System State Event Thread}
    {first : State}
    (event : Event)
    (run : Run system)
    (stepped : system.step event first = some (run.state 0)) :
    Run system where
  state
    | 0 => first
    | time + 1 => run.state time
  event
    | 0 => event
    | time + 1 => run.event time
  valid
    | 0 => stepped
    | time + 1 => run.valid time

/-- One step before a fair run leaves it fair. -/
theorem Run.cons_fair
    {system : System State Event Thread}
    {first : State}
    {event : Event}
    {run : Run system}
    (stepped : system.step event first = some (run.state 0))
    (fair : run.Fair) :
    (run.cons event stepped).Fair := by
  intro thread start able
  obtain ⟨time, later, acts⟩ :=
    fair thread start fun time later =>
      able (time + 1) (Nat.le_succ_of_le later)
  exact ⟨time + 1, Nat.le_succ_of_le later, acts⟩

/-- Events that lead to a state of rest begin a fair run. -/
theorem System.exists_fair
    {system : System State Event Thread}
    {idle : Event}
    {last : State}
    (rest : system.Rest idle last)
    {events : List Event}
    {first : State}
    (performed :
      events.foldlM (fun state event => system.step event state) first =
        some last) :
    ∃ run : Run system, run.Fair ∧ run.state 0 = first := by
  induction events generalizing first with
  | nil =>
      cases performed
      exact ⟨.resting rest, Run.resting_fair rest, rfl⟩
  | cons event later inductionHypothesis =>
      rw [List.foldlM_cons] at performed
      obtain ⟨middle, stepped, performed⟩ :=
        Option.bind_eq_some_iff.mp performed
      obtain ⟨run, fair, begins⟩ := inductionHypothesis performed
      rw [← begins] at stepped
      exact ⟨run.cons event stepped, Run.cons_fair stepped fair, rfl⟩

end FairSchedule

/-! ## Programs get smaller -/

namespace Interleaving.Prog

variable {State Result : Type}

/-- What is left of a program after its first step. -/
inductive Shorter : Prog State Result → Prog State Result → Prop where
  | step
      (effect : State → State)
      (next : State → Prog State Result)
      (state : State) :
      Shorter (next state) (.step effect next)

/-- A program gets shorter only so often. -/
theorem shorter_wellFounded :
    WellFounded (@Shorter State Result) := by
  constructor
  intro program
  induction program with
  | done result =>
      exact ⟨_, nofun⟩
  | step effect next inductionHypothesis =>
      refine ⟨_, ?_⟩
      rintro shorter ⟨_, _, state⟩
      exact inductionHypothesis state

end Interleaving.Prog
