import AfXdp.InterleavingMachine

namespace Interleaving

/-!
# Complete runs of one program

A run of one program from its first step to its result, with any number of
steps of the other party in between.  The run remembers the states in which
the program took its steps, so that a statement can speak about the moment of
one particular access.
-/

variable {State View Result Other : Type}

/--
`Runs interfere program start moments result final`: started in `start`, the
program takes its steps in the states `moments`, returns `result`, and the
state is then `final`.  The other party may step at any time, also after the
last step of the program.
-/
inductive Runs (interfere : State → State → Prop) :
    Prog State Result → State → List State → Result → State → Prop where
  | done
      (result : Result)
      (state : State) :
      Runs interfere (.done result) state [] result state
  | interfered
      {program : Prog State Result}
      {start middle final : State}
      {moments : List State}
      {result : Result}
      (interference : interfere start middle)
      (rest : Runs interfere program middle moments result final) :
      Runs interfere program start moments result final
  | step
      {effect : State → State}
      {next : State → Prog State Result}
      {start final : State}
      {moments : List State}
      {result : Result}
      (rest :
        Runs interfere (next start) (effect start)
          moments result final) :
      Runs interfere (.step effect next) start
        (start :: moments) result final

namespace Runs

variable {interfere : State → State → Prop}
variable {start final : State}
variable {moments : List State}

/-- Every program has a run. -/
theorem total
    (interfere : State → State → Prop)
    (program : Prog State Result)
    (start : State) :
    ∃ moments result final,
      Runs interfere program start moments result final := by
  induction program generalizing start with
  | done result =>
      exact ⟨[], result, start, .done result start⟩
  | step effect next inductionHypothesis =>
      obtain ⟨moments, result, final, rest⟩ :=
        inductionHypothesis start (effect start)
      exact ⟨start :: moments, result, final, .step rest⟩

/-! ## What a run of each construct consists of -/

/-- A program that is done has no moments left. -/
theorem done_inv
    {value result : Result}
    (runs :
      Runs interfere (.done value) start moments result final) :
    moments = [] ∧ result = value ∧
      Relation.ReflTransGen interfere start final := by
  generalize program : Prog.done value = finished at runs
  induction runs with
  | done result state =>
      cases program
      exact ⟨rfl, rfl, .refl⟩
  | interfered interference _ inductionHypothesis =>
      obtain ⟨none, same, later⟩ := inductionHypothesis program
      exact ⟨none, same, .head interference later⟩
  | step =>
      cases program

/-- The first step is taken in some later state. -/
theorem step_inv
    {effect : State → State}
    {next : State → Prog State Result}
    {result : Result}
    (runs :
      Runs interfere (.step effect next) start moments result final) :
    ∃ moment later,
      Relation.ReflTransGen interfere start moment ∧
        moments = moment :: later ∧
        Runs interfere (next moment) (effect moment)
          later result final := by
  generalize program : Prog.step effect next = stepping at runs
  induction runs with
  | done =>
      cases program
  | interfered interference _ inductionHypothesis =>
      obtain ⟨moment, later, reached, shape, rest⟩ :=
        inductionHypothesis program
      exact ⟨moment, later, .head interference reached, shape, rest⟩
  | step rest =>
      cases program
      exact ⟨_, _, .refl, rfl, rest⟩

/-- A single step has one moment, and its result is taken there. -/
theorem act_inv
    {action : State → Result × State}
    {result : Result}
    (runs :
      Runs interfere (Prog.act action) start moments result final) :
    ∃ moment,
      Relation.ReflTransGen interfere start moment ∧
        moments = [moment] ∧
        result = (action moment).1 ∧
        Relation.ReflTransGen interfere (action moment).2 final := by
  obtain ⟨moment, later, reached, rfl, rest⟩ := runs.step_inv
  obtain ⟨rfl, same, after⟩ := rest.done_inv
  exact ⟨moment, reached, rfl, same, after⟩

/-- A run of a sequence is a run of its first part and one of the rest. -/
theorem bind_inv
    {program : Prog State Result}
    {later : Result → Prog State Other}
    {result : Other}
    (runs :
      Runs interfere (program >>= later) start
        moments result final) :
    ∃ earlier value middle rest,
      Runs interfere program start earlier value middle ∧
        Runs interfere (later value) middle rest result final ∧
        moments = earlier ++ rest := by
  change Runs interfere (program.bind later) _ _ _ _ at runs
  induction program generalizing start moments with
  | done value =>
      exact ⟨[], value, start, moments, .done value start, runs, rfl⟩
  | step effect next inductionHypothesis =>
      obtain ⟨moment, after, reached, rfl, rest⟩ := runs.step_inv
      obtain ⟨earlier, value, middle, others, first, second, shape⟩ :=
        inductionHypothesis moment rest
      refine ⟨moment :: earlier, value, middle, others, ?_, second,
        congrArg (moment :: ·) shape⟩
      have stepped :
          Runs interfere (.step effect next) moment
            (moment :: earlier) value middle :=
        .step first
      clear runs rest
      induction reached using Relation.ReflTransGen.head_induction_on with
      | refl =>
          exact stepped
      | head interference _ inductionHypothesis =>
          exact .interfered interference inductionHypothesis

/-! ## Putting runs together -/

/-- The other party may go on after the end of a run. -/
theorem then_interfered
    {program : Prog State Result}
    {result : Result}
    {later : State}
    (runs : Runs interfere program start moments result final)
    (interference : Relation.ReflTransGen interfere final later) :
    Runs interfere program start moments result later := by
  induction runs with
  | done result state =>
      induction interference using
          Relation.ReflTransGen.head_induction_on with
      | refl =>
          exact .done result later
      | head first _ inductionHypothesis =>
          exact .interfered first inductionHypothesis
  | interfered first _ inductionHypothesis =>
      exact .interfered first (inductionHypothesis interference)
  | step _ inductionHypothesis =>
      exact .step (inductionHypothesis interference)

/-- Runs in sequence are a run of the sequence. -/
theorem bind
    {program : Prog State Result}
    {later : Result → Prog State Other}
    {middle : State}
    {others : List State}
    {value : Result}
    {result : Other}
    (first : Runs interfere program start moments value middle)
    (rest : Runs interfere (later value) middle others result final) :
    Runs interfere (program >>= later) start
      (moments ++ others) result final := by
  induction first with
  | done =>
      exact rest
  | interfered interference _ inductionHypothesis =>
      exact .interfered interference (inductionHypothesis rest)
  | step _ inductionHypothesis =>
      exact .step (inductionHypothesis rest)

/-! ## Runs of specified programs -/

variable {setting : Setting State View}

/-- A run of a program that meets its promise ends in its postcondition. -/
theorem keeps
    {post : Result → Assertion setting}
    {program : Prog State Result}
    {result : Result}
    (runs :
      Runs setting.interfere program start moments result final)
    (invariant : setting.invariant start)
    (promise : Guaranteed setting post program start) :
    setting.invariant final ∧ (post result).holds final := by
  induction runs with
  | done =>
      exact ⟨invariant, promise⟩
  | interfered interference _ inductionHypothesis =>
      exact inductionHypothesis
        (setting.kept interference invariant)
        (promise.stable interference invariant)
  | step _ inductionHypothesis =>
      obtain ⟨kept, _, promised⟩ := promise.step
      exact inductionHypothesis kept promised

end Runs

/-! ## The effects a program can have -/

namespace Prog

/-- Every step that the program can take has an allowed effect. -/
def Uses (allowed : (State → State) → Prop) :
    Prog State Result → Prop
  | .done _ =>
      True
  | .step effect next =>
      allowed effect ∧ ∀ state, (next state).Uses allowed

namespace Uses

variable {allowed : (State → State) → Prop}

/-- A program that is done uses nothing. -/
theorem done (result : Result) :
    Uses allowed (.done result : Prog State Result) :=
  trivial

/-- What is allowed may be widened. -/
theorem mono
    {wider : (State → State) → Prop}
    {program : Prog State Result}
    (uses : program.Uses allowed)
    (wide : ∀ effect, allowed effect → wider effect) :
    program.Uses wider := by
  induction program with
  | done =>
      exact trivial
  | step effect next inductionHypothesis =>
      exact ⟨wide effect uses.1, fun state =>
        inductionHypothesis state (uses.2 state)⟩

/-- A single step uses its own effect. -/
theorem act
    {action : State → Result × State}
    (isAllowed : allowed fun state => (action state).2) :
    (Prog.act action).Uses allowed :=
  ⟨isAllowed, fun _ => trivial⟩

/-- A sequence uses what its parts use. -/
theorem bind
    {program : Prog State Result}
    {later : Result → Prog State Other}
    (first : program.Uses allowed)
    (rest : ∀ result, (later result).Uses allowed) :
    Uses allowed (program >>= later) := by
  induction program with
  | done result =>
      exact rest result
  | step effect next inductionHypothesis =>
      exact ⟨first.1, fun state =>
        inductionHypothesis state (first.2 state)⟩

/-- The body is used or nothing is. -/
theorem when
    {condition : Prop} [Decidable condition]
    {program : Prog State Unit}
    (uses : program.Uses allowed) :
    (Prog.when condition program).Uses allowed := by
  unfold Prog.when
  split
  · exact uses
  · exact trivial

/-- A loop uses what its body uses. -/
theorem forRange
    {count : Nat}
    {body : Nat → Prog State Unit}
    (each : ∀ index, (body index).Uses allowed) :
    (Prog.forRange count body).Uses allowed := by
  unfold Prog.forRange
  generalize 0 = index
  induction count generalizing index with
  | zero =>
      exact trivial
  | succ count inductionHypothesis =>
      exact bind (each index) fun _ => inductionHypothesis (index + 1)

end Uses

end Prog

section Invariants

variable {setting : Setting State View}

/--
A program all of whose effects keep the invariant and an assertion needs no
specification of its own.
-/
theorem Guaranteed.of_uses
    {assertion : Assertion setting}
    (free : ∀ before after, setting.guarantee before after)
    {program : Prog State Result}
    (uses :
      program.Uses fun effect =>
        ∀ state,
          setting.invariant state →
          assertion.holds state →
            setting.invariant (effect state) ∧
              assertion.holds (effect state))
    {state : State}
    (invariant : setting.invariant state)
    (held : assertion.holds state) :
    Guaranteed setting (fun _ => assertion) program state := by
  induction program generalizing state with
  | done =>
      exact held
  | step effect next inductionHypothesis =>
      intro reached interference
      obtain ⟨keptInvariant, kept⟩ :=
        Setting.interference_keeps assertion interference invariant held
      obtain ⟨invariantAfter, heldAfter⟩ :=
        uses.1 reached keptInvariant kept
      exact ⟨invariantAfter, free _ _,
        inductionHypothesis reached (uses.2 reached)
          invariantAfter heldAfter⟩

/--
A property that interference and the program's guaranteed steps of an allowed
kind keep holds at every moment of a run and at its end.
-/
theorem Runs.preserves
    {post : Result → Assertion setting}
    {allowed : (State → State) → Prop}
    (property : State → Prop)
    (interfered :
      ∀ {before after},
        setting.interfere before after →
        setting.invariant before →
        property before →
        property after)
    (stepped :
      ∀ {effect state},
        allowed effect →
        setting.invariant state →
        setting.guarantee state (effect state) →
        property state →
        property (effect state))
    {program : Prog State Result}
    {start final : State}
    {moments : List State}
    {result : Result}
    (runs :
      Runs setting.interfere program start moments result final)
    (uses : program.Uses allowed)
    (invariant : setting.invariant start)
    (promise : Guaranteed setting post program start)
    (held : property start) :
    property final ∧ ∀ moment ∈ moments, property moment := by
  induction runs with
  | done =>
      exact ⟨held, fun _ member => absurd member List.not_mem_nil⟩
  | interfered interference _ inductionHypothesis =>
      exact inductionHypothesis uses
        (setting.kept interference invariant)
        (promise.stable interference invariant)
        (interfered interference invariant held)
  | @step effect _ start _ _ _ _ inductionHypothesis =>
      obtain ⟨kept, guaranteed, promised⟩ := promise.step
      obtain ⟨atEnd, atMoments⟩ :=
        inductionHypothesis (uses.2 start) kept promised
          (stepped uses.1 invariant guaranteed held)
      refine ⟨atEnd, ?_⟩
      intro moment member
      rcases List.mem_cons.mp member with rfl | later
      · exact held
      · exact atMoments moment later

end Invariants

end Interleaving
