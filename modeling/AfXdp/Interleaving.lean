import Mathlib.Logic.Relation

namespace Interleaving

/-!
# Programs of atomic steps under interference

A program is a finite tree of atomic steps over a shared state.  Another party
may act between any two steps, so a program is never run alone: it is judged
against a *rely* on what that party does, and every one of its steps has to
keep a state invariant and stay inside a *guarantee*.

The judgement `Triple` is the rely--guarantee one.  Its assertions are bundled
with their stability, so a proof about a program never meets interference
again: every rule below asks only for facts about one step in one state.
-/

/--
A program over `State` that returns a `Result`.  One step replaces the state
by `effect` and continues with the program `next`; both read the state in
which the step is taken.
-/
inductive Prog (State Result : Type) where
  | done (result : Result) : Prog State Result
  | step
      (effect : State → State)
      (next : State → Prog State Result) :
      Prog State Result

namespace Prog

variable {State Result Other : Type}

/-- Sequential composition. -/
def bind :
    Prog State Result →
      (Result → Prog State Other) →
      Prog State Other
  | .done result, later =>
      later result
  | .step effect next, later =>
      .step effect fun state => (next state).bind later

instance : Monad (Prog State) where
  pure :=
    Prog.done
  bind :=
    Prog.bind

/-- One atomic step that computes a result and a new state together. -/
def act (action : State → Result × State) : Prog State Result :=
  .step
    (fun state => (action state).2)
    (fun state => .done (action state).1)

/-- One atomic step that only reads. -/
def ask (read : State → Result) : Prog State Result :=
  act fun state => (read state, state)

/-- One atomic step that only writes. -/
def update (write : State → State) : Prog State Unit :=
  act fun state => ((), write state)

/-- Run a program under a condition. -/
def when
    (condition : Prop) [Decidable condition]
    (program : Prog State Unit) :
    Prog State Unit :=
  if condition then program else .done ()

/-- Run `body` for `index`, `index + 1`, and so on, `remaining` times. -/
def forFrom
    (body : Nat → Prog State Unit) :
    (remaining index : Nat) → Prog State Unit
  | 0, _ =>
      .done ()
  | remaining + 1, index =>
      (body index).bind fun _ =>
        forFrom body remaining (index + 1)

/-- The loop `for (i = 0; i < count; ++i) body(i)`. -/
def forRange
    (count : Nat)
    (body : Nat → Prog State Unit) :
    Prog State Unit :=
  forFrom body count 0

end Prog

/--
What a program is judged against: the other party's steps, the invariant that
both sides keep, the guarantee of the program's own steps, and the part of the
state that the other party cannot change.
-/
structure Setting (State View : Type) where
  interfere :
    State → State → Prop
  invariant :
    State → Prop
  guarantee :
    State → State → Prop
  view :
    State → View
  kept :
    ∀ {before after},
      interfere before after →
      invariant before →
      invariant after
  unseen :
    ∀ {before after},
      interfere before after →
      view after = view before

variable {State View Result Other : Type}

/-- A state predicate that the other party cannot falsify. -/
structure Assertion (setting : Setting State View) where
  holds :
    State → Prop
  stable :
    ∀ {before after},
      setting.interfere before after →
      setting.invariant before →
      holds before →
      holds after

namespace Assertion

variable {setting : Setting State View}

/-- Whatever is said about the program's own part of the state is stable. -/
def own
    (setting : Setting State View)
    (property : View → Prop) :
    Assertion setting where
  holds :=
    fun state => property (setting.view state)
  stable := by
    intro before after interference _ held
    rw [setting.unseen interference]
    exact held

/-- What holds of the own part holds. -/
@[simp] theorem own_holds
    (property : View → Prop)
    (state : State) :
    (own setting property).holds state ↔
      property (setting.view state) :=
  Iff.rfl

end Assertion

/-- Any number of steps of the other party. -/
abbrev Setting.Interference (setting : Setting State View) :
    State → State → Prop :=
  Relation.ReflTransGen setting.interfere

/-- Interference of any length keeps the invariant and every assertion. -/
theorem Setting.interference_keeps
    {setting : Setting State View}
    (assertion : Assertion setting)
    {before after : State}
    (interference : setting.Interference before after)
    (invariant : setting.invariant before)
    (held : assertion.holds before) :
    setting.invariant after ∧ assertion.holds after := by
  induction interference with
  | refl =>
      exact ⟨invariant, held⟩
  | tail _ last inductionHypothesis =>
      exact ⟨setting.kept last inductionHypothesis.1,
        assertion.stable last inductionHypothesis.1
          inductionHypothesis.2⟩

/--
From `state`, whatever the other party does before each step, every step of
the program keeps the invariant and stays inside the guarantee, and a finished
program satisfies `post`.
-/
def Guaranteed
    (setting : Setting State View)
    (post : Result → Assertion setting) :
    Prog State Result → State → Prop
  | .done result, state =>
      (post result).holds state
  | .step effect next, state =>
      ∀ reached,
        setting.Interference state reached →
        setting.invariant (effect reached) ∧
          setting.guarantee reached (effect reached) ∧
          Guaranteed setting post (next reached) (effect reached)

namespace Guaranteed

variable {setting : Setting State View}

/-- A promise about the rest of a program survives interference. -/
theorem stable
    {post : Result → Assertion setting}
    {program : Prog State Result}
    {before after : State}
    (promise : Guaranteed setting post program before)
    (interference : setting.interfere before after)
    (invariant : setting.invariant before) :
    Guaranteed setting post program after := by
  cases program with
  | done result =>
      exact (post result).stable interference invariant promise
  | step effect next =>
      intro reached later
      exact promise reached (.head interference later)

/-- The promise about a step covers taking it at once. -/
theorem step
    {post : Result → Assertion setting}
    {effect : State → State}
    {next : State → Prog State Result}
    {state : State}
    (promise : Guaranteed setting post (.step effect next) state) :
    setting.invariant (effect state) ∧
      setting.guarantee state (effect state) ∧
      Guaranteed setting post (next state) (effect state) :=
  promise state .refl

/-- Compose the promise about a program with one about its continuation. -/
theorem bind
    {middle : Result → Assertion setting}
    {post : Other → Assertion setting}
    {program : Prog State Result}
    {later : Result → Prog State Other}
    (rest :
      ∀ result state,
        setting.invariant state →
        (middle result).holds state →
        Guaranteed setting post (later result) state)
    {state : State}
    (invariant : setting.invariant state)
    (promise : Guaranteed setting middle program state) :
    Guaranteed setting post (program.bind later) state := by
  induction program generalizing state with
  | done result =>
      exact rest result state invariant promise
  | step effect next inductionHypothesis =>
      intro reached interference
      obtain ⟨kept, guaranteed, promised⟩ :=
        promise reached interference
      exact ⟨kept, guaranteed,
        inductionHypothesis reached kept promised⟩

end Guaranteed

/--
Started in a state of the invariant that satisfies `pre`, the program keeps
the invariant and the guarantee at every step and can only finish in `post`.
-/
def Triple
    (setting : Setting State View)
    (pre : Assertion setting)
    (program : Prog State Result)
    (post : Result → Assertion setting) : Prop :=
  ∀ state,
    setting.invariant state →
    pre.holds state →
    Guaranteed setting post program state

namespace Triple

variable {setting : Setting State View}
variable {pre : Assertion setting}

/-- Returning a value takes no step. -/
theorem done
    {post : Result → Assertion setting}
    {result : Result}
    (finished :
      ∀ state,
        setting.invariant state →
        pre.holds state →
        (post result).holds state) :
    Triple setting pre (.done result) post :=
  finished

/-- It is enough to start from each possible own part of the state. -/
theorem each
    {property : View → Prop}
    {program : Prog State Result}
    {post : Result → Assertion setting}
    (separately :
      ∀ view,
        property view →
        Triple setting (.own setting (· = view)) program post) :
    Triple setting (.own setting property) program post :=
  fun state invariant held =>
    separately (setting.view state) held state invariant rfl

/-- An atomic action is judged in the one state in which it is taken. -/
theorem act
    {action : State → Result × State}
    {post : Result → Assertion setting}
    (effect :
      ∀ state,
        setting.invariant state →
        pre.holds state →
        setting.invariant (action state).2 ∧
          setting.guarantee state (action state).2 ∧
          (post (action state).1).holds (action state).2) :
    Triple setting pre (Prog.act action) post := by
  intro state invariant held reached interference
  obtain ⟨keptInvariant, keptPre⟩ :=
    Setting.interference_keeps pre interference invariant held
  exact effect reached keptInvariant keptPre

/-- Sequential composition. -/
theorem bind
    {program : Prog State Result}
    {later : Result → Prog State Other}
    {middle : Result → Assertion setting}
    {post : Other → Assertion setting}
    (first : Triple setting pre program middle)
    (rest :
      ∀ result,
        Triple setting (middle result) (later result) post) :
    Triple setting pre (program >>= later) post := by
  intro state invariant held
  exact Guaranteed.bind rest invariant (first state invariant held)

/-- Strengthen the precondition under the invariant. -/
theorem strengthen
    {stronger : Assertion setting}
    {program : Prog State Result}
    {post : Result → Assertion setting}
    (triple : Triple setting pre program post)
    (implied :
      ∀ state,
        setting.invariant state →
        stronger.holds state →
        pre.holds state) :
    Triple setting stronger program post := by
  intro state invariant held
  exact triple state invariant (implied state invariant held)

/-- Weaken the postcondition under the invariant. -/
theorem weaken
    {program : Prog State Result}
    {post weaker : Result → Assertion setting}
    (triple : Triple setting pre program post)
    (implied :
      ∀ result state,
        setting.invariant state →
        (post result).holds state →
        (weaker result).holds state) :
    Triple setting pre program weaker := by
  have widened :
      Triple setting pre (program.bind Prog.done) weaker :=
    triple.bind fun result => done (implied result)
  have unit : program.bind Prog.done = program := by
    clear triple widened
    induction program with
    | done result =>
        rfl
    | step effect next inductionHypothesis =>
        simp only [Prog.bind, inductionHypothesis]
  rwa [unit] at widened

/--
The loop rule: `loop index` holds before the iteration for `index` and the
body re-establishes it for the next one.
-/
theorem forFrom
    {body : Nat → Prog State Unit}
    {loop : Nat → Assertion setting}
    {count : Nat}
    (iteration :
      ∀ index,
        index < count →
        Triple setting (loop index) (body index)
          (fun _ => loop (index + 1)))
    {remaining index : Nat}
    (bounded : index + remaining = count) :
    Triple setting (loop index)
      (Prog.forFrom body remaining index)
      (fun _ => loop count) := by
  induction remaining generalizing index with
  | zero =>
      have atEnd : index = count := by omega
      subst atEnd
      exact done fun _ _ held => held
  | succ remaining inductionHypothesis =>
      exact (iteration index (by omega)).bind fun _ =>
        inductionHypothesis (by omega)

/-- A loop over a range. -/
theorem forRange
    {body : Nat → Prog State Unit}
    (loop : Nat → Assertion setting)
    {count : Nat}
    (iteration :
      ∀ index,
        index < count →
        Triple setting (loop index) (body index)
          (fun _ => loop (index + 1))) :
    Triple setting (loop 0)
      (Prog.forRange count body)
      (fun _ => loop count) :=
  forFrom iteration (Nat.zero_add count)

end Triple

end Interleaving
