import AfXdp.Interleaving

namespace Interleaving

/-!
# Runs of a program beside another party

A machine owns one thread of control that issues calls, one after the other,
and an environment that may step at any moment.  A run is the list of events
that happened: a call was issued, the pending program took one atomic step, or
the environment took one.  Everything is executable, so that a run can be
replayed, and every prefix of a run is again a run.
-/

/-- The calls a thread may issue, their code, and the environment's steps. -/
structure Machine (State Call Env : Type) where
  code :
    Call → Prog State Unit
  ready :
    Call → State → Bool
  env :
    Env → State → Option State

/-- What can happen next in a run. -/
inductive Event (Call Env : Type) where
  | call (issued : Call) : Event Call Env
  | work : Event Call Env
  | env (action : Env) : Event Call Env
  deriving Repr, DecidableEq

/-- The program still to be run and the shared state. -/
structure Configuration (State : Type) where
  pending :
    Prog State Unit
  state :
    State

variable {State View Call Env : Type}

/-- No call is in progress. -/
def Configuration.AtBoundary (configuration : Configuration State) : Prop :=
  configuration.pending = .done ()

namespace Machine

/-- Perform one event, if it is possible now. -/
def next
    (machine : Machine State Call Env) :
    Event Call Env → Configuration State → Option (Configuration State)
  | .call issued, ⟨.done (), state⟩ =>
      if machine.ready issued state then
        some ⟨machine.code issued, state⟩
      else
        none
  | .call _, ⟨.step _ _, _⟩ =>
      none
  | .work, ⟨.done (), _⟩ =>
      none
  | .work, ⟨.step effect rest, state⟩ =>
      some ⟨rest state, effect state⟩
  | .env action, ⟨pending, state⟩ =>
      (machine.env action state).map fun after => ⟨pending, after⟩

/-- Perform a list of events. -/
def run
    (machine : Machine State Call Env) :
    List (Event Call Env) →
      Configuration State →
      Option (Configuration State)
  | [], configuration =>
      some configuration
  | event :: later, configuration =>
      (machine.next event configuration).bind (machine.run later)

variable {machine : Machine State Call Env}

/--
The run rule: a property of configurations that every event of the run
preserves holds at its end.
-/
theorem run_induction
    {property : Configuration State → Prop}
    {events : List (Event Call Env)}
    {start final : Configuration State}
    (preserved :
      ∀ {event before after},
        event ∈ events →
        machine.next event before = some after →
        property before →
        property after)
    (ran : machine.run events start = some final)
    (initially : property start) :
    property final := by
  induction events generalizing start with
  | nil =>
      cases ran
      exact initially
  | cons event rest inductionHypothesis =>
      simp only [run, Option.bind_eq_some_iff] at ran
      obtain ⟨middle, first, later⟩ := ran
      exact inductionHypothesis
        (fun member => preserved (List.mem_cons_of_mem _ member))
        later
        (preserved List.mem_cons_self first initially)

/-- A run can be continued by one more event. -/
theorem run_snoc
    {events : List (Event Call Env)}
    {event : Event Call Env}
    {start middle final : Configuration State}
    (ran : machine.run events start = some middle)
    (performed : machine.next event middle = some final) :
    machine.run (events ++ [event]) start = some final := by
  induction events generalizing start with
  | nil =>
      cases ran
      simp [run, performed]
  | cons first rest inductionHypothesis =>
      simp only [run, Option.bind_eq_some_iff] at ran
      obtain ⟨next, stepped, later⟩ := ran
      simp only [List.cons_append, run, Option.bind_eq_some_iff]
      exact ⟨next, stepped, inductionHypothesis later⟩

/-- Left alone, every program comes to its end. -/
theorem run_finishes
    (program : Prog State Unit)
    (state : State) :
    ∃ count after,
      machine.run (List.replicate count .work) ⟨program, state⟩ =
        some ⟨.done (), after⟩ := by
  induction program generalizing state with
  | done result =>
      exact ⟨0, state, rfl⟩
  | step effect rest inductionHypothesis =>
      obtain ⟨count, after, ran⟩ :=
        inductionHypothesis state (effect state)
      exact ⟨count + 1, after, ran⟩

/-- The environment's steps, whichever action was chosen. -/
def Interferes
    (machine : Machine State Call Env)
    (before after : State) : Prop :=
  ∃ action, machine.env action before = some after

/--
Inside its code a thread owes the promise of that code's triple; between two
calls it owes the assertion `between`.
-/
structure Sound
    (machine : Machine State Call Env)
    (setting : Setting State View)
    (between : Assertion setting)
    (configuration : Configuration State) : Prop where
  invariant :
    setting.invariant configuration.state
  promise :
    Guaranteed setting (fun _ => between)
      configuration.pending configuration.state

/--
What one event can do: the environment interferes, the thread issues a call
and changes nothing, or it takes one guaranteed step.
-/
inductive Moves
    (machine : Machine State Call Env)
    (setting : Setting State View) :
    Event Call Env → State → State → Prop where
  | interference
      {action : Env}
      {before after : State}
      (performed : machine.env action before = some after)
      (interfered : setting.interfere before after) :
      Moves machine setting (.env action) before after
  | issue (issued : Call) (state : State) :
      Moves machine setting (.call issued) state state
  | worked
      {before after : State}
      (guaranteed : setting.guarantee before after) :
      Moves machine setting .work before after

section Soundness

variable {setting : Setting State View}
variable {between : Assertion setting}

/-- One event keeps a sound configuration sound and moves as described. -/
theorem next_sound
    (interferes :
      ∀ {before after},
        machine.Interferes before after →
        setting.interfere before after)
    {event : Event Call Env}
    (calls :
      ∀ issued state,
        event = .call issued →
        setting.invariant state →
        between.holds state →
        machine.ready issued state = true →
        Guaranteed setting (fun _ => between)
          (machine.code issued) state)
    {before after : Configuration State}
    (happened : machine.next event before = some after)
    (sound : machine.Sound setting between before) :
    machine.Sound setting between after ∧
      machine.Moves setting event before.state after.state := by
  obtain ⟨pending, state⟩ := before
  cases event with
  | call issued =>
      cases pending with
      | done result =>
          simp only [next, Option.ite_none_right_eq_some,
            Option.some.injEq] at happened
          obtain ⟨isReady, rfl⟩ := happened
          exact ⟨⟨sound.invariant,
            calls issued state rfl sound.invariant sound.promise isReady⟩,
            .issue issued state⟩
      | step effect rest =>
          simp [next] at happened
  | work =>
      cases pending with
      | done result =>
          simp [next] at happened
      | step effect rest =>
          simp only [next, Option.some.injEq] at happened
          subst happened
          obtain ⟨kept, guaranteed, promised⟩ := sound.promise.step
          exact ⟨⟨kept, promised⟩, .worked guaranteed⟩
  | env action =>
      simp only [next, Option.map_eq_some_iff] at happened
      obtain ⟨reached, stepped, rfl⟩ := happened
      have interference := interferes ⟨action, stepped⟩
      exact ⟨⟨setting.kept interference sound.invariant,
        sound.promise.stable interference sound.invariant⟩,
        .interference stepped interference⟩

/--
Soundness of triples for runs.  If every call that the thread issues meets its
triple, then every configuration of the run is sound.
-/
theorem run_sound
    (interferes :
      ∀ {before after},
        machine.Interferes before after →
        setting.interfere before after)
    {events : List (Event Call Env)}
    (calls :
      ∀ issued state,
        .call issued ∈ events →
        setting.invariant state →
        between.holds state →
        machine.ready issued state = true →
        Guaranteed setting (fun _ => between)
          (machine.code issued) state)
    {start final : Configuration State}
    (ran : machine.run events start = some final)
    (initially : machine.Sound setting between start) :
    machine.Sound setting between final := by
  refine run_induction ?_ ran initially
  intro event before after member happened sound
  refine (next_sound interferes ?_ happened sound).1
  intro issued state same
  subst same
  exact calls issued state member

/--
A further invariant needs no program proof: it is enough that it survives
every guaranteed step and every interference.
-/
theorem run_invariant
    (interferes :
      ∀ {before after},
        machine.Interferes before after →
        setting.interfere before after)
    {events : List (Event Call Env)}
    (calls :
      ∀ issued state,
        .call issued ∈ events →
        setting.invariant state →
        between.holds state →
        machine.ready issued state = true →
        Guaranteed setting (fun _ => between)
          (machine.code issued) state)
    (property : State → Prop)
    (preserved :
      ∀ {event before after},
        event ∈ events →
        machine.Moves setting event before after →
        setting.invariant before →
        property before →
        property after)
    {start final : Configuration State}
    (ran : machine.run events start = some final)
    (initially : machine.Sound setting between start)
    (held : property start.state) :
    property final.state := by
  let soundAnd : Configuration State → Prop := fun configuration =>
    machine.Sound setting between configuration ∧
      property configuration.state
  have kept :
      ∀ {event before after},
        event ∈ events →
        machine.next event before = some after →
        soundAnd before →
        soundAnd after := by
    intro event before after member happened held
    obtain ⟨sound, moved⟩ :=
      next_sound interferes
        (fun issued state same =>
          calls issued state (same ▸ member))
        happened held.1
    exact ⟨sound, preserved member moved held.1.invariant held.2⟩
  exact (run_induction kept ran ⟨initially, held⟩).2

end Soundness

/-- At a call boundary the assertion between two calls holds. -/
theorem Sound.between_holds
    {setting : Setting State View}
    {between : Assertion setting}
    {configuration : Configuration State}
    (sound : machine.Sound setting between configuration)
    (boundary : configuration.AtBoundary) :
    between.holds configuration.state := by
  have promise := sound.promise
  rw [boundary] at promise
  exact promise

end Machine

end Interleaving
