import AfXdp.InterleavingMachine

namespace Interleaving

/-!
# Two runs side by side

A relation between two runs that perform the same events.  `alike` relates
their states; two programs are in lockstep when they take the same number of
steps from states that are alike, whatever the parts that `alike` leaves open
have in them, and every step leads to states that are alike again.
-/

variable {State Result Other Call Env : Type}

/--
Two programs that take the same number of steps: from states that are alike
each step leads to states that are alike, and the results agree.
-/
inductive Lockstep
    (alike : State → State → Prop)
    (agree : Result → Result → Prop) :
    Prog State Result → Prog State Result → Prop where
  | done
      {one two : Result}
      (agreed : agree one two) :
      Lockstep alike agree (.done one) (.done two)
  | step
      {effectOne effectTwo : State → State}
      {nextOne nextTwo : State → Prog State Result}
      (effects :
        ∀ {one two},
          alike one two →
          alike (effectOne one) (effectTwo two))
      (nexts :
        ∀ {one two},
          alike one two →
          Lockstep alike agree (nextOne one) (nextTwo two)) :
      Lockstep alike agree
        (.step effectOne nextOne) (.step effectTwo nextTwo)

namespace Lockstep

variable {alike : State → State → Prop}
variable {agree : Result → Result → Prop}
variable {agreeOther : Other → Other → Prop}

/-- What follows may depend on the two results, as far as they agree. -/
theorem bind
    {one two : Prog State Result}
    {laterOne laterTwo : Result → Prog State Other}
    (first : Lockstep alike agree one two)
    (later :
      ∀ {resultOne resultTwo},
        agree resultOne resultTwo →
        Lockstep alike agreeOther
          (laterOne resultOne) (laterTwo resultTwo)) :
    Lockstep alike agreeOther
      (one >>= laterOne) (two >>= laterTwo) := by
  induction first with
  | done agreed =>
      exact later agreed
  | step effects _ inductionHypothesis =>
      exact .step effects fun related => inductionHypothesis related

/--
Single steps are in lockstep if they do the same to states that are alike.
-/
theorem act
    {one two : State → Result × State}
    (results :
      ∀ {before before'},
        alike before before' →
        agree (one before).1 (two before').1)
    (effects :
      ∀ {before before'},
        alike before before' →
        alike (one before).2 (two before').2) :
    Lockstep alike agree (Prog.act one) (Prog.act two) :=
  .step effects fun related => .done (results related)

/-- Steps without a result need only keep states alike. -/
theorem update
    {one two : State → State}
    (effects :
      ∀ {before before'},
        alike before before' →
        alike (one before) (two before')) :
    Lockstep alike (fun _ _ => True)
      (Prog.update one) (Prog.update two) :=
  act (fun _ => trivial) effects

/--
The condition is the same on both sides, so both run the body or neither.
-/
theorem when
    {condition : Prop} [Decidable condition]
    {one two : Prog State Unit}
    (body : Lockstep alike (fun _ _ => True) one two) :
    Lockstep alike (fun _ _ => True)
      (Prog.when condition one) (Prog.when condition two) := by
  unfold Prog.when
  split
  · exact body
  · exact .done trivial

/-- By induction on the rounds that remain. -/
theorem forFrom
    {bodyOne bodyTwo : Nat → Prog State Unit}
    (body :
      ∀ index,
        Lockstep alike (fun _ _ => True)
          (bodyOne index) (bodyTwo index))
    (remaining index : Nat) :
    Lockstep alike (fun _ _ => True)
      (Prog.forFrom bodyOne remaining index)
      (Prog.forFrom bodyTwo remaining index) := by
  induction remaining generalizing index with
  | zero =>
      exact .done trivial
  | succ remaining inductionHypothesis =>
      exact (body index).bind fun _ => inductionHypothesis (index + 1)

/-- A loop is in lockstep if its body is, round by round. -/
theorem forRange
    {bodyOne bodyTwo : Nat → Prog State Unit}
    (count : Nat)
    (body :
      ∀ index,
        Lockstep alike (fun _ _ => True)
          (bodyOne index) (bodyTwo index)) :
    Lockstep alike (fun _ _ => True)
      (Prog.forRange count bodyOne) (Prog.forRange count bodyTwo) :=
  forFrom body count 0

end Lockstep

/-- Configurations from which the same events can follow. -/
structure Configuration.Paired
    (alike : State → State → Prop)
    (one two : Configuration State) : Prop where
  pending :
    Lockstep alike (fun _ _ => True) one.pending two.pending
  state :
    alike one.state two.state

/-- The two runs are between two calls at the same moments. -/
theorem Configuration.Paired.boundary_iff
    {alike : State → State → Prop}
    {one two : Configuration State}
    (paired : Configuration.Paired alike one two) :
    one.AtBoundary ↔ two.AtBoundary := by
  obtain ⟨pending, state⟩ := one
  obtain ⟨pending', state'⟩ := two
  obtain ⟨lockstep, _⟩ := paired
  cases lockstep with
  | done =>
      exact ⟨fun _ => rfl, fun _ => rfl⟩
  | step =>
      exact ⟨nofun, nofun⟩

namespace Machine

/-- Two machines that cannot tell states apart which are alike. -/
structure Paired
    (alike : State → State → Prop)
    (one two : Machine State Call Env) : Prop where
  code :
    ∀ issued,
      Lockstep alike (fun _ _ => True)
        (one.code issued) (two.code issued)
  ready :
    ∀ {issued before before'},
      alike before before' →
      one.ready issued before = two.ready issued before'
  env :
    ∀ {action before before' after},
      alike before before' →
      one.env action before = some after →
      ∃ after',
        two.env action before' = some after' ∧
          alike after after'

variable {alike : State → State → Prop}
variable {one two : Machine State Call Env}

/-- An event that one machine can take, the other can take as well. -/
theorem Paired.next
    (paired : Paired alike one two)
    {event : Event Call Env}
    {before before' after : Configuration State}
    (stepped : one.next event before = some after)
    (together : Configuration.Paired alike before before') :
    ∃ after',
      two.next event before' = some after' ∧
        Configuration.Paired alike after after' := by
  obtain ⟨pending, state⟩ := before
  obtain ⟨pending', state'⟩ := before'
  obtain ⟨lockstep, related⟩ := together
  cases event with
  | env action =>
      obtain ⟨reached, performed, rfl⟩ :=
        Option.map_eq_some_iff.mp stepped
      obtain ⟨reached', performed', related'⟩ :=
        paired.env related performed
      refine ⟨⟨pending', reached'⟩, ?_, ⟨lockstep, related'⟩⟩
      rw [Machine.next, performed', Option.map_some]
  | call issued =>
      cases lockstep with
      | done =>
          rw [Machine.next, Option.ite_none_right_eq_some,
            Option.some.injEq] at stepped
          obtain ⟨ready, rfl⟩ := stepped
          refine ⟨⟨two.code issued, state'⟩, ?_,
            ⟨paired.code issued, related⟩⟩
          rw [Machine.next, ← paired.ready related, if_pos ready]
      | step =>
          simp only [Machine.next, reduceCtorEq] at stepped
  | work =>
      cases lockstep with
      | done =>
          simp only [Machine.next, reduceCtorEq] at stepped
      | step effects nexts =>
          cases stepped
          exact ⟨_, rfl, ⟨nexts related, effects related⟩⟩

/-- What one machine can do, the other can do as well, and stays alike. -/
theorem Paired.run
    (paired : Paired alike one two)
    {events : List (Event Call Env)}
    {start start' final : Configuration State}
    (ran : one.run events start = some final)
    (together : Configuration.Paired alike start start') :
    ∃ final',
      two.run events start' = some final' ∧
        Configuration.Paired alike final final' := by
  induction events generalizing start start' with
  | nil =>
      cases ran
      exact ⟨start', rfl, together⟩
  | cons event rest inductionHypothesis =>
      simp only [Machine.run, Option.bind_eq_some_iff] at ran
      obtain ⟨middle, first, later⟩ := ran
      obtain ⟨middle', first', related⟩ := paired.next first together
      obtain ⟨final', ran', alikeAtEnd⟩ :=
        inductionHypothesis later related
      refine ⟨final', ?_, alikeAtEnd⟩
      simp only [Machine.run, first', Option.bind_some, ran']

end Machine

end Interleaving
