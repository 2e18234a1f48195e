import AfXdp.AnyCaller
import AfXdp.RingTransparency

namespace AfXdp

open Interleaving
open SequenceIndex

/-!
# `refill_fill` moves frames without loss

What one call of `refill_fill` does, whatever the allocator holds and whatever
happened on the Fill ring before, with the kernel consuming all the while.
-/

namespace Xsk

/-- `refill_fill` up to its publication. -/
def fillUnpublished : Task Nat := do
  let window ← Prog.act fillWindow
  fillLoop window.start window.amount.toNat 0

/-- The loop does nothing but push. -/
theorem fillLoop_uses
    {allowed : (World → World) → Prop}
    (push : ∀ index, allowed fun world => (fillPush index world).2)
    (start : UInt32)
    (remaining pushed : Nat) :
    (fillLoop start remaining pushed).Uses allowed := by
  induction remaining generalizing pushed with
  | zero =>
      exact .done pushed
  | succ remaining inductionHypothesis =>
      refine .bind (.act (push _)) fun popped => ?_
      split
      · exact inductionHypothesis (pushed + 1)
      · exact .done pushed

/-- No step of `refill_fill` moves the kernel's index. -/
theorem refillFill_keeps_taken :
    refillFill.Uses fun effect =>
      ∀ world : World, (effect world).fill.taken = world.fill.taken := by
  refine .bind (.act fun _ => rfl) fun window => ?_
  refine .bind (fillLoop_uses ?_ _ _ _) fun pushed => ?_
  · intro index world
    change (fillPush index world).2.fill.taken = world.fill.taken
    exact fillPush_branches rfl fun _ _ => rfl
  · exact .bind (.when (.act fun _ => rfl)) fun _ => .done _

end Xsk

/-- The kernel only moves forward on Fill. -/
theorem KernelStep.fill_taken_le
    {config : Config}
    {admits : List UInt8 → Bool}
    {step : KernelStep}
    {before after : World}
    (performed : step.perform config admits before = some after) :
    before.fill.taken ≤ after.fill.taken := by
  obtain ⟨_, rfl⟩ := perform_eq_some.mp performed
  cases step with
  | takeFill =>
      exact Nat.le_succ _
  | _ =>
      exact Nat.le_refl _

namespace Scenario

variable {scenario : Scenario}

/-- A query for the whole Fill ring is granted what is free at that moment. -/
theorem fillWindow_amount
    {world : World}
    (rings : RingsInOrder scenario.config world) :
    (Xsk.fillWindow world).1.amount.toNat =
      2 ^ scenario.config.fillOrder.val -
        world.fill.ring.occupancy.toNat := by
  rw [rings.fill.occupancy_toNat]
  exact rings.fill.writableRange_capacity

/-- The parts of a run: the query, then the loop and the publication. -/
structure FillRun
    (scenario : Scenario)
    (start : World)
    (moments : List World)
    (pushed : UInt32)
    (after loaded : World) : Prop where
  loads :
    ∃ later, moments = loaded :: later
  rings :
    RingsInOrder scenario.config after
  amount :
    pushed.toNat =
      min
        (2 ^ scenario.config.fillOrder.val -
          loaded.fill.ring.occupancy.toNat)
        start.allocator.frames.length
  log :
    after.fill.log =
      start.fill.log ++ start.allocator.frames.take pushed.toNat
  allocator :
    after.allocator =
      { start.allocator with
        frames := start.allocator.frames.drop pushed.toNat }
  unpublished :
    pushed = 0 →
      Runs scenario.Interferes Xsk.fillUnpublished
        start moments 0 after

/-- If nothing is pushed, the run ends with the loop. -/
theorem fillFrom_unpublished
    {window : Range}
    {middle after : World}
    {staging : Staging}
    {later : List World}
    (rings : RingsInOrder scenario.config middle)
    (atMiddle : middle.staging = staging)
    (startsAt : window.start = stored staging.fillLog.length)
    (closed : staging.fillWindow = [])
    (room :
      staging.fillLog.length + window.amount.toNat ≤
        staging.fillSeen + 2 ^ scenario.config.fillOrder.val)
    (nothing :
      min window.amount.toNat staging.allocator.frames.length = 0)
    (runs :
      Runs scenario.Interferes (Xsk.fillFrom window)
        middle later 0 after) :
    Runs scenario.Interferes
      (Xsk.fillLoop window.start window.amount.toNat 0)
      middle later 0 after := by
  obtain ⟨turns, total, ended, others, loop, publication, rfl⟩ :=
    runs.bind_inv
  have looped :=
    @fillLoop_triple scenario staging window.start
      window.amount.toNat 0 startsAt (congrArg List.length closed) room
  obtain ⟨_, totalIs, _⟩ :=
    loop.keeps rings (looped middle rings atMiddle)
  obtain rfl : total = 0 := by
    rw [totalIs, nothing]
  obtain ⟨_, _, _, _, skipped, returned, rfl⟩ := publication.bind_inv
  obtain ⟨rfl, _, quiet⟩ := skipped.done_inv
  obtain ⟨rfl, _, stillQuiet⟩ := returned.done_inv
  rw [List.append_nil, List.append_nil]
  exact loop.then_interfered (quiet.trans stillQuiet)

/-- What a run of `refill_fill` has moved. -/
theorem refillFill_run
    {start after : World}
    {moments : List World}
    {pushed : UInt32}
    (rings : RingsInOrder scenario.config start)
    (closed : start.aux.fillWindow = [])
    (runs :
      Runs scenario.Interferes Xsk.refillFill start
        moments pushed after) :
    ∃ loaded, FillRun scenario start moments pushed after loaded := by
  obtain ⟨_, window, middle, later, query, rest, rfl⟩ :=
    Runs.bind_inv (Xsk.refillFill_eq ▸ runs)
  obtain ⟨loaded, reached, rfl, rfl, afterQuery⟩ := query.act_inv
  -- At the query the worker's part is still the one at the start.
  obtain ⟨loadedRings, (same : loaded.staging = start.staging)⟩ :=
    Setting.interference_keeps
      (.own scenario.anySetting (· = start.staging))
      reached rings rfl
  have amount := fillWindow_amount loadedRings
  have queried :=
    fillWindow_triple loaded loadedRings same loaded .refl
  obtain ⟨queriedRings, _, seen, view, startsAt, room⟩ := queried
  have middleView :=
    Setting.interference_keeps
      (.own scenario.anySetting
        (· = { start.staging with fillSeen := seen }))
      afterQuery queriedRings view
  obtain ⟨middleRings, atMiddle⟩ := middleView
  have filled :=
    @fillFrom_triple scenario { start.staging with fillSeen := seen }
      (Xsk.fillWindow loaded).1 startsAt closed room
  obtain ⟨afterRings, count, afterView⟩ :=
    rest.keeps middleRings (filled middle middleRings atMiddle)
  have log :
      after.fill.log =
        start.fill.log ++
          (start.aux.fillWindow ++
            start.allocator.frames.take pushed.toNat) :=
    congrArg Staging.fillLog afterView
  exact
    ⟨loaded,
      { loads := ⟨later, rfl⟩
        rings := afterRings
        amount := by
          rw [count, amount]
          rfl
        log := by
          rw [log, closed, List.nil_append]
        allocator := congrArg Staging.allocator afterView
        unpublished := by
          rintro rfl
          exact query.bind
            (fillFrom_unpublished middleRings atMiddle startsAt closed
              room count.symm rest) }⟩

/-- Meanwhile the kernel may have consumed. -/
theorem refillFill_taken_le
    {start after : World}
    {moments : List World}
    {pushed : UInt32}
    (rings : RingsInOrder scenario.config start)
    (closed : start.aux.fillWindow = [])
    (runs :
      Runs scenario.Interferes Xsk.refillFill start
        moments pushed after) :
    start.fill.taken ≤ after.fill.taken := by
  refine (Runs.preserves
    (fun world => start.fill.taken ≤ world.fill.taken) ?_ ?_ runs
    Xsk.refillFill_keeps_taken rings
    (refillFill_triple start rings closed) (Nat.le_refl _)).1
  · rintro before later ⟨step, performed⟩ _ held
    exact Nat.le_trans held (KernelStep.fill_taken_le performed)
  · intro effect world keeps _ _ held
    exact Nat.le_trans held (Nat.le_of_eq (keeps world).symm)

/-- What is on the ring afterwards, as the kernel has left it. -/
theorem FillRun.published
    {start after loaded : World}
    {moments : List World}
    {pushed : UInt32}
    (run : FillRun scenario start moments pushed after loaded)
    (rings : RingsInOrder scenario.config start)
    (consumed : start.fill.taken ≤ after.fill.taken) :
    after.fill.ring.published =
      (start.fill.ring.published ++
          start.allocator.frames.take pushed.toNat).drop
        (after.fill.taken - start.fill.taken) := by
  have ordered := rings.fill.ordered
  rw [run.rings.fill.published_eq, rings.fill.published_eq,
    Channel.pending, Channel.pending, run.log,
    ← List.drop_append_of_le_length ordered, List.drop_drop,
    Nat.add_sub_of_le consumed]

/--
From every reachable state and with any allocator, `refill_fill` returns and
pushes exactly as many frames as the ring has room for, at the moment of its
query, and the allocator has frames.  They are the top of the stack, they
follow on the ring in the order of the stack, and the rest of the stack stays;
what was on the ring before is still there, but for as many entries as the
kernel has taken meanwhile.  If it pushes nothing, it ends before its
publication.
-/
theorem refill_moves_frames
    (scenario : Scenario)
    {events : List (Event AnyCall KernelStep)}
    {final : Configuration World}
    (reaches : scenario.AnyReaches events final)
    (boundary : final.AtBoundary)
    (allocator : FrameAllocator) :
    (∃ moments pushed after,
        Runs scenario.Interferes Xsk.refillFill
          (final.state.useAllocator allocator) moments pushed after) ∧
      ∀ moments pushed after,
        Runs scenario.Interferes Xsk.refillFill
            (final.state.useAllocator allocator)
            moments pushed after →
          ∃ loaded later,
            moments = loaded :: later ∧
              pushed.toNat =
                min
                  (2 ^ scenario.config.fillOrder.val -
                    loaded.fill.ring.occupancy.toNat)
                  allocator.frames.length ∧
              (allocator.frames.length < 2 ^ 32 →
                allocator.freeCount.toNat = allocator.frames.length) ∧
              after.fill.log =
                final.state.fill.log ++
                  allocator.frames.take pushed.toNat ∧
              final.state.fill.taken ≤ after.fill.taken ∧
              after.fill.ring.published =
                (final.state.fill.ring.published ++
                    allocator.frames.take pushed.toNat).drop
                  (after.fill.taken - final.state.fill.taken) ∧
              after.allocator =
                { allocator with
                  frames := allocator.frames.drop pushed.toNat } ∧
              (pushed = 0 →
                after.fill.ring.producer =
                    final.state.fill.ring.producer ∧
                  after.allocator = allocator ∧
                  Runs scenario.Interferes Xsk.fillUnpublished
                    (final.state.useAllocator allocator)
                    moments 0 after) := by
  refine ⟨Runs.total _ _ _, ?_⟩
  intro moments pushed after runs
  have sound := anyReaches_sound reaches
  have rings :
      RingsInOrder scenario.config
        (final.state.useAllocator allocator) :=
    { sound.invariant with }
  have closed : final.state.aux.fillWindow = [] :=
    sound.between_holds boundary
  obtain ⟨loaded, run⟩ := refillFill_run rings closed runs
  obtain ⟨later, shape⟩ := run.loads
  have consumed := refillFill_taken_le rings closed runs
  refine ⟨loaded, later, shape, run.amount, ?_, run.log, consumed,
    run.published rings consumed, run.allocator, ?_⟩
  · intro small
    exact UInt32.toNat_ofNat_of_lt' small
  · intro zero
    subst zero
    refine ⟨?_, run.allocator, run.unpublished rfl⟩
    rw [run.rings.fill.producer, sound.invariant.fill.producer,
      run.log, UInt32.toNat_zero, List.take_zero, List.append_nil]
    rfl

/-- The ring of two was filled, and the kernel has taken one entry. -/
def oneTaken : List (Event AnyCall KernelStep) :=
  List.flatten
    [[.call (.client .refillFill)],
      List.replicate 4 .work,
      [.env .takeFill]]

/-- There is room for one of two frames. -/
theorem refill_moves_frames_sample :
    ∃ final moments after,
      sample.AnyReaches oneTaken final ∧
        final.AtBoundary ∧
        Runs sample.Interferes Xsk.refillFill
          (final.state.useAllocator
            { capacity := 2, frames := [192, 128] })
          moments 1 after ∧
        after.fill.log = final.state.fill.log ++ [192] ∧
        after.allocator.frames = [128] := by
  obtain ⟨final, reaches, boundary, moments, after, runs⟩ :
      ∃ final,
        sample.AnyReaches oneTaken final ∧
          final.AtBoundary ∧
          ∃ moments after,
            Runs sample.Interferes Xsk.refillFill
              (final.state.useAllocator
                { capacity := 2, frames := [192, 128] })
              moments 1 after :=
    ⟨_, rfl, rfl, _, _, .step (.step (.step (.done _ _)))⟩
  obtain ⟨_, _, _, _, _, log, _, _, allocator, _⟩ :=
    (refill_moves_frames sample reaches boundary
      { capacity := 2, frames := [192, 128] }).2 moments 1 after runs
  exact ⟨final, moments, after, reaches, boundary, runs, log,
    congrArg FrameAllocator.frames allocator⟩

end Scenario

end AfXdp
