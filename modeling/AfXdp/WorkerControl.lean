import AfXdp.WorkerStep

namespace AfXdp

open Interleaving
open SequenceIndex

/-!
# Reasoning about the worker's code

The part of the state that only the worker changes, and the rules by which the
functions of the worker are specified: a specification relates that part
before and after a call, whatever the kernel did in between.
-/

/-- The part of the state that the kernel never changes. -/
structure Own where
  rxTaken : Nat
  rxSeen : Nat
  rxDone : Nat
  hand : List Packet
  handed : List Packet
  current : Option InFlight
  completionTaken : Nat
  completionSeen : Nat
  completionDone : Nat
  fillLength : Nat
  fillSeen : Nat
  fillWindow : List UInt64
  freeFrames : List UInt64
  transmitter : Transmitter
  receiver : Receiver
  wakeups : Wakeups
  sendtoNoted : Nat
  recvfromNoted : Nat

/-- The part of the state that the process alone changes. -/
def World.own (world : World) : Own where
  rxTaken := world.rx.taken
  rxSeen := world.rx.seen
  rxDone := world.aux.rxDone
  hand := world.aux.hand
  handed := world.aux.handed
  current := world.aux.current
  completionTaken := world.completion.taken
  completionSeen := world.completion.seen
  completionDone := world.aux.completionDone
  fillLength := world.fill.log.length
  fillSeen := world.fill.seen
  fillWindow := world.aux.fillWindow
  freeFrames := world.allocator.frames
  transmitter := world.transmitter
  receiver := world.receiver
  wakeups := world.wakeups
  sendtoNoted := world.aux.sendtoNoted
  recvfromNoted := world.aux.recvfromNoted

/-- The kernel's steps leave the worker's part alone. -/
theorem KernelStep.own_unchanged
    {config : Config}
    {admits : List UInt8 → Bool}
    {step : KernelStep}
    {before after : World}
    (performed : step.perform config admits before = some after) :
    after.own = before.own := by
  obtain ⟨_, rfl⟩ := perform_eq_some.mp performed
  cases step <;> rfl

/-- How far the kernel is with the rings that the worker waits for. -/
structure Floor where
  completed : Nat
  filled : Nat

/-- The kernel is at least that far. -/
structure Floor.Reached (floor : Floor) (world : World) : Prop where
  completed :
    floor.completed ≤ world.completion.log.length
  filled :
    floor.filled ≤ world.fill.taken

/-- The kernel only moves forward. -/
theorem Floor.Reached.kernelStep
    {floor : Floor}
    {config : Config}
    {admits : List UInt8 → Bool}
    {step : KernelStep}
    {before after : World}
    (reached : floor.Reached before)
    (core : Core config before)
    (performed : step.perform config admits before = some after) :
    floor.Reached after := by
  obtain ⟨allowed, rfl⟩ := KernelStep.perform_eq_some.mp performed
  cases step with
  | takeFill =>
      exact ⟨reached.completed, Nat.le_add_right_of_le reached.filled⟩
  | complete desc =>
      have log :=
        (core.completion.peerPut
          (core.completion.room_of_lt allowed.2) desc.addr).2
      refine ⟨?_, reached.filled⟩
      change _ ≤ (before.completion.peerPut desc.addr).log.length
      rw [log, List.length_append]
      exact Nat.le_add_right_of_le reached.completed
  | _ =>
      exact { reached with }

/-- What the kernel holds, has published and has consumed. -/
structure KernelSide where
  kernel : Kernel
  rxLog : List XdpDesc
  completionLog : List UInt64
  txTaken : Nat
  fillTaken : Nat

/-- The part of the state that the kernel alone changes. -/
def World.kernelSide (world : World) : KernelSide where
  kernel := world.kernel
  rxLog := world.rx.log
  completionLog := world.completion.log
  txTaken := world.tx.taken
  fillTaken := world.fill.taken

/-- The worker's steps leave the kernel's side alone. -/
theorem WorkerStep.kernelSide_unchanged
    {config : Config}
    {rewrite : Rewrite}
    {direct : Bool}
    {before after : World}
    (step : WorkerStep config rewrite direct before after) :
    after.kernelSide = before.kernelSide := by
  cases step with
  | fillPush =>
      exact Xsk.fillPush_branches rfl fun _ _ => rfl
  | reserve =>
      exact Transmitter.reserve_branches rfl rfl
  | refresh =>
      exact Transmitter.refresh_branches rfl rfl
  | publishStaged =>
      exact Transmitter.publishStaged_branches
        (fun _ => rfl) (fun _ => rfl)
  | _ =>
      rfl

/-- What the worker's functions are judged against. -/
def workerSetting
    (config : Config)
    (rewrite : Rewrite)
    (admits : List UInt8 → Bool)
    (direct : Bool)
    (floor : Floor) :
    Setting World Own where
  interfere before after :=
    ∃ step, KernelStep.perform config admits before step = some after
  invariant world :=
    Core config world ∧ floor.Reached world
  guarantee :=
    WorkerStep config rewrite direct
  view :=
    World.own
  kept := by
    rintro before after ⟨step, performed⟩ ⟨core, reached⟩
    exact ⟨core.kernelStep performed,
      reached.kernelStep core performed⟩
  unseen := by
    rintro before after ⟨step, performed⟩
    exact KernelStep.own_unchanged performed

/--
Started with its own part of the state as in `pre`, the program takes only the
steps of the worker and finishes with its own part as in `post`.
-/
def Meets
    (setting : Setting World Own)
    (pre : Own → Prop)
    {Result : Type}
    (program : Task Result)
    (post : Result → Own → Prop) : Prop :=
  Triple setting (.own setting pre) program
    (fun result => .own setting (post result))

namespace Meets

variable {config : Config}
variable {rewrite : Rewrite}
variable {admits : List UInt8 → Bool}
variable {direct : Bool}
variable {floor : Floor}
variable {Result Other : Type}

section Rules

variable {setting : Setting World Own}
variable {pre : Own → Prop}
variable {own : Own}

/-- A program that is done meets what holds now. -/
theorem done
    {result : Result}
    {post : Result → Own → Prop}
    (finished : post result own) :
    Meets setting (· = own) (.done result) post :=
  Triple.done fun _ _ held => by
    simp only [Assertion.own_holds] at held ⊢
    rw [held]
    exact finished

/-- The rule of sequence. -/
theorem bind
    {program : Task Result}
    {later : Result → Task Other}
    (middle : Result → Own → Prop)
    {post : Other → Own → Prop}
    (first : Meets setting pre program middle)
    (rest :
      ∀ result own,
        middle result own →
        Meets setting (· = own) (later result) post) :
    Meets setting pre (program >>= later) post :=
  Triple.bind first fun result => Triple.each (rest result)

/-- The rule of consequence. -/
theorem weaken
    {program : Task Result}
    {post weaker : Result → Own → Prop}
    (meets : Meets setting pre program post)
    (implied :
      ∀ result own, post result own → weaker result own) :
    Meets setting pre program weaker :=
  Triple.weaken meets fun result _ _ held => implied result _ held

/-- Both cases of the condition. -/
theorem when
    {condition : Prop} [Decidable condition]
    {program : Task Unit}
    {post : Unit → Own → Prop}
    (taken :
      condition → Meets setting (· = own) program post)
    (skipped : ¬ condition → post () own) :
    Meets setting (· = own) (Prog.when condition program) post := by
  rw [Prog.when]
  split
  · next holds =>
      exact taken holds
  · next fails =>
      exact done (skipped fails)

/-- The loop rule, with a relation between the part before and after. -/
theorem forRange
    {body : Nat → Task Unit}
    (loop : Nat → Own → Prop)
    {count : Nat}
    (initially : loop 0 own)
    (iteration :
      ∀ index reached,
        index < count →
        loop index reached →
        Meets setting (· = reached) (body index)
          (fun _ => loop (index + 1))) :
    Meets setting (· = own) (Prog.forRange count body)
      (fun _ => loop count) := by
  have all :
      Triple setting (.own setting (loop 0))
        (Prog.forRange count body)
        (fun _ => .own setting (loop count)) :=
    Triple.forRange (fun index => .own setting (loop index))
      fun index inRange =>
        Triple.each fun reached held =>
          iteration index reached inRange held
  exact all.strengthen fun _ _ held => by
    simp only [Assertion.own_holds] at held ⊢
    rw [held]
    exact initially

end Rules

variable {own : Own}

/-- One atomic step has to be a step of the worker. -/
theorem act
    {action : World → Result × World}
    {post : Result → Own → Prop}
    (effect :
      ∀ world,
        Core config world →
        floor.Reached world →
        world.own = own →
        WorkerStep config rewrite direct world (action world).2 ∧
          post (action world).1 (action world).2.own) :
    Meets (workerSetting config rewrite admits direct floor)
      (· = own) (Prog.act action) post := by
  refine Triple.act ?_
  rintro world ⟨core, reached⟩ held
  obtain ⟨step, after⟩ := effect world core reached held
  have unchanged := step.kernelSide_unchanged
  have log : (action world).2.completion.log = world.completion.log :=
    congrArg KernelSide.completionLog unchanged
  have taken : (action world).2.fill.taken = world.fill.taken :=
    congrArg KernelSide.fillTaken unchanged
  exact ⟨⟨core.workerStep step,
    ⟨log ▸ reached.completed, taken ▸ reached.filled⟩⟩, step, after⟩

/-- Reading changes nothing. -/
theorem ask
    {read : World → Result}
    {post : Result → Own → Prop}
    (effect :
      ∀ world,
        Core config world →
        floor.Reached world →
        world.own = own →
        post (read world) own) :
    Meets (workerSetting config rewrite admits direct floor)
      (· = own) (Prog.ask read) post :=
  act fun world core reached held =>
    ⟨.idle world, held.symm ▸ effect world core reached held⟩

/-- A single step, by what it does to the process's own part. -/
theorem update
    {write : World → World}
    {post : Unit → Own → Prop}
    (effect :
      ∀ world,
        Core config world →
        floor.Reached world →
        world.own = own →
        WorkerStep config rewrite direct world (write world) ∧
          post () (write world).own) :
    Meets (workerSetting config rewrite admits direct floor)
      (· = own) (Prog.update write) post :=
  act effect

end Meets

end AfXdp
