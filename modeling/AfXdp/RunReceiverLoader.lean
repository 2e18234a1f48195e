import AfXdp.FilterCapture
import AfXdp.RunReceiverFrames
import AfXdp.RunReceiverThreads

namespace AfXdp

open EffectLog

/-!
# The loader of `run_receiver`

`main` owns at most one `XdpLoader`.  It is created between the two halves of
the handshake, cut off before the worker is stopped, detached after the join,
and destroyed on every way out.  Seen from libbpf this is a run of a storage
with one address.
-/

/-! ## When there is a loader -/

namespace Stage

/-- The loader does not exist yet, or not any more. -/
def unowned : Stage → Bool
  | .alone | .waiting _ | .checking | .creating | .exporting | .finished =>
      true
  | _ =>
      false

/-- `create` has not been called yet. -/
def fresh : Stage → Bool
  | .alone | .waiting _ | .checking | .creating =>
      true
  | _ =>
      false

/--
The loader, if there is one, redirects: `main` has not come to the cut, or is
on an early way out, which has none.
-/
def uncut : Stage → Bool
  | .attached | .notifying | .watching | .requesting false
  | .unblocking false | .waking false | .joining false =>
      true
  | _ =>
      false

/-- Before `create` there is no loader. -/
theorem unowned_of_fresh
    {stage : Stage}
    (fresh : stage.fresh = true) :
    stage.unowned = true := by
  cases stage <;> first | rfl | cases fresh

end Stage

/-- What the way from one stage to the next says about the loader. -/
structure Stage.Onward (before after : Handshake) : Prop where
  joined :
    after.stage.joined = false →
    before.stage.joined = false
  fresh :
    after.stage.fresh = true →
    before.stage.fresh = true
  uncut :
    after.stage.uncut = true →
    before.stage.uncut = true ∨ before.stage.unowned = true
  unowned :
    after.stage.unowned = true →
    before.stage.unowned = true ∨ after.loaded = false

namespace Handshake

variable {before after : Handshake}

/-- Nothing to say about a move inside a stage. -/
theorem Move.onward_of_stage
    (same : after.stage = before.stage) :
    Stage.Onward before after where
  joined still := same ▸ still
  fresh still := same ▸ still
  uncut still := .inl (same ▸ still)
  unowned still := .inl (same ▸ still)

/-- A wakeup of `main` stays before `create`. -/
theorem wakeMain_onward (handshake : Handshake) :
    Stage.Onward handshake handshake.wakeMain := by
  unfold wakeMain
  split
  · next at_ =>
      exact
        { joined := fun _ => by rw [at_]; rfl
          fresh := fun _ => by rw [at_]; rfl
          uncut := nofun
          unowned := fun _ => .inl (by rw [at_]; rfl) }
  · exact Move.onward_of_stage rfl

/-- A wakeup of the worker is no matter of the stage. -/
theorem wakeWorker_stage (handshake : Handshake) :
    handshake.wakeWorker.stage = handshake.stage := by
  unfold wakeWorker
  split
  · rfl
  · rfl

/-- No move of the worker leads on, but for its wakeup of `main`. -/
theorem WorkerMove.onward
    (moved : WorkerMove before after) :
    Stage.Onward before after := by
  cases moved with
  | notify at_ =>
      exact { wakeMain_onward before with }
  | _ =>
      exact Move.onward_of_stage rfl

/-- The steps of the request lead on within one way out. -/
theorem onward_on_way_out
    {first second : Bool → Stage}
    {orderly : Bool}
    (at_ : before.stage = first orderly)
    (then_ : after.stage = second orderly)
    (running : (first orderly).joined = false)
    (same : (first orderly).uncut = (second orderly).uncut)
    (started : (second orderly).fresh = false)
    (owned : (second orderly).unowned = false) :
    Stage.Onward before after where
  joined _ := at_ ▸ running
  fresh still := by
    rw [then_, started] at still
    cases still
  uncut still := by
    rw [then_, ← same, ← at_] at still
    exact .inl still
  unowned still := by
    rw [then_, owned] at still
    cases still

/-- By cases on the way that `main` takes. -/
theorem MainMove.onward
    (moved : MainMove before after) :
    Stage.Onward before after := by
  cases moved with
  | stay lasting =>
      exact Move.onward_of_stage rfl
  | abort at_ =>
      rcases at_ with at_ | at_ | at_
      · exact ⟨fun _ => by rw [at_]; rfl, nofun,
          fun _ => .inr (by rw [at_]; rfl), nofun⟩
      · exact ⟨fun _ => by rw [at_]; rfl, nofun,
          fun _ => .inr (by rw [at_]; rfl), nofun⟩
      · exact ⟨fun _ => by rw [at_]; rfl, nofun,
          fun _ => .inl (by rw [at_]; rfl), nofun⟩
  | load at_ =>
      exact ⟨fun _ => by rw [at_]; rfl, nofun,
        fun _ => .inr (by rw [at_]; rfl), nofun⟩
  | skip at_ | activate at_ | notify at_ =>
      exact ⟨fun _ => by rw [at_]; rfl, nofun,
        fun _ => .inl (by rw [at_]; rfl), nofun⟩
  | close at_ | leave at_ =>
      exact ⟨nofun, nofun, nofun, fun _ => .inr rfl⟩
  | fail at_ | finish at_ =>
      exact ⟨nofun, nofun, nofun, fun _ => .inl (by rw [at_]; rfl)⟩
  | spawn at_ | sleep at_ | check at_ | pass at_ =>
      exact ⟨fun _ => by rw [at_]; rfl, fun _ => by rw [at_]; rfl, nofun,
        fun _ => .inl (by rw [at_]; rfl)⟩
  | order at_ =>
      exact ⟨fun _ => by rw [at_]; rfl, nofun, nofun, nofun⟩
  | @requestUnheard orderly at_ | @request orderly at_
  | @unblock orderly at_ | @wake orderly at_ =>
      refine onward_on_way_out at_ rfl rfl ?_ rfl rfl
      cases orderly with
      | true =>
          rfl
      | false =>
          rfl
  | join at_ | joinEarly at_ | giveUp at_ =>
      exact ⟨nofun, nofun, nofun, nofun⟩

/-- Every move keeps to the order of the stages. -/
theorem Move.onward (moved : Move before after) : Stage.Onward before after := by
  cases moved with
  | main moved =>
      exact moved.onward
  | worker moved =>
      exact moved.onward
  | wakeMain =>
      exact wakeMain_onward before
  | wakeWorker =>
      exact onward_of_stage (wakeWorker_stage before)
  | elsewhere =>
      exact onward_of_stage rfl

end Handshake

/-! ## The calls of the loader -/

/-- The local `loader` of `run_receiver` as a storage with one address. -/
def Process.loaders (process : Process) : Loaders :=
  Loaders.put ⟨process.session, fun _ => none⟩ 0 process.loader

/-- What one step does with the loader. -/
inductive Deployment.LoaderMove
    (deployment : Deployment)
    (before after : Process) : Prop where
  | aside
      (session : after.session = before.session)
      (loader : after.loader = before.loader) :
      LoaderMove deployment before after
  | created
      {loader : XdpLoader}
      (at_ : before.main = .creatingLoader)
      (ran :
        XdpLoader.create "xdp_prog.bpf.o" deployment.args.iface
            deployment.args.queue deployment.xskFd
            deployment.args.filterIp before.session =
          (.ok loader, after.session))
      (stored : after.loader = some loader)
      (then_ : after.main = .choosing) :
      LoaderMove deployment before after
  | failed
      {error : AfxdpError}
      {exit : Exit}
      (at_ : before.main = .creatingLoader)
      (ran :
        XdpLoader.create "xdp_prog.bpf.o" deployment.args.iface
            deployment.args.queue deployment.xskFd
            deployment.args.filterIp before.session =
          (.error error, after.session))
      (kept : after.loader = before.loader)
      (then_ : after.main = .requesting (some exit)) :
      LoaderMove deployment before after
  | cut
      {loader : XdpLoader}
      {next : Option Exit}
      (at_ : before.main = .cutting)
      (owned : before.loader = some loader)
      (session :
        after.session = (loader.stopRedirect before.session).2)
      (stored :
        after.loader = some (loader.stopRedirect before.session).1.2)
      (then_ : after.main = .requesting next)
      (early :
        next ≠ none →
        ∃ error,
          (loader.stopRedirect before.session).1.1 = .error error) :
      LoaderMove deployment before after
  | detached
      {loader : XdpLoader}
      (owned : before.loader = some loader)
      (session : after.session = (loader.detach before.session).2)
      (stored :
        after.loader = some (loader.detach before.session).1.2)
      (then_ :
        after.main.stage = .closing ∨ after.main.stage = .leaving) :
      LoaderMove deployment before after
  | released
      {loader : XdpLoader}
      (owned : before.loader = some loader)
      (session : after.session = (loader.release before.session).2)
      (gone : after.loader = none) :
      LoaderMove deployment before after

namespace Deployment

variable {deployment : Deployment}
variable {before after : Process}

/-- The cut, with its message. -/
theorem cutRedirect_loader
    {loader : XdpLoader}
    {answer : MainAnswer}
    (at_ : before.main = .cutting)
    (owned : before.loader = some loader) :
    deployment.LoaderMove before (cutRedirect loader answer before) := by
  unfold cutRedirect
  dsimp only
  split
  · exact .cut at_ owned rfl rfl rfl fun early => absurd rfl early
  · next error failed =>
      split
      · exact .cut at_ owned rfl rfl rfl fun _ => ⟨error, failed⟩
      · exact .cut at_ owned rfl rfl rfl fun early => absurd rfl early

/-- The detach, with its message. -/
theorem detachProgram_loader
    {loader : XdpLoader}
    {remaining : UInt32}
    {answer : MainAnswer}
    (owned : before.loader = some loader) :
    deployment.LoaderMove before
      (detachProgram loader remaining answer before) := by
  unfold detachProgram
  dsimp only
  split
  · exact .detached owned rfl rfl (.inl rfl)
  · exact .detached owned rfl rfl (.inr rfl)

/-- Four steps of `main` touch the loader, and no others. -/
theorem mainStep_loader
    {answer : MainAnswer}
    (stepped : deployment.mainStep answer before = some after) :
    deployment.LoaderMove before after := by
  cases at_ : before.main with
  | creatingLoader =>
      rw [mainStep, at_] at stepped
      dsimp only at stepped
      split at stepped
      · next failed =>
          cases stepped
          exact .failed at_ (Prod.ext failed rfl) rfl rfl
      · next created =>
          cases stepped
          exact .created at_ (Prod.ext created rfl) rfl rfl
  | cutting =>
      rw [mainStep, at_] at stepped
      obtain ⟨loader, owned, rfl⟩ := Option.map_eq_some_iff.mp stepped
      exact cutRedirect_loader at_ owned
  | detaching remaining =>
      rw [mainStep, at_] at stepped
      obtain ⟨loader, owned, rfl⟩ := Option.map_eq_some_iff.mp stepped
      exact detachProgram_loader owned
  | leaving exit =>
      rw [mainStep, at_] at stepped
      cases stepped
      cases owned : before.loader with
      | none =>
          exact .aside rfl owned.symm
      | some loader =>
          exact .released owned rfl rfl
  | judging rejected =>
      rw [mainStep, at_] at stepped
      cases stepped
      unfold judge
      dsimp only
      split
      · split
        · exact .aside rfl rfl
        · exact .aside rfl rfl
      · exact .aside rfl rfl
  | notifying | waking exit =>
      rw [mainStep, at_] at stepped
      cases stepped
      have frame := Process.WorkerFrame.notifyActivated before
      exact .aside frame.session frame.loader
  | exporting =>
      rw [mainStep, at_] at stepped
      cases stepped
      unfold exportSamples
      dsimp only
      split
      · exact .aside rfl rfl
      · exact .aside rfl rfl
  | describing =>
      rw [mainStep, at_] at stepped
      cases stepped
      unfold describeRun
      dsimp only
      split
      · exact .aside rfl rfl
      · exact .aside rfl rfl
  | choosing | activating | looping | sleeping | opening now
  | requesting exit | unblocking exit | summarizing remaining =>
      rw [mainStep, at_] at stepped
      cases stepped
      exact .aside rfl rfl
  | spawning | checkingStop | checkingStartup | announcing | warming now
  | reporting | stopping | sorting =>
      rw [mainStep, at_] at stepped
      dsimp only at stepped
      split at stepped
      · cases stepped
        exact .aside rfl rfl
      · cases stepped
        exact .aside rfl rfl
  | filling =>
      rw [mainStep, at_] at stepped
      dsimp only at stepped
      split at stepped
      · cases stepped
        exact .aside rfl rfl
      · cases stepped
        exact .aside rfl rfl
      · cases stepped
  | awaitingPrepared asleep =>
      rw [mainStep, at_] at stepped
      cases asleep with
      | true =>
          cases stepped
      | false =>
          dsimp only at stepped
          split at stepped
          · cases stepped
            exact .aside rfl rfl
          · cases stepped
            exact .aside rfl rfl
  | joining exit =>
      rw [mainStep, at_] at stepped
      dsimp only at stepped
      split at stepped
      · cases exit with
        | none =>
            cases stepped
            exact .aside rfl rfl
        | some exit =>
            cases stepped
            exact .aside rfl rfl
      · cases stepped
  | draining =>
      rw [mainStep, at_] at stepped
      dsimp only at stepped
      split at stepped
      · cases stepped
        exact .aside rfl rfl
      · split at stepped
        · cases stepped
          exact .aside rfl rfl
        · split at stepped
          · cases stepped
            exact .aside rfl rfl
          · cases stepped
            exact .aside rfl rfl
      · cases stepped
  | finished exit =>
      rw [mainStep, at_] at stepped
      cases stepped

/-- Nobody else touches it. -/
theorem step_loader
    {event : ProcessEvent}
    (stepped : deployment.step event before = some after) :
    deployment.LoaderMove before after := by
  cases event with
  | main answer =>
      exact mainStep_loader stepped
  | worker answer =>
      have frame := workerStep_frame stepped
      exact .aside frame.session frame.loader
  | signal =>
      cases stepped
      exact .aside rfl rfl
  | kernel kernelStep =>
      obtain ⟨world, _, rfl⟩ := Option.map_eq_some_iff.mp stepped
      exact .aside rfl rfl
  | wakeMain =>
      cases stepped
      have frame := Process.WorkerFrame.notifyPrepared before
      exact .aside frame.session frame.loader
  | wakeWorker =>
      cases stepped
      have frame := Process.WorkerFrame.notifyActivated before
      exact .aside frame.session frame.loader

end Deployment

/-! ## What the loader serves -/

/--
A loader that was created for the socket and for what the command line names:
the queue is its queue, the socket was put behind it, where it still is while
the loader redirects, and the address is the one to filter for.
-/
structure Deployment.Serves
    (deployment : Deployment)
    (object : ObjectId)
    (loader : XdpLoader)
    (log : List Effect) : Prop where
  obj :
    loader.obj = some object
  queue :
    loader.queueId = deployment.args.queue
  socket :
    Effect.xsksUpdate (some object) deployment.args.queue
        deployment.xskFd none ∈
      log
  entry :
    loader.redirecting = true →
    (mapsOf log).xsks deployment.args.queue = some deployment.xskFd
  filters :
    Filters deployment.args.filterIp log

/-- What was in the log stays in it. -/
theorem Adds.mem
    {kind : Effect → Bool}
    {effect : Effect}
    {earlier later : List Effect}
    (adds : Adds kind earlier later)
    (member : effect ∈ earlier) :
    effect ∈ later := by
  rcases adds with rfl | ⟨_, rfl, _⟩
  · exact member
  · exact List.mem_append_left _ member

/-- Without a new address the old one stays in force. -/
theorem Adds.filters
    {kind : Effect → Bool}
    {filterIp : String}
    {earlier later : List Effect}
    (adds : Adds kind earlier later)
    (silent : ∀ effect, kind effect = true → effect.storedIp = none)
    (filters : Filters filterIp earlier) :
    Filters filterIp later := by
  rcases adds with rfl | ⟨effect, rfl, isKind⟩
  · exact filters
  · exact filters.append (silent effect isKind)

/-- A delete that leaves the entry where it is changes no entry. -/
theorem Adds.xsks_of_unsettled
    {earlier later : List Effect}
    (adds : Adds Effect.deletes earlier later)
    (unsettled : ∀ effect, effect ∈ later → effect.settles = false) :
    (mapsOf later).xsks = (mapsOf earlier).xsks := by
  rcases adds with rfl | ⟨effect, rfl, deletes⟩
  · rfl
  · have fails := unsettled effect (List.mem_append_right _ (.head _))
    cases effect with
    | xsksDelete fd queue outcome =>
        funext other
        rw [mapsOf_append, Maps.after_delete_xsks, fails]
        simp
    | _ =>
        cases deletes

/-- A detach changes no entry. -/
theorem Adds.xsks_of_detaches
    {earlier later : List Effect}
    (adds : Adds Effect.detaches earlier later) :
    (mapsOf later).xsks = (mapsOf earlier).xsks := by
  rcases adds with rfl | ⟨effect, rfl, detaches⟩
  · rfl
  · rw [mapsOf_append]
    cases effect with
    | detach owner ifindex flags outcome =>
        rfl
    | _ =>
        cases detaches

/-- `stop_redirect` never starts to redirect, and one that fails goes on. -/
theorem stopRedirect_redirecting
    {loader : XdpLoader}
    {session : Session} :
    Ensures loader.stopRedirect session
      (fun result _ =>
        (result.2.redirecting = true → loader.redirecting = true) ∧
          ∀ error, result.1 = .error error → result.2 = loader) := by
  unfold XdpLoader.stopRedirect
  split
  · exact Ensures.pure ⟨id, nofun⟩
  · refine Ensures.bindAny ?_
    rintro (_ | error) _
    · exact Ensures.pure ⟨nofun, nofun⟩
    · dsimp only
      split
      · exact Ensures.pure ⟨id, fun _ _ => rfl⟩
      · exact Ensures.pure ⟨nofun, nofun⟩

section Serves

variable {deployment : Deployment}
variable {object : ObjectId}
variable {loader : XdpLoader}
variable {session : Session}

/-- A cut, successful or not, leaves a loader that serves. -/
theorem Deployment.Serves.stopRedirect
    (serves :
      deployment.Serves object loader (session.history object))
    (installed : Installed object loader (session.history object)) :
    deployment.Serves object (loader.stopRedirect session).1.2
      ((loader.stopRedirect session).2.history object) := by
  obtain ⟨held, _, ⟨_, same⟩, adds, _⟩ :=
    stopRedirect_ensures installed.toHeld
  exact
    { obj := held.obj
      queue := by
        rw [same]
        exact serves.queue
      socket := adds.mem serves.socket
      entry := by
        intro redirecting
        have before := stopRedirect_redirecting.1 redirecting
        rw [adds.xsks_of_unsettled (held.entry redirecting).2.2]
        exact serves.entry before
      filters :=
        adds.filters
          (by
            intro effect deletes
            cases effect <;> first | rfl | cases deletes)
          serves.filters }

/-- So does a detach. -/
theorem Deployment.Serves.detach
    (serves :
      deployment.Serves object loader (session.history object))
    (installed : Installed object loader (session.history object)) :
    deployment.Serves object (loader.detach session).1.2
      ((loader.detach session).2.history object) := by
  obtain ⟨held, _, ⟨_, same⟩, adds, _⟩ :=
    detach_ensures installed.toHeld
  exact
    { obj := held.obj
      queue := by
        rw [same]
        exact serves.queue
      socket := adds.mem serves.socket
      entry := by
        rw [same, adds.xsks_of_detaches]
        exact serves.entry
      filters :=
        adds.filters
          (by
            intro effect detaches
            cases effect <;> first | rfl | cases detaches)
          serves.filters }

end Serves

/-! ## Along a run -/

/-- The loader is where `main` says it is, and everything is accounted for. -/
structure Deployment.Loading
    (deployment : Deployment)
    (process : Process) : Prop where
  untouched :
    process.main.stage.fresh = true →
    process.session = deployment.start.session
  absent :
    process.main.stage.unowned = true →
    process.loader = none
  attached :
    process.main.stage.joined = false →
    ∀ loader,
      process.loader = some loader →
      loader.ifindex =
        (deployment.indexes 0 deployment.args.iface).value
  redirecting :
    process.main.stage.uncut = true →
    ∀ loader, process.loader = some loader → loader.redirecting = true
  owner :
    ∀ loader,
      process.loader = some loader →
      ∃ object,
        deployment.Serves object loader (process.session.history object)
  accounted :
    Accounted process.loaders

namespace Process

variable {before after : Process}

/-- The one address holds the local variable. -/
theorem loaders_objects (process : Process) :
    process.loaders.objects 0 = process.loader :=
  Loaders.put_objects_same ..

/-- What the storage becomes when its one address is written. -/
theorem loaders_of
    {session : Session}
    {loader : Option XdpLoader}
    (sameSession : after.session = session)
    (sameLoader : after.loader = loader) :
    after.loaders =
      Loaders.put { before.loaders with session := session } 0 loader := by
  rw [loaders, sameSession, sameLoader, loaders]
  simp [Loaders.put]

end Process

namespace Deployment

variable {deployment : Deployment}
variable {before after : Process}

/-- The loader that is stored owns a BPF object, which is open. -/
theorem Loading.serving
    {loader : XdpLoader}
    (loading : deployment.Loading before)
    (stored : before.loader = some loader) :
    ∃ object,
      Installed object loader (before.session.history object) ∧
        deployment.Serves object loader
          (before.session.history object) := by
  have there : before.loaders.objects 0 = some loader :=
    before.loaders_objects.trans stored
  obtain ⟨object, serves⟩ := loading.owner loader stored
  rcases loading.accounted.cases there with husk | ⟨other, _, installed⟩
  · exact absurd (serves.obj.symm.trans husk.obj) nofun
  · obtain rfl : object = other :=
      Option.some.inj (serves.obj.symm.trans installed.obj)
    exact ⟨object, installed, serves⟩

/-- `create`, whether it succeeds or not. -/
theorem create_accounted
    {result : Except AfxdpError XdpLoader}
    (loading : deployment.Loading before)
    (empty : before.loader = none)
    (ran :
      XdpLoader.create "xdp_prog.bpf.o" deployment.args.iface
          deployment.args.queue deployment.xskFd
          deployment.args.filterIp before.session =
        (result, after.session))
    (stored : after.loader = result.toOption) :
    Accounted after.loaders := by
  have free : before.loaders.objects 0 = none :=
    before.loaders_objects.trans empty
  have called :
      before.loaders.step
          (.create 0 "xdp_prog.bpf.o" deployment.args.iface
            deployment.args.queue deployment.xskFd
            deployment.args.filterIp) =
        some after.loaders := by
    have performed :
        before.loaders.perform
            (XdpLoader.create "xdp_prog.bpf.o" deployment.args.iface
              deployment.args.queue deployment.xskFd
              deployment.args.filterIp) =
          (result, { before.loaders with session := after.session }) := by
      rw [Loaders.perform, show before.loaders.session = before.session
        from rfl, ran]
    rw [Process.loaders_of rfl stored]
    simp only [Loaders.step, free, performed]
    cases result with
    | ok loader =>
        rfl
    | error error =>
        simp [Except.toOption, Loaders.put, ← free]
  exact loading.accounted.step called

/-- `stop_redirect` or `detach` was called on the loader. -/
theorem used_loading
    {object : ObjectId}
    {used : XdpLoader}
    (stored : after.loader = some used)
    (serves :
      deployment.Serves object used (after.session.history object))
    (owned :
      after.main.stage.fresh = false ∧
        after.main.stage.unowned = false)
    (attached :
      after.main.stage.joined = false →
      used.ifindex = (deployment.indexes 0 deployment.args.iface).value)
    (redirecting :
      after.main.stage.uncut = true →
      used.redirecting = true)
    (accounted : Accounted after.loaders) :
    deployment.Loading after := by
  have same
      {other : XdpLoader}
      (found : after.loader = some other) :
      other = used :=
    Option.some.inj (found.symm.trans stored)
  exact
    { untouched := by
        rw [owned.1]
        nofun
      absent := by
        rw [owned.2]
        nofun
      attached := fun running other found =>
        same found ▸ attached running
      redirecting := fun uncut other found =>
        same found ▸ redirecting uncut
      owner := fun other found => ⟨object, same found ▸ serves⟩
      accounted := accounted }

/-- `create` has returned a loader. -/
theorem created_loading
    {loader : XdpLoader}
    (loading : deployment.Loading before)
    (at_ : before.main = .creatingLoader)
    (ran :
      XdpLoader.create "xdp_prog.bpf.o" deployment.args.iface
          deployment.args.queue deployment.xskFd
          deployment.args.filterIp before.session =
        (.ok loader, after.session))
    (stored : after.loader = some loader)
    (then_ : after.main = .choosing) :
    deployment.Loading after := by
  have empty : before.loader = none :=
    loading.absent (by rw [at_]; rfl)
  have untouched : before.session = deployment.start.session :=
    loading.untouched (by rw [at_]; rfl)
  have outcome :
      Ensures
        (XdpLoader.create "xdp_prog.bpf.o" deployment.args.iface
          deployment.args.queue deployment.xskFd
          deployment.args.filterIp) before.session
        (CreateOutcome deployment.args.iface deployment.args.queue
          deployment.xskFd deployment.args.filterIp before.session) :=
    create_ensures (loading.accounted.unopened (Nat.le_refl _))
  rw [Ensures, ran, untouched] at outcome
  obtain ⟨_, installed, connected, filters⟩ := outcome
  refine used_loading stored
    { obj := installed.obj
      queue := connected.queue
      socket := connected.socket
      entry := fun _ => connected.entry
      filters := filters } ?_ ?_ ?_ ?_
  · rw [then_]
    exact ⟨rfl, rfl⟩
  · exact fun _ => connected.index
  · exact fun _ => connected.redirecting
  · exact create_accounted loading empty ran stored

/-- There is no loader, and `create` has been called. -/
theorem gone_loading
    (gone : after.loader = none)
    (called : after.main.stage.fresh = false)
    (accounted : Accounted after.loaders) :
    deployment.Loading after where
  untouched := by
    rw [called]
    nofun
  absent _ := gone
  attached := by
    rw [gone]
    nofun
  redirecting := by
    rw [gone]
    nofun
  owner := by
    rw [gone]
    nofun
  accounted := accounted

/-- A step keeps the loader and its resources in order. -/
theorem loading_step
    (loading : deployment.Loading before)
    (onward : Stage.Onward before.handshake after.handshake)
    (moved : deployment.LoaderMove before after) :
    deployment.Loading after := by
  cases moved with
  | aside session loader =>
      exact
        { untouched := fun fresh =>
            session.trans (loading.untouched (onward.fresh fresh))
          absent := by
            intro unowned
            rcases onward.unowned unowned with earlier | gone
            · exact loader.trans (loading.absent earlier)
            · exact Option.isNone_iff_eq_none.mp
                (Option.isSome_eq_false_iff.mp gone)
          attached := by
            rw [loader]
            exact fun running => loading.attached (onward.joined running)
          redirecting := by
            intro uncut other stored
            rw [loader] at stored
            rcases onward.uncut uncut with earlier | unowned
            · exact loading.redirecting earlier other stored
            · exact absurd
                ((loading.absent unowned).symm.trans stored) nofun
          owner := by
            rw [loader, session]
            exact loading.owner
          accounted := by
            rw [Process.loaders, session, loader]
            exact loading.accounted }
  | created at_ ran stored then_ =>
      exact created_loading loading at_ ran stored then_
  | failed at_ ran kept then_ =>
      have empty : before.loader = none :=
        loading.absent (by rw [at_]; rfl)
      have gone : after.loader = none := kept.trans empty
      refine gone_loading gone ?_ (create_accounted loading empty ran gone)
      rw [then_]
      rfl
  | cut at_ owned session stored then_ early =>
      obtain ⟨object, installed, serves⟩ := loading.serving owned
      obtain ⟨_, _, ⟨_, same⟩, _⟩ := stopRedirect_ensures installed.toHeld
      have later := serves.stopRedirect installed
      rw [← session] at later
      refine used_loading stored later ?_ ?_ ?_ ?_
      · rw [then_]
        exact ⟨rfl, rfl⟩
      · intro _
        have attached := loading.attached (by rw [at_]; rfl) _ owned
        rw [same]
        exact attached
      · intro uncut
        -- Only a cut that failed is followed by an early way out.
        obtain ⟨error, failed⟩ := early (by
          rintro rfl
          rw [then_] at uncut
          cases uncut)
        rw [stopRedirect_redirecting.2 error failed]
        exact loading.redirecting (by rw [at_]; rfl) _ owned
      · rw [Process.loaders_of session stored]
        exact loading.accounted.stopRedirect
          (before.loaders_objects.trans owned)
  | detached owned session stored then_ =>
      obtain ⟨object, installed, serves⟩ := loading.serving owned
      have later := serves.detach installed
      rw [← session] at later
      have joined :
          after.main.stage.joined = true ∧
            after.main.stage.uncut = false ∧
            after.main.stage.fresh = false ∧
            after.main.stage.unowned = false := by
        rcases then_ with then_ | then_
        · rw [then_]
          exact ⟨rfl, rfl, rfl, rfl⟩
        · rw [then_]
          exact ⟨rfl, rfl, rfl, rfl⟩
      refine used_loading stored later joined.2.2 ?_ ?_ ?_
      · rw [joined.1]
        nofun
      · rw [joined.2.1]
        nofun
      · rw [Process.loaders_of session stored]
        exact loading.accounted.detach
          (before.loaders_objects.trans owned)
  | released owned session gone =>
      refine gone_loading gone ?_ ?_
      · cases fresh : after.main.stage.fresh with
        | false =>
            rfl
        | true =>
            have empty := loading.absent
              (Stage.unowned_of_fresh (onward.fresh fresh))
            exact absurd (empty.symm.trans owned) nofun
      · rw [Process.loaders_of session gone]
        exact loading.accounted.drop
          (before.loaders_objects.trans owned)

/-- Nothing has been called yet. -/
theorem start_loading : deployment.Loading deployment.start where
  untouched _ := rfl
  absent _ := rfl
  attached _ := nofun
  redirecting := nofun
  owner := nofun
  accounted := by
    have same :
        deployment.start.loaders =
          Loaders.start deployment.outcomes deployment.indexes := by
      simp [Process.loaders, Loaders.put, Loaders.start, start]
    rw [same]
    exact .start deployment.outcomes deployment.indexes

/-- The loader is in order in every reachable state. -/
theorem Reachable.loading
    (reachable : deployment.Reachable after) :
    deployment.Loading after := by
  induction reachable with
  | start =>
      exact start_loading
  | step _ stepped inductionHypothesis =>
      exact loading_step inductionHypothesis (step_move stepped).onward
        (step_loader stepped)

/-! ## What is left behind -/

variable {process : Process}

/--
The maps send every packet of the peer, if it arrives on the queue, to the
socket, and leave all others alone.
-/
structure Redirects
    (deployment : Deployment)
    (object : ObjectId)
    (log : List Effect) : Prop where
  socket :
    Effect.xsksUpdate (some object) deployment.args.queue
        deployment.xskFd none ∈
      log
  unsettled :
    ∀ effect,
      effect ∈ log →
      effect.settles = false
  entry :
    (mapsOf log).xsks deployment.args.queue = some deployment.xskFd
  verdicts :
    ∃ peer,
      inetPton (cString deployment.args.filterIp) = some peer ∧
        ∀ frame,
          Decides (mapsOf log) deployment.args.queue frame
            (ComesFrom peer frame)

/-- A loader that serves and redirects. -/
theorem Serves.redirects
    {object : ObjectId}
    {loader : XdpLoader}
    {log : List Effect}
    (serves : deployment.Serves object loader log)
    (installed : Installed object loader log)
    (redirecting : loader.redirecting = true) :
    deployment.Redirects object log where
  socket := serves.socket
  unsettled := (installed.entry redirecting).2.2
  entry := serves.entry redirecting
  verdicts := by
    obtain ⟨peer, parsed, latest⟩ := serves.filters
    refine ⟨peer, parsed, fun frame => ?_⟩
    have decided :=
      @decides_of_target (mapsOf log) deployment.args.queue frame peer
        (mapsOf_targetIp latest)
    simpa [serves.entry redirecting] using decided

/--
While the worker takes a turn, the XDP program is attached to the interface of
the command line and its BPF object is open; and unless `main` has cut the
redirect for the orderly end, it sends what the peer sends on the queue of the
command line to the socket.
-/
theorem turns_are_redirected
    (reachable : deployment.Reachable process)
    (turning : process.worker = .turning) :
    ∃ loader object,
      process.loader = some loader ∧
        loader.obj = some object ∧
        loader.queueId = deployment.args.queue ∧
        loader.ifindex =
          (deployment.indexes 0 deployment.args.iface).value ∧
        Effect.attach object loader.ifindex loader.flags none ∈
          process.session.history object ∧
        (∀ effect,
          effect ∈ process.session.history object →
          effect.detached = false ∧ effect.closes = false) ∧
        (process.main.stage.uncut = true →
          deployment.Redirects object
            (process.session.history object)) := by
  have loading := reachable.loading
  have inStep := reachable.inStep
  obtain ⟨loader, stored⟩ :=
    Option.isSome_iff_exists.mp (inStep.turning turning)
  obtain ⟨object, installed, serves⟩ := loading.serving stored
  have running :=
    (not_reported inStep (by simp [turning]) (by simp [turning])).1
  have index := loading.attached running loader stored
  have nonzero : loader.ifindex ≠ 0 := by
    rw [index]
    exact (deployment.indexes 0 deployment.args.iface).nonzero
  obtain ⟨attached, notDetached⟩ := installed.program nonzero
  refine ⟨loader, object, stored, serves.obj, serves.queue, index,
    attached, ?_, ?_⟩
  · intro effect member
    exact ⟨notDetached effect member, installed.isOpen effect member⟩
  · intro uncut
    exact serves.redirects installed
      (loading.redirecting uncut loader stored)

/-- The small instance is in its first turn when a message of `main` throws. -/
theorem turns_are_redirected_sample :
    ∃ process object,
      sample.Reachable process ∧ process.worker = .turning ∧
        process.main = .requesting (some .exception) ∧
        sample.Redirects object (process.session.history object) := by
  obtain ⟨process, ran, turning, unwinding⟩ :
      ∃ process,
        sample.run
            (sampleActivation ++
              [sampleMain 0, .main { sampleAnswer 0 with throws := true }])
            sample.start = some process ∧
          process.worker = .turning ∧
          process.main = .requesting (some .exception) :=
    ⟨_, rfl, rfl, rfl⟩
  have reachable := Reachable.start.run ran
  obtain ⟨_, object, _, _, _, _, _, _, redirects⟩ :=
    turns_are_redirected reachable turning
  exact ⟨process, object, reachable, turning, unwinding,
    redirects (by rw [unwinding]; rfl)⟩

end Deployment

end AfXdp
