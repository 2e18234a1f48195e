import AfXdp.LoaderOwnership

namespace AfXdp

open EffectLog
open WireBytes

/-!
# `create`

Whatever its calls return, `create` ends in one of two ways: with an error and
nothing left to undo, or with a loader that is responsible for the object and
has filled both maps.
-/

/-- The local `loader` of `create`, not attached yet. -/
structure Building
    (object : ObjectId)
    (queueId : UInt32)
    (loader : XdpLoader)
    (log : List Effect) : Prop extends
      Held object loader log where
  queue :
    loader.queueId = queueId
  unattached :
    ∀ effect,
      effect ∈ log →
      effect.attaches = false
  undeleted :
    ∀ effect,
      effect ∈ log →
      effect.deletes = false
  undetached :
    ∀ effect,
      effect ∈ log →
      effect.detaches = false

/-- No map is filled yet. -/
structure Bare
    (object : ObjectId)
    (queueId : UInt32)
    (loader : XdpLoader)
    (log : List Effect) : Prop extends
      Building object queueId loader log where
  empty :
    ∀ effect,
      effect ∈ log →
      effect.inserts = false

/-- A loader as `create` returns it: both maps are filled. -/
structure Installed
    (object : ObjectId)
    (loader : XdpLoader)
    (log : List Effect) : Prop extends
      Held object loader log where
  xskMapFd :
    loader.xskMapFd = some object
  ipMapFd :
    loader.ipMapFd = some object
  stored :
    ∃ value, lastStored log = some value

/-- A loader that stands between its interface and the socket. -/
structure Connected
    (object : ObjectId)
    (ifindex queueId : UInt32)
    (xskFd : Int)
    (loader : XdpLoader)
    (log : List Effect) : Prop where
  index :
    loader.ifindex = ifindex
  queue :
    loader.queueId = queueId
  redirecting :
    loader.redirecting = true
  socket :
    Effect.xsksUpdate (some object) queueId xskFd none ∈ log
  entry :
    (mapsOf log).xsks queueId = some xskFd

/-- The address in the map is the one that the text names. -/
def Filters (filterIp : String) (log : List Effect) : Prop :=
  ∃ value,
    inetPton (cString filterIp) = some value ∧
      lastStored log = some value

/-- What a stage of `create` leads to, with an error or without. -/
def XdpLoader.Stage.Meets
    (object : ObjectId)
    (queueId : UInt32)
    (before : XdpLoader → List Effect → Prop)
    (stage : XdpLoader.Stage)
    (after : XdpLoader → List Effect → Prop) : Prop :=
  ∀ {loader session},
    before loader (session.history object) →
    Ensures (stage loader) session
      (fun result reached =>
        session.Touches object reached ∧
          match result.1 with
          | some _ =>
              Building object queueId result.2
                (reached.history object)
          | none =>
              after result.2 (reached.history object))

section Stages

variable {object : ObjectId}
variable {queueId : UInt32}
variable {xskFd : Int}
variable {loader : XdpLoader}
variable {log : List Effect}
variable {effect : Effect}
variable {before middle after : XdpLoader → List Effect → Prop}

/-- Stages in sequence: the first error ends them. -/
theorem XdpLoader.Stage.Meets.andThen
    {first second : XdpLoader.Stage}
    (firstMeets : first.Meets object queueId before middle)
    (secondMeets : second.Meets object queueId middle after) :
    (first.andThen second).Meets object queueId before after := by
  intro loader session held
  refine (firstMeets held).bind ?_
  rintro ⟨failed, built⟩ reached ⟨touched, outcome⟩
  cases failed with
  | some error =>
      exact Ensures.pure ⟨touched, outcome⟩
  | none =>
      refine (secondMeets outcome).weaken ?_
      rintro result final ⟨touchedLater, ended⟩
      exact ⟨touched.trans touchedLater, ended⟩

/-- An effect without consequences changes nothing. -/
theorem Building.append_inert
    (building : Building object queueId loader log)
    (inert : effect.Inert) :
    Building object queueId loader (log ++ [effect]) where
  toHeld := building.toHeld.append_inert inert
  queue := building.queue
  unattached := forall_append building.unattached inert.attaches
  undeleted := forall_append building.undeleted inert.deletes
  undetached := forall_append building.undetached inert.detaches

/-- A failed update of `xsks_map` has no consequences. -/
theorem xsksUpdate_inert
    (fd : Option ObjectId)
    (queue : UInt32)
    (socket : Int)
    (error : Errno) :
    (Effect.xsksUpdate fd queue socket (some error)).Inert where
  opens := rfl
  closes := rfl
  inserts := rfl
  deletes := rfl
  attaches := rfl
  detaches := rfl
  xsks := fun _ => rfl

/-- An update of the other map has none for the resources. -/
theorem targetIpUpdate_inert
    (fd : Option ObjectId)
    (value : Ipv4)
    (outcome : Option Errno) :
    (Effect.targetIpUpdate fd value outcome).Inert where
  opens := rfl
  closes := rfl
  inserts := rfl
  deletes := rfl
  attaches := rfl
  detaches := rfl
  xsks := by
    intro maps
    cases outcome <;> rfl

/-- Nor has an attempt to attach that fails. -/
theorem attach_inert
    (program : ObjectId)
    (ifindex flags : UInt32)
    (error : Errno) :
    (Effect.attach program ifindex flags (some error)).Inert where
  opens := rfl
  closes := rfl
  inserts := rfl
  deletes := rfl
  attaches := rfl
  detaches := rfl
  xsks := fun _ => rfl

/-- Loading leaves both maps empty. -/
theorem load_meets :
    (XdpLoader.load object).Meets object queueId
      (Bare object queueId) (Bare object queueId) := by
  intro loader session bare
  refine Ensures.bind attempt_quiet ?_
  intro outcome reached quiet
  rw [← quiet.history object] at bare
  cases outcome with
  | some error =>
      exact Ensures.pure ⟨quiet.touches object, bare.toBuilding⟩
  | none =>
      exact Ensures.pure ⟨quiet.touches object, bare⟩

/-- What is found belongs to the object that was searched. -/
theorem find_ensures
    {session : Session} :
    Ensures (Libbpf.find object) session
      (fun found reached =>
        session.Quiet reached ∧
          ∀ {fd}, found = some fd → fd = object) := by
  refine Ensures.bind attempt_quiet ?_
  intro outcome reached quiet
  cases outcome with
  | some error =>
      exact Ensures.pure ⟨quiet, nofun⟩
  | none =>
      refine Ensures.pure ⟨quiet, ?_⟩
      rintro fd ⟨⟩
      rfl

/-- Setting a map's descriptor is no effect. -/
theorem Building.setXskMapFd
    (building : Building object queueId loader log) :
    Building object queueId { loader with xskMapFd := some object } log :=
  { building with
    entry := fun redirecting =>
      ⟨rfl, (building.entry redirecting).2⟩ }

/-- Nor is setting the other map's. -/
theorem Building.setIpMapFd
    {fd : Option ObjectId}
    (building : Building object queueId loader log) :
    Building object queueId { loader with ipMapFd := fd } log :=
  { building with }

/-- No entry has been removed. -/
theorem Building.untouched
    (building : Building object queueId loader log) :
    ∀ effect,
      effect ∈ log →
      effect.settles = false := by
  intro effect member
  by_contra settled
  have deleted := Effect.deletes_of_settles (by simpa using settled)
  rw [building.undeleted effect member] at deleted
  cases deleted

/-- No program has been detached. -/
theorem Building.notDetached
    (building : Building object queueId loader log) :
    ∀ effect,
      effect ∈ log →
      effect.detached = false := by
  intro effect member
  by_contra gone
  have detached := Effect.detaches_of_detached (by simpa using gone)
  rw [building.undetached effect member] at detached
  cases detached

/-- The first map is filled. -/
structure HasXsks
    (object : ObjectId)
    (queueId : UInt32)
    (xskFd : Int)
    (loader : XdpLoader)
    (log : List Effect) : Prop extends
      Building object queueId loader log where
  xskMapFd :
    loader.xskMapFd = some object
  redirecting :
    loader.redirecting = true
  socket :
    Effect.xsksUpdate (some object) queueId xskFd none ∈ log
  behind :
    (mapsOf log).xsks queueId = some xskFd

/-- Both maps are filled. -/
structure HasMaps
    (object : ObjectId)
    (queueId : UInt32)
    (xskFd : Int)
    (filterIp : String)
    (loader : XdpLoader)
    (log : List Effect) : Prop extends
      HasXsks object queueId xskFd loader log where
  ipMapFd :
    loader.ipMapFd = some object
  filters :
    Filters filterIp log

/-- Setting the other descriptor, or an effect elsewhere, is no matter. -/
theorem HasXsks.append_inert
    {fd : Option ObjectId}
    (has : HasXsks object queueId xskFd loader log)
    (inert : effect.Inert) :
    HasXsks object queueId xskFd { loader with ipMapFd := fd }
      (log ++ [effect]) where
  toBuilding := has.toBuilding.setIpMapFd.append_inert inert
  xskMapFd := has.xskMapFd
  redirecting := has.redirecting
  socket := List.mem_append_left _ has.socket
  behind := by
    rw [mapsOf_append, inert.xsks]
    exact has.behind

/-- What `parse_ipv4` returns stands for the bytes of the address. -/
theorem parseIpv4_ok
    {ipStr : String}
    {addr : UInt32}
    (parsed : XdpLoader.parseIpv4 ipStr = .ok addr) :
    inetPton (cString ipStr) = some ⟨store32 addr, rfl⟩ := by
  unfold XdpLoader.parseIpv4 at parsed
  cases known : inetPton (cString ipStr) with
  | none =>
      rw [known] at parsed
      cases parsed
  | some address =>
      rw [known] at parsed
      cases parsed
      obtain ⟨bytes, quad⟩ := address
      simp only [store32_load32 quad]

/-- The socket is put behind the queue, and the loader redirects. -/
theorem fillXsksMap_meets :
    (XdpLoader.fillXsksMap object queueId xskFd).Meets object queueId
      (Bare object queueId) (HasXsks object queueId xskFd) := by
  intro loader session bare
  refine Ensures.bind find_ensures ?_
  rintro found searched ⟨quiet, same⟩
  rw [← quiet.history object] at bare
  have building := bare.toBuilding
  cases found with
  | none =>
      exact Ensures.pure ⟨quiet.touches object, building⟩
  | some fd =>
      obtain rfl := same rfl
      refine Ensures.bind
        (logged_appends attemptOn_quiet fun _ => rfl) ?_
      intro outcome reached appended
      have touched := (quiet.touches fd).trans appended.toTouches
      have mapped := building.setXskMapFd
      cases outcome with
      | some error =>
          refine Ensures.pure ⟨touched, ?_⟩
          rw [appended.history]
          exact mapped.append_inert (xsksUpdate_inert ..)
      | none =>
          refine Ensures.pure ⟨touched, ?_⟩
          rw [appended.history, ← building.queue]
          exact
            { toHeld :=
                mapped.toHeld.append_insert rfl bare.empty
                  building.untouched
              queue := rfl
              unattached := forall_append building.unattached rfl
              undeleted := forall_append building.undeleted rfl
              undetached := forall_append building.undetached rfl
              xskMapFd := rfl
              redirecting := rfl
              socket := List.mem_append_right _ (.head _)
              behind := by
                rw [mapsOf_append]
                exact if_pos rfl }

/-- The address is parsed and stored. -/
theorem fillTargetIpMap_meets
    {filterIp : String} :
    (XdpLoader.fillTargetIpMap object filterIp).Meets object queueId
      (HasXsks object queueId xskFd)
      (HasMaps object queueId xskFd filterIp) := by
  intro loader session has
  refine Ensures.bind find_ensures ?_
  rintro found searched ⟨quiet, same⟩
  rw [← quiet.history object] at has
  cases found with
  | none =>
      exact Ensures.pure ⟨quiet.touches object, has.toBuilding⟩
  | some fd =>
      obtain rfl := same rfl
      have mapped : Building fd queueId
          { loader with ipMapFd := some fd } (searched.history fd) :=
        has.toBuilding.setIpMapFd
      cases parsed : XdpLoader.parseIpv4 filterIp with
      | error error =>
          exact Ensures.pure ⟨quiet.touches fd, mapped⟩
      | ok addr =>
          refine Ensures.bind
            (logged_appends attemptOn_quiet fun _ => rfl) ?_
          intro outcome reached appended
          have touched := (quiet.touches fd).trans appended.toTouches
          have appendedXsks :
              HasXsks fd queueId xskFd { loader with ipMapFd := some fd }
                (reached.history fd) := by
            rw [appended.history]
            exact has.append_inert (targetIpUpdate_inert ..)
          cases outcome with
          | some error =>
              exact Ensures.pure ⟨touched, appendedXsks.toBuilding⟩
          | none =>
              refine Ensures.pure ⟨touched, ?_⟩
              exact
                { toHasXsks := appendedXsks
                  ipMapFd := rfl
                  filters :=
                    ⟨_, parseIpv4_ok parsed, by
                      rw [appended.history]
                      exact lastStored_append_some rfl⟩ }

/-- An effect that stores no address leaves the last one in force. -/
theorem Filters.append
    {filterIp : String}
    (filters : Filters filterIp log)
    (nothing : effect.storedIp = none) :
    Filters filterIp (log ++ [effect]) := by
  obtain ⟨value, parsed, stored⟩ := filters
  exact ⟨value, parsed, (lastStored_append_none nothing).trans stored⟩

/-- One attempt to attach, in either mode. -/
theorem HasMaps.attach
    {filterIp : String}
    {ifindex flags : UInt32}
    {session reached : Session}
    (has :
      HasMaps object queueId xskFd filterIp loader
        (session.history object))
    (nonzero : ifindex ≠ 0)
    (appended :
      session.Appends object (.attach object ifindex flags none)
        reached) :
    Installed object { loader with ifindex := ifindex, flags := flags }
        (reached.history object) ∧
      Connected object ifindex queueId xskFd
        { loader with ifindex := ifindex, flags := flags }
        (reached.history object) ∧
      Filters filterIp (reached.history object) := by
  rw [appended.history]
  obtain ⟨value, parsed, stored⟩ :
      Filters filterIp
        (session.history object ++
          [.attach object ifindex flags none]) :=
    has.filters.append rfl
  exact
    ⟨{ toHeld :=
        has.toHeld.append_attach nonzero has.unattached
          has.notDetached
       xskMapFd := has.xskMapFd
       ipMapFd := has.ipMapFd
       stored := ⟨value, stored⟩ },
     { index := rfl
       queue := has.queue
       redirecting := has.redirecting
       socket := List.mem_append_left _ has.socket
       entry := by
        rw [mapsOf_append]
        exact has.behind },
     value, parsed, stored⟩

/-- A failed attempt leaves the maps as they are. -/
theorem HasMaps.attachFails
    {filterIp : String}
    {ifindex flags : UInt32}
    {error : Errno}
    {session reached : Session}
    (has :
      HasMaps object queueId xskFd filterIp loader
        (session.history object))
    (appended :
      session.Appends object (.attach object ifindex flags (some error))
        reached) :
    HasMaps object queueId xskFd filterIp loader
      (reached.history object) := by
  rw [appended.history]
  exact
    { toHasXsks := has.toHasXsks.append_inert (attach_inert ..)
      ipMapFd := has.ipMapFd
      filters := has.filters.append rfl }

/-- The driver mode is tried first, and the generic mode if that fails. -/
theorem attachProgram_meets
    {filterIp : String}
    {ifindex : UInt32}
    (nonzero : ifindex ≠ 0) :
    (XdpLoader.attachProgram object ifindex).Meets object queueId
      (HasMaps object queueId xskFd filterIp)
      (fun loader log =>
        Installed object loader log ∧
          Connected object ifindex queueId xskFd loader log ∧
          Filters filterIp log) := by
  intro loader session has
  refine Ensures.bind find_ensures ?_
  rintro found searched ⟨quiet, same⟩
  rw [← quiet.history object] at has
  cases found with
  | none =>
      exact Ensures.pure ⟨quiet.touches object, has.toBuilding⟩
  | some fd =>
      obtain rfl := same rfl
      refine Ensures.bind
        (logged_appends attempt_quiet fun _ => rfl) ?_
      intro outcome native appended
      have touched := (quiet.touches fd).trans appended.toTouches
      cases outcome with
      | none =>
          exact Ensures.pure ⟨touched, has.attach nonzero appended⟩
      | some error =>
          have still := has.attachFails appended
          refine Ensures.bind
            (logged_appends attempt_quiet fun _ => rfl) ?_
          intro outcome reached appendedLater
          have touchedLater := touched.trans appendedLater.toTouches
          cases outcome with
          | none =>
              exact Ensures.pure
                ⟨touchedLater, still.attach nonzero appendedLater⟩
          | some error =>
              exact Ensures.pure
                ⟨touchedLater,
                  (still.attachFails appendedLater).toBuilding⟩

/-- All stages in order. -/
theorem build_meets
    {ifindex : UInt32}
    {filterIp : String}
    (nonzero : ifindex ≠ 0) :
    (XdpLoader.build object ifindex queueId xskFd filterIp).Meets
      object queueId (Bare object queueId)
      (fun loader log =>
        Installed object loader log ∧
          Connected object ifindex queueId xskFd loader log ∧
          Filters filterIp log) := by
  apply load_meets.andThen
  apply fillXsksMap_meets.andThen
  apply fillTargetIpMap_meets.andThen
  exact attachProgram_meets nonzero

/-- What holds of the only effect holds of all. -/
theorem forall_mem_singleton
    {kind : Effect → Bool}
    (not : kind effect = false) :
    ∀ other, other ∈ [effect] → kind other = false := by
  intro other member
  rw [List.mem_singleton.mp member]
  exact not

/-- The local `loader` right after the object was opened. -/
theorem bare_start
    (object : ObjectId)
    (queueId : UInt32) :
    Bare object queueId
      { XdpLoader.fresh with
        obj := some object
        queueId := queueId }
      [.objectOpen object] where
  obj := rfl
  lawful :=
    { openedFirst := List.pairwise_singleton _ _
      closedLast := List.pairwise_singleton _ _
      insertedOnce := List.pairwise_singleton _ _
      attachedOnce := List.pairwise_singleton _ _
      detachedOnce := List.pairwise_singleton _ _
      settledOnce := List.pairwise_singleton _ _
      detachMatches := by
        intro _ _ _ _ member
        cases List.mem_singleton.mp member
      deleteMatches := by
        intro _ _ _ member
        cases List.mem_singleton.mp member }
  isOpen := forall_mem_singleton rfl
  started := .head _
  entry := nofun
  noEntry := nofun
  elsewhere := fun _ _ => rfl
  program := fun attached => absurd rfl attached
  noProgram := nofun
  queue := rfl
  unattached := forall_mem_singleton rfl
  undeleted := forall_mem_singleton rfl
  undetached := forall_mem_singleton rfl
  empty := forall_mem_singleton rfl

end Stages

/-- The next object was opened, and no other history changed. -/
structure Session.Opens (before after : Session) : Prop where
  opened :
    after.opened = before.opened + 1
  others :
    ∀ {other},
      other ≠ before.opened →
      after.history other = before.history other
  strays :
    ∀ {effect},
      effect ∈ after.trace →
      effect.about = none →
      effect ∈ before.trace

/-- Calls without effects may come before the opening. -/
theorem Session.Quiet.opens
    {before middle after : Session}
    (quiet : before.Quiet middle)
    (opens : middle.Opens after) :
    before.Opens after where
  opened := by
    rw [opens.opened, quiet.opened]
  others := by
    intro other apart
    rw [← quiet.opened] at apart
    rw [opens.others apart, quiet.history]
  strays := fun member stray =>
    quiet.trace ▸ opens.strays member stray

/-- Effects about the new object may come after it. -/
theorem Session.Opens.touches
    {before middle after : Session}
    (opens : before.Opens middle)
    (touches : middle.Touches before.opened after) :
    before.Opens after where
  opened := touches.opened.trans opens.opened
  others := fun apart => (touches.others apart).trans (opens.others apart)
  strays := fun member stray =>
    opens.strays (touches.strays member stray) stray

/--
What a call of `create` leaves behind.  The index of the interface is the
answer to the first call it makes.
-/
def CreateOutcome
    (iface : String)
    (queueId : UInt32)
    (xskFd : Int)
    (filterIp : String)
    (session : Session)
    (result : Except AfxdpError XdpLoader)
    (after : Session) : Prop :=
  match result with
  | .ok loader =>
      session.Opens after ∧
        Installed session.opened loader
          (after.history session.opened) ∧
        Connected session.opened
          (session.indexes session.calls iface).value queueId xskFd
          loader (after.history session.opened) ∧
        Filters filterIp (after.history session.opened)
  | .error _ =>
      session.Quiet after ∨
        session.Opens after ∧
          Released (after.history session.opened) ∧
          (after.history session.opened).any Effect.attaches = false

section Create

variable {session : Session}
variable {bpfObjPath iface : String}
variable {queueId : UInt32}
variable {xskFd : Int}
variable {filterIp : String}

/-- An index that is returned is the one of the interface. -/
theorem ifNametoindex_ensures :
    Ensures (Libbpf.ifNametoindex iface) session
      (fun result after =>
        session.Quiet after ∧
          ∀ {ifindex},
            result = .ok ifindex →
            ifindex = (session.indexes session.calls iface).value) := by
  have indexed :
      Ensures (Libbpf.nextIndex iface) session
        (fun index after =>
          index = session.indexes session.calls iface ∧
            after = session) :=
    ⟨rfl, rfl⟩
  refine indexed.bind ?_
  rintro index _ ⟨rfl, rfl⟩
  refine Ensures.bind attempt_quiet ?_
  intro outcome reached quiet
  cases outcome with
  | some error =>
      exact Ensures.pure ⟨quiet, nofun⟩
  | none =>
      refine Ensures.pure ⟨quiet, ?_⟩
      rintro ifindex ⟨⟩
      rfl

/-- An object that is opened is a new one. -/
theorem bpfObjectOpen_ensures
    (unused : session.history session.opened = []) :
    Ensures (Libbpf.bpfObjectOpen bpfObjPath) session
      (fun result after =>
        match result with
        | .error _ =>
            session.Quiet after
        | .ok object =>
            object = session.opened ∧
              session.Opens after ∧
              after.history object = [.objectOpen object]) := by
  refine Ensures.bind attempt_quiet ?_
  intro outcome reached quiet
  cases outcome with
  | some error =>
      exact Ensures.pure quiet
  | none =>
      have allocated :
          Ensures Libbpf.allocateObject reached
            (fun object after =>
              object = session.opened ∧
                after.opened = session.opened + 1 ∧
                after.trace = session.trace) :=
        ⟨quiet.opened, congrArg (· + 1) quiet.opened, quiet.trace⟩
      refine allocated.bind ?_
      rintro object numbered ⟨rfl, opened, trace⟩
      have same
          (other : ObjectId) :
          numbered.history other = session.history other := by
        rw [Session.history, trace]
        rfl
      refine (record_appends rfl).bind ?_
      intro _ after appended
      refine Ensures.pure ⟨rfl, ⟨?_, ?_, ?_⟩, ?_⟩
      · rw [appended.opened, opened]
      · intro other apart
        rw [appended.others apart, same]
      · intro effect member stray
        rw [← trace]
        exact appended.strays member stray
      · rw [appended.history, same, unused]
        rfl

/-- Whatever the outcomes, `create` ends in one of the two ways. -/
theorem create_ensures
    (unused : session.history session.opened = []) :
    Ensures
      (XdpLoader.create bpfObjPath iface queueId xskFd filterIp) session
      (CreateOutcome iface queueId xskFd filterIp session) := by
  refine Ensures.bind ifNametoindex_ensures ?_
  rintro (error | ifindex) named ⟨quiet, index⟩
  · exact Ensures.pure (.inl quiet)
  obtain rfl := index rfl
  have nonzero := (session.indexes session.calls iface).nonzero
  rw [← quiet.opened, ← quiet.history] at unused
  refine (bpfObjectOpen_ensures unused).bind ?_
  rintro (error | object) started outcome
  · exact Ensures.pure (.inl
      { trace := Eq.trans outcome.trace quiet.trace
        opened := Eq.trans outcome.opened quiet.opened })
  obtain ⟨rfl, opens, history⟩ := outcome
  have bare :
      Bare named.opened queueId
        { XdpLoader.fresh with
          obj := some named.opened
          queueId := queueId }
        (started.history named.opened) := by
    rw [history]
    exact bare_start named.opened queueId
  refine (build_meets nonzero bare).bind ?_
  rintro ⟨failed, built⟩ finished ⟨touched, ended⟩
  have opensFinished := opens.touches touched
  have same : session.opened = named.opened := quiet.opened.symm
  cases failed with
  | some error =>
      refine (release_ensures ended.toHeld).bind ?_
      rintro _ after ⟨released, touchedLater, attaches⟩
      have opensAfter := opensFinished.touches touchedLater
      refine Ensures.pure (.inr ⟨quiet.opens opensAfter, ?_, ?_⟩)
      · rw [same]
        exact released
      · rw [same, attaches, List.any_eq_false]
        intro effect member
        rw [ended.unattached effect member]
        exact Bool.false_ne_true
  | none =>
      refine (Husk.release (movedFrom_husk built)).bind ?_
      rintro _ _ rfl
      refine Ensures.pure ⟨quiet.opens opensFinished, ?_⟩
      rw [same]
      exact ended

end Create

end AfXdp
