import AfXdp.XdpLoader
import Mathlib.Data.List.Induction

namespace AfXdp

open EffectLog

/-!
# What a loader holds

The kinds of effects in an object's history, the rules that a history keeps
to, and how a loader's fields tell what is still to be undone.  One lemma for
every call, then one for every function of the class.
-/

/-! ## Kinds of effects -/

namespace Effect

/-- An object is opened. -/
def opens : Effect → Bool
  | .objectOpen _ => true
  | _ => false

/-- An object is closed. -/
def closes : Effect → Bool
  | .objectClose _ => true
  | _ => false

/-- The entry was put into `xsks_map`. -/
def inserts : Effect → Bool
  | .xsksUpdate _ _ _ none => true
  | _ => false

/-- Someone tried to delete the entry. -/
def deletes : Effect → Bool
  | .xsksDelete .. => true
  | _ => false

/-- The entry is known to be gone. -/
def settles : Effect → Bool
  | .xsksDelete _ _ none => true
  | .xsksDelete _ _ (some error) => error = .enoent
  | _ => false

/-- The program was attached. -/
def attaches : Effect → Bool
  | .attach _ _ _ none => true
  | _ => false

/-- Someone tried to detach the program. -/
def detaches : Effect → Bool
  | .detach .. => true
  | _ => false

/-- The program was detached. -/
def detached : Effect → Bool
  | .detach _ _ _ none => true
  | _ => false

/-- What settles an entry is a delete. -/
theorem deletes_of_settles
    {effect : Effect}
    (settled : effect.settles = true) :
    effect.deletes = true := by
  cases effect with
  | xsksDelete =>
      rfl
  | _ =>
      cases settled

/-- What removes a program is a detach. -/
theorem detaches_of_detached
    {effect : Effect}
    (gone : effect.detached = true) :
    effect.detaches = true := by
  cases effect with
  | detach =>
      rfl
  | _ =>
      cases gone

end Effect

/--
The rules for the effects about one object: it is opened first and closed
last; its entry is inserted and its program attached at most once; nothing is
detached or deleted again once it is gone; and every attempt to undo something
names what was done.
-/
structure Lawful (log : List Effect) : Prop where
  openedFirst :
    NeverAfter (fun _ => true) Effect.opens log
  closedLast :
    NeverAfter Effect.closes (fun _ => true) log
  insertedOnce :
    NeverAfter Effect.inserts Effect.inserts log
  attachedOnce :
    NeverAfter Effect.attaches Effect.attaches log
  detachedOnce :
    NeverAfter Effect.detached Effect.detaches log
  settledOnce :
    NeverAfter Effect.settles Effect.deletes log
  detachMatches :
    ∀ {owner ifindex flags outcome},
      Effect.detach owner ifindex flags outcome ∈ log →
      ∃ program, Effect.attach program ifindex flags none ∈ log
  deleteMatches :
    ∀ {fd queue outcome},
      Effect.xsksDelete fd queue outcome ∈ log →
      ∃ socket, Effect.xsksUpdate fd queue socket none ∈ log

/--
Everything about the object is undone, as far as the kernel let it: it is
closed once, and what is left in place was tried to be removed.
-/
structure Released (log : List Effect) : Prop where
  lawful :
    Lawful log
  closedOnce :
    log.countP Effect.closes = 1
  programLeft :
    log.any Effect.attaches = true →
    log.any Effect.detached = false →
    log.any Effect.detaches = true
  entryLeft :
    log.any Effect.inserts = true →
    log.any Effect.settles = false →
    log.any Effect.deletes = true

/-! ## What the maps contain -/

/-- The maps of a newly loaded object: an array is filled with zeros. -/
def Maps.fresh : Maps where
  targetIp := some ⟨[0, 0, 0, 0], rfl⟩
  xsks := fun _ => none

/--
The maps after an effect.  A delete that fails with `ENOENT` found no entry:
the kernel removes the entry of a socket that is closed.
-/
def Maps.after (maps : Maps) (effect : Effect) : Maps :=
  match effect with
  | .xsksUpdate _ queue socket none =>
      { maps with
        xsks := fun other =>
          if other = queue then some socket else maps.xsks other }
  | .xsksDelete _ queue outcome =>
      if (Effect.xsksDelete none queue outcome).settles then
        { maps with
          xsks := fun other =>
            if other = queue then none else maps.xsks other }
      else
        maps
  | .targetIpUpdate _ value none =>
      { maps with targetIp := some value }
  | _ =>
      maps

/-- The maps of an object with this history. -/
def mapsOf (log : List Effect) : Maps :=
  log.foldl Maps.after Maps.fresh

/-- The last effect comes last. -/
theorem mapsOf_append (log : List Effect) (effect : Effect) :
    mapsOf (log ++ [effect]) = (mapsOf log).after effect := by
  rw [mapsOf, List.foldl_append]
  rfl

/-- The address that the effect put into `target_ip_map`. -/
def Effect.storedIp : Effect → Option Ipv4
  | .targetIpUpdate _ value none =>
      some value
  | _ =>
      none

/-- The address last stored successfully. -/
def lastStored (log : List Effect) : Option Ipv4 :=
  (log.filterMap Effect.storedIp).getLast?

/-- An effect that stores no address leaves the last one in force. -/
theorem lastStored_append_none
    {log : List Effect}
    {effect : Effect}
    (nothing : effect.storedIp = none) :
    lastStored (log ++ [effect]) = lastStored log := by
  simp [lastStored, List.filterMap_append, nothing]

/-- An effect that stores one replaces it. -/
theorem lastStored_append_some
    {log : List Effect}
    {effect : Effect}
    {value : Ipv4}
    (stored : effect.storedIp = some value) :
    lastStored (log ++ [effect]) = some value := by
  simp [lastStored, List.filterMap_append, stored]

/-- Once there is an address, there always is one. -/
theorem lastStored_of_prefix
    {earlier later : List Effect}
    {value : Ipv4}
    (grows : earlier <+: later)
    (stored : lastStored earlier = some value) :
    ∃ latest, lastStored later = some latest := by
  obtain ⟨added, rfl⟩ := grows
  rw [lastStored, List.filterMap_append, List.getLast?_append]
  rw [lastStored] at stored
  rw [stored]
  cases (added.filterMap Effect.storedIp).getLast? with
  | none =>
      exact ⟨value, rfl⟩
  | some latest =>
      exact ⟨latest, rfl⟩

/-- The address that an effect stores, or the one before. -/
theorem Maps.after_targetIp (maps : Maps) (effect : Effect) :
    (maps.after effect).targetIp = effect.storedIp.or maps.targetIp := by
  cases effect with
  | targetIpUpdate fd value outcome =>
      cases outcome <;> rfl
  | xsksUpdate fd queue socket outcome =>
      cases outcome <;> rfl
  | xsksDelete fd queue outcome =>
      unfold Maps.after
      dsimp only
      split <;> rfl
  | _ =>
      rfl

/-- The map holds the address that was stored last. -/
theorem mapsOf_targetIp
    {log : List Effect}
    {value : Ipv4}
    (stored : lastStored log = some value) :
    (mapsOf log).targetIp = some value := by
  induction log using List.reverseRecOn with
  | nil =>
      cases stored
  | append_singleton log effect inductionHypothesis =>
      rw [mapsOf_append, Maps.after_targetIp]
      cases latest : effect.storedIp with
      | none =>
          rw [lastStored_append_none latest] at stored
          rw [Option.none_or, inductionHypothesis stored]
      | some address =>
          rw [lastStored_append_some latest] at stored
          rw [Option.some_or, stored]

/-- A delete empties at most its own entry. -/
theorem Maps.after_delete_xsks
    (maps : Maps)
    (fd : Option ObjectId)
    (queue other : UInt32)
    (outcome : Option Errno) :
    (maps.after (.xsksDelete fd queue outcome)).xsks other =
      if other = queue ∧
          (Effect.xsksDelete fd queue outcome).settles = true then
        none
      else
        maps.xsks other := by
  have same :
      (Effect.xsksDelete none queue outcome).settles =
        (Effect.xsksDelete fd queue outcome).settles := by
    cases outcome <;> rfl
  rw [Maps.after, same]
  by_cases settled :
      (Effect.xsksDelete fd queue outcome).settles = true
  · simp [settled]
  · simp [settled]

/-! ## What a loader's fields say -/

/-- A loader without resources: new, or moved from. -/
structure Husk (loader : XdpLoader) : Prop where
  obj :
    loader.obj = none
  ifindex :
    loader.ifindex = 0
  ipMapFd :
    loader.ipMapFd = none
  redirecting :
    loader.redirecting = false

/-- A loader that was moved from has nothing left. -/
theorem movedFrom_husk (loader : XdpLoader) : Husk loader.movedFrom where
  obj := rfl
  ifindex := rfl
  ipMapFd := rfl
  redirecting := rfl

/-- A loader that is responsible for an object with this history. -/
structure Held
    (object : ObjectId)
    (loader : XdpLoader)
    (log : List Effect) : Prop where
  obj :
    loader.obj = some object
  lawful :
    Lawful log
  isOpen :
    ∀ effect,
      effect ∈ log →
      effect.closes = false
  started :
    Effect.objectOpen object ∈ log
  entry :
    loader.redirecting = true →
    loader.xskMapFd = some object ∧
      (∃ socket,
        Effect.xsksUpdate (some object) loader.queueId socket none ∈
          log) ∧
      ∀ effect,
        effect ∈ log →
        effect.settles = false
  noEntry :
    loader.redirecting = false →
    log.any Effect.inserts = true →
    log.any Effect.settles = true
  elsewhere :
    ∀ queue,
      queue ≠ loader.queueId ∨ loader.redirecting = false →
      (mapsOf log).xsks queue = none
  program :
    loader.ifindex ≠ 0 →
    Effect.attach object loader.ifindex loader.flags none ∈ log ∧
      ∀ effect,
        effect ∈ log →
        effect.detached = false
  noProgram :
    loader.ifindex = 0 →
    log.any Effect.attaches = true →
    log.any Effect.detached = true

section Logs

variable {log : List Effect}
variable {effect : Effect}

/-- What may be added to the history of an open object. -/
theorem Lawful.append
    (lawful : Lawful log)
    (isOpen : ∀ before, before ∈ log → before.closes = false)
    (notOpens : effect.opens = false)
    (inserting :
      effect.inserts = true →
      ∀ before, before ∈ log → before.inserts = false)
    (attaching :
      effect.attaches = true →
      ∀ before, before ∈ log → before.attaches = false)
    (detaching :
      effect.detaches = true →
      ∀ before, before ∈ log → before.detached = false)
    (deleting :
      effect.deletes = true →
      ∀ before, before ∈ log → before.settles = false)
    (detachMatches :
      ∀ {owner ifindex flags outcome},
        effect = .detach owner ifindex flags outcome →
        ∃ program, Effect.attach program ifindex flags none ∈ log)
    (deleteMatches :
      ∀ {fd queue outcome},
        effect = .xsksDelete fd queue outcome →
        ∃ socket, Effect.xsksUpdate fd queue socket none ∈ log) :
    Lawful (log ++ [effect]) where
  openedFirst :=
    lawful.openedFirst.append fun opens => by
      rw [notOpens] at opens
      cases opens
  closedLast :=
    lawful.closedLast.append fun _ => isOpen
  insertedOnce :=
    lawful.insertedOnce.append inserting
  attachedOnce :=
    lawful.attachedOnce.append attaching
  detachedOnce :=
    lawful.detachedOnce.append detaching
  settledOnce :=
    lawful.settledOnce.append deleting
  detachMatches := by
    intro owner ifindex flags outcome member
    rcases List.mem_append.mp member with earlier | last
    · obtain ⟨program, attached⟩ := lawful.detachMatches earlier
      exact ⟨program, List.mem_append_left _ attached⟩
    · obtain ⟨program, attached⟩ :=
        detachMatches (List.mem_singleton.mp last).symm
      exact ⟨program, List.mem_append_left _ attached⟩
  deleteMatches := by
    intro fd queue outcome member
    rcases List.mem_append.mp member with earlier | last
    · obtain ⟨socket, inserted⟩ := lawful.deleteMatches earlier
      exact ⟨socket, List.mem_append_left _ inserted⟩
    · obtain ⟨socket, inserted⟩ :=
        deleteMatches (List.mem_singleton.mp last).symm
      exact ⟨socket, List.mem_append_left _ inserted⟩

/-- An effect that neither acquires, nor releases, nor moves an entry. -/
structure Effect.Inert (effect : Effect) : Prop where
  opens :
    effect.opens = false
  closes :
    effect.closes = false
  inserts :
    effect.inserts = false
  deletes :
    effect.deletes = false
  attaches :
    effect.attaches = false
  detaches :
    effect.detaches = false
  xsks :
    ∀ maps : Maps, (maps.after effect).xsks = maps.xsks

/-- An effect of another kind changes nothing about this one. -/
theorem any_append_of_false
    {kind : Effect → Bool}
    (not : kind effect = false) :
    (log ++ [effect]).any kind = log.any kind := by
  simp [List.any_append, not]

/-- The effect itself is one of its kind. -/
theorem any_append_of_true
    {kind : Effect → Bool}
    (isKind : kind effect = true) :
    (log ++ [effect]).any kind = true := by
  simp [List.any_append, isKind]

/-- What holds of the log and of the effect holds of both. -/
theorem forall_append
    {property : Effect → Prop}
    (earlier : ∀ before, before ∈ log → property before)
    (last : property effect) :
    ∀ before, before ∈ log ++ [effect] → property before := by
  intro before member
  rcases List.mem_append.mp member with inLog | isLast
  · exact earlier before inLog
  · rw [List.mem_singleton.mp isLast]
    exact last

/-- An effect without consequences settles no entry. -/
theorem Effect.Inert.settles
    (inert : effect.Inert) :
    effect.settles = false := by
  by_contra settled
  have deleted := Effect.deletes_of_settles (by simpa using settled)
  rw [inert.deletes] at deleted
  cases deleted

/-- Nor does it remove a program. -/
theorem Effect.Inert.detached
    (inert : effect.Inert) :
    effect.detached = false := by
  by_contra gone
  have detached := Effect.detaches_of_detached (by simpa using gone)
  rw [inert.detaches] at detached
  cases detached

/-- It may come at any time while the object is open. -/
theorem Lawful.append_inert
    (lawful : Lawful log)
    (isOpen : ∀ before, before ∈ log → before.closes = false)
    (inert : effect.Inert) :
    Lawful (log ++ [effect]) := by
  refine lawful.append isOpen inert.opens ?_ ?_ ?_ ?_ ?_ ?_
  · intro inserting
    rw [inert.inserts] at inserting
    cases inserting
  · intro attaching
    rw [inert.attaches] at attaching
    cases attaching
  · intro detaching
    rw [inert.detaches] at detaching
    cases detaching
  · intro deleting
    rw [inert.deletes] at deleting
    cases deleting
  · rintro owner ifindex flags outcome rfl
    cases inert.detaches
  · rintro fd queue outcome rfl
    cases inert.deletes

end Logs

section Holding

variable {object : ObjectId}
variable {loader : XdpLoader}
variable {log : List Effect}
variable {effect : Effect}

/-- It leaves the loader's responsibility as it is. -/
theorem Held.append_inert
    (held : Held object loader log)
    (inert : effect.Inert) :
    Held object loader (log ++ [effect]) where
  obj :=
    held.obj
  lawful :=
    held.lawful.append_inert held.isOpen inert
  isOpen :=
    forall_append held.isOpen inert.closes
  started :=
    List.mem_append_left _ held.started
  entry := by
    intro redirecting
    obtain ⟨map, ⟨socket, inserted⟩, present⟩ := held.entry redirecting
    exact ⟨map, ⟨socket, List.mem_append_left _ inserted⟩,
      forall_append present inert.settles⟩
  noEntry := by
    rw [any_append_of_false inert.inserts,
      any_append_of_false inert.settles]
    exact held.noEntry
  elsewhere := by
    intro queue apart
    rw [mapsOf_append, inert.xsks]
    exact held.elsewhere queue apart
  program := by
    intro attached
    obtain ⟨attach, present⟩ := held.program attached
    exact ⟨List.mem_append_left _ attach,
      forall_append present inert.detached⟩
  noProgram := by
    rw [any_append_of_false inert.attaches,
      any_append_of_false inert.detached]
    exact held.noProgram

/-- The entry of the loader's queue was put into the map. -/
theorem Held.append_insert
    {socket : Int}
    (held : Held object loader log)
    (map : loader.xskMapFd = some object)
    (empty : ∀ before, before ∈ log → before.inserts = false)
    (untouched : ∀ before, before ∈ log → before.settles = false) :
    Held object { loader with redirecting := true }
      (log ++
        [.xsksUpdate (some object) loader.queueId socket none]) where
  obj :=
    held.obj
  lawful :=
    held.lawful.append held.isOpen rfl (fun _ => empty) nofun nofun nofun
      nofun nofun
  isOpen :=
    forall_append held.isOpen rfl
  started :=
    List.mem_append_left _ held.started
  entry := by
    intro _
    exact ⟨map, ⟨socket, List.mem_append_right _ (.head _)⟩,
      forall_append untouched rfl⟩
  noEntry :=
    nofun
  elsewhere := by
    rintro queue (apart | closed)
    · rw [mapsOf_append]
      change (if queue = loader.queueId then _ else _) = none
      rw [if_neg apart]
      exact held.elsewhere queue (.inl apart)
    · cases closed
  program := by
    intro attached
    obtain ⟨attach, present⟩ := held.program attached
    exact ⟨List.mem_append_left _ attach, forall_append present rfl⟩
  noProgram := by
    rw [any_append_of_false rfl, any_append_of_false rfl]
    exact held.noProgram

/-- A delete of the entry, with any outcome. -/
theorem Held.append_delete
    {outcome : Option Errno}
    (held : Held object loader log)
    (redirecting : loader.redirecting = true) :
    Held object
      { loader with
        redirecting :=
          !(Effect.xsksDelete (some object) loader.queueId
            outcome).settles }
      (log ++ [.xsksDelete (some object) loader.queueId outcome]) := by
  obtain ⟨map, ⟨socket, inserted⟩, present⟩ := held.entry redirecting
  refine
    { obj := held.obj
      lawful := ?_
      isOpen := forall_append held.isOpen rfl
      started := List.mem_append_left _ held.started
      entry := ?_
      noEntry := ?_
      elsewhere := ?_
      program := ?_
      noProgram := ?_ }
  · refine held.lawful.append held.isOpen rfl nofun nofun nofun
      (fun _ => present) nofun ?_
    rintro _ _ _ ⟨⟩
    exact ⟨socket, inserted⟩
  · intro still
    exact ⟨map, ⟨socket, List.mem_append_left _ inserted⟩,
      forall_append present (by simpa using still)⟩
  · intro gone _
    exact any_append_of_true (by simpa using gone)
  · intro queue apart
    rw [mapsOf_append, Maps.after_delete_xsks]
    split
    · rfl
    · next kept =>
        refine held.elsewhere queue (.inl ?_)
        rintro rfl
        rcases apart with apart | gone
        · exact apart rfl
        · exact kept ⟨rfl, by simpa using gone⟩
  · intro attached
    obtain ⟨attach, intact⟩ := held.program attached
    exact ⟨List.mem_append_left _ attach, forall_append intact rfl⟩
  · rw [any_append_of_false rfl, any_append_of_false rfl]
    exact held.noProgram

/-- The program was attached. -/
theorem Held.append_attach
    {ifindex flags : UInt32}
    (held : Held object loader log)
    (nonzero : ifindex ≠ 0)
    (unattached : ∀ before, before ∈ log → before.attaches = false)
    (untouched : ∀ before, before ∈ log → before.detached = false) :
    Held object { loader with ifindex := ifindex, flags := flags }
      (log ++ [.attach object ifindex flags none]) where
  obj :=
    held.obj
  lawful :=
    held.lawful.append held.isOpen rfl nofun (fun _ => unattached) nofun
      nofun nofun nofun
  isOpen :=
    forall_append held.isOpen rfl
  started :=
    List.mem_append_left _ held.started
  entry := by
    intro redirecting
    obtain ⟨map, ⟨socket, inserted⟩, present⟩ := held.entry redirecting
    exact ⟨map, ⟨socket, List.mem_append_left _ inserted⟩,
      forall_append present rfl⟩
  noEntry := by
    rw [any_append_of_false rfl, any_append_of_false rfl]
    exact held.noEntry
  elsewhere := by
    rw [mapsOf_append]
    exact held.elsewhere
  program := by
    intro _
    exact ⟨List.mem_append_right _ (.head _),
      forall_append untouched rfl⟩
  noProgram := by
    intro zero
    exact absurd zero nonzero

/-- A detach of the program, with any outcome. -/
theorem Held.append_detach
    {outcome : Option Errno}
    (held : Held object loader log)
    (attached : loader.ifindex ≠ 0) :
    Held object
      { loader with
        ifindex := if outcome = none then 0 else loader.ifindex }
      (log ++
        [.detach (some object) loader.ifindex loader.flags outcome]) := by
  obtain ⟨attach, present⟩ := held.program attached
  refine
    { obj := held.obj
      lawful := ?_
      isOpen := forall_append held.isOpen rfl
      started := List.mem_append_left _ held.started
      entry := ?_
      noEntry := ?_
      elsewhere := ?_
      program := ?_
      noProgram := ?_ }
  · refine held.lawful.append held.isOpen rfl nofun nofun
      (fun _ => present) nofun ?_ nofun
    rintro _ _ _ _ ⟨⟩
    exact ⟨object, attach⟩
  · intro redirecting
    obtain ⟨map, ⟨socket, inserted⟩, intact⟩ := held.entry redirecting
    exact ⟨map, ⟨socket, List.mem_append_left _ inserted⟩,
      forall_append intact rfl⟩
  · rw [any_append_of_false rfl, any_append_of_false rfl]
    exact held.noEntry
  · rw [mapsOf_append]
    exact held.elsewhere
  · intro still
    cases outcome with
    | none =>
        exact absurd rfl still
    | some error =>
        exact ⟨List.mem_append_left _ attach, forall_append present rfl⟩
  · intro zero _
    cases outcome with
    | none =>
        exact any_append_of_true rfl
    | some error =>
        exact absurd zero attached

/-- Closing the object, after a delete and a detach where they were due. -/
theorem Held.append_close
    (held : Held object loader log)
    (deleted :
      log.any Effect.inserts = true →
      log.any Effect.deletes = true)
    (detached :
      log.any Effect.attaches = true →
      log.any Effect.detaches = true) :
    Released (log ++ [.objectClose object]) where
  lawful :=
    held.lawful.append held.isOpen rfl nofun nofun nofun nofun nofun
      nofun
  closedOnce := by
    have none : log.countP Effect.closes = 0 := by
      refine List.countP_eq_zero.mpr ?_
      intro effect member
      rw [held.isOpen effect member]
      exact Bool.false_ne_true
    rw [List.countP_append, none]
    rfl
  programLeft := by
    intro attached _
    rw [any_append_of_false rfl] at attached ⊢
    exact detached attached
  entryLeft := by
    intro inserted _
    rw [any_append_of_false rfl] at inserted ⊢
    exact deleted inserted

end Holding

/-! ## The calls -/

namespace Session

/-- A call without a recorded effect. -/
structure Quiet (before after : Session) : Prop where
  trace :
    after.trace = before.trace
  opened :
    after.opened = before.opened

/-- Only the history of one object may have grown. -/
structure Touches
    (object : ObjectId)
    (before after : Session) : Prop where
  grows :
    before.history object <+: after.history object
  others :
    ∀ {other},
      other ≠ object →
      after.history other = before.history other
  strays :
    ∀ {effect},
      effect ∈ after.trace →
      effect.about = none →
      effect ∈ before.trace
  opened :
    after.opened = before.opened

/-- One effect about the object was recorded. -/
structure Appends
    (object : ObjectId)
    (effect : Effect)
    (before after : Session) : Prop extends
      Touches object before after where
  history :
    after.history object = before.history object ++ [effect]

variable {object : ObjectId}
variable {effect : Effect}
variable {before middle after : Session}

/-- Nothing has happened. -/
theorem Touches.refl : Touches object before before where
  grows := List.prefix_refl _
  others := fun _ => rfl
  strays := fun member _ => member
  opened := rfl

/-- Effects about one object follow each other. -/
theorem Touches.trans
    (first : Touches object before middle)
    (second : Touches object middle after) :
    Touches object before after where
  grows := first.grows.trans second.grows
  others := fun apart => (second.others apart).trans (first.others apart)
  strays := fun member stray =>
    first.strays (second.strays member stray) stray
  opened := second.opened.trans first.opened

/-- Without effects no history changes. -/
theorem Quiet.history
    (quiet : Quiet before after)
    (object : ObjectId) :
    after.history object = before.history object := by
  rw [Session.history, quiet.trace]
  rfl

/-- Nothing happened to any object. -/
theorem Quiet.touches
    (quiet : Quiet before after)
    (object : ObjectId) :
    Touches object before after where
  grows := ⟨[], by rw [List.append_nil, quiet.history object]⟩
  others := fun _ => quiet.history _
  strays := fun member _ => quiet.trace ▸ member
  opened := quiet.opened

end Session

section Calls

variable {session : Session}
variable {object : ObjectId}

/-- A call by itself leaves no effect. -/
theorem attempt_quiet :
    Ensures Libbpf.attempt session
      (fun _ after => session.Quiet after) :=
  { trace := rfl
    opened := rfl }

/-- Nor does a call on a descriptor. -/
theorem attemptOn_quiet
    {fd : Option ObjectId} :
    Ensures (Libbpf.attemptOn fd) session
      (fun _ after => session.Quiet after) := by
  cases fd <;>
    exact
      { trace := rfl
        opened := rfl }

/-- A record appends its effect to the one history it is about. -/
theorem record_appends
    {effect : Effect}
    (about : effect.about = some object) :
    Ensures (Libbpf.record effect) session
      (fun _ after => session.Appends object effect after) := by
  have grown :
      Session.history
          { session with trace := session.trace ++ [effect] } object =
        session.history object ++ [effect] :=
    history_append_same about
  exact
    { grows := by
        change
          session.history object <+:
            Session.history
              { session with trace := session.trace ++ [effect] } object
        rw [grown]
        exact List.prefix_append _ _
      others := by
        intro other apart
        refine history_append_other ?_
        rw [about]
        exact fun same => apart (Option.some.inj same).symm
      strays := by
        intro other member stray
        rcases List.mem_append.mp member with earlier | last
        · exact earlier
        · rw [List.mem_singleton.mp last, about] at stray
          cases stray
      opened := rfl
      history := grown }

/-- A call about an object, recorded with its outcome. -/
theorem logged_appends
    {call : Libbpf (Option Errno)}
    {effect : Option Errno → Effect}
    (quiet :
      Ensures call session (fun _ after => session.Quiet after))
    (about : ∀ outcome, (effect outcome).about = some object) :
    Ensures (Libbpf.logged call effect) session
      (fun outcome after =>
        session.Appends object (effect outcome) after) := by
  refine quiet.bind ?_
  intro outcome called silent
  refine (record_appends (about outcome)).bind ?_
  intro _ after appended
  have same := silent.history object
  exact Ensures.pure
    { toTouches := (silent.touches object).trans appended.toTouches
      history := by
        rw [appended.history, same] }

end Calls

/-! ## The functions of the class -/

/-- The log is the same, or has one more effect of this kind. -/
def Adds
    (kind : Effect → Bool)
    (before after : List Effect) : Prop :=
  after = before ∨
    ∃ effect,
      after = before ++ [effect] ∧ kind effect = true

/-- What is added is of one kind, and so not of any other. -/
theorem Adds.any_eq
    {kind other : Effect → Bool}
    {before after : List Effect}
    (adds : Adds kind before after)
    (apart : ∀ effect, kind effect = true → other effect = false) :
    after.any other = before.any other := by
  rcases adds with rfl | ⟨effect, rfl, isKind⟩
  · rfl
  · exact any_append_of_false (apart effect isKind)

/-- A delete is no attach. -/
theorem Effect.not_attaches_of_deletes
    (effect : Effect)
    (deletes : effect.deletes = true) :
    effect.attaches = false := by
  cases effect <;> first | rfl | cases deletes

/-- A detach is no attach. -/
theorem Effect.not_attaches_of_detaches
    (effect : Effect)
    (detaches : effect.detaches = true) :
    effect.attaches = false := by
  cases effect <;> first | rfl | cases detaches

/-- A detach is no insertion. -/
theorem Effect.not_inserts_of_detaches
    (effect : Effect)
    (detaches : effect.detaches = true) :
    effect.inserts = false := by
  cases effect <;> first | rfl | cases detaches

/-- A detach is no delete. -/
theorem Effect.not_deletes_of_detaches
    (effect : Effect)
    (detaches : effect.detaches = true) :
    effect.deletes = false := by
  cases effect <;> first | rfl | cases detaches

section Functions

variable {session : Session}
variable {object : ObjectId}
variable {loader : XdpLoader}

/-- Only `redirecting_` changes, and a due delete has been tried. -/
theorem stopRedirect_ensures
    (held : Held object loader (session.history object)) :
    Ensures loader.stopRedirect session
      (fun result after =>
        Held object result.2 (after.history object) ∧
          session.Touches object after ∧
          (∃ redirecting,
            result.2 = { loader with redirecting := redirecting }) ∧
          Adds Effect.deletes (session.history object)
            (after.history object) ∧
          ((after.history object).any Effect.inserts = true →
            (after.history object).any Effect.deletes = true)) := by
  unfold XdpLoader.stopRedirect
  cases redirecting : loader.redirecting with
  | false =>
      refine Ensures.pure ⟨held, .refl, ⟨_, rfl⟩, .inl rfl, ?_⟩
      intro inserted
      have settled := held.noEntry redirecting inserted
      rw [List.any_eq_true] at settled ⊢
      obtain ⟨effect, member, settles⟩ := settled
      exact ⟨effect, member, Effect.deletes_of_settles settles⟩
  | true =>
      have map := (held.entry redirecting).1
      refine Ensures.bind
        (logged_appends attemptOn_quiet fun _ => map) ?_
      intro outcome after appended
      have history := appended.history
      rw [map] at history
      have kept :
          Held object
            { loader with
              redirecting :=
                !(Effect.xsksDelete (some object) loader.queueId
                  outcome).settles }
            (after.history object) := by
        rw [history]
        exact held.append_delete redirecting
      have adds :
          Adds Effect.deletes (session.history object)
            (after.history object) :=
        .inr ⟨_, history, rfl⟩
      have tried :
          (after.history object).any Effect.inserts = true →
            (after.history object).any Effect.deletes = true := by
        intro _
        rw [appended.history]
        exact any_append_of_true rfl
      cases outcome with
      | none =>
          exact Ensures.pure
            ⟨kept, appended.toTouches, ⟨false, rfl⟩, adds, tried⟩
      | some error =>
          by_cases isEnoent : error = .enoent
          · subst isEnoent
            exact Ensures.pure
              ⟨kept, appended.toTouches, ⟨false, rfl⟩, adds, tried⟩
          · have fails : (Effect.xsksDelete (some object)
                loader.queueId (some error)).settles = false :=
              decide_eq_false isEnoent
            rw [fails, Bool.not_false, ← redirecting] at kept
            simp only [ne_eq, isEnoent, not_false_eq_true, ↓reduceIte]
            exact Ensures.pure
              ⟨kept, appended.toTouches, ⟨loader.redirecting, rfl⟩,
                adds, tried⟩

/-- Only `ifindex_` changes, and a due detach has been tried. -/
theorem detach_ensures
    (held : Held object loader (session.history object)) :
    Ensures loader.detach session
      (fun result after =>
        Held object result.2 (after.history object) ∧
          session.Touches object after ∧
          (∃ ifindex, result.2 = { loader with ifindex := ifindex }) ∧
          Adds Effect.detaches (session.history object)
            (after.history object) ∧
          ((after.history object).any Effect.attaches = true →
            (after.history object).any Effect.detaches = true)) := by
  unfold XdpLoader.detach
  by_cases detached : loader.ifindex = 0
  · rw [if_pos detached]
    refine Ensures.pure ⟨held, .refl, ⟨_, rfl⟩, .inl rfl, ?_⟩
    intro attached
    have gone := held.noProgram detached attached
    rw [List.any_eq_true] at gone ⊢
    obtain ⟨effect, member, isDetached⟩ := gone
    exact ⟨effect, member, Effect.detaches_of_detached isDetached⟩
  · rw [if_neg detached]
    refine Ensures.bind
      (logged_appends attempt_quiet fun _ => held.obj) ?_
    intro outcome after appended
    have history := appended.history
    rw [held.obj] at history
    have kept :
        Held object
          { loader with
            ifindex := if outcome = none then 0 else loader.ifindex }
          (after.history object) := by
      rw [history]
      exact held.append_detach detached
    have tried :
        (after.history object).any Effect.attaches = true →
          (after.history object).any Effect.detaches = true := by
      intro _
      rw [appended.history]
      exact any_append_of_true rfl
    cases outcome with
    | none =>
        exact Ensures.pure
          ⟨kept, appended.toTouches, ⟨0, rfl⟩,
            .inr ⟨_, appended.history, rfl⟩, tried⟩
    | some error =>
        exact Ensures.pure
          ⟨kept, appended.toTouches, ⟨loader.ifindex, rfl⟩,
            .inr ⟨_, appended.history, rfl⟩, tried⟩

/-- After `release` nothing is left that could still be undone. -/
theorem release_ensures
    (held : Held object loader (session.history object)) :
    Ensures loader.release session
      (fun _ after =>
        Released (after.history object) ∧
          session.Touches object after ∧
          (after.history object).any Effect.attaches =
            (session.history object).any Effect.attaches) := by
  refine (stopRedirect_ensures held).bind ?_
  rintro ⟨_, stopped⟩ middle ⟨heldStopped, first, _, addsDelete, deleted⟩
  refine (detach_ensures heldStopped).bind ?_
  rintro ⟨_, finished⟩ last ⟨heldLast, second, _, addsDetach, tried⟩
  have obj : finished.obj = some object := heldLast.obj
  simp only [obj]
  refine (record_appends rfl).bind ?_
  intro _ after closed
  refine Ensures.pure
    ⟨?_, (first.trans second).trans closed.toTouches, ?_⟩
  · rw [closed.history]
    refine heldLast.append_close ?_ tried
    rw [addsDetach.any_eq Effect.not_inserts_of_detaches,
      addsDetach.any_eq Effect.not_deletes_of_detaches]
    exact deleted
  · rw [closed.history, any_append_of_false rfl,
      addsDetach.any_eq Effect.not_attaches_of_detaches,
      addsDelete.any_eq Effect.not_attaches_of_deletes]

/-! A loader without resources does nothing. -/

/-- There is no redirect to stop. -/
theorem Husk.stopRedirect
    (husk : Husk loader) :
    Ensures loader.stopRedirect session
      (fun result after => result.2 = loader ∧ after = session) := by
  unfold XdpLoader.stopRedirect
  rw [husk.redirecting]
  exact Ensures.pure ⟨rfl, rfl⟩

/-- There is no program to detach. -/
theorem Husk.detach
    (husk : Husk loader) :
    Ensures loader.detach session
      (fun result after => result.2 = loader ∧ after = session) := by
  unfold XdpLoader.detach
  rw [if_pos husk.ifindex]
  exact Ensures.pure ⟨rfl, rfl⟩

/-- There is nothing to release. -/
theorem Husk.release
    (husk : Husk loader) :
    Ensures loader.release session
      (fun _ after => after = session) := by
  refine husk.stopRedirect.bind ?_
  rintro ⟨_, stopped⟩ _ ⟨same, rfl⟩
  obtain rfl : stopped = loader := same
  refine husk.detach.bind ?_
  rintro ⟨_, finished⟩ _ ⟨same, rfl⟩
  obtain rfl : finished = stopped := same
  simp only [husk.obj]
  exact Ensures.pure rfl

end Functions

end AfXdp
