import AfXdp.LoaderCreate
import Mathlib.Logic.Function.Basic

namespace AfXdp

open EffectLog

/-!
# Loaders from `create` to destruction

Any number of `XdpLoader` objects in storage, created, moved, used and
destroyed in any order.  Every open BPF object has exactly one loader that is
responsible for it, and every other one is released.
-/

/-! ## Loaders in storage -/

/-- Storage for loaders, by address, and the outside. -/
structure Loaders where
  session : Session
  objects : Nat → Option XdpLoader

/-- What the owner of the storage can do. -/
inductive LoaderCall where
  | create
      (address : Nat)
      (bpfObjPath iface : String)
      (queueId : UInt32)
      (xskFd : Int)
      (filterIp : String) :
      LoaderCall
  | moveConstruct (address source : Nat) : LoaderCall
  | moveAssign (address source : Nat) : LoaderCall
  | stopRedirect (address : Nat) : LoaderCall
  | detach (address : Nat) : LoaderCall
  | updateFilterIp (address : Nat) (ipStr : String) : LoaderCall
  | destroy (address : Nat) : LoaderCall
  deriving Repr, DecidableEq

namespace Loaders

/-- Nothing has happened yet. -/
def start
    (outcomes : Nat → Option Errno)
    (indexes : Nat → String → InterfaceIndex) :
    Loaders where
  session :=
    { outcomes := outcomes
      indexes := indexes
      calls := 0
      opened := 0
      trace := [] }
  objects := fun _ => none

/-- Store a loader, or none, at an address. -/
def put
    (loaders : Loaders)
    (address : Nat)
    (content : Option XdpLoader) :
    Loaders :=
  { loaders with
    objects := Function.update loaders.objects address content }

/-- Run a piece of code of the class. -/
def perform
    {Result : Type}
    (loaders : Loaders)
    (program : Libbpf Result) :
    Result × Loaders :=
  let ran := program loaders.session
  (ran.1, { loaders with session := ran.2 })

/--
One call.  It is possible if the loaders it names are alive and the address it
constructs a new one at is free.
-/
def step (loaders : Loaders) : LoaderCall → Option Loaders
  | .create address bpfObjPath iface queueId xskFd filterIp =>
      match loaders.objects address with
      | some _ =>
          none
      | none =>
          match
            loaders.perform
              (XdpLoader.create bpfObjPath iface queueId xskFd filterIp)
          with
          | (.ok loader, after) =>
              some (after.put address (some loader))
          | (.error _, after) =>
              some after
  | .moveConstruct address source =>
      match loaders.objects address, loaders.objects source with
      | none, some loader =>
          some
            ((loaders.put address (some loader)).put source
              (some loader.movedFrom))
      | _, _ =>
          none
  | .moveAssign address source =>
      match loaders.objects address, loaders.objects source with
      | some target, some loader =>
          if address = source then
            some loaders
          else
            let released := (loaders.perform target.release).2
            some
              ((released.put address (some loader)).put source
                (some loader.movedFrom))
      | _, _ =>
          none
  | .stopRedirect address =>
      (loaders.objects address).map fun loader =>
        let stopped := loaders.perform loader.stopRedirect
        stopped.2.put address (some stopped.1.2)
  | .detach address =>
      (loaders.objects address).map fun loader =>
        let detached := loaders.perform loader.detach
        detached.2.put address (some detached.1.2)
  | .updateFilterIp address ipStr =>
      (loaders.objects address).map fun loader =>
        (loaders.perform (loader.updateFilterIp ipStr)).2
  | .destroy address =>
      (loaders.objects address).map fun loader =>
        (loaders.perform loader.release).2.put address none

/-- Perform a list of calls. -/
def run : List LoaderCall → Loaders → Option Loaders
  | [], loaders =>
      some loaders
  | call :: later, loaders =>
      (loaders.step call).bind (run later)

/-- Every loader has been destroyed. -/
def AllDestroyed (loaders : Loaders) : Prop :=
  ∀ address, loaders.objects address = none

end Loaders

/-- The loader at an address, if it is responsible for the object. -/
def Loaders.claim
    (loaders : Loaders)
    (object : ObjectId)
    (address : Nat) :
    Option XdpLoader :=
  (loaders.objects address).filter fun loader =>
    loader.obj = some object

/-- The object is released, or exactly one live loader is responsible. -/
inductive Loaders.Settled
    (loaders : Loaders)
    (object : ObjectId) : Prop where
  | released
      (released : Released (loaders.session.history object))
      (unclaimed : ∀ address, loaders.claim object address = none) :
      Loaders.Settled loaders object
  | held
      {address : Nat} {loader : XdpLoader}
      (claimed : loaders.claim object address = some loader)
      (installed :
        Installed object loader (loaders.session.history object))
      (alone :
        ∀ other,
          other ≠ address →
          loaders.claim object other = none) :
      Loaders.Settled loaders object

/-- Every loader is responsible for one object or none. -/
structure Accounted (loaders : Loaders) : Prop where
  live :
    ∀ {address loader},
      loaders.objects address = some loader →
      Husk loader ∨
        ∃ object,
          object < loaders.session.opened ∧
            loader.obj = some object
  settled :
    ∀ {object},
      object < loaders.session.opened →
      loaders.Settled object
  unopened :
    ∀ {object},
      loaders.session.opened ≤ object →
      loaders.session.history object = []
  attributed :
    ∀ {effect},
      effect ∈ loaders.session.trace →
      effect.about = none →
      effect.Inert

section Storage

variable {loaders : Loaders}
variable {address other : Nat}
variable {content : Option XdpLoader}

/-- What was stored is at its address. -/
theorem Loaders.put_objects_same
    (loaders : Loaders)
    (address : Nat)
    (content : Option XdpLoader) :
    (loaders.put address content).objects address = content :=
  Function.update_self ..

/-- The other addresses stay. -/
theorem Loaders.put_objects_other
    (apart : other ≠ address) :
    (loaders.put address content).objects other =
      loaders.objects other :=
  Function.update_of_ne apart ..

/-- A later store replaces an earlier one. -/
theorem Loaders.put_put
    (later : Option XdpLoader) :
    (loaders.put address content).put address later =
      loaders.put address later := by
  simp [Loaders.put]

end Storage

section Claims

variable {loaders changed : Loaders}
variable {object : ObjectId}
variable {address other : Nat}
variable {content : Option XdpLoader}
variable {loader : XdpLoader}

/-- A claim is a stored loader that names the object. -/
theorem Loaders.claim_eq_some_iff :
    loaders.claim object address = some loader ↔
      loaders.objects address = some loader ∧
        loader.obj = some object := by
  simp [Loaders.claim, Option.filter_eq_some_iff]

/-- At the address itself the new content decides. -/
theorem Loaders.claim_put_same :
    (loaders.put address content).claim object address =
      content.filter fun loader => loader.obj = some object := by
  simp [Loaders.claim, Loaders.put]

/-- Elsewhere nothing changes. -/
theorem Loaders.claim_put_other
    (apart : other ≠ address) :
    (loaders.put address content).claim object other =
      loaders.claim object other := by
  simp [Loaders.claim, Loaders.put, apart]

/-- A loader that names another object claims nothing. -/
theorem Loaders.claim_eq_none
    (stored : loaders.objects address = some loader)
    (disowned : loader.obj ≠ some object) :
    loaders.claim object address = none := by
  simp [Loaders.claim, stored, disowned]

/-- Nothing changes for an object whose history and claims are the same. -/
theorem Loaders.Settled.congr
    (settled : loaders.Settled object)
    (history :
      changed.session.history object = loaders.session.history object)
    (claims :
      ∀ address,
        changed.claim object address = loaders.claim object address) :
    changed.Settled object := by
  cases settled with
  | released released unclaimed =>
      refine .released ?_ ?_
      · rw [history]
        exact released
      · intro address
        rw [claims, unclaimed]
  | held claimed installed alone =>
      refine .held ((claims _).trans claimed) ?_ ?_
      · rw [history]
        exact installed
      · intro other apart
        rw [claims, alone other apart]

/-- The loader that claims an object is the one responsible for it. -/
theorem Loaders.Settled.of_claim
    (settled : loaders.Settled object)
    (claimed : loaders.claim object address = some loader) :
    Installed object loader (loaders.session.history object) ∧
      ∀ other,
        other ≠ address →
        loaders.claim object other = none := by
  cases settled with
  | released _ unclaimed =>
      rw [unclaimed] at claimed
      cases claimed
  | @held place content claimedThere installed alone =>
      have here : address = place := by
        by_contra apart
        rw [alone address apart] at claimed
        cases claimed
      subst here
      obtain rfl :=
        Option.some.inj (claimed.symm.trans claimedThere)
      exact ⟨installed, alone⟩

end Claims

section Accounts

variable {loaders : Loaders}
variable {address source : Nat}
variable {loader : XdpLoader}
variable {object : ObjectId}
variable {after : Session}
variable {content : Option XdpLoader}

/-- Only an object that was opened is claimed. -/
theorem Accounted.claim_lt
    (accounted : Accounted loaders)
    (claimed : loaders.claim object address = some loader) :
    object < loaders.session.opened := by
  obtain ⟨stored, owned⟩ := Loaders.claim_eq_some_iff.mp claimed
  rcases accounted.live stored with husk | ⟨known, seen, owns⟩
  · rw [husk.obj] at owned
    cases owned
  · rw [owned] at owns
    obtain rfl := Option.some.inj owns
    exact seen

/-- What may be stored for an object: its loader, or none once it is released. -/
def Fits
    (object : ObjectId)
    (content : Option XdpLoader)
    (log : List Effect) : Prop :=
  (∃ changed, content = some changed ∧ Installed object changed log) ∨
    content = none ∧ Released log

/-- What is stored for an object names it. -/
theorem Fits.obj
    (fits : Fits object content (after.history object))
    (stored : content = some loader) :
    loader.obj = some object := by
  rcases fits with ⟨changed, rfl, installed⟩ | ⟨rfl, _⟩
  · obtain rfl := Option.some.inj stored
    exact installed.obj
  · cases stored

/-- The content claims no other object. -/
theorem Fits.claim_other
    {other : ObjectId}
    (fits : Fits object content (after.history object))
    (apart : other ≠ object) :
    (Loaders.put loaders address content).claim other address = none := by
  rw [Loaders.claim_put_same]
  cases content with
  | none =>
      rfl
  | some changed =>
      simp [fits.obj rfl, Ne.symm apart]

/-- With nobody else responsible, the content settles the object. -/
theorem Fits.settled
    (fits : Fits object content (after.history object))
    (alone :
      ∀ other,
        other ≠ address →
        loaders.claim object other = none) :
    (Loaders.put { loaders with session := after } address
      content).Settled object := by
  rcases fits with ⟨changed, rfl, installed⟩ | ⟨rfl, released⟩
  · have claimedNow :
        (Loaders.put { loaders with session := after } address
          (some changed)).claim object address = some changed := by
      rw [Loaders.claim_put_same]
      simp [installed.obj]
    refine .held claimedNow installed ?_
    intro other apart
    rw [Loaders.claim_put_other apart]
    exact alone other apart
  · refine .released released ?_
    intro place
    by_cases here : place = address
    · subst here
      exact Loaders.claim_put_same
    · rw [Loaders.claim_put_other here]
      exact alone place here

/-- Another object, which the address does not claim, stays as it is. -/
theorem Fits.settled_other
    {other : ObjectId}
    (fits : Fits object content (after.history object))
    (apart : other ≠ object)
    (settled : loaders.Settled other)
    (history :
      after.history other = loaders.session.history other)
    (unclaimed : loaders.claim other address = none) :
    (Loaders.put { loaders with session := after } address
      content).Settled other := by
  refine settled.congr history ?_
  intro place
  by_cases here : place = address
  · subst here
    rw [fits.claim_other apart, unclaimed]
  · exact Loaders.claim_put_other here

/--
The loader that is responsible for an object used it and still is, or released
it and is gone.
-/
theorem Accounted.replace
    (accounted : Accounted loaders)
    (claimed : loaders.claim object address = some loader)
    (touches : loaders.session.Touches object after)
    (fits : Fits object content (after.history object)) :
    Accounted
      (Loaders.put { loaders with session := after } address
        content) := by
  have known := accounted.claim_lt claimed
  have alone := ((accounted.settled known).of_claim claimed).2
  obtain ⟨stored, owned⟩ := Loaders.claim_eq_some_iff.mp claimed
  refine
    { live := ?_
      settled := ?_
      unopened := ?_
      attributed := ?_ }
  · intro place found present
    change Husk found ∨ ∃ object, object < after.opened ∧ _
    rw [touches.opened]
    by_cases here : place = address
    · subst here
      rw [Loaders.put_objects_same] at present
      exact .inr ⟨object, known, fits.obj present⟩
    · rw [Loaders.put_objects_other here] at present
      exact accounted.live present
  · intro other seen
    change other < after.opened at seen
    rw [touches.opened] at seen
    by_cases same : other = object
    · subst same
      exact fits.settled alone
    · refine fits.settled_other same (accounted.settled seen)
        (touches.others same) ?_
      refine Loaders.claim_eq_none stored ?_
      rw [owned]
      exact fun equal => same (Option.some.inj equal).symm
  · intro later unseen
    change after.opened ≤ later at unseen
    rw [touches.opened] at unseen
    refine (touches.others ?_).trans (accounted.unopened unseen)
    exact Nat.ne_of_gt (Nat.lt_of_lt_of_le known unseen)
  · intro effect member stray
    exact accounted.attributed (touches.strays member stray) stray

/-- The outside looks the same for every object. -/
structure Session.Unchanged (before after : Session) : Prop where
  opened :
    after.opened = before.opened
  history :
    ∀ object, after.history object = before.history object
  strays :
    ∀ {effect},
      effect ∈ after.trace →
      effect.about = none →
      effect ∈ before.trace ∨ effect.Inert

/-- A loader without resources did something, or is gone. -/
theorem Accounted.replace_husk
    (accounted : Accounted loaders)
    (stored : loaders.objects address = some loader)
    (husk : Husk loader)
    (unchanged : loaders.session.Unchanged after)
    (fits : ∀ changed, content = some changed → Husk changed) :
    Accounted
      (Loaders.put { loaders with session := after } address
        content) := by
  refine
    { live := ?_
      settled := ?_
      unopened := ?_
      attributed := ?_ }
  · intro place found present
    change Husk found ∨ ∃ object, object < after.opened ∧ _
    rw [unchanged.opened]
    by_cases here : place = address
    · subst here
      rw [Loaders.put_objects_same] at present
      exact .inl (fits found present)
    · rw [Loaders.put_objects_other here] at present
      exact accounted.live present
  · intro known seen
    change known < after.opened at seen
    rw [unchanged.opened] at seen
    refine (accounted.settled seen).congr (unchanged.history known) ?_
    intro place
    by_cases here : place = address
    · subst here
      rw [Loaders.claim_put_same,
        Loaders.claim_eq_none stored (by simp [husk.obj])]
      cases content with
      | none =>
          rfl
      | some changed =>
          simp [(fits changed rfl).obj]
    · exact Loaders.claim_put_other here
  · intro later unseen
    change after.opened ≤ later at unseen
    rw [unchanged.opened] at unseen
    exact (unchanged.history later).trans (accounted.unopened unseen)
  · intro effect member stray
    rcases unchanged.strays member stray with before | inert
    · exact accounted.attributed before stray
    · exact inert

/-- A loader moves to a free address. -/
theorem Accounted.move
    (accounted : Accounted loaders)
    (free : loaders.objects address = none)
    (stored : loaders.objects source = some loader) :
    Accounted
      ((loaders.put address (some loader)).put source
        (some loader.movedFrom)) := by
  have apart : address ≠ source := by
    rintro rfl
    rw [free] at stored
    cases stored
  have claims
      (object : ObjectId)
      {place : Nat}
      (elsewhere : place ≠ address)
      (away : place ≠ source) :
      ((loaders.put address (some loader)).put source
          (some loader.movedFrom)).claim object place =
        loaders.claim object place := by
    rw [Loaders.claim_put_other away, Loaders.claim_put_other elsewhere]
  have atSource
      (object : ObjectId) :
      ((loaders.put address (some loader)).put source
          (some loader.movedFrom)).claim object source = none := by
    rw [Loaders.claim_put_same]
    simp [(movedFrom_husk loader).obj]
  have atTarget
      (object : ObjectId) :
      ((loaders.put address (some loader)).put source
          (some loader.movedFrom)).claim object address =
        loaders.claim object source := by
    rw [Loaders.claim_put_other apart, Loaders.claim_put_same,
      Loaders.claim, stored]
  refine
    { live := ?_
      settled := ?_
      unopened := accounted.unopened
      attributed := accounted.attributed }
  · intro place found present
    by_cases away : place = source
    · subst away
      rw [Loaders.put_objects_same] at present
      obtain rfl := Option.some.inj present
      exact .inl (movedFrom_husk loader)
    · rw [Loaders.put_objects_other away] at present
      by_cases here : place = address
      · subst here
        rw [Loaders.put_objects_same] at present
        obtain rfl := Option.some.inj present
        exact accounted.live stored
      · rw [Loaders.put_objects_other here] at present
        exact accounted.live present
  · intro object seen
    cases claimed : loaders.claim object source with
    | none =>
        refine (accounted.settled seen).congr rfl ?_
        intro place
        by_cases away : place = source
        · subst away
          rw [atSource, claimed]
        · by_cases here : place = address
          · subst here
            rw [atTarget, claimed, Loaders.claim, free]
            rfl
          · exact claims object here away
    | some owner =>
        obtain ⟨installed, alone⟩ :=
          (accounted.settled seen).of_claim claimed
        refine .held ((atTarget object).trans claimed) installed ?_
        intro place here
        by_cases away : place = source
        · subst away
          exact atSource object
        · rw [claims object here away]
          exact alone place away

/-- A call of `create` returned. -/
theorem Accounted.opens
    (accounted : Accounted loaders)
    (free : loaders.objects address = none)
    (opens : loaders.session.Opens after)
    (fits :
      Fits loaders.session.opened content
        (after.history loaders.session.opened)) :
    Accounted
      (Loaders.put { loaders with session := after } address
        content) := by
  have fresh
      (place : Nat) :
      loaders.claim loaders.session.opened place = none := by
    cases claimed : loaders.claim loaders.session.opened place with
    | none =>
        rfl
    | some owner =>
        exact absurd (accounted.claim_lt claimed) (Nat.lt_irrefl _)
  refine
    { live := ?_
      settled := ?_
      unopened := ?_
      attributed := ?_ }
  · intro place found present
    change Husk found ∨ ∃ object, object < after.opened ∧ _
    rw [opens.opened]
    by_cases here : place = address
    · subst here
      rw [Loaders.put_objects_same] at present
      exact .inr ⟨_, Nat.lt_succ_self _, fits.obj present⟩
    · rw [Loaders.put_objects_other here] at present
      rcases accounted.live present with husk | ⟨object, seen, owned⟩
      · exact .inl husk
      · exact .inr ⟨object, Nat.lt_succ_of_lt seen, owned⟩
  · intro object seen
    change object < after.opened at seen
    rw [opens.opened] at seen
    by_cases new : object = loaders.session.opened
    · subst new
      exact fits.settled fun other _ => fresh other
    · have old : object < loaders.session.opened :=
        Nat.lt_of_le_of_ne (Nat.le_of_lt_succ seen) new
      refine fits.settled_other new (accounted.settled old)
        (opens.others new) ?_
      rw [Loaders.claim, free]
      rfl
  · intro later unseen
    change after.opened ≤ later at unseen
    rw [opens.opened] at unseen
    refine (opens.others ?_).trans
      (accounted.unopened (Nat.le_of_succ_le unseen))
    exact Nat.ne_of_gt unseen
  · intro effect member stray
    exact accounted.attributed (opens.strays member stray) stray

end Accounts

/-! ## Every call keeps the accounts -/

section Calls

variable {loaders after : Loaders}
variable {address source : Nat}
variable {object : ObjectId}
variable {loader changed : XdpLoader}
variable {session reached : Session}

/-- Later effects leave the address stored. -/
theorem Installed.grow
    (installed : Installed object loader (session.history object))
    (held : Held object changed (reached.history object))
    (touches : session.Touches object reached)
    (xskMapFd : changed.xskMapFd = loader.xskMapFd)
    (ipMapFd : changed.ipMapFd = loader.ipMapFd) :
    Installed object changed (reached.history object) := by
  obtain ⟨value, stored⟩ := installed.stored
  exact
    { toHeld := held
      xskMapFd := xskMapFd.trans installed.xskMapFd
      ipMapFd := ipMapFd.trans installed.ipMapFd
      stored := lastStored_of_prefix touches.grows stored }

/-- An update changes no resource. -/
theorem updateFilterIp_ensures
    {ipStr : String}
    (installed : Installed object loader (session.history object)) :
    Ensures (loader.updateFilterIp ipStr) session
      (fun _ reached =>
        Installed object loader (reached.history object) ∧
          session.Touches object reached) := by
  unfold XdpLoader.updateFilterIp
  cases XdpLoader.parseIpv4 ipStr with
  | error error =>
      exact Ensures.pure ⟨installed, .refl⟩
  | ok addr =>
      refine Ensures.bind
        (logged_appends attemptOn_quiet fun _ => installed.ipMapFd) ?_
      intro outcome reached appended
      have held : Held object loader (reached.history object) := by
        rw [appended.history]
        exact installed.toHeld.append_inert (targetIpUpdate_inert ..)
      have kept :=
        installed.grow held appended.toTouches rfl rfl
      cases outcome with
      | some error =>
          exact Ensures.pure ⟨kept, appended.toTouches⟩
      | none =>
          exact Ensures.pure ⟨kept, appended.toTouches⟩

/-- Nothing has happened. -/
theorem Session.Unchanged.refl : session.Unchanged session where
  opened := rfl
  history := fun _ => rfl
  strays := fun member _ => .inl member

/-- Without a map the update fails on its descriptor. -/
theorem Husk.updateFilterIp
    {ipStr : String}
    (husk : Husk loader) :
    Ensures (loader.updateFilterIp ipStr) session
      (fun _ reached => session.Unchanged reached) := by
  unfold XdpLoader.updateFilterIp
  cases XdpLoader.parseIpv4 ipStr with
  | error error =>
      exact Ensures.pure .refl
  | ok addr =>
      have unnoticed :
          Ensures (Libbpf.targetIpUpdateElem loader.ipMapFd addr)
            session (fun _ reached => session.Unchanged reached) := by
        rw [husk.ipMapFd]
        refine
          { opened := rfl
            history := fun object => history_append_other nofun
            strays := ?_ }
        intro effect member _
        rcases List.mem_append.mp member with before | last
        · exact .inl before
        · rw [List.mem_singleton.mp last]
          exact .inr (targetIpUpdate_inert ..)
      refine unnoticed.bind ?_
      intro outcome reached unchanged
      cases outcome with
      | some error =>
          exact Ensures.pure unchanged
      | none =>
          exact Ensures.pure unchanged

/-- What a live loader is, with its claim. -/
theorem Accounted.cases
    (accounted : Accounted loaders)
    (stored : loaders.objects address = some loader) :
    Husk loader ∨
      ∃ object,
        loaders.claim object address = some loader ∧
          Installed object loader
            (loaders.session.history object) := by
  rcases accounted.live stored with husk | ⟨object, seen, owned⟩
  · exact .inl husk
  · have claimed : loaders.claim object address = some loader :=
      Loaders.claim_eq_some_iff.mpr ⟨stored, owned⟩
    exact .inr ⟨object, claimed,
      ((accounted.settled seen).of_claim claimed).1⟩

/-- A loader was used, and stays at its address with a new content. -/
theorem Accounted.used
    {Result : Type}
    {program : Libbpf Result}
    (content : Result → XdpLoader)
    (accounted : Accounted loaders)
    (stored : loaders.objects address = some loader)
    (whenHusk :
      Husk loader →
      Ensures program loaders.session
        (fun result reached =>
          Husk (content result) ∧ loaders.session.Unchanged reached))
    (whenInstalled :
      ∀ {object},
        Installed object loader (loaders.session.history object) →
        Ensures program loaders.session
          (fun result reached =>
            Installed object (content result) (reached.history object) ∧
              loaders.session.Touches object reached)) :
    Accounted
      ((loaders.perform program).2.put address
        (some (content (loaders.perform program).1))) := by
  rcases accounted.cases stored with
    husk | ⟨object, claimed, installed⟩
  · obtain ⟨stillHusk, unchanged⟩ := whenHusk husk
    refine accounted.replace_husk stored husk unchanged ?_
    rintro _ ⟨⟩
    exact stillHusk
  · obtain ⟨kept, touches⟩ := whenInstalled installed
    exact accounted.replace claimed touches (.inl ⟨_, rfl, kept⟩)

/-- A cut is accounted for. -/
theorem Accounted.stopRedirect
    (accounted : Accounted loaders)
    (stored : loaders.objects address = some loader) :
    Accounted
      ((loaders.perform loader.stopRedirect).2.put address
        (some (loaders.perform loader.stopRedirect).1.2)) := by
  refine accounted.used Prod.snd stored ?_ ?_
  · intro husk
    refine husk.stopRedirect.weaken ?_
    rintro ⟨_, stopped⟩ _ ⟨same, rfl⟩
    obtain rfl : stopped = loader := same
    exact ⟨husk, .refl⟩
  · intro object installed
    refine (stopRedirect_ensures installed.toHeld).weaken ?_
    rintro ⟨_, stopped⟩ _ ⟨held, touches, ⟨redirecting, same⟩, _⟩
    obtain rfl : stopped = { loader with redirecting := redirecting } :=
      same
    exact ⟨installed.grow held touches rfl rfl, touches⟩

/-- So is a detach. -/
theorem Accounted.detach
    (accounted : Accounted loaders)
    (stored : loaders.objects address = some loader) :
    Accounted
      ((loaders.perform loader.detach).2.put address
        (some (loaders.perform loader.detach).1.2)) := by
  refine accounted.used Prod.snd stored ?_ ?_
  · intro husk
    refine husk.detach.weaken ?_
    rintro ⟨_, detached⟩ _ ⟨same, rfl⟩
    obtain rfl : detached = loader := same
    exact ⟨husk, .refl⟩
  · intro object installed
    refine (detach_ensures installed.toHeld).weaken ?_
    rintro ⟨_, detached⟩ _ ⟨held, touches, ⟨ifindex, same⟩, _⟩
    obtain rfl : detached = { loader with ifindex := ifindex } := same
    exact ⟨installed.grow held touches rfl rfl, touches⟩

/-- So is an update. -/
theorem Accounted.updateFilterIp
    {ipStr : String}
    (accounted : Accounted loaders)
    (stored : loaders.objects address = some loader) :
    Accounted
      (loaders.perform (loader.updateFilterIp ipStr)).2 := by
  have used :
      Accounted
        ((loaders.perform (loader.updateFilterIp ipStr)).2.put address
          (some loader)) :=
    accounted.used (fun _ => loader) stored
      (fun husk =>
        husk.updateFilterIp.weaken fun unchanged => ⟨husk, unchanged⟩)
      (fun installed => updateFilterIp_ensures installed)
  have same :
      (loaders.perform (loader.updateFilterIp ipStr)).2.put address
          (some loader) =
        (loaders.perform (loader.updateFilterIp ipStr)).2 := by
    rw [Loaders.put, ← stored]
    simp [Loaders.perform]
  rwa [same] at used

/-- A loader was destroyed, or is about to be overwritten. -/
theorem Accounted.drop
    (accounted : Accounted loaders)
    (stored : loaders.objects address = some loader) :
    Accounted
      ((loaders.perform loader.release).2.put address none) := by
  rcases accounted.cases stored with
    husk | ⟨object, claimed, installed⟩
  · have silent : (loader.release loaders.session).2 = loaders.session :=
      husk.release
    refine accounted.replace_husk stored husk ?_ nofun
    rw [silent]
    exact .refl
  · obtain ⟨released, touches, _⟩ := release_ensures installed.toHeld
    exact accounted.replace claimed touches (.inr ⟨rfl, released⟩)

end Calls

/-! ## Runs -/

section Runs

variable {loaders after final : Loaders}
variable {call : LoaderCall}
variable {calls : List LoaderCall}

/-- At the start there is nothing to account for. -/
theorem Accounted.start
    (outcomes : Nat → Option Errno)
    (indexes : Nat → String → InterfaceIndex) :
    Accounted (Loaders.start outcomes indexes) where
  live := nofun
  settled := fun seen => absurd seen (Nat.not_lt_zero _)
  unopened := fun _ => rfl
  attributed := nofun

/-- A new object is claimed by its loader, or released at once. -/
theorem Accounted.create
    {address : Nat}
    {bpfObjPath iface : String}
    {queueId : UInt32}
    {xskFd : Int}
    {filterIp : String}
    (accounted : Accounted loaders)
    (stepped :
      loaders.step
          (.create address bpfObjPath iface queueId xskFd filterIp) =
        some after) :
    Accounted after := by
  have outcome :
      Ensures
        (XdpLoader.create bpfObjPath iface queueId xskFd filterIp)
        loaders.session
        (CreateOutcome iface queueId xskFd filterIp loaders.session) :=
    create_ensures (accounted.unopened (Nat.le_refl _))
  simp only [Loaders.step, Loaders.perform] at stepped
  unfold Ensures at outcome
  generalize
    XdpLoader.create bpfObjPath iface queueId xskFd filterIp
      loaders.session = ran at outcome stepped
  obtain ⟨result, reached⟩ := ran
  split at stepped
  · cases stepped
  · next free =>
      cases result with
      | ok loader =>
          cases stepped
          obtain ⟨opens, installed, _⟩ := outcome
          exact accounted.opens free opens
            (.inl ⟨loader, rfl, installed⟩)
      | error error =>
          cases stepped
          have stays :
              Loaders.put { loaders with session := reached } address
                  none =
                { loaders with session := reached } := by
            rw [Loaders.put, ← free, Function.update_eq_self]
          rcases outcome with quiet | ⟨opens, released, _⟩
          · exact
              { live := by
                  rw [quiet.opened]
                  exact accounted.live
                settled := by
                  intro object seen
                  rw [quiet.opened] at seen
                  exact (accounted.settled seen).congr
                    (quiet.history object) (fun _ => rfl)
                unopened := by
                  intro object unseen
                  rw [quiet.opened] at unseen
                  exact (quiet.history object).trans
                    (accounted.unopened unseen)
                attributed := by
                  rw [quiet.trace]
                  exact accounted.attributed }
          · have opened :=
              accounted.opens free opens (.inr ⟨rfl, released⟩)
            rwa [stays] at opened

/-- Every call keeps the account. -/
theorem Accounted.step
    (accounted : Accounted loaders)
    (stepped : loaders.step call = some after) :
    Accounted after := by
  cases call with
  | create address bpfObjPath iface queueId xskFd filterIp =>
      exact accounted.create stepped
  | moveConstruct address source =>
      simp only [Loaders.step] at stepped
      split at stepped
      · next loader free stored =>
          cases stepped
          exact accounted.move free stored
      · cases stepped
  | moveAssign address source =>
      simp only [Loaders.step] at stepped
      split at stepped
      · next target loader storedTarget stored =>
          split at stepped
          · cases stepped
            exact accounted
          · next apart =>
              cases stepped
              have dropped := accounted.drop storedTarget
              have moved :=
                dropped.move (Loaders.put_objects_same ..)
                  ((Loaders.put_objects_other (Ne.symm apart)).trans
                    stored)
              rwa [Loaders.put_put] at moved
      · cases stepped
  | stopRedirect address =>
      obtain ⟨loader, stored, rfl⟩ := Option.map_eq_some_iff.mp stepped
      exact accounted.stopRedirect stored
  | detach address =>
      obtain ⟨loader, stored, rfl⟩ := Option.map_eq_some_iff.mp stepped
      exact accounted.detach stored
  | updateFilterIp address ipStr =>
      obtain ⟨loader, stored, rfl⟩ := Option.map_eq_some_iff.mp stepped
      exact accounted.updateFilterIp stored
  | destroy address =>
      obtain ⟨loader, stored, rfl⟩ := Option.map_eq_some_iff.mp stepped
      exact accounted.drop stored

/-- So does every run. -/
theorem Accounted.run
    (ran : Loaders.run calls loaders = some final)
    (accounted : Accounted loaders) :
    Accounted final := by
  induction calls generalizing loaders with
  | nil =>
      cases ran
      exact accounted
  | cons call later inductionHypothesis =>
      simp only [Loaders.run, Option.bind_eq_some_iff] at ran
      obtain ⟨middle, stepped, rest⟩ := ran
      exact inductionHypothesis rest (accounted.step stepped)

/-- Every history keeps to the rules, in any state. -/
theorem Accounted.lawful
    (accounted : Accounted loaders)
    (object : ObjectId) :
    Lawful (loaders.session.history object) := by
  by_cases seen : object < loaders.session.opened
  · cases accounted.settled seen with
    | released released _ =>
        exact released.lawful
    | held _ installed _ =>
        exact installed.lawful
  · rw [accounted.unopened (Nat.le_of_not_lt seen)]
    exact
      { openedFirst := .nil
        closedLast := .nil
        insertedOnce := .nil
        attachedOnce := .nil
        detachedOnce := .nil
        settledOnce := .nil
        detachMatches := nofun
        deleteMatches := nofun }

/-- No detach or delete is made without an object. -/
theorem Accounted.undoes
    (accounted : Accounted loaders)
    (effect : Effect)
    (member : effect ∈ loaders.session.trace)
    (undoes : effect.detaches = true ∨ effect.deletes = true) :
    ∃ object, effect ∈ loaders.session.history object := by
  cases about : effect.about with
  | none =>
      have inert := accounted.attributed member about
      rw [inert.detaches, inert.deletes] at undoes
      rcases undoes with impossible | impossible <;> cases impossible
  | some object =>
      exact ⟨object, mem_history.mpr ⟨member, about⟩⟩

/-- An opening is in the history of its object. -/
theorem Session.mem_history_open
    {session : Session}
    {object : ObjectId} :
    Effect.objectOpen object ∈ session.history object ↔
      Effect.objectOpen object ∈ session.trace := by
  rw [Session.history, mem_history]
  exact and_iff_left rfl

/-- What was opened is below the next handle. -/
theorem Accounted.opened_lt
    {object : ObjectId}
    (accounted : Accounted loaders)
    (opened : Effect.objectOpen object ∈ loaders.session.trace) :
    object < loaders.session.opened := by
  by_contra beyond
  have member := Session.mem_history_open.mpr opened
  rw [accounted.unopened (Nat.le_of_not_lt beyond)] at member
  cases member

/--
Every kernel resource is released exactly once: in every state of every run
the effects about each object keep to the rules, and every detach and delete
is about an object; once all loaders are destroyed, every object is released;
and a failed `create` leaves no object that is not released, and no program
that was ever attached.
-/
theorem resources_released_once
    (outcomes : Nat → Option Errno)
    (indexes : Nat → String → InterfaceIndex)
    (calls : List LoaderCall)
    (ran :
      Loaders.run calls (Loaders.start outcomes indexes) = some final) :
    (∀ object, Lawful (final.session.history object)) ∧
      (∀ effect,
        effect ∈ final.session.trace →
        effect.detaches = true ∨ effect.deletes = true →
        ∃ object, effect ∈ final.session.history object) ∧
      (final.AllDestroyed →
        ∀ object,
          Effect.objectOpen object ∈ final.session.trace →
          Released (final.session.history object)) ∧
      (∀ bpfObjPath iface queueId xskFd filterIp error after,
        XdpLoader.create bpfObjPath iface queueId xskFd filterIp
            final.session = (.error error, after) →
        ∀ object,
          Effect.objectOpen object ∈ after.trace →
          Effect.objectOpen object ∉ final.session.trace →
          Released (after.history object) ∧
            (after.history object).any Effect.attaches = false) := by
  have accounted := Accounted.run ran (.start outcomes indexes)
  refine ⟨accounted.lawful, accounted.undoes, ?_, ?_⟩
  · intro destroyed object opened
    cases accounted.settled (accounted.opened_lt opened) with
    | released released _ =>
        exact released
    | held claimed _ _ =>
        obtain ⟨stored, _⟩ := Loaders.claim_eq_some_iff.mp claimed
        rw [destroyed] at stored
        cases stored
  · intro bpfObjPath iface queueId xskFd filterIp error after failed
      object opened unopened
    have outcome :
        Ensures
          (XdpLoader.create bpfObjPath iface queueId xskFd filterIp)
          final.session
          (CreateOutcome iface queueId xskFd filterIp final.session) :=
      create_ensures (accounted.unopened (Nat.le_refl _))
    rw [Ensures, failed] at outcome
    rcases outcome with quiet | ⟨opens, released, notAttached⟩
    · rw [quiet.trace] at opened
      exact absurd opened unopened
    · have here : object = final.session.opened := by
        by_contra apart
        refine unopened (Session.mem_history_open.mp ?_)
        rw [← opens.others apart]
        exact Session.mem_history_open.mpr opened
      subst here
      exact ⟨released, notAttached⟩

/-- Create, move, and destroy both objects; no delete succeeds. -/
def sampleCalls : List LoaderCall :=
  [.create 0 "xdp_prog_bpf.o" "eth0" 3 7 "10.0.0.1",
    .moveConstruct 1 0,
    .stopRedirect 1,
    .moveAssign 0 1,
    .destroy 1,
    .destroy 0]

/-- Only the deletes of the sample, calls 9 and 10, fail. -/
def sampleOutcomes (call : Nat) : Option Errno :=
  if call = 9 ∨ call = 10 then
    some .ebusy
  else
    none

/--
The program is detached and the entry is left, and both are accounted for.
-/
theorem resources_released_once_sample :
    ∃ final,
      Loaders.run sampleCalls
          (Loaders.start sampleOutcomes fun _ _ => ⟨1, by decide⟩) =
        some final ∧
        (final.session.history 0).any Effect.detached = true ∧
        (final.session.history 0).any Effect.settles = false ∧
        Released (final.session.history 0) := by
  obtain ⟨final, ran, destroyed, opened, detached, left⟩ :
      ∃ final,
        Loaders.run sampleCalls
            (Loaders.start sampleOutcomes fun _ _ => ⟨1, by decide⟩) =
          some final ∧
          final.AllDestroyed ∧
          Effect.objectOpen 0 ∈ final.session.trace ∧
          (final.session.history 0).any Effect.detached = true ∧
          (final.session.history 0).any Effect.settles = false := by
    refine ⟨_, rfl, ?_, .head _, rfl, rfl⟩
    rintro (_ | _ | address) <;> rfl
  exact ⟨final, ran, detached, left,
    (resources_released_once _ _ _ ran).2.2.1 destroyed 0 opened⟩

end Runs

end AfXdp
