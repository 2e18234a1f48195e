import AfXdp.LoaderRuns

namespace AfXdp

open EffectLog
open WireBytes

/-!
# The filter and its loader agree

What the XDP program captures, with the maps as the loaders filled them: the
IPv4 packets of the address that was stored last, for the queues that have a
socket.
-/

/-- The program redirects the frame if it is wanted, and else passes it. -/
def Decides
    (maps : Maps)
    (rxQueueIndex : UInt32)
    (frame : Bytes)
    (wanted : Prop) : Prop :=
  (wanted ∧ xdpFilterIp maps rxQueueIndex frame = some .redirect) ∨
    (¬ wanted ∧ xdpFilterIp maps rxQueueIndex frame = some .pass)

section Verdicts

variable {maps : Maps}
variable {rxQueueIndex : UInt32}
variable {frame : Bytes}

/-- With a known target, only the source address and the queue matter. -/
theorem decides_of_target
    {target : Ipv4}
    (known : maps.targetIp = some target) :
    Decides maps rxQueueIndex frame
      (ComesFrom target frame ∧
        (maps.xsks rxQueueIndex).isSome = true) := by
  have captured :
      Captured maps rxQueueIndex frame ↔
        ComesFrom target frame ∧
          (maps.xsks rxQueueIndex).isSome = true := by
    constructor
    · rintro ⟨⟨other, stored, source⟩, entry⟩
      obtain rfl : other = target :=
        Option.some.inj (stored.symm.trans known)
      exact ⟨source, entry⟩
    · rintro ⟨source, entry⟩
      exact ⟨⟨target, known, source⟩, entry⟩
  have decided := xdpFilterIp_cases maps rxQueueIndex frame
  rwa [captured] at decided

/-- Without a socket for the queue every frame is passed. -/
theorem xdpFilterIp_of_no_entry
    (noEntry : maps.xsks rxQueueIndex = none) :
    xdpFilterIp maps rxQueueIndex frame = some .pass := by
  rcases xdpFilterIp_cases maps rxQueueIndex frame with
    ⟨⟨_, entry⟩, _⟩ | ⟨_, passes⟩
  · rw [noEntry] at entry
    cases entry
  · exact passes

end Verdicts

section Results

variable {session : Session}
variable {object : ObjectId}
variable {loader : XdpLoader}

/-- A successful update is in force, a failed one changes nothing. -/
theorem updateFilterIp_result
    {ipStr : String}
    (installed : Installed object loader (session.history object)) :
    Ensures (loader.updateFilterIp ipStr) session
      (fun result reached =>
        match result with
        | .ok () =>
            Filters ipStr (reached.history object)
        | .error _ =>
            mapsOf (reached.history object) =
              mapsOf (session.history object)) := by
  unfold XdpLoader.updateFilterIp
  cases parsed : XdpLoader.parseIpv4 ipStr with
  | error error =>
      exact Ensures.pure rfl
  | ok addr =>
      refine Ensures.bind
        (logged_appends attemptOn_quiet fun _ => installed.ipMapFd) ?_
      intro outcome reached appended
      cases outcome with
      | some error =>
          refine Ensures.pure ?_
          rw [appended.history, mapsOf_append]
          rfl
      | none =>
          refine Ensures.pure ⟨_, parseIpv4_ok parsed, ?_⟩
          rw [appended.history]
          exact lastStored_append_some rfl

/-- A successful `stop_redirect` is remembered. -/
theorem stopRedirect_result :
    Ensures loader.stopRedirect session
      (fun result _ =>
        result.1 = .ok () → result.2.redirecting = false) := by
  unfold XdpLoader.stopRedirect
  cases redirecting : loader.redirecting with
  | false =>
      exact Ensures.pure fun _ => redirecting
  | true =>
      have tried :
          Ensures
            (Libbpf.xsksDeleteElem loader.xskMapFd loader.queueId)
            session (fun _ _ => True) :=
        trivial
      refine tried.bind ?_
      intro outcome reached _
      cases outcome with
      | none =>
          exact Ensures.pure fun _ => rfl
      | some error =>
          dsimp only
          split
          · exact Ensures.pure nofun
          · exact Ensures.pure fun _ => rfl

end Results

/--
The filter as a live loader governs it: its target is the address stored last;
once the loader does not redirect, everything is passed; a successful
`stop_redirect` leads there; and `update_filter_ip` replaces the address if it
succeeds, and else leaves both maps as they are.
-/
structure Governs
    (session : Session)
    (loader : XdpLoader)
    (object : ObjectId) : Prop where
  verdicts :
    ∃ target,
      lastStored (session.history object) = some target ∧
        ∀ rxQueueIndex frame,
          Decides (mapsOf (session.history object)) rxQueueIndex frame
            (ComesFrom target frame ∧
              ((mapsOf (session.history object)).xsks
                rxQueueIndex).isSome = true)
  stopped :
    loader.redirecting = false →
    ∀ frame,
      xdpFilterIp (mapsOf (session.history object)) loader.queueId
        frame = some .pass
  stops :
    Ensures loader.stopRedirect session
      (fun result _ =>
        result.1 = .ok () → result.2.redirecting = false)
  updates :
    ∀ ipStr,
      Ensures (loader.updateFilterIp ipStr) session
        (fun result after =>
          match result with
          | .ok () =>
              Filters ipStr (after.history object)
          | .error _ =>
              mapsOf (after.history object) =
                mapsOf (session.history object))

/-- A loader that is installed governs the filter. -/
theorem Installed.governs
    {session : Session}
    {object : ObjectId}
    {loader : XdpLoader}
    (installed : Installed object loader (session.history object)) :
    Governs session loader object where
  verdicts := by
    obtain ⟨target, latest⟩ := installed.stored
    refine ⟨target, latest, ?_⟩
    intro rxQueueIndex frame
    exact decides_of_target (mapsOf_targetIp latest)
  stopped := by
    intro stopped frame
    exact xdpFilterIp_of_no_entry
      (installed.elsewhere loader.queueId (.inr stopped))
  stops :=
    stopRedirect_result
  updates :=
    fun _ => updateFilterIp_result installed

section Runs

variable {final : Loaders}

/--
The verdict on every frame, on every queue: it never reads out of bounds and
depends on the maps as it should; every live loader with an object governs the
filter; and `create` starts with the address that it was given.
-/
theorem filter_captures_exactly
    (outcomes : Nat → Option Errno)
    (indexes : Nat → String → InterfaceIndex)
    (calls : List LoaderCall)
    (ran :
      Loaders.run calls (Loaders.start outcomes indexes) = some final) :
    (∀ maps rxQueueIndex frame,
        Decides maps rxQueueIndex frame
          (Captured maps rxQueueIndex frame)) ∧
      (∀ address loader object,
        final.objects address = some loader →
        loader.obj = some object →
        Governs final.session loader object) ∧
      (∀ bpfObjPath iface queueId xskFd filterIp,
        Ensures
          (XdpLoader.create bpfObjPath iface queueId xskFd filterIp)
          final.session
          (fun result after =>
            ∀ loader,
              result = .ok loader →
              ∃ object,
                loader.obj = some object ∧
                  Filters filterIp (after.history object))) := by
  have accounted := Accounted.run ran (.start outcomes indexes)
  refine ⟨xdpFilterIp_cases, ?_, ?_⟩
  · intro address loader object stored owned
    have claimed : final.claim object address = some loader :=
      Loaders.claim_eq_some_iff.mpr ⟨stored, owned⟩
    obtain ⟨installed, _⟩ :=
      (accounted.settled (accounted.claim_lt claimed)).of_claim claimed
    exact installed.governs
  · intro bpfObjPath iface queueId xskFd filterIp
    refine Ensures.weaken
      (create_ensures (accounted.unopened (Nat.le_refl _))) ?_
    rintro result after outcome loader rfl
    obtain ⟨_, installed, _, filters⟩ := outcome
    exact ⟨_, installed.obj, filters⟩

/-- An IPv4 header from 10.0.0.1 behind one VLAN tag. -/
def sampleFrame : Bytes :=
  List.replicate 12 0 ++ [0x81, 0, 0, 7, 8, 0] ++
    List.replicate 12 0 ++ [10, 0, 0, 1] ++ List.replicate 4 0

/-- Its source is the one that the loader was created for. -/
theorem filter_captures_exactly_sample :
    ∃ final loader,
      Loaders.run
          [.create 0 "xdp_prog_bpf.o" "eth0" 3 7 "10.0.0.1"]
          (Loaders.start (fun _ => none) fun _ _ => ⟨1, by decide⟩) =
        some final ∧
        final.objects 0 = some loader ∧
        xdpFilterIp (mapsOf (final.session.history 0)) 3 sampleFrame =
          some .redirect ∧
        Governs final.session loader 0 := by
  obtain ⟨final, loader, ran, stored, owned, redirects⟩ :
      ∃ final loader,
        Loaders.run
            [.create 0 "xdp_prog_bpf.o" "eth0" 3 7 "10.0.0.1"]
            (Loaders.start (fun _ => none) fun _ _ => ⟨1, by decide⟩) =
          some final ∧
          final.objects 0 = some loader ∧
          loader.obj = some 0 ∧
          xdpFilterIp (mapsOf (final.session.history 0)) 3
            sampleFrame = some .redirect :=
    ⟨_, _, rfl, rfl, rfl, rfl⟩
  exact ⟨final, loader, ran, stored, redirects,
    (filter_captures_exactly _ _ _ ran).2.1 0 loader 0 stored owned⟩

end Runs

end AfXdp
