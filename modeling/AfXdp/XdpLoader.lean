import AfXdp.EffectLog
import AfXdp.World
import AfXdp.XdpFilter

namespace AfXdp

open WireBytes

/-!
# `XdpLoader`

The class of `xdp_loader.hpp` and the calls it makes.  Every call into libbpf
may succeed or fail on its own; the outcomes are given by the number of the
call.  A call that has an effect outside the process leaves it in the trace.
-/

/-- An open `bpf_object`; no handle is given out twice. -/
abbrev ObjectId :=
  Nat

/-- `ENOENT`. -/
def Errno.enoent : Errno :=
  ⟨2, by decide⟩

/-- `EBADF`, the outcome of every call on the descriptor `-1`. -/
def Errno.ebadf : Errno :=
  ⟨9, by decide⟩

/-- The index of an interface, which is never zero. -/
structure InterfaceIndex where
  value : UInt32
  nonzero : value ≠ 0
  deriving Repr, DecidableEq

/-- `struct AfxdpError`, without the source location in its text. -/
structure AfxdpError where
  code : Nat
  context : String
  deriving Repr, DecidableEq

/-- `make_errno_error`. -/
def makeErrnoError (error : Errno) (context : String) : AfxdpError where
  code := error.code
  context := context

/-- `make_logic_error`. -/
def makeLogicError (context : String) : AfxdpError where
  code := 0
  context := context

/--
A call with an effect, its arguments and its outcome.  A map's descriptor is
given by the object that the map belongs to, and is none for `-1`.  The owner
of a `detach` is the object of the loader that made the call.
-/
inductive Effect where
  | objectOpen (object : ObjectId) : Effect
  | xsksUpdate
      (fd : Option ObjectId) (queue : UInt32) (socket : Int)
      (outcome : Option Errno) :
      Effect
  | xsksDelete
      (fd : Option ObjectId) (queue : UInt32)
      (outcome : Option Errno) :
      Effect
  | targetIpUpdate
      (fd : Option ObjectId) (value : Ipv4)
      (outcome : Option Errno) :
      Effect
  | attach
      (program : ObjectId) (ifindex flags : UInt32)
      (outcome : Option Errno) :
      Effect
  | detach
      (owner : Option ObjectId) (ifindex flags : UInt32)
      (outcome : Option Errno) :
      Effect
  | objectClose (object : ObjectId) : Effect
  deriving Repr, DecidableEq

/-- The object whose resources the effect is about. -/
def Effect.about : Effect → Option ObjectId
  | .objectOpen object =>
      some object
  | .xsksUpdate fd _ _ _ =>
      fd
  | .xsksDelete fd _ _ =>
      fd
  | .targetIpUpdate fd _ _ =>
      fd
  | .attach program _ _ _ =>
      some program
  | .detach owner _ _ _ =>
      owner
  | .objectClose object =>
      some object

/--
The outside of the process: the outcome of every call, the index of every
interface at every call, how many calls were made and objects opened, and the
trace.
-/
structure Session where
  outcomes : Nat → Option Errno
  indexes : Nat → String → InterfaceIndex
  calls : Nat
  opened : Nat
  trace : List Effect

/-- The effects about an object, in order. -/
def Session.history
    (session : Session)
    (object : ObjectId) :
    List Effect :=
  EffectLog.history Effect.about object session.trace

/-- Code that makes calls. -/
abbrev Libbpf :=
  StateM Session

namespace Libbpf

/-- The outcome of the next call: none, or the `errno` it fails with. -/
def attempt : Libbpf (Option Errno) :=
  fun session =>
    (session.outcomes session.calls,
      { session with calls := session.calls + 1 })

/-- Leave an effect in the trace. -/
def record (effect : Effect) : Libbpf Unit :=
  fun session =>
    ((), { session with trace := session.trace ++ [effect] })

/-- The index of the interface that the next call returns, if it succeeds. -/
def nextIndex (iface : String) : Libbpf InterfaceIndex :=
  fun session =>
    (session.indexes session.calls iface, session)

/-- `if_nametoindex`; an error stands for the return value 0. -/
def ifNametoindex (iface : String) : Libbpf (Except Errno UInt32) := do
  let index ← nextIndex iface
  match ← attempt with
  | some error =>
      return .error error
  | none =>
      return .ok index.value

/-- Give out the next handle. -/
def allocateObject : Libbpf ObjectId :=
  fun session =>
    (session.opened,
      { session with opened := session.opened + 1 })

/-- `bpf_object__open`; an error stands for the null pointer. -/
def bpfObjectOpen (_path : String) : Libbpf (Except Errno ObjectId) := do
  match ← attempt with
  | some error =>
      return .error error
  | none =>
      let object ← allocateObject
      record (.objectOpen object)
      return .ok object

/-- `bpf_object__load`. -/
def bpfObjectLoad (_object : ObjectId) : Libbpf (Option Errno) :=
  attempt

/-- Look for a part of an object; its descriptor, if it was found. -/
def find (object : ObjectId) : Libbpf (Option ObjectId) := do
  match ← attempt with
  | some _ =>
      return none
  | none =>
      return some object

/-- `bpf_object__find_map_by_name`, and `bpf_map__fd` of what was found. -/
def findMapFd (object : ObjectId) (_name : String) : Libbpf (Option ObjectId) :=
  find object

/-- `bpf_object__find_program_by_name`, and `bpf_program__fd` of it. -/
def findProgramFd
    (object : ObjectId)
    (_name : String) :
    Libbpf (Option ObjectId) :=
  find object

/-- The outcome of a call on a descriptor. -/
def attemptOn : Option ObjectId → Libbpf (Option Errno)
  | none =>
      return some .ebadf
  | some _ =>
      attempt

/-- A call whose effect is recorded with its outcome. -/
def logged
    (call : Libbpf (Option Errno))
    (effect : Option Errno → Effect) :
    Libbpf (Option Errno) := do
  let outcome ← call
  record (effect outcome)
  return outcome

/-- `bpf_map_update_elem` on `xsks_map`. -/
def xsksUpdateElem
    (fd : Option ObjectId)
    (key : UInt32)
    (socket : Int) :
    Libbpf (Option Errno) :=
  logged (attemptOn fd) (.xsksUpdate fd key socket)

/-- `bpf_map_delete_elem` on `xsks_map`. -/
def xsksDeleteElem
    (fd : Option ObjectId)
    (key : UInt32) :
    Libbpf (Option Errno) :=
  logged (attemptOn fd) (.xsksDelete fd key)

/-- `bpf_map_update_elem` on `target_ip_map`, with the bytes of `addr`. -/
def targetIpUpdateElem
    (fd : Option ObjectId)
    (addr : UInt32) :
    Libbpf (Option Errno) :=
  logged (attemptOn fd) (.targetIpUpdate fd ⟨store32 addr, rfl⟩)

/-- `bpf_xdp_attach`. -/
def bpfXdpAttach
    (ifindex : UInt32)
    (program : ObjectId)
    (flags : UInt32) :
    Libbpf (Option Errno) :=
  logged attempt (.attach program ifindex flags)

/-- `bpf_xdp_detach`. -/
def bpfXdpDetach
    (owner : Option ObjectId)
    (ifindex flags : UInt32) :
    Libbpf (Option Errno) :=
  logged attempt (.detach owner ifindex flags)

/-- `bpf_object__close`. -/
def bpfObjectClose (object : ObjectId) : Libbpf Unit :=
  record (.objectClose object)

end Libbpf

/-! ## `inet_pton` -/

/-- What `c_str` makes visible of a string. -/
def cString (text : String) : List Char :=
  text.toList.takeWhile fun character => character ≠ Char.ofNat 0

/--
Read numbers up to 255 without leading zeros, separated by dots.  `current` is
the number being read, if one of its digits was seen.
-/
def dottedNumbers :
    List Char → (numbers : List Nat) → (current : Option Nat) →
      Option (List Nat)
  | [], _, none =>
      none
  | [], numbers, some value =>
      some (numbers ++ [value])
  | character :: rest, numbers, current =>
      if character.isDigit then
        let digit := character.toNat - '0'.toNat
        match current with
        | none =>
            dottedNumbers rest numbers (some digit)
        | some value =>
            if value = 0 ∨ value * 10 + digit > 255 then
              none
            else
              dottedNumbers rest numbers (some (value * 10 + digit))
      else if character = '.' then
        match current with
        | none =>
            none
        | some value =>
            dottedNumbers rest (numbers ++ [value]) none
      else
        none

/-- `inet_pton(AF_INET, ...)`: the four bytes it writes, if it returns 1. -/
def inetPton (text : List Char) : Option Ipv4 :=
  match dottedNumbers text [] none with
  | some [first, second, third, fourth] =>
      some
        ⟨[UInt8.ofNat first, UInt8.ofNat second, UInt8.ofNat third,
          UInt8.ofNat fourth], rfl⟩
  | _ =>
      none

/-! ## The class -/

/-- `XDP_FLAGS_SKB_MODE`. -/
def xdpFlagsSkbMode : UInt32 :=
  2

/-- `XDP_FLAGS_DRV_MODE`. -/
def xdpFlagsDrvMode : UInt32 :=
  4

/-- The members of the class. -/
structure XdpLoader where
  obj : Option ObjectId
  ifindex : UInt32
  flags : UInt32
  ipMapFd : Option ObjectId
  xskMapFd : Option ObjectId
  queueId : UInt32
  redirecting : Bool
  deriving Repr, DecidableEq

namespace XdpLoader

/-- The default constructor. -/
def fresh : XdpLoader where
  obj := none
  ifindex := 0
  flags := 0
  ipMapFd := none
  xskMapFd := none
  queueId := 0
  redirecting := false

/-- What a move leaves behind. -/
def movedFrom (loader : XdpLoader) : XdpLoader :=
  { loader with
    obj := none
    ifindex := 0
    flags := 0
    ipMapFd := none
    xskMapFd := none
    redirecting := false }

/-- `native_mode`. -/
def nativeMode (loader : XdpLoader) : Bool :=
  loader.flags = xdpFlagsDrvMode

/-- `stop_redirect`. -/
def stopRedirect
    (loader : XdpLoader) :
    Libbpf (Except Errno Unit × XdpLoader) := do
  if !loader.redirecting then
    return (.ok (), loader)
  else
    match ← Libbpf.xsksDeleteElem loader.xskMapFd loader.queueId with
    | none =>
        return (.ok (), { loader with redirecting := false })
    | some error =>
        if error ≠ .enoent then
          return (.error error, loader)
        else
          return (.ok (), { loader with redirecting := false })

/-- `detach`. -/
def detach
    (loader : XdpLoader) :
    Libbpf (Except Errno Unit × XdpLoader) := do
  if loader.ifindex = 0 then
    return (.ok (), loader)
  else
    match ← Libbpf.bpfXdpDetach loader.obj loader.ifindex loader.flags with
    | some error =>
        return (.error error, loader)
    | none =>
        return (.ok (), { loader with ifindex := 0 })

/-- `release`, which the destructor and the move assignment call. -/
def release (loader : XdpLoader) : Libbpf XdpLoader := do
  let (_, loader) ← loader.stopRedirect
  let (_, loader) ← loader.detach
  match loader.obj with
  | none =>
      return loader
  | some object =>
      Libbpf.bpfObjectClose object
      return { loader with obj := none }

/-- `parse_ipv4`. -/
def parseIpv4 (ipStr : String) : Except AfxdpError UInt32 :=
  match inetPton (cString ipStr) with
  | none =>
      .error (makeLogicError ("invalid IPv4 address: '" ++ ipStr ++ "'"))
  | some address =>
      .ok (load32 address.bytes 0)

/-- A part of `create` after the local `loader` exists: an error or none. -/
abbrev Stage :=
  XdpLoader → Libbpf (Option AfxdpError × XdpLoader)

/-- Go on if there was no error. -/
def Stage.andThen (first second : Stage) : Stage :=
  fun loader => do
    match ← first loader with
    | (some error, loader) =>
        return (some error, loader)
    | (none, loader) =>
        second loader

/-- The part of `create` that loads the object. -/
def load (object : ObjectId) : Stage :=
  fun loader => do
    match ← Libbpf.bpfObjectLoad object with
    | some error =>
        return (some (makeErrnoError error "bpf_object__load failed"),
          loader)
    | none =>
        return (none, loader)

/-- The part that fills `xsks_map`. -/
def fillXsksMap (object : ObjectId) (queueId : UInt32) (xskFd : Int) : Stage :=
  fun loader => do
    match ← Libbpf.findMapFd object "xsks_map" with
    | none =>
        return (some (makeLogicError "xsks_map not found in BPF object"),
          loader)
    | some xskMapFd =>
        let loader := { loader with xskMapFd := some xskMapFd }
        match ← Libbpf.xsksUpdateElem (some xskMapFd) queueId xskFd with
        | some error =>
            return (some
              (makeErrnoError error "bpf_map_update_elem(xsks_map)"),
              loader)
        | none =>
            return (none, { loader with redirecting := true })

/-- The part that fills `target_ip_map`. -/
def fillTargetIpMap (object : ObjectId) (filterIp : String) : Stage :=
  fun loader => do
    match ← Libbpf.findMapFd object "target_ip_map" with
    | none =>
        return (some
          (makeLogicError "target_ip_map not found in BPF object"),
          loader)
    | some ipMapFd =>
        let loader := { loader with ipMapFd := some ipMapFd }
        match parseIpv4 filterIp with
        | .error error =>
            return (some error, loader)
        | .ok addr =>
            match ← Libbpf.targetIpUpdateElem (some ipMapFd) addr with
            | some error =>
                return (some
                  (makeErrnoError error
                    "bpf_map_update_elem(target_ip_map)"),
                  loader)
            | none =>
                return (none, loader)

/-- The part that attaches the program. -/
def attachProgram (object : ObjectId) (ifindex : UInt32) : Stage :=
  fun loader => do
    match ← Libbpf.findProgramFd object "xdp_filter_ip" with
    | none =>
        return (some
          (makeLogicError "xdp_filter_ip not found in BPF object"),
          loader)
    | some program =>
        match ← Libbpf.bpfXdpAttach ifindex program xdpFlagsDrvMode with
        | none =>
            return (none,
              { loader with
                ifindex := ifindex
                flags := xdpFlagsDrvMode })
        | some _ =>
            match ← Libbpf.bpfXdpAttach ifindex program
              xdpFlagsSkbMode with
            | some error =>
                return (some
                  (makeErrnoError error "bpf_xdp_attach(SKB mode)"),
                  loader)
            | none =>
                return (none,
                  { loader with
                    ifindex := ifindex
                    flags := xdpFlagsSkbMode })

/-- The parts of `create` in order. -/
def build
    (object : ObjectId)
    (ifindex queueId : UInt32)
    (xskFd : Int)
    (filterIp : String) :
    Stage :=
  (load object).andThen
    ((fillXsksMap object queueId xskFd).andThen
      ((fillTargetIpMap object filterIp).andThen
        (attachProgram object ifindex)))

/--
`create`.  Whether it returns an error or the loader, the local `loader` is
destroyed at the end; in the second case it has been moved from before.
-/
def create
    (bpfObjPath iface : String)
    (queueId : UInt32)
    (xskFd : Int)
    (filterIp : String) :
    Libbpf (Except AfxdpError XdpLoader) := do
  match ← Libbpf.ifNametoindex iface with
  | .error error =>
      return .error
        (makeErrnoError error ("if_nametoindex('" ++ iface ++ "') failed"))
  | .ok ifindex =>
      match ← Libbpf.bpfObjectOpen bpfObjPath with
      | .error error =>
          return .error
            (makeErrnoError error
              ("bpf_object__open('" ++ bpfObjPath ++ "') failed"))
      | .ok object =>
          let loader :=
            { fresh with
              obj := some object
              queueId := queueId }
          let (failed, built) ←
            build object ifindex queueId xskFd filterIp loader
          match failed with
          | some error =>
              let _ ← built.release
              return .error error
          | none =>
              let _ ← built.movedFrom.release
              return .ok built

/-- `update_filter_ip`. -/
def updateFilterIp
    (loader : XdpLoader)
    (ipStr : String) :
    Libbpf (Except AfxdpError Unit) := do
  match parseIpv4 ipStr with
  | .error error =>
      return .error error
  | .ok addr =>
      match ← Libbpf.targetIpUpdateElem loader.ipMapFd addr with
      | some error =>
          return .error
            (makeErrnoError error "update_filter_ip: bpf_map_update_elem")
      | none =>
          return .ok ()

end XdpLoader

end AfXdp
