import AfXdp.ReflectSwap

namespace AfXdp

open WireBytes

/-!
# The XDP program

`xdp_filter_ip` of `xdp_prog_bpf.c`.  Offsets into the frame stand for the
pointers, and the frame's length for `data_end`; a load past the end does not
give a value but stops the program with `outOfBounds`.
-/

/-- The two values of `enum xdp_action` that the program returns. -/
inductive XdpAction where
  | pass : XdpAction
  | redirect : XdpAction
  deriving Repr, DecidableEq

/-- The four bytes of an IPv4 address, in network order. -/
structure Ipv4 where
  bytes : Bytes
  quad : bytes.length = 4
  deriving Repr, DecidableEq

/--
The program's maps: the value at key 0 of `target_ip_map`, and the socket that
`xsks_map` has for a queue.
-/
structure Maps where
  targetIp : Option Ipv4
  xsks : UInt32 → Option Int

/-- `ETH_P_8021Q`. -/
def ethP8021q : UInt16 :=
  0x8100

/-- `ETH_P_8021AD`. -/
def ethP8021ad : UInt16 :=
  0x88a8

/-- `VLAN_MAX_DEPTH`. -/
def vlanMaxDepth : Nat :=
  2

/-- `bpf_htons` on a little-endian machine. -/
def bpfHtons : UInt16 → UInt16 :=
  byteSwap16

/-- Why the program does not go on. -/
inductive Stop where
  | outOfBounds : Stop
  | returns (action : XdpAction) : Stop
  deriving Repr, DecidableEq

namespace XdpProg

/-- `if (!condition) return XDP_PASS;`. -/
def passUnless (condition : Prop) [Decidable condition] : Except Stop Unit :=
  if condition then
    .ok ()
  else
    .error (.returns .pass)

/-- Load a `__u16` from the frame. -/
def u16 (frame : Bytes) (offset : Nat) : Except Stop UInt16 :=
  if offset + 2 ≤ frame.length then
    .ok (load16 frame offset)
  else
    .error .outOfBounds

/-- Load a `__u32` from the frame. -/
def u32 (frame : Bytes) (offset : Nat) : Except Stop UInt32 :=
  if offset + 4 ≤ frame.length then
    .ok (load32 frame offset)
  else
    .error .outOfBounds

/-- `bpf_map_lookup_elem(&target_ip_map, &key)`, dereferenced. -/
def lookupTargetIp (maps : Maps) : Except Stop UInt32 :=
  match maps.targetIp with
  | none =>
      .error (.returns .pass)
  | some value =>
      .ok (load32 value.bytes 0)

/-- `bpf_redirect_map(&xsks_map, queue, flags)`. -/
def bpfRedirectMap
    (maps : Maps)
    (queue : UInt32)
    (flags : XdpAction) :
    XdpAction :=
  if (maps.xsks queue).isSome then
    .redirect
  else
    flags

/-- The loop over VLAN tags; the result is `h_proto` and `cursor` after it. -/
def vlanLoop
    (frame : Bytes) :
    (remaining : Nat) →
      (hProto : UInt16) →
      (cursor : Nat) →
      Except Stop (UInt16 × Nat)
  | 0, hProto, cursor =>
      .ok (hProto, cursor)
  | remaining + 1, hProto, cursor =>
      if hProto ≠ bpfHtons ethP8021q ∧ hProto ≠ bpfHtons ethP8021ad then
        .ok (hProto, cursor)
      else do
        passUnless (cursor + 4 ≤ frame.length)
        let hProto ← u16 frame (cursor + 2)
        vlanLoop frame remaining hProto (cursor + 4)

/-- The rest of `xdp_filter_ip`, from the check of `ETH_P_IP` on. -/
def matchSource
    (maps : Maps)
    (rxQueueIndex : UInt32)
    (frame : Bytes)
    (hProto : UInt16)
    (cursor : Nat) :
    Except Stop XdpAction := do
  passUnless (hProto = bpfHtons ethPIp)
  passUnless (cursor + 20 ≤ frame.length)
  let targetIp ← lookupTargetIp maps
  let saddr ← u32 frame (cursor + 12)
  passUnless (saddr = targetIp)
  return bpfRedirectMap maps rxQueueIndex .pass

/-- The program up to its return value. -/
def body
    (maps : Maps)
    (rxQueueIndex : UInt32)
    (frame : Bytes) :
    Except Stop XdpAction := do
  passUnless (14 ≤ frame.length)
  let hProto ← u16 frame 12
  let (hProto, cursor) ← vlanLoop frame vlanMaxDepth hProto 14
  matchSource maps rxQueueIndex frame hProto cursor

/-- The value returned, if the program did not read out of bounds. -/
def returned : Except Stop XdpAction → Option XdpAction
  | .ok action =>
      some action
  | .error (.returns action) =>
      some action
  | .error .outOfBounds =>
      none

end XdpProg

/-- The verdict on a frame; none if the program reads out of bounds. -/
def xdpFilterIp
    (maps : Maps)
    (rxQueueIndex : UInt32)
    (frame : Bytes) :
    Option XdpAction :=
  XdpProg.returned (XdpProg.body maps rxQueueIndex frame)

/-! ## The steps of the program -/

namespace XdpProg

variable {Result : Type}
variable {condition : Prop} [Decidable condition]
variable {frame : Bytes}
variable {offset : Nat}

/-- A check that holds goes on. -/
theorem passUnless_bind_of
    {next : Unit → Except Stop Result}
    (holds : condition) :
    (passUnless condition >>= next) = next () := by
  rw [passUnless, if_pos holds]
  rfl

/-- A check that fails passes the frame. -/
theorem passUnless_bind_of_not
    {next : Unit → Except Stop Result}
    (fails : ¬ condition) :
    (passUnless condition >>= next) = .error (.returns .pass) := by
  rw [passUnless, if_neg fails]
  rfl

/-- A load inside the frame succeeds. -/
theorem u16_bind
    {next : UInt16 → Except Stop Result}
    (inside : offset + 2 ≤ frame.length) :
    (u16 frame offset >>= next) = next (load16 frame offset) := by
  rw [u16, if_pos inside]
  rfl

/-- So does a longer one. -/
theorem u32_bind
    {next : UInt32 → Except Stop Result}
    (inside : offset + 4 ≤ frame.length) :
    (u32 frame offset >>= next) = next (load32 frame offset) := by
  rw [u32, if_pos inside]
  rfl

end XdpProg

/-! ## The frames that are captured -/

/-- The EtherType after `tags` VLAN tags, in network order. -/
def etherType (frame : Bytes) (tags : Nat) : UInt16 :=
  byteSwap16 (load16 frame (12 + 4 * tags))

/-- The type of a frame with a VLAN tag. -/
def IsVlan (etherType : UInt16) : Prop :=
  etherType = ethP8021q ∨ etherType = ethP8021ad

/-- An IPv4 header behind `tags` VLAN tags. -/
structure TaggedIpv4 (frame : Bytes) (tags : Nat) : Prop where
  vlans :
    ∀ index,
      index < tags →
      IsVlan (etherType frame index)
  ipv4 :
    etherType frame tags = ethPIp
  long :
    14 + 4 * tags + 20 ≤ frame.length

/-- An IPv4 packet behind at most two VLAN tags, with this source address. -/
def ComesFrom (address : Ipv4) (frame : Bytes) : Prop :=
  ∃ tags,
    tags ≤ 2 ∧
      TaggedIpv4 frame tags ∧
      copyOut frame (14 + 4 * tags + 12) 4 = address.bytes

/-- The frame comes from the target, and there is a socket for it. -/
def Captured
    (maps : Maps)
    (rxQueueIndex : UInt32)
    (frame : Bytes) : Prop :=
  (∃ target,
      maps.targetIp = some target ∧ ComesFrom target frame) ∧
    (maps.xsks rxQueueIndex).isSome = true

section Loop

variable {frame : Bytes}

/-- IPv4 is no VLAN tag. -/
theorem not_isVlan_ethPIp : ¬ IsVlan ethPIp := by
  rintro (same | same)
  · exact absurd same (by decide)
  · exact absurd same (by decide)

/-- At most one number of tags fits. -/
theorem TaggedIpv4.le_of_isVlan
    {tags bound : Nat}
    (tagged : TaggedIpv4 frame tags)
    (notVlan : ¬ IsVlan (etherType frame bound)) :
    tags ≤ bound := by
  by_contra beyond
  exact notVlan (tagged.vlans bound (by omega))

/-- Behind its tags a frame has no further one. -/
theorem TaggedIpv4.not_isVlan
    {tags : Nat}
    (tagged : TaggedIpv4 frame tags) :
    ¬ IsVlan (etherType frame tags) := by
  rw [tagged.ipv4]
  exact not_isVlan_ethPIp

/-- The raw comparisons of the loop are those with the EtherTypes. -/
theorem isVlan_iff (tags : Nat) :
    IsVlan (etherType frame tags) ↔
      ¬ (load16 frame (12 + 4 * tags) ≠ bpfHtons ethP8021q ∧
        load16 frame (12 + 4 * tags) ≠ bpfHtons ethP8021ad) := by
  rw [IsVlan, etherType, bpfHtons, ← load16_eq_byteSwap16,
    ← load16_eq_byteSwap16]
  simp only [ne_eq, not_and_or, not_not]

/-- What the loop has done when it stops at `tags`. -/
structure Skipped (frame : Bytes) (first limit tags : Nat) : Prop where
  least :
    first ≤ tags
  most :
    tags ≤ limit
  vlans :
    ∀ index,
      first ≤ index →
      index < tags →
      IsVlan (etherType frame index)
  stopped :
    tags < limit → ¬ IsVlan (etherType frame tags)

/-- The loop passes short frames, or walks over all VLAN tags it may. -/
theorem vlanLoop_cases
    (frame : Bytes)
    (remaining first : Nat) :
    (XdpProg.vlanLoop frame remaining (load16 frame (12 + 4 * first))
          (14 + 4 * first) = .error (.returns .pass) ∧
        ∀ tags,
          first ≤ tags →
          tags ≤ first + remaining →
          ¬ TaggedIpv4 frame tags) ∨
      ∃ tags,
        XdpProg.vlanLoop frame remaining (load16 frame (12 + 4 * first))
            (14 + 4 * first) =
          .ok (load16 frame (12 + 4 * tags), 14 + 4 * tags) ∧
          Skipped frame first (first + remaining) tags := by
  induction remaining generalizing first with
  | zero =>
      refine .inr ⟨first, rfl, Nat.le_refl _, Nat.le_refl _, ?_, ?_⟩
      · intro index least most
        omega
      · intro below
        omega
  | succ remaining inductionHypothesis =>
      rw [XdpProg.vlanLoop]
      split
      · next notVlan =>
          refine .inr
            ⟨first, rfl, Nat.le_refl _, Nat.le_add_right _ _, ?_, ?_⟩
          · intro index least most
            omega
          · intro _ vlan
            exact (isVlan_iff first).mp vlan notVlan
      · next vlan =>
          by_cases inside : 14 + 4 * first + 4 ≤ frame.length
          · have following : 14 + 4 * first + 2 = 12 + 4 * (first + 1) := by
              omega
            have advanced : 14 + 4 * first + 4 = 14 + 4 * (first + 1) := by
              omega
            rw [XdpProg.passUnless_bind_of inside,
              XdpProg.u16_bind (by omega), following, advanced]
            rcases inductionHypothesis (first + 1) with
              ⟨passes, none⟩ | ⟨tags, walks, skipped⟩
            · refine .inl ⟨passes, ?_⟩
              intro tags least most tagged
              by_cases same : tags = first
              · subst same
                exact tagged.not_isVlan ((isVlan_iff tags).mpr vlan)
              · exact none tags (by omega) (by omega) tagged
            · refine .inr ⟨tags, walks, ?_, ?_, ?_, ?_⟩
              · have := skipped.least
                omega
              · have := skipped.most
                omega
              · intro index least most
                by_cases same : index = first
                · subst same
                  exact (isVlan_iff index).mpr vlan
                · exact skipped.vlans index (by omega) most
              · intro below
                exact skipped.stopped (by omega)
          · refine .inl ⟨XdpProg.passUnless_bind_of_not inside, ?_⟩
            intro tags least _ tagged
            have long := tagged.long
            omega

/-- The loop skips exactly the tags that there are. -/
theorem Skipped.tags_eq
    {tags others : Nat}
    (skipped : Skipped frame 0 2 tags)
    (tagged : TaggedIpv4 frame others)
    (few : others ≤ 2) :
    others = tags := by
  by_contra different
  have most := skipped.most
  by_cases fewer : others < tags
  · exact tagged.not_isVlan (skipped.vlans others (Nat.zero_le _) fewer)
  · have bound := tagged.le_of_isVlan (skipped.stopped (by omega))
    omega

end Loop

/-! ## The verdict -/

section Verdict

variable {maps : Maps}
variable {rxQueueIndex : UInt32}
variable {frame : Bytes}

/-- The comparison with the map's value is one of the source addresses. -/
theorem saddr_eq_iff
    {target : Ipv4}
    {cursor : Nat}
    (long : cursor + 20 ≤ frame.length) :
    load32 frame (cursor + 12) = load32 target.bytes 0 ↔
      copyOut frame (cursor + 12) 4 = target.bytes := by
  have whole : copyOut target.bytes 0 4 = target.bytes := by
    rw [copyOut, List.drop_zero, List.take_of_length_le]
    rw [target.quad]
  rw [← copyOut_eq_iff_load32 (by omega) (by rw [target.quad]), whole]

/-- The frame is captured with exactly `tags` VLAN tags. -/
def CapturedBehind
    (maps : Maps)
    (rxQueueIndex : UInt32)
    (frame : Bytes)
    (tags : Nat) : Prop :=
  etherType frame tags = ethPIp ∧
    14 + 4 * tags + 20 ≤ frame.length ∧
    (∃ target,
      maps.targetIp = some target ∧
        copyOut frame (14 + 4 * tags + 12) 4 = target.bytes) ∧
    (maps.xsks rxQueueIndex).isSome = true

/-- What is behind the tags decides. -/
theorem matchSource_cases (tags : Nat) :
    (CapturedBehind maps rxQueueIndex frame tags ∧
        XdpProg.returned
          (XdpProg.matchSource maps rxQueueIndex frame
            (load16 frame (12 + 4 * tags)) (14 + 4 * tags)) =
          some .redirect) ∨
      (¬ CapturedBehind maps rxQueueIndex frame tags ∧
        XdpProg.returned
          (XdpProg.matchSource maps rxQueueIndex frame
            (load16 frame (12 + 4 * tags)) (14 + 4 * tags)) =
          some .pass) := by
  unfold XdpProg.matchSource
  by_cases isIp : load16 frame (12 + 4 * tags) = bpfHtons ethPIp
  swap
  · rw [XdpProg.passUnless_bind_of_not isIp]
    refine .inr ⟨?_, rfl⟩
    rintro ⟨ipv4, _⟩
    exact isIp ((load16_eq_byteSwap16 ..).mpr ipv4)
  by_cases long : 14 + 4 * tags + 20 ≤ frame.length
  swap
  · rw [XdpProg.passUnless_bind_of isIp,
      XdpProg.passUnless_bind_of_not long]
    exact .inr ⟨fun captured => long captured.2.1, rfl⟩
  rw [XdpProg.passUnless_bind_of isIp, XdpProg.passUnless_bind_of long,
    XdpProg.lookupTargetIp]
  cases lookup : maps.targetIp with
  | none =>
      refine .inr ⟨?_, rfl⟩
      rintro ⟨_, _, ⟨target, stored, _⟩, _⟩
      rw [lookup] at stored
      cases stored
  | some target =>
      change
        (_ ∧ XdpProg.returned (XdpProg.u32 _ _ >>= _) = _) ∨
          (_ ∧ XdpProg.returned (XdpProg.u32 _ _ >>= _) = _)
      rw [XdpProg.u32_bind (by omega)]
      by_cases source :
          load32 frame (14 + 4 * tags + 12) = load32 target.bytes 0
      · rw [XdpProg.passUnless_bind_of source, XdpProg.bpfRedirectMap]
        split
        · next entry =>
            exact .inl
              ⟨⟨(load16_eq_byteSwap16 ..).mp isIp, long,
                ⟨target, lookup, (saddr_eq_iff long).mp source⟩,
                entry⟩, rfl⟩
        · next noEntry =>
            exact .inr ⟨fun captured => noEntry captured.2.2.2, rfl⟩
      · rw [XdpProg.passUnless_bind_of_not source]
        refine .inr ⟨?_, rfl⟩
        rintro ⟨_, _, ⟨other, stored, same⟩, _⟩
        obtain rfl : target = other :=
          Option.some.inj (lookup.symm.trans stored)
        exact source ((saddr_eq_iff long).mpr same)

/-- The loop stopped at the only number of tags that can be right. -/
theorem Skipped.captured_iff
    {tags : Nat}
    (skipped : Skipped frame 0 2 tags) :
    Captured maps rxQueueIndex frame ↔
      CapturedBehind maps rxQueueIndex frame tags := by
  constructor
  · rintro ⟨⟨target, stored, others, few, tagged, source⟩, entry⟩
    obtain rfl := skipped.tags_eq tagged few
    exact ⟨tagged.ipv4, tagged.long, ⟨target, stored, source⟩, entry⟩
  · rintro ⟨ipv4, long, ⟨target, stored, source⟩, entry⟩
    refine ⟨⟨target, stored, tags, skipped.most, ?_, source⟩, entry⟩
    exact
      { vlans := fun index below =>
          skipped.vlans index (Nat.zero_le _) below
        ipv4 := ipv4
        long := long }

/--
The program never reads past the end of the frame, redirects the frames that
are to be captured, and passes all others.
-/
theorem xdpFilterIp_cases
    (maps : Maps)
    (rxQueueIndex : UInt32)
    (frame : Bytes) :
    (Captured maps rxQueueIndex frame ∧
        xdpFilterIp maps rxQueueIndex frame = some .redirect) ∨
      (¬ Captured maps rxQueueIndex frame ∧
        xdpFilterIp maps rxQueueIndex frame = some .pass) := by
  unfold xdpFilterIp XdpProg.body
  by_cases header : 14 ≤ frame.length
  · rw [XdpProg.passUnless_bind_of header, XdpProg.u16_bind (by omega)]
    rcases vlanLoop_cases frame vlanMaxDepth 0 with
      ⟨passes, none⟩ | ⟨tags, walks, skipped⟩
    · rw [passes]
      refine .inr ⟨?_, rfl⟩
      rintro ⟨⟨_, _, tags, few, tagged, _⟩, _⟩
      exact none tags (Nat.zero_le _) (Nat.le_trans few (by decide)) tagged
    · rw [walks, skipped.captured_iff]
      exact matchSource_cases tags
  · rw [XdpProg.passUnless_bind_of_not header]
    refine .inr ⟨?_, rfl⟩
    rintro ⟨⟨_, _, tags, _, tagged, _⟩, _⟩
    have long := tagged.long
    omega

end Verdict

end AfXdp
