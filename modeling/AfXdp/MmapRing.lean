import AfXdp.SequenceIndex

namespace AfXdp

open SequenceIndex

/-!
# The memory-mapped ring of `ring.hpp`

One ring is a pair of shared 32-bit indices, an array of descriptors and a
flag word in memory that the kernel maps too, and, on the user side, a private
copy of both indices.  The array is a function of the slot number: `descAt`
masks every index, so no other slot is ever addressed.

`std::atomic_ref` loads and stores of an index are single reads and writes of
the shared fields.
-/

/-- `struct Range`: a window of `amount` entries from index `start` on. -/
structure Range where
  amount : UInt32
  start : UInt32
  deriving Repr, DecidableEq

/-- `class MmapRing`. The first four fields are the shared memory. -/
structure MmapRing (DescT : Type) where
  producer : UInt32
  consumer : UInt32
  descs : Nat → DescT
  flags : UInt32
  numDescs : UInt32
  mask : UInt32
  cachedProd : UInt32
  cachedCons : UInt32

/-- `XDP_RING_NEED_WAKEUP` of `linux/if_xdp.h`. -/
def xdpRingNeedWakeup : UInt32 :=
  1

namespace MmapRing

variable {DescT : Type}

/--
`MmapRing::create` over a freshly mapped region: the kernel hands out rings
with both shared indices at zero, and the private copies start there too.
-/
def create (descs : Nat → DescT) (numDescs : UInt32) : MmapRing DescT where
  producer := 0
  consumer := 0
  descs := descs
  flags := 0
  numDescs := numDescs
  mask := numDescs - 1
  cachedProd := 0
  cachedCons := 0

/-- The array slot that `desc_at(i)` refers to. -/
def slotOf (ring : MmapRing DescT) (index : UInt32) : Nat :=
  (index &&& ring.mask).toNat

/-- Read through `desc_at`. -/
def descAt (ring : MmapRing DescT) (index : UInt32) : DescT :=
  ring.descs (ring.slotOf index)

/-- Assign through `desc_at`. -/
def setDescAt
    (ring : MmapRing DescT)
    (index : UInt32)
    (desc : DescT) :
    MmapRing DescT :=
  { ring with
    descs := Function.update ring.descs (ring.slotOf index) desc }

/-- `need_wakeup`. -/
def needWakeup (ring : MmapRing DescT) : Bool :=
  (ring.flags &&& xdpRingNeedWakeup) != 0

/-- `capacity`. -/
def capacity (ring : MmapRing DescT) : UInt32 :=
  ring.numDescs

/-- `readable_range` loads the shared producer index on an empty window. -/
def loadsProducer (ring : MmapRing DescT) : Bool :=
  ring.cachedProd - ring.cachedCons == 0

/-- Consumer window. -/
def readableRange
    (ring : MmapRing DescT)
    (batchSize : UInt32) :
    Range × MmapRing DescT :=
  let ring :=
    { ring with
      cachedProd :=
        if ring.loadsProducer then ring.producer else ring.cachedProd }
  let entries := ring.cachedProd - ring.cachedCons
  let entries := if entries > batchSize then batchSize else entries
  ({ amount := entries, start := ring.cachedCons }, ring)

/-- `release_consumed_entries`. -/
def releaseConsumedEntries
    (ring : MmapRing DescT)
    (amount : UInt32) :
    MmapRing DescT :=
  { ring with
    cachedCons := ring.cachedCons + amount
    consumer := ring.cachedCons + amount }

/--
The value `queued_entry_count` returns for the two indices it loaded, the
producer's first.
-/
def queuedEntryCount (loadedProducer loadedConsumer : UInt32) : UInt32 :=
  loadedProducer - loadedConsumer

/-- Free entries as far as the private copies know. -/
def cachedFree (ring : MmapRing DescT) : UInt32 :=
  ring.numDescs - (ring.cachedProd - ring.cachedCons)

/-- `writable_range(n)` loads the shared consumer index if `n` does not fit. -/
def loadsConsumer (ring : MmapRing DescT) (wanted : UInt32) : Bool :=
  ring.cachedFree < wanted

/-- Producer window. -/
def writableRange
    (ring : MmapRing DescT)
    (wanted : UInt32) :
    Range × MmapRing DescT :=
  let ring :=
    { ring with
      cachedCons :=
        if ring.loadsConsumer wanted then
          ring.consumer
        else
          ring.cachedCons }
  let freeN := ring.cachedFree
  let amount := if freeN < wanted then freeN else wanted
  ({ amount := amount, start := ring.cachedProd }, ring)

/-- `publish_written_entries`. -/
def publishWrittenEntries
    (ring : MmapRing DescT)
    (amount : UInt32) :
    MmapRing DescT :=
  { ring with
    cachedProd := ring.cachedProd + amount
    producer := ring.cachedProd + amount }

/-! ## The other endpoint

The kernel works on the same memory through its own end of a ring.  It keeps
no copy that matters here, so its steps read and write the shared fields.
-/

/-- Entries that are published and not yet released. -/
def occupancy (ring : MmapRing DescT) : UInt32 :=
  ring.producer - ring.consumer

/-- `amount` entries from index `start` on, as their slots show them. -/
def entriesFrom
    (ring : MmapRing DescT)
    (start : UInt32)
    (amount : Nat) :
    List DescT :=
  (List.range amount).map fun offset =>
    ring.descAt (start + stored offset)

/-- The entries between the two shared indices, the oldest first. -/
def published (ring : MmapRing DescT) : List DescT :=
  ring.entriesFrom ring.consumer ring.occupancy.toNat

/-- The peer consumes: it advances the shared consumer index. -/
def peerConsume (ring : MmapRing DescT) (amount : UInt32) : MmapRing DescT :=
  { ring with consumer := ring.consumer + amount }

/-- The peer produces: it advances the shared producer index. -/
def peerPublish (ring : MmapRing DescT) (amount : UInt32) : MmapRing DescT :=
  { ring with producer := ring.producer + amount }

/-- The peer sets or clears its flag word. -/
def peerSetFlags (ring : MmapRing DescT) (flags : UInt32) : MmapRing DescT :=
  { ring with flags := flags }

end MmapRing

end AfXdp
