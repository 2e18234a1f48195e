import AfXdp.KernelStats

namespace AfXdp

open TextStream

/-!
# Latency samples

The class `Samples` of `bench.hpp`.  The control thread opens the window once;
everything else is done by the worker, and after it was joined by `main`.
-/

/-- `struct TscCalibration`. -/
structure TscCalibration where
  nsPerTick : Float
  pairMinTicks : UInt64
  pairMedianTicks : UInt64

/-- The first `n_` entries of the buffer are the recorded ones. -/
structure Samples where
  capacity : Nat
  recorded : List UInt64
  dropped : UInt64
  enabled : Bool

/-- The line that `report` prints. -/
structure SampleReport where
  count : Nat
  dropped : UInt64
  p50 : Float
  p90 : Float
  p99 : Float
  p999 : Float
  max : Float

/-- What an `errno` of zero is replaced with. -/
def StdioFailure.orEio (failure : StdioFailure) : Errno :=
  failure.getD .eio

namespace Samples

/-- The constructor: the buffer is reserved, and the window closed. -/
def create (capacity : Nat) : Samples where
  capacity := capacity
  recorded := []
  dropped := 0
  enabled := false

/-- `start`: open the window. -/
def start (samples : Samples) : Samples :=
  { samples with enabled := true }

/-- `recording`: whether a callback is to be timed. -/
def recording (samples : Samples) : Bool :=
  samples.recorded.length < samples.capacity && samples.enabled

/-- `record`: keep a duration, or count it as dropped. -/
def record (ticks : UInt64) (samples : Samples) : Samples :=
  if samples.recorded.length < samples.capacity then
    { samples with recorded := samples.recorded ++ [ticks] }
  else
    { samples with dropped := samples.dropped + 1 }

/-- `count`. -/
def count (samples : Samples) : Nat :=
  samples.recorded.length

/-- `std::sort` of the recorded entries. -/
def sorted (samples : Samples) : List UInt64 :=
  samples.recorded.mergeSort fun first second => decide (first ≤ second)

/-- The index of a percentile among `count` sorted entries. -/
def percentileIndex (count : Nat) (p : Float) : Nat :=
  min (count - 1) (p * count.toFloat).toUInt64.toNat

/-- `report`: sorts the buffer, unless there is nothing in it. -/
def report
    (nsPerTick : Float)
    (samples : Samples) :
    Option SampleReport × Samples :=
  if samples.recorded.length = 0 then
    (none, samples)
  else
    let buffer := samples.sorted
    let percentile (p : Float) : Float :=
      (buffer.getD (percentileIndex buffer.length p) 0).toFloat * nsPerTick
    (some
      { count := buffer.length
        dropped := samples.dropped
        p50 := percentile 0.50
        p90 := percentile 0.90
        p99 := percentile 0.99
        p999 := percentile 0.999
        max := (buffer.getD (buffer.length - 1) 0).toFloat * nsPerTick },
      { samples with recorded := buffer })

/-- One line of the exported file; `fixed` is what `%.0f` prints. -/
def row (fixed : Float → Text) (nsPerTick : Float) (ticks : UInt64) : Text :=
  fixed (ticks.toFloat * nsPerTick) ++ ['\n']

/-- The lines of the exported file. -/
def csvLines
    (fixed : Float → Text)
    (nsPerTick : Float)
    (samples : Samples) :
    List Text :=
  "callback_tx_staging_ns\n".toList ::
    samples.recorded.map (row fixed nsPerTick)

/-- `dump_csv`. -/
def dumpCsv
    (fixed : Float → Text)
    (nsPerTick : Float)
    (samples : Samples) :
    StateM (Stream StdioFailure) (Except StdioFailure Unit) :=
  writeFile id (fun failure => some failure.orEio)
    (printAll (samples.csvLines fixed nsPerTick))

variable (fixed : Float → Text)
variable (nsPerTick : Float)
variable (samples : Samples)

/-- The file gets a beginning of its lines, and all of them on success. -/
theorem dumpCsv_wrote (stream : Stream StdioFailure) :
    ∃ outcome : Option StdioFailure,
      Wrote (samples.csvLines fixed nsPerTick).flatten
          (1 + (samples.recorded.length + 1 + 1)) outcome stream
          ((samples.dumpCsv fixed nsPerTick).run stream).2 ∧
        (((samples.dumpCsv fixed nsPerTick).run stream).1 = .ok () ↔
          outcome = none) := by
  have lines :
      (samples.csvLines fixed nsPerTick).length =
        samples.recorded.length + 1 := by
    simp [csvLines]
  rw [← lines]
  exact writeFile_wrote fun start => printAll_wrote start _

end Samples

end AfXdp
