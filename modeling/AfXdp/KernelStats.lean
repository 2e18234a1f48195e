import AfXdp.TextStream
import AfXdp.World
import AfXdp.WireBytes

namespace AfXdp

open WireBytes
open TextStream

/-!
# Kernel statistics of the socket

`Xsk::kernel_stats` and `print_kernel_stats`: from the bytes that `getsockopt`
fills in to the lines on the console and in the sidecar file.
-/

/-- `EIO`. -/
def Errno.eio : Errno :=
  ⟨5, by decide⟩

/-- `EPROTO`. -/
def Errno.eproto : Errno :=
  ⟨71, by decide⟩

/-- `struct xdp_statistics`. -/
structure XdpStatistics where
  rxDropped : UInt64
  rxInvalidDescs : UInt64
  txInvalidDescs : UInt64
  rxRingFull : UInt64
  rxFillRingEmptyDescs : UInt64
  txRingEmptyDescs : UInt64
  deriving Repr, DecidableEq

namespace XdpStatistics

/-- `sizeof(xdp_statistics)`. -/
def size : Nat :=
  48

/-- `offsetof(xdp_statistics, rx_ring_full)`, the whole struct of old kernels. -/
def legacySize : Nat :=
  24

/-- The counters in the order of the struct. -/
def words (counters : XdpStatistics) : List UInt64 :=
  [counters.rxDropped, counters.rxInvalidDescs, counters.txInvalidDescs,
    counters.rxRingFull, counters.rxFillRingEmptyDescs,
    counters.txRingEmptyDescs]

/-- The struct in memory. -/
def bytes (counters : XdpStatistics) : Bytes :=
  counters.words.flatMap store64

/-- The zeroed struct after a call wrote bytes to its beginning. -/
def ofBytes (written : Bytes) : XdpStatistics where
  rxDropped := load64 written 0
  rxInvalidDescs := load64 written 8
  txInvalidDescs := load64 written 16
  rxRingFull := load64 written 24
  rxFillRingEmptyDescs := load64 written 32
  txRingEmptyDescs := load64 written 40

end XdpStatistics

/-- `Xsk::KernelStats`. -/
structure KernelStats where
  counters : XdpStatistics
  returnedBytes : UInt32
  deriving Repr, DecidableEq

/-- `has_ring_counters`. -/
def KernelStats.hasRingCounters (stats : KernelStats) : Bool :=
  stats.returnedBytes.toNat = XdpStatistics.size

/--
What `getsockopt(XDP_STATISTICS)` did: an error, or the bytes it wrote, no more
than the buffer has room for.
-/
abbrev StatisticsReply :=
  Except Errno { written : Bytes // written.length ≤ XdpStatistics.size }

/-- `Xsk::kernel_stats`. -/
def Xsk.kernelStats : StatisticsReply → Except Errno KernelStats
  | .error error =>
      .error error
  | .ok written =>
      let result : KernelStats :=
        { counters := .ofBytes written.1
          returnedBytes := UInt32.ofNat written.1.length }
      if result.returnedBytes.toNat ≠ XdpStatistics.legacySize &&
          result.returnedBytes.toNat ≠ XdpStatistics.size then
        .error .eproto
      else
        .ok result

/-! ## The printed lines -/

/-- What `%u`, `%llu` and, for a number that is not negative, `%d` print. -/
def decimal (value : Nat) : Text :=
  Nat.toDigits 10 value

/-- A call of stdio that failed leaves an `errno`, or zero. -/
abbrev StdioFailure :=
  Option Errno

namespace Main

/-- The fields of a failed result. -/
def kernelErrorFields (error : Errno) : List Field :=
  [("kernel_stats_errno".toList, decimal error.code)]

/-- The fields of the first `fprintf` of a successful result. -/
def kernelCommonFields (stats : KernelStats) : List Field :=
  [("kernel_stats_returned_bytes".toList,
      decimal stats.returnedBytes.toNat),
    ("kernel_rx_dropped".toList,
      decimal stats.counters.rxDropped.toNat),
    ("kernel_rx_invalid_descs".toList,
      decimal stats.counters.rxInvalidDescs.toNat),
    ("kernel_tx_invalid_descs".toList,
      decimal stats.counters.txInvalidDescs.toNat)]

/-- The fields that old kernels do not have. -/
def kernelRingFields (stats : KernelStats) : List Field :=
  if stats.hasRingCounters then
    [("kernel_rx_ring_full".toList,
        decimal stats.counters.rxRingFull.toNat),
      ("kernel_rx_fill_ring_empty_descs".toList,
        decimal stats.counters.rxFillRingEmptyDescs.toNat),
      ("kernel_tx_ring_empty_descs".toList,
        decimal stats.counters.txRingEmptyDescs.toNat)]
  else
    [("kernel_rx_ring_full".toList, "unavailable".toList),
      ("kernel_rx_fill_ring_empty_descs".toList, "unavailable".toList),
      ("kernel_tx_ring_empty_descs".toList, "unavailable".toList)]

/-- `print_kernel_stats`; the result tells whether it is negative. -/
def printKernelStats :
    Except Errno KernelStats →
      StateM (Stream StdioFailure) (Option StdioFailure)
  | .error error =>
      print (render (kernelErrorFields error))
  | .ok stats =>
      printAll
        [render (kernelCommonFields stats),
          render (kernelRingFields stats)]

/-- Everything that `print_kernel_stats` has to print. -/
def kernelStatsFields : Except Errno KernelStats → List Field
  | .error error =>
      kernelErrorFields error
  | .ok stats =>
      kernelCommonFields stats ++ kernelRingFields stats

/-- The number of its calls of `fprintf`. -/
def kernelStatsCalls : Except Errno KernelStats → Nat
  | .error _ =>
      1
  | .ok _ =>
      2

end Main

/-! ## Reading the lines back -/

/-- A number has no character that is no digit. -/
theorem decimal_free
    {mark : Char}
    (digitless : mark.isDigit = false)
    (value : Nat) :
    mark ∉ decimal value := by
  intro member
  have digit :=
    Nat.isDigit_of_mem_toDigits (b := 10) (by decide) (by decide) member
  rw [digitless] at digit
  cases digit

/-- A number can be read back. -/
theorem plain_decimal
    {key : Text}
    (free : '=' ∉ key ∧ '\n' ∉ key)
    (value : Nat) :
    Plain (key, decimal value) where
  key := free
  value := decimal_free (by decide) value

/-- The number that a value stands for; a value in words stands for none. -/
def reading (value : Text) : Option Nat :=
  if value.all Char.isDigit then
    some (Nat.ofDigitChars 10 value 0)
  else
    none

/-- It stands for itself. -/
theorem reading_decimal (value : Nat) : reading (decimal value) = some value := by
  have digits : (decimal value).all Char.isDigit = true :=
    List.all_eq_true.mpr fun char member =>
      Nat.isDigit_of_mem_toDigits (b := 10) (by decide) (by decide) member
  rw [reading, if_pos digits, decimal, Nat.ofDigitChars_ten_toDigits]

/-- The word stands for no number. -/
theorem reading_unavailable : reading "unavailable".toList = none := by
  decide

/-- Read a printed text: every key with the number that its value stands for. -/
def readings (lines : Nat) (text : Text) : Option (List (String × Option Nat)) :=
  (parse lines text).map fun fields =>
    fields.map fun field => (String.ofList field.1, reading field.2)

namespace XdpStatistics

variable (counters : XdpStatistics)

/-- The struct has its size. -/
theorem length_bytes : counters.bytes.length = size := by
  simp [bytes, words, size]

/-- The first three counters are what old kernels write. -/
theorem take_legacySize :
    counters.bytes.take legacySize =
      (counters.words.take 3).flatMap store64 := by
  have split :
      counters.bytes =
        (counters.words.take 3).flatMap store64 ++
          (counters.words.drop 3).flatMap store64 := by
    rw [← List.flatMap_append, List.take_append_drop]
    rfl
  rw [split]
  refine List.take_left' ?_
  simp [words, legacySize]

/-- Reading a row of words gives the counters it begins with. -/
theorem ofBytes_flatMap (row : List UInt64) :
    ofBytes (row.flatMap store64) =
      { rxDropped := row.getD 0 0
        rxInvalidDescs := row.getD 1 0
        txInvalidDescs := row.getD 2 0
        rxRingFull := row.getD 3 0
        rxFillRingEmptyDescs := row.getD 4 0
        txRingEmptyDescs := row.getD 5 0 } := by
  have word := load64_flatMap_store64 row
  simp only [ofBytes, ← word]

/-- The counters that are read are the words of the bytes. -/
theorem words_ofBytes (written : Bytes) :
    (ofBytes written).words =
      (List.range 6).map fun index => load64 written (8 * index) :=
  rfl

/-- A whole struct is the bytes of the counters that are read from it. -/
theorem bytes_ofBytes
    {written : Bytes}
    (whole : written.length = size) :
    (ofBytes written).bytes = written := by
  have stored :
      ((List.range 6).map fun index =>
          load64 written (8 * index)).flatMap store64 =
        written.take size :=
    flatMap_store64_load64 (by rw [whole]; decide)
  rw [bytes, words_ofBytes, stored, ← whole, List.take_length]

/-- So is the struct of an old kernel, as far as it goes. -/
theorem take_bytes_ofBytes
    {written : Bytes}
    (legacy : written.length = legacySize) :
    (ofBytes written).bytes.take legacySize = written := by
  have stored :
      ((List.range 3).map fun index =>
          load64 written (8 * index)).flatMap store64 =
        written.take legacySize :=
    flatMap_store64_load64 (by rw [legacy]; decide)
  rw [take_legacySize, words_ofBytes, ← List.map_take, List.take_range,
    show min 3 6 = 3 from rfl, stored, ← legacy, List.take_length]

end XdpStatistics

/-- What the kernel may answer, by what it knows. -/
inductive StatisticsAnswer where
  | full (counters : XdpStatistics) : StatisticsAnswer
  | legacy (counters : XdpStatistics) : StatisticsAnswer
  | odd
      (written : { written : Bytes // written.length ≤ XdpStatistics.size })
      (other :
        written.1.length ≠ XdpStatistics.legacySize ∧
          written.1.length ≠ XdpStatistics.size) :
      StatisticsAnswer
  | failed (error : Errno) : StatisticsAnswer

namespace StatisticsAnswer

/-- The answer as `getsockopt` gives it. -/
def reply : StatisticsAnswer → StatisticsReply
  | .full counters =>
      .ok ⟨counters.bytes, counters.length_bytes.le⟩
  | .legacy counters =>
      .ok
        ⟨counters.bytes.take XdpStatistics.legacySize,
          (List.length_take_le _ _).trans (by decide)⟩
  | .odd written _ =>
      .ok written
  | .failed error =>
      .error error

/-- There is no other reply. -/
theorem exists_reply (given : StatisticsReply) :
    ∃ answer : StatisticsAnswer, answer.reply = given := by
  cases given with
  | error error =>
      exact ⟨.failed error, rfl⟩
  | ok written =>
      by_cases whole : written.1.length = XdpStatistics.size
      · refine ⟨.full (.ofBytes written.1), ?_⟩
        exact congrArg Except.ok
          (Subtype.ext (XdpStatistics.bytes_ofBytes whole))
      by_cases legacy : written.1.length = XdpStatistics.legacySize
      · refine ⟨.legacy (.ofBytes written.1), ?_⟩
        exact congrArg Except.ok
          (Subtype.ext (XdpStatistics.take_bytes_ofBytes legacy))
      · exact ⟨.odd written ⟨legacy, whole⟩, rfl⟩

/--
What a reader of the lines is to learn: a counter that the kernel does not
have is no number, and an answer that is not understood is an error.
-/
def report : StatisticsAnswer → List (String × Option Nat)
  | .full counters =>
      [("kernel_stats_returned_bytes", some 48),
        ("kernel_rx_dropped", some counters.rxDropped.toNat),
        ("kernel_rx_invalid_descs", some counters.rxInvalidDescs.toNat),
        ("kernel_tx_invalid_descs", some counters.txInvalidDescs.toNat),
        ("kernel_rx_ring_full", some counters.rxRingFull.toNat),
        ("kernel_rx_fill_ring_empty_descs",
          some counters.rxFillRingEmptyDescs.toNat),
        ("kernel_tx_ring_empty_descs",
          some counters.txRingEmptyDescs.toNat)]
  | .legacy counters =>
      [("kernel_stats_returned_bytes", some 24),
        ("kernel_rx_dropped", some counters.rxDropped.toNat),
        ("kernel_rx_invalid_descs", some counters.rxInvalidDescs.toNat),
        ("kernel_tx_invalid_descs", some counters.txInvalidDescs.toNat),
        ("kernel_rx_ring_full", none),
        ("kernel_rx_fill_ring_empty_descs", none),
        ("kernel_tx_ring_empty_descs", none)]
  | .odd _ _ =>
      [("kernel_stats_errno", some Errno.eproto.code)]
  | .failed error =>
      [("kernel_stats_errno", some error.code)]

end StatisticsAnswer

namespace Xsk

/-- The size that is checked is the number of bytes written. -/
theorem kernelStats_ok
    (written : { written : Bytes // written.length ≤ XdpStatistics.size }) :
    kernelStats (.ok written) =
      if written.1.length ≠ XdpStatistics.legacySize ∧
          written.1.length ≠ XdpStatistics.size then
        .error .eproto
      else
        .ok
          { counters := .ofBytes written.1
            returnedBytes := UInt32.ofNat written.1.length } := by
  have small : written.1.length < UInt32.size :=
    Nat.lt_of_le_of_lt written.2 (by decide)
  simp only [kernelStats, UInt32.toNat_ofNat_of_lt' small,
    Bool.and_eq_true, decide_eq_true_eq]

/-- All six counters are returned as they are. -/
theorem kernelStats_full (counters : XdpStatistics) :
    kernelStats (StatisticsAnswer.full counters).reply =
      .ok { counters := counters, returnedBytes := 48 } := by
  have read : XdpStatistics.ofBytes counters.bytes = counters :=
    XdpStatistics.ofBytes_flatMap counters.words
  have sized := counters.length_bytes
  rw [StatisticsAnswer.reply, kernelStats_ok, if_neg (by simp [sized]), read,
    sized]
  rfl

/-- The three of an old kernel are returned, and the others are zero. -/
theorem kernelStats_legacy (counters : XdpStatistics) :
    kernelStats (StatisticsAnswer.legacy counters).reply =
      .ok
        { counters :=
            { counters with
              rxRingFull := 0
              rxFillRingEmptyDescs := 0
              txRingEmptyDescs := 0 }
          returnedBytes := 24 } := by
  have read := XdpStatistics.ofBytes_flatMap (counters.words.take 3)
  rw [← counters.take_legacySize] at read
  have sized :
      (counters.bytes.take XdpStatistics.legacySize).length =
        XdpStatistics.legacySize := by
    rw [List.length_take, counters.length_bytes]
    decide
  rw [StatisticsAnswer.reply, kernelStats_ok, if_neg (by simp [sized]),
    read, sized]
  rfl

/-- A reply of any other size is refused. -/
theorem kernelStats_other
    {written : { written : Bytes // written.length ≤ XdpStatistics.size }}
    (other :
      written.1.length ≠ XdpStatistics.legacySize ∧
        written.1.length ≠ XdpStatistics.size) :
    kernelStats (.ok written) = .error .eproto := by
  rw [kernelStats_ok, if_pos other]

end Xsk

namespace Main

variable (result : Except Errno KernelStats)

/-- The stream gets a beginning of the lines, and all of them on success. -/
theorem printKernelStats_wrote
    (stream : Stream StdioFailure) :
    Wrote (render (kernelStatsFields result)) (kernelStatsCalls result)
      ((printKernelStats result).run stream).1 stream
      ((printKernelStats result).run stream).2 := by
  cases result with
  | error error =>
      exact print_wrote _ _
  | ok stats =>
      have wrote :=
        printAll_wrote stream
          [render (kernelCommonFields stats),
            render (kernelRingFields stats)]
      have whole :
          [render (kernelCommonFields stats),
              render (kernelRingFields stats)].flatten =
            render (kernelStatsFields (.ok stats)) := by
        simp [kernelStatsFields, render_append]
      rw [whole] at wrote
      exact wrote

/-- Every line can be read back. -/
theorem kernelStatsFields_plain :
    ∀ field, field ∈ kernelStatsFields result → Plain field := by
  intro field member
  cases result with
  | error error =>
      obtain rfl := List.mem_singleton.mp member
      exact plain_decimal (by decide) _
  | ok stats =>
      simp only [kernelStatsFields, kernelCommonFields, kernelRingFields,
        List.mem_append, List.mem_cons, List.not_mem_nil, or_false]
        at member
      rcases member with (rfl | rfl | rfl | rfl) | ring
      · exact plain_decimal (by decide) _
      · exact plain_decimal (by decide) _
      · exact plain_decimal (by decide) _
      · exact plain_decimal (by decide) _
      · split at ring
        · simp only [List.mem_cons, List.not_mem_nil, or_false] at ring
          rcases ring with rfl | rfl | rfl
          · exact plain_decimal (by decide) _
          · exact plain_decimal (by decide) _
          · exact plain_decimal (by decide) _
        · simp only [List.mem_cons, List.not_mem_nil, or_false] at ring
          rcases ring with rfl | rfl | rfl
          · exact ⟨by decide, by decide⟩
          · exact ⟨by decide, by decide⟩
          · exact ⟨by decide, by decide⟩

/-- The lines as they are read back. -/
theorem readings_kernelStats :
    readings (kernelStatsFields result).length
        (render (kernelStatsFields result)) =
      some
        ((kernelStatsFields result).map fun field =>
          (String.ofList field.1, reading field.2)) := by
  rw [readings, parse_render (kernelStatsFields_plain result)]
  rfl

/-- What was to be printed says what the kernel answered. -/
theorem kernelStatsFields_report (answer : StatisticsAnswer) :
    ((kernelStatsFields (Xsk.kernelStats answer.reply)).map fun field =>
        (String.ofList field.1, reading field.2)) =
      answer.report := by
  cases answer with
  | full counters =>
      rw [Xsk.kernelStats_full]
      simp [kernelStatsFields, kernelCommonFields, kernelRingFields,
        KernelStats.hasRingCounters, XdpStatistics.size,
        StatisticsAnswer.report, reading_decimal]
  | legacy counters =>
      rw [Xsk.kernelStats_legacy]
      simpa [kernelStatsFields, kernelCommonFields, kernelRingFields,
        KernelStats.hasRingCounters, XdpStatistics.size,
        StatisticsAnswer.report, reading_decimal] using reading_unavailable
  | odd written other =>
      rw [StatisticsAnswer.reply, Xsk.kernelStats_other other]
      simp [kernelStatsFields, kernelErrorFields, StatisticsAnswer.report,
        reading_decimal]
  | failed error =>
      simp [kernelStatsFields, kernelErrorFields, StatisticsAnswer.reply,
        Xsk.kernelStats, StatisticsAnswer.report, reading_decimal]

/--
Whatever the kernel answers and however the stream behaves, only a beginning
of the lines is ever printed.  The call succeeds exactly if the stream takes
all of them, and they then read back as what the kernel answered: three
counters that an old kernel lacks are no numbers, and no zeros either.
-/
theorem kernel_stats_read_back
    (answer : StatisticsAnswer)
    (stream : Stream StdioFailure) :
    let result := Xsk.kernelStats answer.reply
    let ran := (printKernelStats result).run stream
    (ran.1 = none ↔
        stream.Accepts stream.calls (kernelStatsCalls result)) ∧
      ∃ printed,
        printed <+: render (kernelStatsFields result) ∧
          ran.2.text = stream.text ++ printed ∧
          (ran.1 = none →
            readings answer.report.length printed =
              some answer.report) := by
  intro result ran
  have wrote := printKernelStats_wrote result stream
  refine ⟨wrote.accepted, ?_⟩
  obtain ⟨printed, begins, held⟩ := wrote.beginning
  refine ⟨printed, begins, held, ?_⟩
  intro succeeded
  have whole : printed = render (kernelStatsFields result) :=
    List.append_cancel_left
      (held.symm.trans (wrote.complete succeeded).1)
  have report := kernelStatsFields_report answer
  rw [whole, ← report, List.length_map]
  exact readings_kernelStats result

end Main

end AfXdp
