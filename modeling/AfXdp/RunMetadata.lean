import AfXdp.ParseArgs
import AfXdp.Samples

namespace AfXdp

open TextStream

/-!
# The sidecar file of a run

`dump_run_metadata` writes what a run was and how it ended as one
`key=value` line each, with the kernel statistics at the end.
-/

/-! ## What a run records -/

/-- Why the run was stopped. -/
inductive StopReason where
  | signal : StopReason
  | txRejectionAnomaly : StopReason
  deriving Repr, DecidableEq

/-- The text of `stop_reason`. -/
def StopReason.text : StopReason → Text
  | .signal =>
      "signal".toList
  | .txRejectionAnomaly =>
      "tx_rejection_anomaly".toList

/--
The fields of `struct RunSummary` that are not counters of the packet path.
The two durations are in nanoseconds.
-/
structure RunRecord where
  workerCpu : Int
  schedulerPolicy : Int
  schedulerPriority : Int
  zeroCopy : Bool
  nativeXdp : Bool
  hugetlb : Bool
  samplingStarted : Bool
  csvExported : Bool
  samplingStartAfter : Int
  activeDuration : Int
  samplesRecorded : Nat
  txAbandoned : UInt32
  firstKernelStatsErrno : Nat
  stopRedirectErrno : Nat
  stopReason : StopReason
  kernelStats : Except Errno KernelStats

/-- The counters before they are filled in. -/
def RunSummary.zero : RunSummary where
  rxProcessed := 0
  callbacks := 0
  callbackBytes := 0
  unsupported := 0
  txStaged := 0
  txSubmitted := 0
  txReclaimed := 0
  txRejected := 0
  fillRefillBatches := 0
  txRetryableWakeupErrors := 0
  txAbandoned := 0
  rxFirstWakeupErrno := 0
  txFirstWakeupErrno := 0

/-- `namespace afxdp::build`, which the build generates. -/
structure BuildInfo where
  revision : Text
  sourceState : Text
  sourceFingerprint : Text
  compiler : Text
  configuration : Text
  compileCommand : Text
  libbpfVersion : Text

/-- What the file says about the machine and the moment of the run. -/
structure Host where
  build : BuildInfo
  release : Option (Text × Text)
  startedUnixSeconds : Int
  /-- `%.3f` of a duration in milliseconds, given in nanoseconds. -/
  milliseconds : Int → Text
  /-- `%.12g` of the length of a tick. -/
  general : Float → Text

/-- The arguments of `dump_run_metadata`, and what it asks the system for. -/
structure Sidecar where
  host : Host
  args : Args
  run : RunRecord
  summary : RunSummary
  tsc : TscCalibration
  exitCode : Nat

/-! ## Constants of `main.cpp` -/

namespace Main

/-- `NUM_FRAMES`. -/
def numFrames : Nat :=
  8192

/-- `FRAME_SIZE`. -/
def frameSize : Nat :=
  2048

/-- `RING_SIZE`. -/
def ringSize : Nat :=
  2048

/-- `UMEM_HEADROOM`. -/
def umemHeadroom : Nat :=
  2

/-- `RX_BATCH_SIZE`. -/
def rxBatchSize : Nat :=
  64

/-- `BUSY_POLL_BUDGET`. -/
def busyPollBudget : Nat :=
  64

/-- `BUSY_POLL_TIMEOUT_US`. -/
def busyPollTimeoutUs : Nat :=
  20

/-- `TX_REJECTION_LIMIT`. -/
def txRejectionLimit : UInt64 :=
  100000

/-- `SAMPLE_CAPACITY`. -/
def sampleCapacity : Nat :=
  2 ^ 22

/-- `SAMPLE_WARMUP` in nanoseconds. -/
def sampleWarmup : Int :=
  1000000000

/-- `REFLECTOR_IPV4_MTU`. -/
def reflectorIpv4Mtu : Nat :=
  1500

end Main

/-! ## The fields -/

/-- The values by the conversion that prints them. -/
inductive MetaValue where
  | natural (value : Nat) : MetaValue
  | integer (value : Int) : MetaValue
  | flag (value : Bool) : MetaValue
  | word (value : Text) : MetaValue

namespace MetaValue

/-- What `fprintf` makes of the value. -/
def text : MetaValue → Text
  | .natural value =>
      decimal value
  | .integer (.ofNat value) =>
      decimal value
  | .integer (.negSucc value) =>
      '-' :: decimal (value + 1)
  | .flag value =>
      if value then ['1'] else ['0']
  | .word value =>
      value

/-- The text is one line. -/
def OneLine (value : MetaValue) : Prop :=
  '\n' ∉ value.text

instance (value : MetaValue) : Decidable value.OneLine :=
  inferInstanceAs (Decidable (_ ∉ _))

/-- A number is on one line. -/
theorem natural_oneLine (value : Nat) : (natural value).OneLine :=
  decimal_free (by decide) value

/-- So is one with a sign. -/
theorem integer_oneLine (value : Int) : (integer value).OneLine := by
  cases value with
  | ofNat value =>
      exact decimal_free (by decide) value
  | negSucc value =>
      have digits : '\n' ∉ decimal (value + 1) :=
        decimal_free (by decide) _
      simp [OneLine, text, digits]

/-- So is a flag. -/
theorem flag_oneLine (value : Bool) : (flag value).OneLine := by
  cases value with
  | false =>
      decide
  | true =>
      decide

end MetaValue

namespace Main

open MetaValue

/-- The arguments of the long `fprintf`, in order, with the keys before them. -/
def metadataFields (sidecar : Sidecar) : List (String × MetaValue) :=
  let host := sidecar.host
  let args := sidecar.args
  let run := sidecar.run
  let summary := sidecar.summary
  let tsc := sidecar.tsc
  [("source_revision", word host.build.revision),
    ("source_state", word host.build.sourceState),
    ("source_fingerprint_sha256", word host.build.sourceFingerprint),
    ("compiler", word host.build.compiler),
    ("build_configuration", word host.build.configuration),
    ("compile_command", word host.build.compileCommand),
    ("libbpf_build_version", word host.build.libbpfVersion),
    ("kernel",
      word ((host.release.map Prod.fst).getD "unavailable".toList)),
    ("machine",
      word ((host.release.map Prod.snd).getD "unavailable".toList)),
    ("started_unix_seconds", integer host.startedUnixSeconds),
    ("interface", word args.iface.toList),
    ("filter_source_ipv4", word args.filterIp.toList),
    ("queue", natural args.queue.toNat),
    ("worker_cpu", integer run.workerCpu),
    ("worker_scheduler_policy", integer run.schedulerPolicy),
    ("worker_scheduler_priority", integer run.schedulerPriority),
    ("zerocopy_requested", flag args.zerocopy),
    ("copy_mode",
      word (if run.zeroCopy then "zero_copy".toList else "copy".toList)),
    ("xdp_mode",
      word (if run.nativeXdp then "native".toList else "generic".toList)),
    ("hugepages_requested", flag args.hugePages),
    ("umem_mapping",
      word (if run.hugetlb then "hugetlb".toList else "anonymous".toList)),
    ("need_wakeup", word "1".toList),
    ("busy_poll", word "1".toList),
    ("busy_poll_budget", natural busyPollBudget),
    ("busy_poll_timeout_us", natural busyPollTimeoutUs),
    ("num_frames", natural numFrames),
    ("frame_size", natural frameSize),
    ("umem_headroom", natural umemHeadroom),
    ("ring_size", natural ringSize),
    ("rx_batch_size", natural rxBatchSize),
    ("workload",
      word
        "unicast_untagged_ipv4_ihl5_unfragmented_udp_reflection".toList),
    ("ipv4_mtu", natural reflectorIpv4Mtu),
    ("offered_load", word "external_generator_not_measured_here".toList),
    ("metric", word "callback_tx_staging_ns".toList),
    ("csv_order", word "sorted_ascending".toList),
    ("sample_population",
      word
        "all_callbacks_including_unsupported_and_tx_rejections".toList),
    ("warmup_min_ms", integer (sampleWarmup / 1000000)),
    ("sample_capacity", natural sampleCapacity),
    ("sampling_started", flag run.samplingStarted),
    ("sampling_start_after_activation_ms",
      word (host.milliseconds run.samplingStartAfter)),
    ("sample_window",
      word "first_capacity_callbacks_or_worker_stop".toList),
    ("samples_recorded", natural run.samplesRecorded),
    ("active_duration_ms", word (host.milliseconds run.activeDuration)),
    ("tsc_ns_per_tick", word (host.general tsc.nsPerTick)),
    ("timer_pair_min_ticks", natural tsc.pairMinTicks.toNat),
    ("timer_pair_median_ticks", natural tsc.pairMedianTicks.toNat),
    ("rx_frames_processed", natural summary.rxProcessed.toNat),
    ("callbacks", natural summary.callbacks.toNat),
    ("callback_bytes", natural summary.callbackBytes.toNat),
    ("unsupported_frames", natural summary.unsupported.toNat),
    ("tx_frames_staged", natural summary.txStaged.toNat),
    ("tx_frames_submitted", natural summary.txSubmitted.toNat),
    ("tx_frames_reclaimed", natural summary.txReclaimed.toNat),
    ("tx_frames_rejected", natural summary.txRejected.toNat),
    ("fill_refill_batches", natural summary.fillRefillBatches.toNat),
    ("tx_retryable_wakeup_errors",
      natural summary.txRetryableWakeupErrors.toNat),
    ("tx_first_wakeup_errno", natural summary.txFirstWakeupErrno),
    ("rx_first_wakeup_errno", natural summary.rxFirstWakeupErrno),
    ("first_kernel_stats_errno", natural run.firstKernelStatsErrno),
    ("tx_rejection_limit_per_report", natural txRejectionLimit.toNat),
    ("stop_reason", word run.stopReason.text),
    ("stop_redirect_errno", natural run.stopRedirectErrno),
    ("tx_frames_abandoned", natural run.txAbandoned.toNat),
    ("csv_exported", flag run.csvExported),
    ("exit_code", natural sidecar.exitCode)]

/-- The number of samples is one of the arguments. -/
theorem samplesRecorded_mem_metadataFields (sidecar : Sidecar) :
    ("samples_recorded", MetaValue.natural sidecar.run.samplesRecorded) ∈
      metadataFields sidecar :=
  List.mem_of_getElem? (i := 41) rfl

/-- The same fields with their printed values. -/
def textFields (fields : List (String × MetaValue)) : List Field :=
  fields.map fun field => (field.1.toList, field.2.text)

/-- `dump_run_metadata`. -/
def dumpRunMetadata
    (sidecar : Sidecar) :
    StateM (Stream StdioFailure) (Except StdioFailure Unit) :=
  writeFile id (fun failure => some failure.orEio) do
    match ← print (render (textFields (metadataFields sidecar))) with
    | some failure =>
        return some failure
    | none =>
        printKernelStats sidecar.run.kernelStats

/-! ## Reading the file back -/

/-- The keys of `metadataFields`. -/
def metadataKeys : List String :=
  ["source_revision", "source_state", "source_fingerprint_sha256",
    "compiler", "build_configuration", "compile_command",
    "libbpf_build_version", "kernel", "machine", "started_unix_seconds",
    "interface", "filter_source_ipv4", "queue", "worker_cpu",
    "worker_scheduler_policy", "worker_scheduler_priority",
    "zerocopy_requested", "copy_mode", "xdp_mode", "hugepages_requested",
    "umem_mapping", "need_wakeup", "busy_poll", "busy_poll_budget",
    "busy_poll_timeout_us", "num_frames", "frame_size", "umem_headroom",
    "ring_size", "rx_batch_size", "workload", "ipv4_mtu", "offered_load",
    "metric", "csv_order", "sample_population", "warmup_min_ms",
    "sample_capacity", "sampling_started",
    "sampling_start_after_activation_ms", "sample_window",
    "samples_recorded", "active_duration_ms", "tsc_ns_per_tick",
    "timer_pair_min_ticks", "timer_pair_median_ticks",
    "rx_frames_processed", "callbacks", "callback_bytes",
    "unsupported_frames", "tx_frames_staged", "tx_frames_submitted",
    "tx_frames_reclaimed", "tx_frames_rejected", "fill_refill_batches",
    "tx_retryable_wakeup_errors", "tx_first_wakeup_errno",
    "rx_first_wakeup_errno", "first_kernel_stats_errno",
    "tx_rejection_limit_per_report", "stop_reason",
    "stop_redirect_errno", "tx_frames_abandoned", "csv_exported",
    "exit_code"]

variable {sidecar : Sidecar}

/-- The keys do not depend on the run. -/
theorem metadataFields_keys :
    (metadataFields sidecar).map Prod.fst =
      metadataKeys :=
  rfl

/-- No key has a character that ends it or its line. -/
theorem metadataKeys_plain :
    ∀ key, key ∈ metadataKeys → '=' ∉ key.toList ∧ '\n' ∉ key.toList := by
  decide +kernel

/-- No text that the run did not choose itself has a line break. -/
structure OneLineTexts (sidecar : Sidecar) : Prop where
  build :
    ∀ text,
      text ∈
        [sidecar.host.build.revision, sidecar.host.build.sourceState,
          sidecar.host.build.sourceFingerprint, sidecar.host.build.compiler,
          sidecar.host.build.configuration, sidecar.host.build.compileCommand,
          sidecar.host.build.libbpfVersion] →
      '\n' ∉ text
  release :
    ∀ release machine,
      sidecar.host.release = some (release, machine) →
      '\n' ∉ release ∧ '\n' ∉ machine
  iface :
    '\n' ∉ sidecar.args.iface.toList
  filterIp :
    '\n' ∉ sidecar.args.filterIp.toList
  started :
    '\n' ∉ sidecar.host.milliseconds sidecar.run.samplingStartAfter
  active :
    '\n' ∉ sidecar.host.milliseconds sidecar.run.activeDuration
  tick :
    '\n' ∉ sidecar.host.general sidecar.tsc.nsPerTick

/-- No value breaks its line. -/
theorem metadataFields_oneLine
    (texts : OneLineTexts sidecar) :
    ∀ field,
      field ∈ metadataFields sidecar →
      field.2.OneLine := by
  have build := texts.build
  simp only [List.forall_mem_cons] at build
  obtain ⟨revision, sourceState, fingerprint, compiler, configuration,
    command, libbpf, -⟩ := build
  have kernel :
      '\n' ∉ (sidecar.host.release.map Prod.fst).getD "unavailable".toList := by
    cases known : sidecar.host.release with
    | none =>
        decide
    | some release =>
        exact (texts.release _ _ known).1
  have machine :
      '\n' ∉ (sidecar.host.release.map Prod.snd).getD "unavailable".toList := by
    cases known : sidecar.host.release with
    | none =>
        decide
    | some release =>
        exact (texts.release _ _ known).2
  have choice
      (condition : Bool)
      {first second : Text}
      (inFirst : '\n' ∉ first)
      (inSecond : '\n' ∉ second) :
      '\n' ∉ (if condition then first else second) := by
    split
    · exact inFirst
    · exact inSecond
  have reason : '\n' ∉ sidecar.run.stopReason.text := by
    cases sidecar.run.stopReason with
    | signal =>
        decide
    | txRejectionAnomaly =>
        decide
  have natural := natural_oneLine
  have integer := integer_oneLine
  have flag := flag_oneLine
  simp only [metadataFields, List.forall_mem_cons]
  refine ⟨revision, sourceState, fingerprint, compiler, configuration,
    command, libbpf, kernel, machine, integer _, texts.iface,
    texts.filterIp, natural _, integer _, integer _, integer _, flag _,
    choice _ (by decide) (by decide), choice _ (by decide) (by decide),
    flag _, choice _ (by decide) (by decide), by decide, by decide,
    natural _, natural _, natural _, natural _, natural _, natural _,
    natural _, by decide, natural _, by decide, by decide, by decide,
    by decide, integer _, natural _, flag _, texts.started, by decide,
    natural _, texts.active, texts.tick, natural _, natural _, natural _,
    natural _, natural _, natural _, natural _, natural _, natural _,
    natural _, natural _, natural _, natural _, natural _, natural _,
    natural _, reason, natural _, natural _, flag _, natural _, nofun⟩

/-- Every line of the file. -/
def metadataLines (sidecar : Sidecar) : List Field :=
  textFields (metadataFields sidecar) ++
    kernelStatsFields sidecar.run.kernelStats

/-- Every line of the file can be read back. -/
theorem metadataLines_plain
    (texts : OneLineTexts sidecar) :
    ∀ field,
      field ∈ metadataLines sidecar →
      Plain field := by
  intro field member
  rcases List.mem_append.mp member with own | kernel
  · obtain ⟨original, inFields, rfl⟩ := List.mem_map.mp own
    have key : original.1 ∈ metadataKeys := by
      rw [← metadataFields_keys]
      exact List.mem_map_of_mem inFields
    exact ⟨metadataKeys_plain _ key,
      metadataFields_oneLine texts _ inFields⟩
  · exact kernelStatsFields_plain _ _ kernel

/-- The keys of the kernel statistics, with and without a result. -/
def kernelStatsKeys : (known : Bool) → List Text
  | false =>
      ["kernel_stats_errno".toList]
  | true =>
      ["kernel_stats_returned_bytes".toList, "kernel_rx_dropped".toList,
        "kernel_rx_invalid_descs".toList, "kernel_tx_invalid_descs".toList,
        "kernel_rx_ring_full".toList,
        "kernel_rx_fill_ring_empty_descs".toList,
        "kernel_tx_ring_empty_descs".toList]

/-- The keys of the statistics depend only on whether there are any. -/
theorem kernelStatsFields_keys (result : Except Errno KernelStats) :
    (kernelStatsFields result).map Prod.fst =
      kernelStatsKeys result.isOk := by
  cases result with
  | error error =>
      rfl
  | ok stats =>
      cases ring : stats.hasRingCounters with
      | false =>
          simp [kernelStatsFields, kernelCommonFields, kernelRingFields,
            kernelStatsKeys, Except.isOk, Except.toBool, ring]
      | true =>
          simp [kernelStatsFields, kernelCommonFields, kernelRingFields,
            kernelStatsKeys, Except.isOk, Except.toBool, ring]

/-- Printing the values keeps the keys. -/
theorem textFields_keys (fields : List (String × MetaValue)) :
    (textFields fields).map Prod.fst =
      (fields.map Prod.fst).map String.toList := by
  simp [textFields, Function.comp_def]

/-- No two keys of the file are the same. -/
theorem allKeys_nodup :
    (metadataKeys.map String.toList ++
      (kernelStatsKeys true ++ kernelStatsKeys false)).Nodup := by
  decide +kernel

/-- No key occurs twice. -/
theorem metadataLines_nodup :
    ((metadataLines sidecar).map Prod.fst).Nodup := by
  rw [metadataLines, List.map_append, kernelStatsFields_keys,
    textFields_keys, metadataFields_keys]
  refine allKeys_nodup.sublist (List.Sublist.append_left ?_ _)
  cases sidecar.run.kernelStats.isOk with
  | false =>
      exact List.sublist_append_right _ _
  | true =>
      exact List.sublist_append_left _ _

/-- In a record without repeated keys every key finds its own value. -/
theorem lookup_of_mem
    {fields : List Field}
    {key value : Text}
    (nodup : (fields.map Prod.fst).Nodup)
    (member : (key, value) ∈ fields) :
    fields.lookup key = some value := by
  induction fields with
  | nil =>
      cases member
  | cons field fields inductionHypothesis =>
      rw [List.map_cons, List.nodup_cons] at nodup
      rcases List.mem_cons.mp member with rfl | later
      · simp
      · have other : key ≠ field.1 := by
          rintro rfl
          exact nodup.1 (List.mem_map.mpr ⟨_, later, rfl⟩)
        rw [List.lookup_cons, beq_eq_false_iff_ne.mpr other]
        exact inductionHypothesis nodup.2 later

/-- The file gets a beginning of its lines, and all of them on success. -/
theorem dumpRunMetadata_wrote (stream : Stream StdioFailure) :
    ∃ outcome : Option StdioFailure,
      Wrote (render (metadataLines sidecar))
          (1 + (1 + kernelStatsCalls sidecar.run.kernelStats + 1)) outcome
          stream ((dumpRunMetadata sidecar).run stream).2 ∧
        (((dumpRunMetadata sidecar).run stream).1 = .ok () ↔
          outcome = none) := by
  refine writeFile_wrote ?_
  intro start
  have own :=
    print_wrote start (render (textFields (metadataFields sidecar)))
  rw [metadataLines, render_append]
  rcases first :
    (print (render (textFields (metadataFields sidecar)))).run start with
    ⟨_ | failure, middle⟩
  · rw [first] at own
    have kernel := printKernelStats_wrote sidecar.run.kernelStats middle
    rw [run_bind_of first]
    exact own.andThen kernel
  · rw [first] at own
    rw [run_bind_of first]
    exact own.stopped

/--
The file is reported as written exactly if every call on it succeeded; it then
has every line of the run, no key twice, and a reader who looks a key up finds
the value that the run had for it, the exit code and the kernel statistics
included.  Whatever happens, it holds a beginning of these lines.
-/
theorem run_metadata_read_back
    (texts : OneLineTexts sidecar)
    (stream : Stream StdioFailure) :
    let lines := metadataLines sidecar
    let ran := (dumpRunMetadata sidecar).run stream
    (ran.1 = .ok () ↔
        stream.Accepts stream.calls
          (1 + (1 + kernelStatsCalls sidecar.run.kernelStats + 1))) ∧
      ∃ written,
        written <+: render lines ∧
          ran.2.text = stream.text ++ written ∧
          (ran.1 = .ok () →
            ∃ fields,
              parse lines.length written = some fields ∧
                (fields.map Prod.fst).Nodup ∧
                (∀ key value,
                  (key, value) ∈ metadataFields sidecar →
                  fields.lookup key.toList = some value.text) ∧
                ∀ key value,
                  (key, value) ∈
                    kernelStatsFields sidecar.run.kernelStats →
                  fields.lookup key = some value) := by
  intro lines ran
  obtain ⟨outcome, wrote, succeeds⟩ := dumpRunMetadata_wrote stream
  refine ⟨succeeds.trans wrote.accepted, ?_⟩
  obtain ⟨written, begins, held⟩ := wrote.beginning
  refine ⟨written, begins, held, ?_⟩
  intro succeeded
  have whole : written = render lines :=
    List.append_cancel_left
      (held.symm.trans (wrote.complete (succeeds.mp succeeded)).1)
  have nodup : (lines.map Prod.fst).Nodup := metadataLines_nodup
  refine ⟨lines, ?_, nodup, ?_, ?_⟩
  · rw [whole]
    exact parse_render (metadataLines_plain texts)
  · intro key value member
    refine lookup_of_mem nodup (List.mem_append_left _ ?_)
    exact List.mem_map_of_mem member
  · intro key value member
    exact lookup_of_mem nodup (List.mem_append_right _ member)

/-- The sidecar of a run that ended at once. -/
def sampleSidecar : Sidecar where
  host :=
    { build :=
        { revision := "0".toList
          sourceState := "clean".toList
          sourceFingerprint := "0".toList
          compiler := "c++".toList
          configuration := "Release".toList
          compileCommand := "c++ -DNDEBUG=1".toList
          libbpfVersion := "1.0".toList }
      release := some ("6.1".toList, "x86_64".toList)
      startedUnixSeconds := 0
      milliseconds := fun _ => "0.000".toList
      general := fun _ => "0.25".toList }
  args := {}
  run :=
    { workerCpu := 0
      schedulerPolicy := 0
      schedulerPriority := 0
      zeroCopy := true
      nativeXdp := true
      hugetlb := true
      samplingStarted := false
      csvExported := true
      samplingStartAfter := 0
      activeDuration := 0
      samplesRecorded := 0
      txAbandoned := 0
      firstKernelStatsErrno := 0
      stopRedirectErrno := 0
      stopReason := .signal
      kernelStats := .error .eproto }
  summary := .zero
  tsc :=
    { nsPerTick := 0.25
      pairMinTicks := 20
      pairMedianTicks := 22 }
  exitCode := 0

/-- A stream on which no call fails. -/
def sampleStream : Stream StdioFailure where
  refusals _ := none
  calls := 0
  text := []

/-- The texts of that run are on one line each. -/
theorem sampleSidecar_oneLineTexts : OneLineTexts sampleSidecar where
  build := by decide
  release := by
    intro release machine known
    cases known
    decide
  iface := by decide
  filterIp := by decide
  started := by decide
  active := by decide
  tick := by decide

/-- Its file is written on a stream that takes everything. -/
theorem run_metadata_read_back_sample :
    OneLineTexts sampleSidecar ∧
      ((dumpRunMetadata sampleSidecar).run sampleStream).1 = .ok () :=
  ⟨sampleSidecar_oneLineTexts,
    (run_metadata_read_back sampleSidecar_oneLineTexts
      sampleStream).1.mpr fun _ _ _ => rfl⟩

end Main

end AfXdp
