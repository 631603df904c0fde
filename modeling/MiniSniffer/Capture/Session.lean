import MiniSniffer.Capture.BpfText
import MiniSniffer.Capture.Summary
import MiniSniffer.Cli.Arguments
import MiniSniffer.Output.PacketText

/-!
Contract: what a capture writes (`capture_start` in `src/capture.c`).

Owns the capture around its loop: the checks before it, the lines it starts with, what each
displayed packet adds to standard output, to the CSV log and to the savefile, and how its packets
are numbered.

Does not own the capture source: opening files and devices, the driver's counters and errors of
writing are left out; for those of the log see `Capture.LoggedCapture`. Address texts, printed by
`inet_ntop`, and which pre-filters a source takes are parameters.
-/

namespace MiniSniffer

open Foundation

/-! ### Packets to be written -/

/-- A captured packet with the other part of its timestamp. -/
structure RecordedPacket extends CapturedPacket where
  microseconds : Nat := 0
deriving DecidableEq, Repr

/-- `%ld.%06ld`, cut to the array it is printed into. -/
def setPacketTimestamp (info : PacketInfo) (header : RecordedPacket) : StampedPacket :=
  { toPacketInfo := info
    timestamp :=
      (decimalText header.seconds ++ ascii "." ++ paddedDecimal 6 header.microseconds).take 31 }

def appSourceText : AppSource → List UInt8
  | .none => ascii "none"
  | .flow => ascii "flow"
  | .packet => ascii "packet"

/-- `packet_app_ptr` -/
def DisplayedPacket.packetApp (shown : DisplayedPacket) : Option AppInfo :=
  if shown.appSource = .packet then shown.app else none

/-- A displayed packet as it is written, with the header of the packet that completed it. -/
structure NumberedPacket where
  packet : StampedPacket
  header : RecordedPacket
  shown : DisplayedPacket
deriving DecidableEq, Repr

/-- The effective packet, stamped and numbered. -/
def numberPacket (number : UInt32) (header : RecordedPacket) (shown : DisplayedPacket) :
    NumberedPacket :=
  { packet := { setPacketTimestamp shown.info header with packetNumber := number }
    header := header
    shown := shown }

/-- What one displayed packet adds to each output. -/
structure PacketOutput where
  stdout : List UInt8
  logRow : List UInt8
  dumped : RecordedPacket
deriving DecidableEq, Repr

/-- The files of a capture, and the counters it leaves. -/
structure CaptureFiles where
  stdout : List UInt8
  log : Option (List UInt8)
  savefile : Option (List RecordedPacket)
  summary : CaptureSummary
deriving DecidableEq, Repr

/-- `parser_supports_datalink` -/
def parserSupportsDatalink (datalink : Datalink) : Bool := datalink ≠ .other

section Session

variable (idna : IdnaLookup) (addressText : IpText → List UInt8) (config : MiniSnifferConfig)
variable (datalink : Datalink)

def printAnnouncement : Option FlowInfo → List UInt8
  | none => []
  | some flow => outputPrintFlowAppEvent addressText flow

/-- A flow is announced before the packet that classified it. -/
def printDisplayed (numbered : NumberedPacket) : List UInt8 :=
  printAnnouncement addressText numbered.shown.flowEvent ++
    if config.jsonOutput then
      outputPrintPacketJson addressText numbered.packet numbered.shown.app
        (some (appSourceText numbered.shown.appSource)) config.payloadDisplayEnabled
        config.payloadPreviewBytes
    else
      packetInfoPrint addressText numbered.packet ++
        ((if config.decodeApp then
          outputPrintPacketAppStatus addressText numbered.packet.appDecodeStatus
            numbered.shown.packetApp
        else []) ++
        if config.payloadDisplayEnabled then
          packetInfoPrintPayload numbered.packet.toPacketInfo config.payloadPreviewBytes
        else [])

/-- The schema of the log is chosen when the capture starts. -/
def captureLogger : CsvLogger :=
  csvLoggerOpen config.decodeApp config.payloadDisplayEnabled config.payloadPreviewBytes

def writeDisplayed (numbered : NumberedPacket) : PacketOutput where
  stdout := printDisplayed addressText config numbered
  logRow := csvLoggerWritePacket addressText (captureLogger config) numbered.packet
    numbered.shown.app (some (appSourceText numbered.shown.appSource))
  dumped := numbered.header

/-- The capture loop with what its passes write. -/
def captureSession : Machine CaptureState RecordedPacket (Option PacketOutput) where
  step state header :=
    let pass := capturePass idna config.toAppConfig datalink state header.toCapturedPacket
    (pass.1, pass.2.map fun shown =>
      writeDisplayed addressText config (numberPacket pass.1.capturedPackets header shown))

/-- The line that names the capture source. -/
def captureSourceLine (device : List UInt8) : List UInt8 :=
  if config.quiet || config.jsonOutput then []
  else
    (if config.readPathEnabled then ascii "Reading packets from pcap file: "
    else ascii "Starting capture on interface: ") ++ cString device ++ ascii "\n"

/-- What `install_bpf_filter` reports when the source takes the expression: `pcap_compile` and
`pcap_setfilter` succeed. -/
def bpfFilterLine (installs : List UInt8 → Bool) : List UInt8 :=
  if config.verbose && !config.quiet && !config.jsonOutput && !config.noBpf then
    match bpfFilterText addressText config.toAppConfig with
    | none => []
    | some expression =>
        if installs expression then ascii "BPF filter installed: " ++ expression ++ ascii "\n"
        else []
  else []

/-- What a capture prints in front of its packets. -/
def captureBanner (installs : List UInt8 → Bool) (device : List UInt8) : List UInt8 :=
  captureSourceLine config device ++ bpfFilterLine addressText config installs

/-- What an interrupted capture ends with. -/
def captureStopped (interrupted : Bool) : List UInt8 :=
  if interrupted && !config.quiet && !config.jsonOutput then ascii "\nCapture stopped.\n" else []

/-- A capture of `packets`, which the user may have interrupted behind them, where every row of the
log can be written. -/
def captureStart (installs : List UInt8 → Bool) (device : List UInt8)
    (packets : List RecordedPacket) (interrupted : Bool) : Option CaptureFiles :=
  if !parserSupportsDatalink datalink then none
  else
    match captureInit config.toAppConfig with
    | none => none
    | some initial =>
        let session := captureSession idna addressText config datalink
        let outputs := (session.outputs initial packets).reduceOption
        some
          { stdout := captureBanner addressText config installs device ++
              outputs.flatMap PacketOutput.stdout ++ captureStopped config interrupted
            log :=
              if config.loggingEnabled then
                some (writeHeader (captureLogger config) ++ outputs.flatMap PacketOutput.logRow)
              else none
            savefile :=
              if config.writePathEnabled then some (outputs.map PacketOutput.dumped) else none
            summary := captureFinish (session.run initial packets) }

end Session

/-! ### Sessions and loops -/

section Outputs

variable {idna : IdnaLookup} {addressText : IpText → List UInt8} {config : MiniSnifferConfig}
variable {datalink : Datalink} {state initial : CaptureState} {header : RecordedPacket}

/-- The packets of a run that were displayed, each with what it was displayed as. -/
def displayedPackets (idna : IdnaLookup) (config : AppConfig) (datalink : Datalink)
    (state : CaptureState) (packets : List RecordedPacket) :
    List (RecordedPacket × DisplayedPacket) :=
  (packets.zip ((captureLoop idna config datalink).outputs state
    (packets.map RecordedPacket.toCapturedPacket))).filterMap fun pass =>
      pass.2.map fun shown => (pass.1, shown)

/-- Displayed packets are numbered from the one after `number`. -/
def numberDisplayed : UInt32 → List (RecordedPacket × DisplayedPacket) → List NumberedPacket
  | _, [] => []
  | number, (header, shown) :: displayed =>
      numberPacket (number + 1) header shown :: numberDisplayed (number + 1) displayed

/-- What a capture that starts with `initial` writes about. -/
def numberedPackets (idna : IdnaLookup) (config : AppConfig) (datalink : Datalink)
    (initial : CaptureState) (packets : List RecordedPacket) : List NumberedPacket :=
  numberDisplayed initial.capturedPackets
    (displayedPackets idna config datalink initial packets)

/-- A pass numbers what it displays. -/
theorem capturePass_number (idna : IdnaLookup) (config : AppConfig) (datalink : Datalink)
    (state : CaptureState) (captured : CapturedPacket) :
    (capturePass idna config datalink state captured).1.capturedPackets =
      if (capturePass idna config datalink state captured).2.isSome then
        state.capturedPackets + 1 else state.capturedPackets := by
  unfold capturePass
  split
  · rfl
  · dsimp only
    split <;> rfl

/-- The first pass displays the first of the packets, if it displays any. -/
theorem numberedPackets_cons (idna : IdnaLookup) (config : AppConfig) (datalink : Datalink)
    (state : CaptureState) (header : RecordedPacket) (packets : List RecordedPacket) :
    let pass := capturePass idna config datalink state header.toCapturedPacket
    numberedPackets idna config datalink state (header :: packets) =
      (pass.2.map (numberPacket pass.1.capturedPackets header)).toList ++
        numberedPackets idna config datalink pass.1 packets := by
  intro pass
  have number := capturePass_number idna config datalink state header.toCapturedPacket
  have rest : numberedPackets idna config datalink state (header :: packets) =
      numberDisplayed state.capturedPackets
        ((pass.2.map fun shown => (header, shown)).toList ++
          displayedPackets idna config datalink pass.1 packets) := by
    simp only [numberedPackets, displayedPackets, List.map_cons, Machine.outputs_cons,
      List.zip_cons_cons, Machine.output, Machine.next, captureLoop, pass]
    cases shown : (capturePass idna config datalink state header.toCapturedPacket).2 with
    | none =>
        rw [List.filterMap_cons_none (by simp)]
        rfl
    | some displayed =>
        rw [List.filterMap_cons_some (b := (header, displayed)) (by simp)]
        rfl
  rw [rest]
  cases shown : pass.2 with
  | none =>
      rw [shown, Option.isSome_none, if_neg Bool.false_ne_true] at number
      rw [Option.map_none, Option.map_none, ← number]
      rfl
  | some displayed =>
      rw [shown, Option.isSome_some, if_pos rfl] at number
      rw [Option.map_some, Option.map_some, Option.toList_some, List.singleton_append,
        numberDisplayed, ← number]
      rfl

/-- A session writes the displayed packets of the loop, in order and numbered without a gap. -/
theorem captureSession_outputs (state : CaptureState) (packets : List RecordedPacket) :
    ((captureSession idna addressText config datalink).outputs state packets).reduceOption =
      (numberedPackets idna config.toAppConfig datalink state packets).map
        (writeDisplayed addressText config) := by
  induction packets generalizing state with
  | nil => rfl
  | cons header packets inductionHypothesis =>
      rw [Machine.outputs_cons, numberedPackets_cons, List.map_append, ← inductionHypothesis]
      simp only [Machine.output, Machine.next, captureSession]
      cases (capturePass idna config.toAppConfig datalink state header.toCapturedPacket).2 with
      | none => rfl
      | some displayed => rfl

/-- What every pass displays, every written packet is made from. -/
theorem numberedPackets_forall {config : AppConfig} {holds : DisplayedPacket → Prop}
    (each : ∀ state captured displayed,
      (capturePass idna config datalink state captured).2 = some displayed → holds displayed)
    (state : CaptureState) (packets : List RecordedPacket) :
    ∀ written ∈ numberedPackets idna config datalink state packets,
      written.packet.toPacketInfo = written.shown.info ∧ holds written.shown := by
  have numbered : ∀ (displayed : List (RecordedPacket × DisplayedPacket)) (number : UInt32),
      (∀ pair ∈ displayed, holds pair.2) → ∀ written ∈ numberDisplayed number displayed,
        written.packet.toPacketInfo = written.shown.info ∧ holds written.shown := by
    intro displayed
    induction displayed with
    | nil => exact fun _ _ _ member => by contradiction
    | cons pair displayed inductionHypothesis =>
        intro number held
        rw [List.forall_mem_cons] at held
        rw [numberDisplayed, List.forall_mem_cons]
        exact ⟨⟨rfl, held.1⟩, inductionHypothesis (number + 1) held.2⟩
  have answers : ∀ output ∈ (captureLoop idna config datalink).outputs state
      (packets.map RecordedPacket.toCapturedPacket), ∀ displayed ∈ output, holds displayed :=
    @Machine.forall_mem_outputs _ _ _ (captureLoop idna config datalink) (fun _ => True)
      (fun output => ∀ displayed ∈ output, holds displayed) (fun _ _ _ => trivial)
      (fun state captured _ displayed shown => each state captured displayed shown) state trivial _
  refine numbered _ _ fun pair member => ?_
  obtain ⟨pass, zipped, chosen⟩ := List.mem_filterMap.mp member
  obtain ⟨displayed, shown, rfl⟩ := Option.map_eq_some_iff.mp chosen
  exact answers pass.2 (List.of_mem_zip zipped).2 displayed shown

/-- The numbers are consecutive; the counter has 32 bits. -/
theorem numberDisplayed_numbers (start : Nat)
    (displayed : List (RecordedPacket × DisplayedPacket)) :
    (numberDisplayed (UInt32.ofNat start) displayed).map (fun written =>
        written.packet.packetNumber) =
      (List.range' (start + 1) displayed.length).map UInt32.ofNat := by
  induction displayed generalizing start with
  | nil => rfl
  | cons pair displayed inductionHypothesis =>
      have next : UInt32.ofNat start + 1 = UInt32.ofNat (start + 1) := by
        rw [UInt32.ofNat_add]
        rfl
      have rest := inductionHypothesis (start + 1)
      rw [numberDisplayed, List.map_cons, next, rest, List.length_cons, List.range'_succ,
        List.map_cons]
      rfl

end Outputs

end MiniSniffer
