import MiniSniffer.Capture.Announcements
import MiniSniffer.Capture.Session
import MiniSniffer.Output.JsonControls
import MiniSniffer.Output.JsonObjects

/-!
Contract: the machine-readable records of a capture.

Owns that JSON lines, the CSV log and the savefile hold the displayed packets one to one: read back,
each line and each record is that of one packet, in order. A savefile that is read again shows the
same packets, where each packet is looked at on its own.

Does not own the readable report: see `Capture.ConsoleReport`.
-/

namespace MiniSniffer

open Foundation

/-! ### Lines and records -/

section Records

variable {idna : IdnaLookup} {addressText : IpText → List UInt8} {config : MiniSnifferConfig}
variable {datalink : Datalink} {state : CaptureState} {captured : CapturedPacket}
variable {written : NumberedPacket} {numbered : List NumberedPacket}

/-- What the JSON line of a written packet stands for. -/
def writtenJson (addressText : IpText → List UInt8) (config : MiniSnifferConfig)
    (written : NumberedPacket) : Json :=
  packetJson addressText written.packet written.shown.app
    (some (appSourceText written.shown.appSource)) config.payloadDisplayEnabled
    config.payloadPreviewBytes

/-- The cells of a written packet's row. -/
def writtenCells (addressText : IpText → List UInt8) (config : MiniSnifferConfig)
    (written : NumberedPacket) : List CsvCell :=
  rowCells addressText (captureLogger config) written.packet written.shown.app
    (some (appSourceText written.shown.appSource))

/-- The records of a log, line by line. -/
def readLog (log : List UInt8) : List (Option (List CsvCell)) :=
  (readLines log).map fun line => readRecord (line ++ [10])

theorem writtenJson_line (silent : written.shown.flowEvent = none)
    (json : config.jsonOutput = true) :
    ∃ body, (writeDisplayed addressText config written).stdout = body ++ [10] ∧
      ControlFree body ∧ readJson body = some (writtenJson addressText config written) := by
  obtain ⟨body, line, controlFree⟩ := outputPrintPacketJson_controlFree addressText written.packet
    written.shown.app (some (appSourceText written.shown.appSource)) config.payloadDisplayEnabled
    config.payloadPreviewBytes
  obtain ⟨other, same, spelled⟩ := spells_packet addressText written.packet written.shown.app
    (some (appSourceText written.shown.appSource)) config.payloadDisplayEnabled
    config.payloadPreviewBytes
  rw [line] at same
  obtain rfl := List.append_cancel_right same
  refine ⟨body, ?_, controlFree, spelled.readJson⟩
  rw [← line]
  simp only [writeDisplayed, printDisplayed, silent, printAnnouncement, json, if_true,
    List.nil_append]

/-- Standard output of JSON lines is read back line by line. -/
theorem readLines_json (json : config.jsonOutput = true)
    (silent : ∀ written ∈ numbered, written.shown.flowEvent = none) :
    let stdout := (numbered.map (writeDisplayed addressText config)).flatMap PacketOutput.stdout
    (readLines stdout).map readJson =
        numbered.map (fun written => some (writtenJson addressText config written)) ∧
      ∀ line ∈ readLines stdout, ControlFree line := by
  induction numbered with
  | nil => exact ⟨rfl, fun _ member => by contradiction⟩
  | cons written numbered inductionHypothesis =>
      rw [List.forall_mem_cons] at silent
      obtain ⟨body, line, controlFree, read⟩ :=
        @writtenJson_line addressText config written silent.1 json
      obtain ⟨values, lines⟩ := inductionHypothesis silent.2
      rw [List.map_cons, List.flatMap_cons, line, List.append_assoc, List.singleton_append]
      simp only [readLines_line controlFree.oneLine, List.map_cons, read, values]
      exact ⟨trivial, List.forall_mem_cons.mpr ⟨controlFree, lines⟩⟩

theorem writtenCells_line (printed : PrintsAddresses addressText) :
    ∃ body, (writeDisplayed addressText config written).logRow = body ++ [10] ∧ 10 ∉ body ∧
      readRecord (body ++ [10]) = some (writtenCells addressText config written) := by
  have logged := rowCells_logged (captureLogger config) written.shown.app
    (some (appSourceText written.shown.appSource)) (printed written.packet.srcIp)
    (printed written.packet.dstIp)
  have someCells : writtenCells addressText config written ≠ [] := by
    rw [writtenCells, rowCells]
    split_ifs <;> exact List.cons_ne_nil _ _
  obtain ⟨body, line, oneLine⟩ := encodeRecord_line fun cell member => (logged cell member).oneLine
  have record := readRecord_encodeRecord someCells fun cell member => (logged cell member).valid
  have row : (writeDisplayed addressText config written).logRow =
      encodeRecord (writtenCells addressText config written) :=
    csvLoggerWritePacket_eq addressText _ _ _ _
  refine ⟨body, row.trans line, oneLine, ?_⟩
  rw [writtenCells, line] at record
  exact record

theorem writeHeader_line (logger : CsvLogger) :
    ∃ body, writeHeader logger = body ++ [10] ∧ 10 ∉ body := by
  suffices ended : (writeHeader logger).getLast? = some 10 ∧
      10 ∉ (writeHeader logger).dropLast from
    ⟨_, (List.dropLast_append_getLast? 10 ended.1).symm, ended.2⟩
  unfold writeHeader
  split_ifs
  · rw [ascii_ofList, ascii_ofList, ascii_ofList, ascii_ofList, ascii_ofList, ascii_ofList]
    decide +kernel
  · rw [ascii_ofList, ascii_ofList]
    decide +kernel
  · rw [ascii_ofList]
    decide +kernel

/-- A log is read back, whatever follows in the file: the header, and a row of its width for each
written packet. -/
theorem readLog_written (printed : PrintsAddresses addressText) (config : MiniSnifferConfig) :
    ∃ names, (∀ (numbered : List NumberedPacket) (more : List UInt8),
      readLog (writeHeader (captureLogger config) ++
        (numbered.map (writeDisplayed addressText config)).flatMap PacketOutput.logRow ++ more) =
      some names :: numbered.map (fun written => some (writtenCells addressText config written)) ++
        readLog more) ∧
      ∀ written, (writtenCells addressText config written).length = names.length := by
  have rows : ∀ (numbered : List NumberedPacket) (more : List UInt8), readLog
      ((numbered.map (writeDisplayed addressText config)).flatMap PacketOutput.logRow ++ more) =
        numbered.map (fun written => some (writtenCells addressText config written)) ++
          readLog more := by
    intro numbered more
    induction numbered with
    | nil => rfl
    | cons written numbered inductionHypothesis =>
        obtain ⟨body, line, oneLine, read⟩ :=
          @writtenCells_line addressText config written printed
        rw [readLog] at inductionHypothesis ⊢
        rw [List.map_cons, List.flatMap_cons, line, List.append_assoc, List.append_assoc,
          List.singleton_append, readLines_line oneLine, List.map_cons, read, inductionHypothesis,
          List.map_cons]
        rfl
  obtain ⟨body, line, oneLine⟩ := writeHeader_line (captureLogger config)
  obtain ⟨names, header, -⟩ := @readRecord_writeHeader addressText (captureLogger config) {} none
    none
  have width : ∀ written, (writtenCells addressText config written).length = names.length := by
    intro written
    obtain ⟨others, same, length⟩ := @readRecord_writeHeader addressText (captureLogger config)
      written.packet written.shown.app (some (appSourceText written.shown.appSource))
    rw [header] at same
    rw [Option.some.inj same]
    exact length.symm
  refine ⟨names, fun numbered more => ?_, width⟩
  have behind := rows numbered more
  rw [readLog] at behind ⊢
  rw [line] at header
  rw [line, List.append_assoc, List.append_assoc, List.singleton_append, readLines_line oneLine,
    List.map_cons, header, behind]
  rfl

end Records

/-! ### Files -/

section Files

variable {idna : IdnaLookup} {addressText : IpText → List UInt8} {config : MiniSnifferConfig}
variable {datalink : Datalink} {packets : List RecordedPacket}

/-- In JSON output no flow is announced. -/
theorem displayed_silent {config : AppConfig} (json : config.jsonOutput = true)
    (state : CaptureState) (captured : CapturedPacket) (displayed : DisplayedPacket)
    (shown : (capturePass idna config datalink state captured).2 = some displayed) :
    displayed.flowEvent = none := by
  cases event : displayed.flowEvent with
  | none => rfl
  | some flow =>
      have text := (displayed_announcesClassified displayed shown flow event).2
      rw [json] at text
      contradiction

theorem numberDisplayed_header (displayed : List (RecordedPacket × DisplayedPacket))
    (number : UInt32) :
    (numberDisplayed number displayed).map NumberedPacket.header = displayed.map Prod.fst := by
  induction displayed generalizing number with
  | nil => rfl
  | cons pair displayed inductionHypothesis =>
      rw [numberDisplayed, List.map_cons, inductionHypothesis, List.map_cons]
      rfl

theorem displayedPackets_sublist (idna : IdnaLookup) (config : AppConfig) (datalink : Datalink)
    (state : CaptureState) (packets : List RecordedPacket) :
    ((displayedPackets idna config datalink state packets).map Prod.fst).Sublist packets := by
  induction packets generalizing state with
  | nil => exact List.Sublist.refl _
  | cons header packets inductionHypothesis =>
      have rest := inductionHypothesis ((captureLoop idna config datalink).next state
        header.toCapturedPacket)
      simp only [displayedPackets, List.map_cons, Machine.outputs_cons,
        List.zip_cons_cons] at rest ⊢
      cases shown : (captureLoop idna config datalink).output state header.toCapturedPacket with
      | none =>
          rw [List.filterMap_cons_none (by simp)]
          exact rest.cons header
      | some displayed =>
          rw [List.filterMap_cons_some (b := (header, displayed)) (by simp)]
          exact rest.cons_cons header

/-- The outputs of a capture hold its displayed packets one to one: JSON lines, the rows of the log
and the packets of the savefile, each read back. -/
theorem capture_records_agree (printed : PrintsAddresses addressText)
    (installs : List UInt8 → Bool) (device : List UInt8) (interrupted : Bool)
    {files : CaptureFiles}
    (captured : captureStart idna addressText config datalink installs device packets interrupted =
      some files) :
    ∃ initial names, captureInit config.toAppConfig = some initial ∧
      let written := numberedPackets idna config.toAppConfig datalink initial packets
      (config.jsonOutput = true → (readLines files.stdout).map readJson =
          written.map (fun packet => some (writtenJson addressText config packet)) ∧
        ∀ line ∈ readLines files.stdout, ControlFree line) ∧
      (∀ log ∈ files.log, readLog log =
          some names :: written.map (fun packet => some (writtenCells addressText config packet)) ∧
        ∀ packet ∈ written, (writtenCells addressText config packet).length = names.length) ∧
      ∀ saved ∈ files.savefile, saved = written.map NumberedPacket.header ∧
        saved.Sublist packets := by
  unfold captureStart at captured
  split at captured
  · contradiction
  · split at captured
    · contradiction
    next initial started =>
      obtain rfl := Option.some.inj captured
      have outputs := @captureSession_outputs idna addressText config datalink initial packets
      obtain ⟨names, log, width⟩ := readLog_written printed config
      refine ⟨initial, names, started, ?_, ?_, ?_⟩
      · intro json
        have silent := numberedPackets_forall
          (fun state captured displayed => @displayed_silent idna datalink config.toAppConfig json
            state captured displayed) initial packets
        have lines := @readLines_json addressText config _ json
          fun written member => (silent written member).2
        simp only [captureBanner, captureSourceLine, bpfFilterLine, captureStopped, json,
          Bool.or_true, Bool.not_true, Bool.and_false, Bool.false_and, if_true, Bool.false_eq_true,
          if_false, List.nil_append, List.append_nil, outputs]
        exact lines
      · intro text kept
        dsimp only at kept
        split at kept
        · obtain rfl := Option.some.inj kept
          have whole := log (numberedPackets idna config.toAppConfig datalink initial packets) []
          rw [List.append_nil] at whole
          rw [outputs]
          exact ⟨whole.trans (List.append_nil _), fun packet _ => width packet⟩
        · contradiction
      · intro saved kept
        dsimp only at kept
        split at kept
        · obtain rfl := Option.some.inj kept
          rw [outputs, List.map_map]
          refine ⟨rfl, ?_⟩
          have headers := numberDisplayed_header
            (displayedPackets idna config.toAppConfig datalink initial packets)
            initial.capturedPackets
          show ((numberedPackets idna config.toAppConfig datalink initial packets).map
            NumberedPacket.header).Sublist packets
          rw [numberedPackets, headers]
          exact displayedPackets_sublist idna config.toAppConfig datalink initial packets
        · contradiction

end Files

def sampleRecordsConfig : MiniSnifferConfig :=
  { sampleStreamConfig with
    jsonOutput := true, loggingEnabled := true, writePathEnabled := true }

/-- The packets of a request in two segments, as they are read from a file. -/
def sampleCaptured : List RecordedPacket :=
  sampleSplitRequest.map fun captured => { toCapturedPacket := captured, microseconds := 250 }

theorem capture_records_agree_sampleCaptured :
    ∃ files initial, captureStart none dottedDecimal sampleRecordsConfig .en10mb (fun _ => true) []
        sampleCaptured false = some files ∧
      (readLines files.stdout).map readJson =
        (numberedPackets none sampleRecordsConfig.toAppConfig .en10mb initial sampleCaptured).map
          (fun packet => some (writtenJson dottedDecimal sampleRecordsConfig packet)) ∧
      ∀ saved ∈ files.savefile, saved.Sublist sampleCaptured := by
  obtain ⟨files, captured⟩ := Option.isSome_iff_exists.mp
    (show (captureStart none dottedDecimal sampleRecordsConfig .en10mb (fun _ => true) []
      sampleCaptured false).isSome = true from rfl)
  obtain ⟨initial, names, -, lines, -, saved⟩ := capture_records_agree
    printsAddresses_dottedDecimal (fun _ => true) [] false captured
  exact ⟨files, initial, captured, (lines rfl).1, fun kept member => (saved kept member).2⟩

/-! ### Savefiles -/

section Savefiles

variable {idna : IdnaLookup} {config : AppConfig} {datalink : Datalink} {state : CaptureState}

/-- A captured packet that is no fragment. -/
def Unfragmented (config : AppConfig) (datalink : Datalink) (header : RecordedPacket) : Prop :=
  (parserParsePacketWithDatalink (payloadDecodeLimit config.payloadDecodeBytes) header.bytes
    datalink).isIpv4Fragment = false

/-- What a packet is displayed as on its own. -/
def displayAlone (idna : IdnaLookup) (config : AppConfig) (datalink : Datalink)
    (header : RecordedPacket) : Option DisplayedPacket :=
  (displayPacket idna config none (parserParsePacketWithDatalink
    (payloadDecodeLimit config.payloadDecodeBytes) header.bytes datalink) header.seconds).2

/-- The packets displayed on their own, up to the limit, `count` of which were displayed before. -/
def displayedAlone (idna : IdnaLookup) (config : AppConfig) (datalink : Datalink) :
    UInt32 → List RecordedPacket → List (RecordedPacket × DisplayedPacket)
  | _, [] => []
  | count, header :: packets =>
      if config.maxPackets ≠ 0 && count ≥ config.maxPackets then []
      else
        match displayAlone idna config datalink header with
        | none => displayedAlone idna config datalink count packets
        | some shown => (header, shown) :: displayedAlone idna config datalink (count + 1) packets

theorem displayedPackets_cons (state : CaptureState) (header : RecordedPacket)
    (packets : List RecordedPacket) :
    displayedPackets idna config datalink state (header :: packets) =
      (((captureLoop idna config datalink).output state header.toCapturedPacket).map
        fun shown => (header, shown)).toList ++
      displayedPackets idna config datalink
        ((captureLoop idna config datalink).next state header.toCapturedPacket) packets := by
  simp only [displayedPackets, List.map_cons, Machine.outputs_cons, List.zip_cons_cons]
  cases (captureLoop idna config datalink).output state header.toCapturedPacket with
  | none => simp
  | some displayed => simp

/-- Once the limit is reached nothing more is displayed. -/
theorem displayedPackets_done (done : captureIsDone config state = true)
    (packets : List RecordedPacket) :
    displayedPackets idna config datalink state packets = [] := by
  induction packets with
  | nil => rfl
  | cons header packets inductionHypothesis =>
      have same : (captureLoop idna config datalink).step state header.toCapturedPacket =
          (state, none) := by
        simp [captureLoop, capturePass, done]
      rw [displayedPackets_cons, Machine.output, Machine.next, same]
      exact inductionHypothesis

/-- Without flow tracking and fragments, packets are displayed on their own. -/
theorem displayedPackets_alone (untracked : state.flowTable = none)
    {packets : List RecordedPacket}
    (whole : ∀ header ∈ packets, Unfragmented config datalink header) :
    displayedPackets idna config datalink state packets =
      displayedAlone idna config datalink state.capturedPackets packets := by
  induction packets generalizing state with
  | nil => rfl
  | cons header packets inductionHypothesis =>
      rw [List.forall_mem_cons] at whole
      rw [displayedAlone]
      cases done : captureIsDone config state with
      | true =>
          have limit : (config.maxPackets ≠ 0 && state.capturedPackets ≥ config.maxPackets) =
              true := done
          rw [if_pos limit, displayedPackets_done done]
      | false =>
          have limit : ¬ (config.maxPackets ≠ 0 && state.capturedPackets ≥ config.maxPackets) =
              true := by
            rw [Bool.not_eq_true]
            exact done
          have effective : (effectiveAt config datalink state header.toCapturedPacket).2 =
              parserParsePacketWithDatalink (payloadDecodeLimit config.payloadDecodeBytes)
                header.bytes datalink := by
            rw [effectiveAt, effectivePacket, whole.1]
            rfl
          have output : (captureLoop idna config datalink).output state header.toCapturedPacket =
              displayAlone idna config datalink header := by
            rw [captureLoop_output_running done, effective, untracked]
            rfl
          have next : ((captureLoop idna config datalink).next state
              header.toCapturedPacket).flowTable = none := by
            rw [(capturePass_running done).2.1, untracked, displayPacket_none]
          have number := capturePass_number idna config datalink state header.toCapturedPacket
          have shown : (capturePass idna config datalink state header.toCapturedPacket).2 =
              displayAlone idna config datalink header := output
          have rest := inductionHypothesis next whole.2
          rw [shown] at number
          have count : ((captureLoop idna config datalink).next state
              header.toCapturedPacket).capturedPackets =
                if (displayAlone idna config datalink header).isSome then
                  state.capturedPackets + 1 else state.capturedPackets := number
          rw [if_neg limit, displayedPackets_cons, output, rest, count]
          cases displayAlone idna config datalink header with
          | none => rfl
          | some displayed => rfl

/-- What was displayed is displayed again. -/
theorem displayedAlone_again (count : UInt32) (packets : List RecordedPacket) :
    displayedAlone idna config datalink count
        ((displayedAlone idna config datalink count packets).map Prod.fst) =
      displayedAlone idna config datalink count packets := by
  induction packets generalizing count with
  | nil => rfl
  | cons header packets inductionHypothesis =>
      rw [displayedAlone]
      split
      · rfl
      next limit =>
        cases shown : displayAlone idna config datalink header with
        | none => exact inductionHypothesis count
        | some displayed =>
            dsimp only
            rw [List.map_cons, displayedAlone, if_neg limit, shown]
            dsimp only
            rw [inductionHypothesis]

/-- A capture without reassembly whose packets are no fragments is repeated by its savefile: read
with the same options, it shows the same packets, numbers and all. -/
theorem savefile_replays (idna : IdnaLookup) (datalink : Datalink)
    (packetLocal : config.reassemble = false) {initial : CaptureState}
    (started : captureInit config = some initial) {packets : List RecordedPacket}
    (whole : ∀ header ∈ packets, Unfragmented config datalink header) :
    numberedPackets idna config datalink initial
        ((numberedPackets idna config datalink initial packets).map NumberedPacket.header) =
      numberedPackets idna config datalink initial packets := by
  have untracked : initial.flowTable = none := by
    have flows := (captureInit_parts started).2.1
    rwa [packetLocal] at flows
  have saved : ∀ header ∈ (displayedPackets idna config datalink initial packets).map Prod.fst,
      Unfragmented config datalink header := fun header member =>
    whole header ((displayedPackets_sublist idna config datalink initial packets).subset member)
  have headers := numberDisplayed_header
    (displayedPackets idna config datalink initial packets) initial.capturedPackets
  unfold numberedPackets
  rw [headers, displayedPackets_alone untracked saved, displayedPackets_alone untracked whole,
    displayedAlone_again]

def sampleReplayConfig : AppConfig := { decodeApp := true, maxPackets := 1 }

theorem savefile_replays_sampleCaptured :
    ∃ initial, captureInit sampleReplayConfig = some initial ∧
      numberedPackets none sampleReplayConfig .en10mb initial
          ((numberedPackets none sampleReplayConfig .en10mb initial sampleCaptured).map
            NumberedPacket.header) =
        numberedPackets none sampleReplayConfig .en10mb initial sampleCaptured := by
  obtain ⟨initial, started⟩ := Option.isSome_iff_exists.mp
    (show (captureInit sampleReplayConfig).isSome = true from rfl)
  refine ⟨initial, started, savefile_replays none .en10mb rfl started ?_⟩
  unfold Unfragmented
  decide

end Savefiles

end MiniSniffer
