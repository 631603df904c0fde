import MiniSniffer.Capture.Session
import MiniSniffer.Output.PacketLines
import MiniSniffer.Parser.PrintedTexts

/-!
Contract: the readable report of a capture.

Owns what the lines of standard output are, over any run: printable text only, one packet line for
each displayed packet in order and numbered without a gap, and no other line that looks like one.
Whatever was captured, it cannot add, hide or forge a packet line or reach the terminal with a
control character.

Does not own JSON lines and the files: see `Capture.CaptureRecords`.
-/

namespace MiniSniffer

open Foundation

/-! ### One displayed packet -/

/-- What a line is that is no packet line. -/
def SecondaryLine (line : List UInt8) : Prop := DetailLine line ∨ AnnouncementLine line

/-- A report shows these packet lines, and nothing that could be taken for another. -/
structure TextReport (text : List UInt8) (lines : List (List UInt8)) : Prop where
  printable : ∀ line ∈ readLines text, Printable line
  packetLines_eq : (readLines text).filter (fun line => line.head? = some 91) = lines
  others : ∀ line ∈ readLines text, line.head? ≠ some 91 → SecondaryLine line
  complete : linesText (readLines text) = text

section Packet

variable {idna : IdnaLookup} {addressText : IpText → List UInt8} {config : MiniSnifferConfig}
variable {datalink : Datalink} {state : CaptureState} {captured : CapturedPacket}
variable {shown : DisplayedPacket} {numbered : NumberedPacket}

theorem SecondaryLine.head {line : List UInt8} (secondary : SecondaryLine line) :
    line.head? ≠ some 91 := by
  rcases secondary with detail | announcement
  · rw [detail.head]
    decide
  · rw [announcement.head]
    decide

/-- The packet that a pass goes on with was parsed. -/
theorem effectivePacket_printableMacs {config : AppConfig} {fragments : FragmentState}
    {info : PacketInfo} {now : Nat} (parsed : info.PrintableMacs) :
    (effectivePacket config fragments info now).2.PrintableMacs := by
  unfold effectivePacket
  split
  · exact parsed
  · split
    · exact parserParsePacketWithDatalink_printableMacs _ _ _
    · exact parsed

theorem displayed_printableMacs {config : AppConfig}
    (displayed : (capturePass idna config datalink state captured).2 = some shown) :
    shown.info.PrintableMacs := by
  obtain ⟨rfl, -⟩ := capturePass_displays displayed
  have effective : (effectiveAt config datalink state captured).2.PrintableMacs :=
    effectivePacket_printableMacs (parserParsePacketWithDatalink_printableMacs _ _ _)
  apply effective.congr
  simp only [decodeCapture, DecodedCapture.display, decodedInfo]
  split <;> rfl

/-- The lines of a displayed packet: at most an announcement, its packet line, and details. -/
theorem printDisplayed_lines (printed : PrintsAddresses addressText)
    (readable : config.jsonOutput = false) (macs : numbered.packet.PrintableMacs) :
    ∃ before after, printDisplayed addressText config numbered =
        linesText (before ++ packetInfoLine addressText numbered.packet :: after) ∧
      (∀ line ∈ before, Printable line ∧ AnnouncementLine line) ∧
      Printable (packetInfoLine addressText numbered.packet) ∧
      ∀ line ∈ after, Printable line ∧ DetailLine line := by
  have announced : PrintsLines AnnouncementLine
      (printAnnouncement addressText numbered.shown.flowEvent) := by
    cases numbered.shown.flowEvent with
    | none => exact PrintsLines.nil
    | some flow => exact outputPrintFlowAppEvent_lines printed flow
  have status : PrintsLines DetailLine (if config.decodeApp then
      outputPrintPacketAppStatus addressText numbered.packet.appDecodeStatus
        numbered.shown.packetApp else []) := by
    split
    · exact outputPrintPacketAppStatus_lines addressText _ _
    · exact PrintsLines.nil
  have payload : PrintsLines DetailLine (if config.payloadDisplayEnabled then
      packetInfoPrintPayload numbered.packet.toPacketInfo config.payloadPreviewBytes
        else []) := by
    split
    · exact packetInfoPrintPayload_lines _ _
    · exact PrintsLines.nil
  obtain ⟨before, beforeEq, beforeLines⟩ := announced
  obtain ⟨after, afterEq, afterLines⟩ := status.append payload
  refine ⟨before, after, ?_, beforeLines, packetInfoLine_printable printed macs.1 macs.2,
    afterLines⟩
  rw [printDisplayed, readable, if_neg Bool.false_ne_true, beforeEq, afterEq, packetInfoPrint,
    linesText_append, linesText_cons]
  rfl

end Packet

/-! ### Reports -/

section Report

variable {addressText : IpText → List UInt8} {config : MiniSnifferConfig}

theorem TextReport.nil : TextReport [] [] :=
  ⟨fun _ member => by contradiction, rfl, fun _ member => by contradiction, rfl⟩

/-- Lines in front of a report whose one packet line is `packetLine`. -/
theorem TextReport.prepend {text packetLine : List UInt8}
    {before after lines : List (List UInt8)} (report : TextReport text lines)
    (bracket : packetLine.head? = some 91) (shownLine : Printable packetLine)
    (beforeLines : ∀ line ∈ before, Printable line ∧ AnnouncementLine line)
    (afterLines : ∀ line ∈ after, Printable line ∧ DetailLine line) :
    TextReport (linesText (before ++ packetLine :: after) ++ text) (packetLine :: lines) := by
  have readRest : ∀ more : List (List UInt8), (∀ line ∈ more, Printable line) →
      readLines (linesText more ++ text) = more ++ readLines text := by
    intro more printable
    rw [← report.complete, ← linesText_append, readLines_linesText, report.complete]
    intro line member
    rcases List.mem_append.mp member with front | back
    · exact (printable line front).oneLine
    · exact (report.printable line back).oneLine
  have printable : ∀ line ∈ before ++ packetLine :: after, Printable line := by
    intro line member
    rcases List.mem_append.mp member with front | back
    · exact (beforeLines line front).1
    · rcases List.mem_cons.mp back with rfl | behind
      · exact shownLine
      · exact (afterLines line behind).1
  have split := readRest _ printable
  have noBracket : ∀ {more : List (List UInt8)}, (∀ line ∈ more, SecondaryLine line) →
      more.filter (fun line => line.head? = some 91) = [] := by
    intro more secondary
    rw [List.filter_eq_nil_iff]
    intro line member
    simpa using (secondary line member).head
  have beforeSecondary : ∀ line ∈ before, SecondaryLine line :=
    fun line member => .inr (beforeLines line member).2
  have afterSecondary : ∀ line ∈ after, SecondaryLine line :=
    fun line member => .inl (afterLines line member).2
  constructor
  · rw [split]
    exact List.forall_mem_append.mpr ⟨printable, report.printable⟩
  · rw [split, List.filter_append, List.filter_append, noBracket beforeSecondary, List.nil_append,
      List.filter_cons_of_pos (by simpa using bracket), noBracket afterSecondary,
      report.packetLines_eq]
    rfl
  · rw [split]
    intro line member unlike
    rcases List.mem_append.mp member with own | rest
    · rcases List.mem_append.mp own with front | back
      · exact beforeSecondary line front
      · rcases List.mem_cons.mp back with rfl | behind
        · exact absurd bracket unlike
        · exact afterSecondary line behind
    · exact report.others line rest unlike
  · rw [split, linesText_append, report.complete]

/-- Displayed packets with printable hardware addresses make a report. -/
theorem writeDisplayed_report (printed : PrintsAddresses addressText)
    (readable : config.jsonOutput = false) {numbered : List NumberedPacket}
    (macs : ∀ written ∈ numbered, written.packet.PrintableMacs) :
    TextReport ((numbered.map (writeDisplayed addressText config)).flatMap PacketOutput.stdout)
      (numbered.map fun written => packetInfoLine addressText written.packet) := by
  induction numbered with
  | nil => exact TextReport.nil
  | cons written numbered inductionHypothesis =>
      rw [List.forall_mem_cons] at macs
      obtain ⟨before, after, text, beforeLines, shownLine, afterLines⟩ :=
        @printDisplayed_lines addressText config written printed readable macs.1
      have first : (writeDisplayed addressText config written).stdout =
          linesText (before ++ packetInfoLine addressText written.packet :: after) := text
      rw [List.map_cons, List.flatMap_cons, first]
      exact (inductionHypothesis macs.2).prepend (packetInfoLine_head addressText _) shownLine
        beforeLines afterLines

end Report

/-- Standard output of a readable capture, whatever was captured: between the lines that name the
source and the pre-filter and the line that an interrupt adds, it is a report of the displayed
packets, numbered from one. -/
theorem capture_report_unforgeable (idna : IdnaLookup) {addressText : IpText → List UInt8}
    (printed : PrintsAddresses addressText) {config : MiniSnifferConfig}
    (readable : config.jsonOutput = false) (datalink : Datalink) (installs : List UInt8 → Bool)
    (device : List UInt8) (packets : List RecordedPacket) (interrupted : Bool)
    {files : CaptureFiles}
    (captured : captureStart idna addressText config datalink installs device packets interrupted =
      some files) :
    ∃ initial body, captureInit config.toAppConfig = some initial ∧
      files.stdout = captureBanner addressText config installs device ++ body ++
        captureStopped config interrupted ∧
      TextReport body ((numberedPackets idna config.toAppConfig datalink initial packets).map
        fun written => packetInfoLine addressText written.packet) ∧
      (numberedPackets idna config.toAppConfig datalink initial packets).map
          (fun written => written.packet.packetNumber) =
        (List.range' 1 (displayedPackets idna config.toAppConfig datalink initial
          packets).length).map UInt32.ofNat := by
  unfold captureStart at captured
  split at captured
  · contradiction
  · split at captured
    · contradiction
    next initial started =>
      obtain rfl := Option.some.inj captured
      refine ⟨initial, _, started, rfl, ?_, ?_⟩
      · rw [captureSession_outputs]
        have macs := numberedPackets_forall
          (fun state captured displayed => @displayed_printableMacs idna datalink state captured
            displayed config.toAppConfig) initial packets
        refine writeDisplayed_report printed readable fun written member => ?_
        rw [(macs written member).1]
        exact (macs written member).2
      · rw [numberedPackets, (captureInit_parts started).2.2.2]
        exact numberDisplayed_numbers 0 _

def sampleReportConfig : MiniSnifferConfig :=
  { sampleStreamConfig with payloadDisplayEnabled := true }

def sampleRecording : List RecordedPacket :=
  sampleSplitRequest.map fun captured => { toCapturedPacket := captured, microseconds := 250 }

theorem capture_report_unforgeable_sampleRecording :
    ∃ files initial body, captureStart none dottedDecimal sampleReportConfig .en10mb (fun _ => true)
        (ascii "trace.pcap") sampleRecording false = some files ∧
      captureInit sampleReportConfig.toAppConfig = some initial ∧
      files.stdout = captureBanner dottedDecimal sampleReportConfig (fun _ => true)
        (ascii "trace.pcap") ++ body ++ captureStopped sampleReportConfig false ∧
      TextReport body ((numberedPackets none sampleReportConfig.toAppConfig .en10mb initial
        sampleRecording).map fun written => packetInfoLine dottedDecimal written.packet) := by
  obtain ⟨files, captured⟩ := Option.isSome_iff_exists.mp
    (show (captureStart none dottedDecimal sampleReportConfig .en10mb (fun _ => true)
      (ascii "trace.pcap") sampleRecording false).isSome = true from rfl)
  obtain ⟨initial, body, started, stdout, report, -⟩ := capture_report_unforgeable none
    printsAddresses_dottedDecimal rfl .en10mb (fun _ => true) (ascii "trace.pcap")
    sampleRecording false captured
  exact ⟨files, initial, body, captured, started, stdout, report⟩

end MiniSniffer
