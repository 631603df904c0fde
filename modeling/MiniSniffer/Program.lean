import MiniSniffer.Capture.CaptureRecords
import MiniSniffer.Capture.ConsoleReport
import MiniSniffer.Capture.Interfaces
import MiniSniffer.Capture.LoggedCapture
import MiniSniffer.Cli.Validation
import MiniSniffer.Output.SummaryText

/-!
Contract: a run of the program (`src/main.c`, with all of `capture_start` in `src/capture.c`).

Owns what main does with its arguments, the lines it starts with, the capture with the errors that
end it, and what ends up on standard output.

Does not own libpcap and the file system: which interfaces there are, what opening one of them or a
savefile answers, which pre-filters are taken, which files can be created and how the disk behaves
under the log are parameters. Errors of writing elsewhere are left out, and of standard error only
what the command line prints there is kept.
-/

namespace MiniSniffer

open Foundation

/-! ### Surroundings -/

/-- What an opened source delivers: packets up to a request to stop, an error or the end, and the
driver's counters (received, dropped, dropped by the interface). -/
structure CaptureSource where
  datalink : Datalink
  packets : List RecordedPacket := []
  interrupted : Bool := false
  fails : Bool := false
  driverStats : Option (UInt32 × UInt32 × UInt32) := none
deriving DecidableEq, Repr

/-- How the disk behaves under the log: at its header, at each row and when it is closed. -/
structure LogDisk where
  header : RecordAnswer UInt8 := { write := .spills 0 }
  rows : Nat → RecordAnswer UInt8 := fun _ => { write := .spills 0 }
  close : Option (List UInt8) := none

/-- What the program runs on. -/
structure ProgramWorld where
  build : CliBuild
  programName : List UInt8
  idna : IdnaLookup
  addressText : IpText → List UInt8
  /-- `pcap_findalldevs` -/
  devices : Option (List PcapInterface)
  /-- `pcap_open_live` and `pcap_open_offline` -/
  openSource : List UInt8 → Option CaptureSource
  /-- `pcap_compile` and `pcap_setfilter` -/
  installsFilter : Datalink → List UInt8 → Bool
  createSavefile : List UInt8 → Bool
  createLog : List UInt8 → Bool
  logDisk : LogDisk := {}

/-- What a run leaves behind. -/
structure ProgramOutcome where
  status : Nat
  stdout : List UInt8 := []
  stderr : List UInt8 := []
  log : Option (List UInt8) := none
  savefile : Option (List RecordedPacket) := none
deriving DecidableEq, Repr

/-! ### Texts -/

def minisnifferVersion : List UInt8 := ascii "0.2.0"

def printUsage (programName : List UInt8) : List UInt8 :=
  ascii "Usage: " ++ programName ++
    ascii " [--help] [--version] [--list-interfaces] [--interface <name>]\n" ++
    ascii "       [--count <number>] [--quiet] [--verbose] [--no-color]\n" ++
    ascii "       [--protocol <tcp|udp|icmp|arp|other>] [--port <number>]\n" ++
    ascii "       [--host <ip>] [--payload] [--payload-bytes <number>]\n" ++
    ascii "       [--payload-decode-bytes <number>] [--domain-match <mode>]\n" ++
    ascii "       [--payload-contains <text>] [--payload-hex <hex>] [--log <file>]\n" ++
    ascii "       [--read <file.pcap>] [--write <file.pcap>] [--no-bpf]\n" ++
    ascii "       [--json] [--flush-log <always|line|exit>]\n" ++
    ascii "       [--decode-app] [--reassemble] [--max-flows <number>]\n" ++
    ascii "       [--stream-buffer-bytes <number>] [--flow-timeout <seconds>]\n" ++
    ascii "       [--app <http|dns|tls|dhcp|mdns|quic>] [--http-host <host>]\n" ++
    ascii "       [--http-method <method>] [--dns-query <name>] [--dns-type <type>]\n" ++
    ascii "       [--tls-sni <host>] [--tls-alpn <protocol>]\n" ++
    ascii "       [--dhcp-type <type>] [--quic-version <version>] [--stats]\n"

/-- A line of the startup summary, if the option is on. -/
def summaryLine (enabled : Bool) (label value : List UInt8) : List UInt8 :=
  if enabled then label ++ value ++ ascii "\n" else []

def enabledText (enabled : Bool) : List UInt8 :=
  if enabled then ascii "enabled" else ascii "disabled"

def filterSummary (addressText : IpText → List UInt8) (config : MiniSnifferConfig) : List UInt8 :=
  summaryLine config.filterProtocolEnabled (ascii "Protocol filter: ")
      (protocolToString config.filterProtocol) ++
    summaryLine config.filterPortEnabled (ascii "Port filter: ")
      (decimalText config.filterPort.toNat) ++
    summaryLine config.filterHostEnabled (ascii "Host filter: ") (addressText config.filterHost) ++
    summaryLine config.filterPayloadTextEnabled (ascii "Payload text filter: ")
      (decimalText config.filterPayloadText.length ++ ascii " bytes") ++
    summaryLine config.filterPayloadHexEnabled (ascii "Payload hex filter: ")
      (decimalText config.filterPayloadHex.length ++ ascii " bytes") ++
    summaryLine config.payloadDisplayEnabled (ascii "Payload preview: ")
      (decimalText config.payloadPreviewBytes ++ ascii " bytes") ++
    summaryLine config.filterAppEnabled (ascii "App filter: ")
      (appProtocolText (ascii "unknown") config.filterAppProtocol) ++
    summaryLine config.filterHttpHostEnabled (ascii "HTTP host filter: ") config.filterHttpHost ++
    summaryLine config.filterHttpMethodEnabled (ascii "HTTP method filter: ")
      config.filterHttpMethod ++
    summaryLine config.filterDnsQueryEnabled (ascii "DNS query filter: ") config.filterDnsQuery ++
    summaryLine config.filterDnsTypeEnabled (ascii "DNS type filter: ")
      (decimalText config.filterDnsType.toNat) ++
    summaryLine config.filterTlsSniEnabled (ascii "TLS SNI filter: ") config.filterTlsSni ++
    summaryLine config.filterTlsAlpnEnabled (ascii "TLS ALPN filter: ") config.filterTlsAlpn ++
    summaryLine config.filterDhcpTypeEnabled (ascii "DHCP type filter: ")
      (decimalText config.filterDhcpType.toNat) ++
    summaryLine config.filterQuicVersionEnabled (ascii "QUIC version filter: 0x")
      (hexText 8 config.filterQuicVersion.toNat)

def printStartupSummary (addressText : IpText → List UInt8) (config : MiniSnifferConfig) :
    List UInt8 :=
  if config.quiet || config.jsonOutput then []
  else
    ascii "MiniSniffer starting...\n" ++
      (if config.readPathEnabled then
        ascii "Input pcap: " ++ config.readPath ++ ascii "\n"
      else
        ascii "Interface: " ++
          (if config.interfaceName = [] then ascii "default" else config.interfaceName) ++
          ascii "\n") ++
      (if config.maxPackets = 0 then ascii "Max packets: unlimited\n"
      else ascii "Max packets: " ++ decimalText config.maxPackets.toNat ++ ascii "\n") ++
      if !config.verbose then []
      else
        ascii "Stats mode: " ++ enabledText config.statsMode ++ ascii "\n" ++
          ascii "App decoding: " ++ enabledText config.decodeApp ++ ascii "\n" ++
          ascii "TCP reassembly: " ++ enabledText config.reassemble ++ ascii "\n" ++
          ascii "Payload decode cap: " ++ decimalText config.payloadDecodeBytes ++
          ascii " bytes\n" ++
          ascii "Max flows: " ++ decimalText config.maxFlows ++ ascii "\n" ++
          ascii "Stream buffer cap: " ++ decimalText config.streamBufferBytes ++
          ascii " bytes\n" ++
          ascii "Flow timeout: " ++ decimalText config.flowTimeoutSeconds ++ ascii " seconds\n" ++
          filterSummary addressText config ++
          summaryLine config.loggingEnabled (ascii "Log file: ") config.logPath

/-! ### Captures -/

/-- A capture whose loop can start. -/
structure OpenedCapture where
  device : List UInt8
  source : CaptureSource
  initial : CaptureState
  log : Option (BufferedFile UInt8)
deriving DecidableEq, Repr

/-- A capture that ended in front of its loop: what it printed, and the empty savefile it may have
created. -/
structure RefusedCapture where
  stdout : List UInt8 := []
  savefile : Option (List RecordedPacket) := none
deriving DecidableEq, Repr

section Run

variable (world : ProgramWorld) (config : MiniSnifferConfig)

/-- The log, if one is asked for. -/
def openLog : Option (Option (BufferedFile UInt8)) :=
  if !config.loggingEnabled then some none
  else if config.logPath = [] || !world.createLog config.logPath then none
  else (csvLoggerOpenFile (captureLogger config) world.logDisk.header).map some

/-- What `capture_start` does in front of its loop. -/
def openCapture : Except RefusedCapture OpenedCapture :=
  match captureDevice config world.devices with
  | none => .error {}
  | some device =>
      let created := if config.writePathEnabled then some [] else none
      match world.openSource device with
      | none =>
          .error
            { stdout := if config.readPathEnabled then [] else captureSourceLine config device }
      | some source =>
          let banner := captureBanner world.addressText config
            (world.installsFilter source.datalink) device
          if !parserSupportsDatalink source.datalink then
            .error { stdout := captureSourceLine config device }
          else if config.writePathEnabled && !world.createSavefile config.writePath then
            .error { stdout := banner }
          else
            match captureInit config.toAppConfig with
            | none => .error { stdout := banner, savefile := created }
            | some initial =>
                match openLog world config with
                | none => .error { stdout := banner, savefile := created }
                | some log =>
                    .ok { device := device, source := source, initial := initial, log := log }

/-- The counters that a capture leaves; those of the driver are asked of live captures. -/
def captureStats (source : CaptureSource) (final : CaptureState) : ReportedStats :=
  let finished : ReportedStats := { toCaptureSummary := captureFinish final }
  if config.readPathEnabled then finished
  else
    match source.driverStats with
    | some (received, dropped, ifDropped) =>
        statsApplyPcapDrops finished true received dropped ifDropped
    | none => statsApplyPcapDrops finished false 0 0 0

/-- `capture_start` returns with the counters it was given. An error of the log or of the source
ends it without its last steps, the latter unless the packet limit was reached before. -/
def runCapture : ProgramOutcome × ReportedStats :=
  match openCapture world config with
  | .error refused =>
      ({ status := 1, stdout := refused.stdout, savefile := refused.savefile }, {})
  | .ok { device, source, initial, log } =>
      let session := loggedSession world.idna world.addressText config source.datalink
        world.logDisk.rows
      let started : LoggedCapture := { capture := initial, log := log }
      let outputs := (session.outputs started source.packets).reduceOption
      let final := session.run started source.packets
      let failed :=
        final.stopped || (source.fails && !captureIsDone config.toAppConfig final.capture)
      let closed := final.log.map fun file => csvLoggerClose file world.logDisk.close
      let dumped := if final.stopped then outputs.dropLast else outputs
      ({ status := if failed then 1 else (closed.map Prod.snd).getD 0
         stdout :=
          captureBanner world.addressText config (world.installsFilter source.datalink) device ++
            outputs.flatMap PacketOutput.stdout ++
            if failed then [] else captureStopped config source.interrupted
         log := closed.map fun file => file.1.durable
         savefile :=
          if config.writePathEnabled then some (dumped.map PacketOutput.dumped) else none },
        if failed then { toPacketStats := final.capture.stats }
        else captureStats config source final.capture)

/-! ### Main -/

def argsRequestedHelp (arguments : List (List UInt8)) : Bool :=
  arguments.any fun argument => argument = ascii "--help"

/-- `capture_list_interfaces` as main calls it. -/
def listInterfaces : ProgramOutcome :=
  match world.devices with
  | none => { status := 1 }
  | some devices => { status := 0, stdout := captureListInterfaces devices }

/-- What main does once the arguments are parsed. -/
def runParsed (arguments : List (List UInt8)) (printed : List UInt8) : ProgramOutcome :=
  if argsRequestedHelp arguments then { status := 0, stdout := printed }
  else if config.versionRequested then
    { status := 0
      stdout := printed ++ ascii "MiniSniffer " ++ minisnifferVersion ++ ascii "\n" }
  else if config.listInterfaces then listInterfaces world
  else
    let capture := runCapture world config
    { capture.1 with
      stdout := printed ++ printStartupSummary world.addressText config ++ capture.1.stdout ++
        if config.statsMode && !config.jsonOutput then statsPrint capture.2 else [] }

end Run

/-- `none` is a division by zero. -/
def program (world : ProgramWorld) (arguments : List (List UInt8)) : Option ProgramOutcome :=
  match cliParseArgs world.build arguments configInitDefaults with
  | none => none
  | some (.failed line) =>
      some { status := 1, stderr := line ++ printUsage world.programName }
  | some (.help config) =>
      some (runParsed world config arguments (printUsage world.programName))
  | some (.parsed config) => some (runParsed world config arguments [])

/-! ### What is displayed -/

section Displayed

variable {world : ProgramWorld} {config : MiniSnifferConfig} {arguments : List (List UInt8)}

/-- What a capture would display if its log never failed, nothing if its loop does not start, and
how many of these packets are logged without an error. -/
def loggedRecords (world : ProgramWorld) (config : MiniSnifferConfig) :
    List NumberedPacket × Nat :=
  match openCapture world config with
  | .error _ => ([], 0)
  | .ok { source, initial, log, .. } =>
      let written :=
        numberedPackets world.idna config.toAppConfig source.datalink initial source.packets
      (written, (logDisplayed world.addressText config log world.logDisk.rows written).2)

/-- The packets that a capture displays; the first that cannot be logged is the last. -/
def displayedRecords (world : ProgramWorld) (config : MiniSnifferConfig) : List NumberedPacket :=
  (loggedRecords world config).1.take ((loggedRecords world config).2 + 1)

/-- The displayed packets that are counted: all but one that cannot be logged. -/
def countedRecords (world : ProgramWorld) (config : MiniSnifferConfig) : List NumberedPacket :=
  (loggedRecords world config).1.take (loggedRecords world config).2

/-- The displayed packet that cannot be logged. -/
def unloggedRecord (world : ProgramWorld) (config : MiniSnifferConfig) : Option NumberedPacket :=
  (loggedRecords world config).1[(loggedRecords world config).2]?

theorem displayedRecords_eq (world : ProgramWorld) (config : MiniSnifferConfig) :
    displayedRecords world config =
      countedRecords world config ++ (unloggedRecord world config).toList :=
  List.take_add_one

theorem captureBanner_silent (silent : (config.quiet || config.jsonOutput) = true)
    (addressText : IpText → List UInt8) (installs : List UInt8 → Bool) (device : List UInt8) :
    captureSourceLine config device = [] ∧
      captureBanner addressText config installs device = [] := by
  have source : captureSourceLine config device = [] := if_pos silent
  have quiet : (config.verbose && !config.quiet && !config.jsonOutput && !config.noBpf) =
      false := by
    rw [Bool.and_assoc config.verbose, ← Bool.not_or, silent, Bool.not_true, Bool.and_false,
      Bool.false_and]
  refine ⟨source, ?_⟩
  rw [captureBanner, source, bpfFilterLine, quiet]
  rfl

/-- What every pass displays, every displayed packet is made from. -/
theorem displayedRecords_forall {holds : DisplayedPacket → Prop}
    (each : ∀ datalink state captured displayed,
      (capturePass world.idna config.toAppConfig datalink state captured).2 = some displayed →
        holds displayed) :
    ∀ written ∈ displayedRecords world config,
      written.packet.toPacketInfo = written.shown.info ∧ holds written.shown := by
  intro written member
  replace member := List.mem_of_mem_take member
  unfold loggedRecords at member
  split at member
  · contradiction
  · exact numberedPackets_forall (each _) _ _ written member

/-- A capture that does not start has printed no more than its banner. -/
theorem openCapture_silent (silent : (config.quiet || config.jsonOutput) = true)
    {refused : RefusedCapture} (ended : openCapture world config = .error refused) :
    refused.stdout = [] := by
  have lines := captureBanner_silent silent world.addressText
  unfold openCapture at ended
  split at ended
  · rw [← Except.error.inj ended]
  next device _ =>
    dsimp only at ended
    split at ended
    · rw [← Except.error.inj ended]
      exact (ite_congr rfl (fun _ => rfl) fun _ => (lines (fun _ => true) device).1).trans
        (ite_self _)
    next source _ =>
      have banner := lines (world.installsFilter source.datalink) device
      split at ended
      · rw [← Except.error.inj ended]
        exact banner.1
      · split at ended
        · rw [← Except.error.inj ended]
          exact banner.2
        · split at ended
          · rw [← Except.error.inj ended]
            exact banner.2
          · split at ended
            · rw [← Except.error.inj ended]
              exact banner.2
            · contradiction

/-- A capture whose loop starts has its tables and its log. -/
theorem openCapture_opened {capture : OpenedCapture}
    (opened : openCapture world config = .ok capture) :
    captureInit config.toAppConfig = some capture.initial ∧
      openLog world config = some capture.log := by
  unfold openCapture at opened
  split at opened
  · contradiction
  · dsimp only at opened
    split at opened
    · contradiction
    · split at opened
      · contradiction
      · split at opened
        · contradiction
        · split at opened
          · contradiction
          next initial started =>
            split at opened
            · contradiction
            next log kept =>
              rw [← Except.ok.inj opened]
              exact ⟨started, kept⟩

theorem loggedSession_opened {capture : OpenedCapture}
    (opened : openCapture world config = .ok capture) :
    let session := loggedSession world.idna world.addressText config capture.source.datalink
      world.logDisk.rows
    let started : LoggedCapture := { capture := capture.initial, log := capture.log }
    let written := numberedPackets world.idna config.toAppConfig capture.source.datalink
      capture.initial capture.source.packets
    LogsFirst world.addressText config started (session.run started capture.source.packets)
      (session.outputs started capture.source.packets).reduceOption written
      (logDisplayed world.addressText config capture.log world.logDisk.rows written) := by
  intro session started written
  have spec := @loggedSession_spec world.idna world.addressText config capture.source.datalink
    world.logDisk.rows started rfl (captureInit_headed (openCapture_opened opened).1)
      capture.source.packets
  simpa only [started, Nat.zero_add] using spec

/-- What a capture prints: its banner, what it displays, and a remark if it was interrupted. -/
theorem runCapture_stdout (world : ProgramWorld) (config : MiniSnifferConfig) :
    ∃ banner interrupted, (runCapture world config).1.stdout = banner ++
        ((displayedRecords world config).map (writeDisplayed world.addressText config)).flatMap
          PacketOutput.stdout ++ captureStopped config interrupted ∧
      ((config.quiet || config.jsonOutput) = true → banner = []) := by
  have unstopped : captureStopped config false = [] := rfl
  unfold runCapture displayedRecords loggedRecords
  cases opened : openCapture world config with
  | error refused =>
      refine ⟨refused.stdout, false, ?_, fun silent => openCapture_silent silent opened⟩
      rw [unstopped]
      simp
  | ok capture =>
      have outputs := (loggedSession_opened opened).outputs_eq
      rcases capture with ⟨device, source, initial, log⟩
      have silence : (config.quiet || config.jsonOutput) = true → captureBanner world.addressText
          config (world.installsFilter source.datalink) device = [] :=
        fun silent => (captureBanner_silent silent world.addressText _ device).2
      dsimp only at outputs ⊢
      rw [outputs]
      generalize (_ || _ : Bool) = failed
      cases failed with
      | true => exact ⟨_, false, rfl, silence⟩
      | false => exact ⟨_, source.interrupted, rfl, silence⟩

theorem captureStats_packets (config : MiniSnifferConfig) (source : CaptureSource)
    (final : CaptureState) : (captureStats config source final).toPacketStats = final.stats := by
  unfold captureStats
  split
  · rfl
  · cases source.driverStats <;> rfl

/-- Whether or not the capture starts or ends well, its counters tally the packets it counted. -/
theorem runCapture_tallies (world : ProgramWorld) (config : MiniSnifferConfig) :
    Tallies {} (runCapture world config).2.toPacketStats
      ((countedRecords world config).map fun written =>
        (written.header, written.packet.toPacketInfo)) := by
  unfold runCapture countedRecords loggedRecords
  cases opened : openCapture world config with
  | error refused => exact Tallies.of_same rfl
  | ok capture =>
      have started := (openCapture_opened opened).1
      have tallies := (loggedSession_opened opened).tallies
      rcases capture with ⟨device, source, initial, log⟩
      have zeroed : initial.stats = {} := (captureInit_parts started).2.2.1
      dsimp only at tallies ⊢
      rw [zeroed] at tallies
      split
      · exact tallies
      · rw [captureStats_packets]
        exact tallies

/-- What a run leaves on disk is the log of `Capture.LogFile`, closed. -/
theorem runCapture_log {capture : OpenedCapture}
    (opened : openCapture world config = .ok capture) :
    (runCapture world config).1.log = capture.log.map fun file =>
      (csvLoggerClose (logPackets world.addressText config file world.logDisk.rows
        (loggedRecords world config).1).1 world.logDisk.close).1.durable := by
  have log := (loggedSession_opened opened).log_eq
  unfold runCapture loggedRecords
  rw [opened]
  rcases capture with ⟨device, source, initial, file⟩
  dsimp only at log ⊢
  rw [log, Option.map_map]
  cases file <;> rfl

/-- Only a log leaves a packet unlogged, and the run then fails. -/
theorem runCapture_unlogged (unlogged : (unloggedRecord world config).isSome = true) :
    config.loggingEnabled = true ∧ (runCapture world config).1.status = 1 := by
  unfold unloggedRecord loggedRecords at unlogged
  unfold runCapture
  cases opened : openCapture world config with
  | error refused =>
      rw [opened] at unlogged
      contradiction
  | ok capture =>
      have log := (openCapture_opened opened).2
      have stopped := (loggedSession_opened opened).stopped_iff
      rcases capture with ⟨device, source, initial, file⟩
      rw [opened] at unlogged
      obtain ⟨written, found⟩ := Option.isSome_iff_exists.mp unlogged
      obtain ⟨before, -⟩ := List.getElem?_eq_some_iff.mp found
      dsimp only at before stopped log ⊢
      rw [stopped.mpr before, Bool.true_or, if_pos rfl]
      refine ⟨?_, rfl⟩
      by_contra off
      rw [openLog, eq_false_of_ne_true off, Bool.not_false, if_pos rfl] at log
      obtain rfl := Option.some.inj log
      exact absurd before (lt_irrefl _)

/-- A command line that asks for a capture runs one. -/
theorem program_captures
    (parsed : cliParseArgs world.build arguments configInitDefaults = some (.parsed config))
    (capturing : config.versionRequested = false ∧ config.listInterfaces = false) :
    program world arguments = some { (runCapture world config).1 with
      stdout := printStartupSummary world.addressText config ++
        (runCapture world config).1.stdout ++
          if config.statsMode && !config.jsonOutput then statsPrint (runCapture world config).2
          else [] } := by
  have noHelp : argsRequestedHelp arguments = false := by
    rw [argsRequestedHelp, List.any_eq_false]
    intro argument member help
    have same : argument = ascii "--help" := by simpa using help
    exact help_notMem_of_parsed parsed (same ▸ member)
  rw [program, parsed]
  simp only [runParsed, noHelp, capturing.1, capturing.2, Bool.false_eq_true, if_false,
    List.nil_append]

/-- With `--json`, whatever happens, standard output is nothing but JSON lines, one for each packet
that is displayed. -/
theorem program_stdout_json
    (parsed : cliParseArgs world.build arguments configInitDefaults = some (.parsed config))
    (capturing : config.versionRequested = false ∧ config.listInterfaces = false)
    (json : config.jsonOutput = true) :
    ∃ outcome, program world arguments = some outcome ∧
      (readLines outcome.stdout).map readJson = (displayedRecords world config).map
        (fun written => some (writtenJson world.addressText config written)) ∧
      ∀ line ∈ readLines outcome.stdout, ControlFree line := by
  refine ⟨_, program_captures parsed capturing, ?_⟩
  obtain ⟨banner, interrupted, text, silence⟩ := runCapture_stdout world config
  have silent : (config.quiet || config.jsonOutput) = true := by rw [json, Bool.or_true]
  have startup : printStartupSummary world.addressText config = [] := if_pos silent
  have stopped : captureStopped config interrupted = [] := by
    rw [captureStopped, json, Bool.not_true, Bool.and_false]
    rfl
  have summary : (config.statsMode && !config.jsonOutput) = false := by
    rw [json, Bool.not_true, Bool.and_false]
  dsimp only
  rw [startup, text, silence silent, stopped, summary, if_neg Bool.false_ne_true, List.append_nil,
    List.append_nil, List.nil_append, List.nil_append]
  apply readLines_json json
  intro written member
  exact (displayedRecords_forall (fun _ => displayed_silent json) written member).2

def sampleWorld : ProgramWorld where
  build := { withLibidn2 := false, inetPton := ⟨fun _ => none, fun _ => none⟩ }
  programName := ascii "MiniSniffer"
  idna := none
  addressText := dottedDecimal
  devices := some sampleInterfaces
  openSource := fun path =>
    if path = ascii "trace.pcap" then some { datalink := .en10mb, packets := sampleCaptured }
    else none
  installsFilter := fun _ _ => true
  createSavefile := fun _ => true
  createLog := fun _ => true

def sampleJsonRun : MiniSnifferConfig :=
  { readPathEnabled := true, readPath := ascii "trace.pcap", jsonOutput := true }

theorem program_stdout_json_sampleCaptured :
    ∃ outcome, program sampleWorld [ascii "--read", ascii "trace.pcap", ascii "--json"] =
        some outcome ∧
      (readLines outcome.stdout).map readJson = (displayedRecords sampleWorld sampleJsonRun).map
        fun written => some (writtenJson dottedDecimal sampleJsonRun written) := by
  obtain ⟨outcome, run, values, -⟩ := @program_stdout_json sampleWorld sampleJsonRun
    [ascii "--read", ascii "trace.pcap", ascii "--json"] (by decide +kernel) ⟨rfl, rfl⟩ rfl
  exact ⟨outcome, run, values⟩

/-- In readable output the summary counts the report above it: what it says was displayed is the
number of packet lines, and the counter of each protocol the number of packets of that protocol,
whether or not the capture started or ended well; with `--quiet` nothing stands above the report.
Only a packet whose row could not be logged is displayed and not counted; it ends the run, which
fails. -/
theorem program_stdout_report (printed : PrintsAddresses world.addressText)
    (parsed : cliParseArgs world.build arguments configInitDefaults = some (.parsed config))
    (capturing : config.versionRequested = false ∧ config.listInterfaces = false)
    (readable : config.jsonOutput = false) :
    ∃ outcome head body interrupted summary, program world arguments = some outcome ∧
      outcome.stdout = head ++ body ++ captureStopped config interrupted ++ summary ∧
      (config.quiet = true → head = []) ∧
      TextReport body ((displayedRecords world config).map fun written =>
        packetInfoLine world.addressText written.packet) ∧
      displayedRecords world config =
        countedRecords world config ++ (unloggedRecord world config).toList ∧
      ((unloggedRecord world config).isSome = true →
        config.loggingEnabled = true ∧ outcome.status = 1) ∧
      (config.statsMode = false → summary = []) ∧
      (config.statsMode = true →
        printedCounter summary (ascii "Displayed packets") =
            some (((readLines body).countP (fun line => line.head? = some 91) -
              (unloggedRecord world config).toList.length) % 2 ^ 32) ∧
        ∀ protocol, printedCounter summary (protocolCounterLabel protocol) =
          some (((countedRecords world config).countP fun written =>
            written.packet.protocol = protocol) % 2 ^ 32)) := by
  obtain ⟨banner, interrupted, text, silence⟩ := runCapture_stdout world config
  have tallies := runCapture_tallies world config
  have split := displayedRecords_eq world config
  have report : TextReport (((displayedRecords world config).map
      (writeDisplayed world.addressText config)).flatMap PacketOutput.stdout)
        ((displayedRecords world config).map fun written =>
          packetInfoLine world.addressText written.packet) := by
    refine writeDisplayed_report printed readable fun written member => ?_
    obtain ⟨info, macs⟩ := displayedRecords_forall
      (fun _ _ _ _ shown => displayed_printableMacs shown) written member
    rw [info]
    exact macs
  refine ⟨_, printStartupSummary world.addressText config ++ banner, _, interrupted,
    if config.statsMode && !config.jsonOutput then statsPrint (runCapture world config).2 else [],
    program_captures parsed capturing, ?_, ?_, report, split, runCapture_unlogged, ?_, ?_⟩
  · rw [text]
    simp only [List.append_assoc]
  · intro quiet
    have silent : (config.quiet || config.jsonOutput) = true := by rw [quiet, Bool.true_or]
    rw [silence silent, List.append_nil]
    exact if_pos silent
  · intro off
    rw [off]
    rfl
  · intro on
    rw [on, readable, Bool.not_false, Bool.and_true, if_pos rfl]
    refine ⟨?_, fun protocol => ?_⟩
    · have counted : (displayedRecords world config).length -
          (unloggedRecord world config).toList.length = (countedRecords world config).length := by
        rw [split, List.length_append, Nat.add_sub_cancel_right]
      rw [printedCounter_displayed, tallies.packets_eq, List.length_map,
        List.countP_eq_length_filter, report.packetLines_eq, List.length_map, counted,
        UInt32.zero_add, UInt32.toNat_ofNat']
    · have zero : ({} : PacketStats).ofProtocol protocol = 0 := by cases protocol <;> rfl
      rw [printedCounter_protocol, tallies.protocols_eq, zero, UInt32.zero_add,
        UInt32.toNat_ofNat', List.countP_map]
      rfl

/-- The disk under the log is full from the second row on. -/
def sampleFullWorld : ProgramWorld := { sampleWorld with logDisk := { rows := sampleDisk } }

def sampleQuietRun : MiniSnifferConfig :=
  { readPathEnabled := true
    readPath := ascii "trace.pcap"
    quiet := true
    statsMode := true
    loggingEnabled := true
    logPath := ascii "log.csv" }

theorem program_stdout_report_sampleCaptured :
    ∃ outcome, program sampleFullWorld [ascii "--read", ascii "trace.pcap", ascii "--quiet",
        ascii "--stats", ascii "--log", ascii "log.csv"] = some outcome ∧ outcome.status = 1 ∧
      ∃ body interrupted summary,
        outcome.stdout = body ++ captureStopped sampleQuietRun interrupted ++ summary ∧
        printedCounter summary (ascii "Displayed packets") =
          some (((readLines body).countP (fun line => line.head? = some 91) - 1) % 2 ^ 32) := by
  obtain ⟨outcome, head, body, interrupted, summary, run, text, quiet, -, -, failed, -, counts⟩ :=
    @program_stdout_report sampleFullWorld sampleQuietRun
      [ascii "--read", ascii "trace.pcap", ascii "--quiet", ascii "--stats", ascii "--log",
        ascii "log.csv"]
      printsAddresses_dottedDecimal (by decide +kernel) ⟨rfl, rfl⟩ rfl
  have unlogged : (unloggedRecord sampleFullWorld sampleQuietRun).isSome = true := by
    decide +kernel
  have single : (unloggedRecord sampleFullWorld sampleQuietRun).toList.length = 1 := by
    rw [Option.length_toList, if_pos unlogged]
  rw [quiet rfl, List.nil_append] at text
  rw [single] at counts
  exact ⟨outcome, run, (failed unlogged).2, body, interrupted, summary, text, (counts rfl).1⟩

end Displayed

end MiniSniffer
