import MiniSniffer.Capture.LogFile
import MiniSniffer.Capture.Tallies

/-!
Contract: a capture whose log may fail (the loop of `capture_start` in `src/capture.c`, with the
answers of `csv_logger_write_packet`).

Owns the loop as it goes on while rows are written, the pass that an error of the log ends (its
packet is printed, but neither dumped nor counted), and that up to then it is the loop of
`Capture.Session`.

Does not own the file itself: see `Capture.LogFile`.
-/

namespace MiniSniffer

open Foundation

/-- A capture with its log, the number of rows that were written to it, and whether an error of it
has ended the capture. -/
structure LoggedCapture where
  capture : CaptureState
  log : Option (BufferedFile UInt8) := none
  rows : Nat := 0
  stopped : Bool := false
deriving DecidableEq, Repr

section Session

variable (idna : IdnaLookup) (addressText : IpText → List UInt8) (config : MiniSnifferConfig)
variable (datalink : Datalink) (disk : Nat → RecordAnswer UInt8)

/-- One pass of the loop, with the log. -/
def loggedPass (state : LoggedCapture) (header : RecordedPacket) :
    LoggedCapture × Option PacketOutput :=
  if state.stopped then (state, none)
  else
    let pass := (captureSession idna addressText config datalink).step state.capture header
    match state.log, pass.2 with
    | some file, some output =>
        match file.writeRecord (flushesRows config.logFlushMode) output.logRow
            (disk state.rows) with
        | (file, true) =>
            ({ capture := pass.1, log := some file, rows := state.rows + 1 }, some output)
        | (file, false) =>
            -- `capture_start` returns in front of `pcap_dump` and `stats_update`
            let counted :=
              effectiveAt config.toAppConfig datalink state.capture header.toCapturedPacket
            ({ state with
                capture := { pass.1 with stats := counted.1.2 }
                log := some file
                stopped := true },
              some output)
    | _, output => ({ state with capture := pass.1 }, output)

def loggedSession : Machine LoggedCapture RecordedPacket (Option PacketOutput) where
  step := loggedPass idna addressText config datalink disk

/-- What the log makes of the packets that a capture without one displays: the file, and how many of
them were logged without an error. -/
def logDisplayed (log : Option (BufferedFile UInt8)) (disk : Nat → RecordAnswer UInt8)
    (written : List NumberedPacket) : Option (BufferedFile UInt8) × Nat :=
  match log with
  | none => (none, written.length)
  | some file =>
      let rows := logPackets addressText config file disk written
      (some rows.1, rows.2)

end Session

/-! ### Sessions with and without a log -/

section Runs

variable {idna : IdnaLookup} {addressText : IpText → List UInt8} {config : MiniSnifferConfig}
variable {datalink : Datalink} {disk : Nat → RecordAnswer UInt8} {state : LoggedCapture}

section Log

variable {file next : BufferedFile UInt8} {first : NumberedPacket}

theorem logDisplayed_refused
    (answer : file.writeRecord (flushesRows config.logFlushMode)
      (writeDisplayed addressText config first).logRow (disk 0) = (next, false))
    (written : List NumberedPacket) :
    logDisplayed addressText config (some file) disk (first :: written) = (some next, 0) := by
  rw [logDisplayed, logPackets, List.mapIdx_cons, BufferedFile.writeRecords, answer]

theorem logDisplayed_accepted
    (answer : file.writeRecord (flushesRows config.logFlushMode)
      (writeDisplayed addressText config first).logRow (disk 0) = (next, true))
    (written : List NumberedPacket) :
    let later := logDisplayed addressText config (some next) (fun row => disk (row + 1)) written
    logDisplayed addressText config (some file) disk (first :: written) =
      (later.1, later.2 + 1) := by
  intro later
  rw [logDisplayed, logPackets, List.mapIdx_cons, BufferedFile.writeRecords, answer]
  rfl

end Log

/-- Nothing follows an error of the log. -/
theorem loggedSession_stopped (stopped : state.stopped = true) (packets : List RecordedPacket) :
    (loggedSession idna addressText config datalink disk).run state packets = state ∧
      ((loggedSession idna addressText config datalink disk).outputs state
        packets).reduceOption = [] := by
  have pass (header : RecordedPacket) :
      (loggedSession idna addressText config datalink disk).step state header = (state, none) := by
    simp only [loggedSession, loggedPass, stopped, if_true]
  induction packets with
  | nil => exact ⟨rfl, rfl⟩
  | cons header packets inductionHypothesis =>
      rw [Machine.run_cons, Machine.outputs_cons, Machine.next, Machine.output, pass,
        List.reduceOption_cons_of_none]
      exact inductionHypothesis

/-- A capture that would write `written`, of which the log takes `logged`: it displays one packet
more than is logged, unless all are, and counts what is logged. -/
structure LogsFirst (addressText : IpText → List UInt8) (config : MiniSnifferConfig)
    (before after : LoggedCapture) (outputs : List PacketOutput) (written : List NumberedPacket)
    (logged : Option (BufferedFile UInt8) × Nat) : Prop where
  outputs_eq : outputs = (written.take (logged.2 + 1)).map (writeDisplayed addressText config)
  log_eq : after.log = logged.1
  stopped_iff : after.stopped = true ↔ logged.2 < written.length
  tallies : Tallies before.capture.stats after.capture.stats
    ((written.take logged.2).map fun packet => (packet.header, packet.packet.toPacketInfo))

section Logged

variable {before between after : LoggedCapture} {outputs : List PacketOutput}
variable {first : NumberedPacket} {written : List NumberedPacket}
variable {logged : Option (BufferedFile UInt8) × Nat}

/-- A pass that displays nothing. -/
theorem LogsFirst.behind_hidden (rest : LogsFirst addressText config between after outputs written
      logged)
    (counted : Tallies before.capture.stats between.capture.stats []) :
    LogsFirst addressText config before after outputs written logged :=
  { rest with tallies := counted.append rest.tallies }

/-- A pass whose packet is logged. -/
theorem LogsFirst.behind_logged (rest : LogsFirst addressText config between after outputs written
      logged)
    (counted : Tallies before.capture.stats between.capture.stats
      [(first.header, first.packet.toPacketInfo)]) :
    LogsFirst addressText config before after (writeDisplayed addressText config first :: outputs)
      (first :: written) (logged.1, logged.2 + 1) where
  outputs_eq := by rw [rest.outputs_eq, List.take_succ_cons, List.map_cons]
  log_eq := rest.log_eq
  stopped_iff := by rw [rest.stopped_iff, List.length_cons, Nat.succ_lt_succ_iff]
  tallies := counted.append rest.tallies

end Logged

section Pass

variable {header : RecordedPacket} {pass : CaptureState × Option DisplayedPacket}
variable {displayed : DisplayedPacket} {file next : BufferedFile UInt8}

theorem loggedPass_hidden (running : state.stopped = false)
    (passed : capturePass idna config.toAppConfig datalink state.capture header.toCapturedPacket =
      pass) (hidden : pass.2 = none) :
    loggedPass idna addressText config datalink disk state header =
      ({ state with capture := pass.1 }, none) := by
  simp only [loggedPass, running, Bool.false_eq_true, if_false, captureSession, passed, hidden,
    Option.map_none]
  cases state.log <;> rfl

theorem loggedPass_unlogged (running : state.stopped = false)
    (passed : capturePass idna config.toAppConfig datalink state.capture header.toCapturedPacket =
      pass) (shown : pass.2 = some displayed) (unlogged : state.log = none) :
    loggedPass idna addressText config datalink disk state header =
      ({ state with capture := pass.1 }, some (writeDisplayed addressText config
        (numberPacket pass.1.capturedPackets header displayed))) := by
  simp only [loggedPass, running, Bool.false_eq_true, if_false, captureSession, passed, shown,
    unlogged, Option.map_some]

theorem loggedPass_logged (running : state.stopped = false)
    (passed : capturePass idna config.toAppConfig datalink state.capture header.toCapturedPacket =
      pass) (shown : pass.2 = some displayed) (log : state.log = some file)
    (answer : file.writeRecord (flushesRows config.logFlushMode) (writeDisplayed addressText config
      (numberPacket pass.1.capturedPackets header displayed)).logRow (disk state.rows) =
        (next, true)) :
    loggedPass idna addressText config datalink disk state header =
      ({ capture := pass.1, log := some next, rows := state.rows + 1 },
        some (writeDisplayed addressText config
          (numberPacket pass.1.capturedPackets header displayed))) := by
  simp only [loggedPass, running, Bool.false_eq_true, if_false, captureSession, passed, shown,
    log, Option.map_some, answer]

/-- The packet whose row cannot be written is printed, and not counted. -/
theorem loggedPass_refused (running : state.stopped = false)
    (passed : capturePass idna config.toAppConfig datalink state.capture header.toCapturedPacket =
      pass) (shown : pass.2 = some displayed) (log : state.log = some file)
    (answer : file.writeRecord (flushesRows config.logFlushMode) (writeDisplayed addressText config
      (numberPacket pass.1.capturedPackets header displayed)).logRow (disk state.rows) =
        (next, false)) :
    ∃ stopped, loggedPass idna addressText config datalink disk state header =
        (stopped, some (writeDisplayed addressText config
          (numberPacket pass.1.capturedPackets header displayed))) ∧
      stopped.stopped = true ∧ stopped.log = some next ∧
      Tallies state.capture.stats stopped.capture.stats [] := by
  refine ⟨{ state with
      capture := { pass.1 with stats := (effectiveAt config.toAppConfig datalink state.capture
        header.toCapturedPacket).1.2 }
      log := some next
      stopped := true }, ?_, rfl, rfl, Tallies.of_same (effectiveAt_displayedCounters
        config.toAppConfig datalink state.capture header.toCapturedPacket)⟩
  simp only [loggedPass, running, Bool.false_eq_true, if_false, captureSession, passed, shown, log,
    Option.map_some, answer]

end Pass

/-- Until the log fails, a capture with a log is the one without; it ends with the first packet that
cannot be logged. -/
theorem loggedSession_spec (running : state.stopped = false) (headed : state.capture.Headed)
    (packets : List RecordedPacket) :
    let machine := loggedSession idna addressText config datalink disk
    let written := numberedPackets idna config.toAppConfig datalink state.capture packets
    LogsFirst addressText config state (machine.run state packets)
      (machine.outputs state packets).reduceOption written
      (logDisplayed addressText config state.log (fun row => disk (state.rows + row)) written) := by
  intro machine written
  induction packets generalizing state with
  | nil =>
      have same : written = [] := rfl
      rw [same]
      cases log : state.log with
      | none =>
          refine ⟨rfl, log, ?_, Tallies.of_same rfl⟩
          simp [machine, running, logDisplayed]
      | some file =>
          refine ⟨rfl, log, ?_, Tallies.of_same rfl⟩
          simp [machine, running, logDisplayed, logPackets]
  | cons header packets inductionHypothesis =>
      obtain ⟨counted, headedNext⟩ :=
        capturePass_tallies headed idna config.toAppConfig datalink header
      have cons :=
        numberedPackets_cons idna config.toAppConfig datalink state.capture header packets
      have step : machine.step state header =
        loggedPass idna addressText config datalink disk state header := rfl
      rcases passed : capturePass idna config.toAppConfig datalink state.capture
        header.toCapturedPacket with ⟨capture, shown⟩
      simp only [passed] at counted headedNext cons
      rw [show written = _ from cons, Machine.run_cons, Machine.outputs_cons, Machine.next,
        Machine.output, step]
      cases shown with
      | none =>
          rw [loggedPass_hidden running passed rfl, List.reduceOption_cons_of_none]
          exact (@inductionHypothesis { state with capture := capture } running
            headedNext).behind_hidden counted
      | some displayed =>
          set first := numberPacket capture.capturedPackets header displayed with firstOf
          rw [Option.map_some, Option.toList_some, List.singleton_append]
          replace counted : Tallies state.capture.stats capture.stats
            [(first.header, first.packet.toPacketInfo)] := counted
          rcases log : state.log with _ | file
          · have rest := @inductionHypothesis { state with capture := capture } running headedNext
            rw [loggedPass_unlogged running passed rfl log, List.reduceOption_cons_of_some]
            simp only [log] at rest ⊢
            exact rest.behind_logged counted
          · rcases answer : file.writeRecord (flushesRows config.logFlushMode)
              (writeDisplayed addressText config first).logRow (disk state.rows)
              with ⟨next, _ | _⟩
            · obtain ⟨stopped, refused, ends, kept, uncounted⟩ :=
                loggedPass_refused running passed rfl log answer
              obtain ⟨final, silent⟩ :=
                @loggedSession_stopped idna addressText config datalink disk stopped ends packets
              rw [refused, List.reduceOption_cons_of_some, final, silent,
                logDisplayed_refused answer]
              exact ⟨rfl, kept, by simp [ends], uncounted⟩
            · have rest := @inductionHypothesis
                { capture := capture, log := some next, rows := state.rows + 1 } rfl headedNext
              have later (row : Nat) : state.rows + 1 + row = state.rows + (row + 1) := by omega
              rw [loggedPass_logged running passed rfl log answer, List.reduceOption_cons_of_some,
                logDisplayed_accepted answer]
              simp only [later] at rest
              exact rest.behind_logged counted

end Runs

end MiniSniffer
