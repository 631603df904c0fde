import MiniSniffer.Capture.CaptureRecords
import MiniSniffer.Foundation.BufferedFile

/-!
Contract: the log on disk (`csv_logger_open`, `csv_logger_write_packet` and `csv_logger_close` in
`src/csv_logger.c`, as `capture_start` calls them).

Owns when rows are flushed, what an error of the file does to the log, and which records of a
capture are on disk at any time of it.

Does not own the rows: see `Output.CsvLogger`. The file is created empty, and what the buffer and
the disk do is a parameter.
-/

namespace MiniSniffer

open Foundation

/-! ### The file -/

/-- The header is written and flushed; a file in which it cannot be is removed. -/
def csvLoggerOpenFile (logger : CsvLogger) (disk : RecordAnswer UInt8) :
    Option (BufferedFile UInt8) :=
  match ({} : BufferedFile UInt8).writeRecord true (writeHeader logger) disk with
  | (_, false) => none
  | (file, true) => some file

/-- Rows are flushed one by one, unless only at exit. -/
def flushesRows (mode : LogFlushMode) : Bool := mode ≠ .exit

/-- Every displayed packet is logged; the first error ends the capture. The number of packets that
were logged without one is returned. -/
def logPackets (addressText : IpText → List UInt8) (config : MiniSnifferConfig)
    (file : BufferedFile UInt8) (disk : Nat → RecordAnswer UInt8) (numbered : List NumberedPacket) :
    BufferedFile UInt8 × Nat :=
  file.writeRecords (flushesRows config.logFlushMode)
    (numbered.mapIdx fun index written =>
      ((writeDisplayed addressText config written).logRow, disk index))

/-- Closing flushes; the answer is the status of the capture. -/
def csvLoggerClose (file : BufferedFile UInt8) (error : Option (List UInt8)) :
    BufferedFile UInt8 × Nat :=
  let closed := file.flush error
  (closed, if closed.failed then 1 else 0)

/-! ### Records on disk -/

section Records

variable {addressText : IpText → List UInt8} {config : MiniSnifferConfig}
variable {file : BufferedFile UInt8} {disk : Nat → RecordAnswer UInt8}

theorem csvLoggerOpenFile_holds {logger : CsvLogger} {first : RecordAnswer UInt8}
    (opened : csvLoggerOpenFile logger first = some file) (flushes : Bool) :
    file.Holds flushes (writeHeader logger) := by
  have empty : ({} : BufferedFile UInt8).Holds true [] :=
    { sound := rfl, text_eq := rfl, flushed := fun _ => rfl }
  have written := empty.writeRecord (writeHeader logger) first
  unfold csvLoggerOpenFile at opened
  split at opened
  · contradiction
  next next accepted =>
    obtain rfl := Option.some.inj opened
    rw [accepted] at written
    exact { written with flushed := fun _ => written.flushed rfl }

/-- The records of a capture survive: at any time of it, and whatever the buffer and the disk do,
the log on disk starts with the header and the rows of all packets that were logged without an
error, if rows are flushed. Without an error there is nothing else in it; without flushes it is a
part of that, and closing completes it. -/
theorem log_survives (printed : PrintsAddresses addressText) {first : RecordAnswer UInt8}
    (opened : csvLoggerOpenFile (captureLogger config) first = some file) (idna : IdnaLookup)
    (datalink : Datalink) (initial : CaptureState) (packets : List RecordedPacket) :
    let written := numberedPackets idna config.toAppConfig datalink initial packets
    let log := logPackets addressText config file disk written
    let rows := (written.map (writeDisplayed addressText config)).flatMap PacketOutput.logRow
    ∃ names,
      (config.logFlushMode ≠ .exit → some names :: (written.take log.2).map (fun packet =>
        some (writtenCells addressText config packet)) <+: readLog log.1.durable) ∧
      (log.2 = written.length →
        log.1.durable <+: writeHeader (captureLogger config) ++ rows ∧
        (config.logFlushMode ≠ .exit → readLog log.1.durable = some names ::
          written.map fun packet => some (writtenCells addressText config packet)) ∧
        readLog (csvLoggerClose log.1 none).1.durable = some names ::
          written.map fun packet => some (writtenCells addressText config packet)) := by
  intro written log rows
  obtain ⟨names, read, -⟩ := readLog_written printed config
  have holds := csvLoggerOpenFile_holds opened (flushesRows config.logFlushMode)
  have entries : (written.mapIdx fun index packet =>
      ((writeDisplayed addressText config packet).logRow, disk index)).map Prod.fst =
        (written.map (writeDisplayed addressText config)).map PacketOutput.logRow := by
    apply List.ext_getElem?
    intro index
    rw [List.getElem?_map, List.getElem?_mapIdx, List.getElem?_map, List.getElem?_map]
    cases written[index]? <;> rfl
  obtain ⟨-, all, before, -⟩ := BufferedFile.writeRecords_spec holds (written.mapIdx
    fun index packet => ((writeDisplayed addressText config packet).logRow, disk index))
  rw [entries, List.length_mapIdx] at all
  rw [entries, ← List.map_take, ← List.map_take] at before
  have flushing : config.logFlushMode ≠ .exit → flushesRows config.logFlushMode = true :=
    fun other => decide_eq_true other
  have whole : readLog (writeHeader (captureLogger config) ++ rows) = some names ::
      written.map fun packet => some (writtenCells addressText config packet) := by
    have all := read written []
    rw [List.append_nil] at all
    exact all.trans (List.append_nil _)
  refine ⟨names, fun other => ?_, fun complete => ?_⟩
  · obtain ⟨more, durable⟩ := before (flushing other)
    have front := read (written.take log.2) more
    rw [List.flatMap_def] at front
    exact ⟨readLog more, front.symm.trans (congrArg readLog durable)⟩
  · have last := all complete
    rw [← List.flatMap_def] at last
    refine ⟨last.toCarries.durable_prefix, fun other => ?_, ?_⟩
    · have durable := last.toCarries.durable_eq (last.flushed (flushing other))
      rw [show log.1.durable = _ from durable]
      exact whole
    · have closed : (csvLoggerClose log.1 none).1.durable = _ :=
        last.toCarries.flush.durable_eq rfl
      rw [closed]
      exact whole

/-- A disk that is full from the second row on. -/
def sampleDisk (index : Nat) : RecordAnswer UInt8 :=
  if index = 0 then { write := .spills 3 } else { write := .fails [34] }

theorem log_survives_sampleCaptured :
    ∃ file names, csvLoggerOpenFile (captureLogger sampleRecordsConfig) { write := .spills 0 } =
        some file ∧
      some names :: ((numberedPackets none sampleRecordsConfig.toAppConfig .en10mb
          sampleStreamState sampleCaptured).take (logPackets dottedDecimal sampleRecordsConfig file
            sampleDisk (numberedPackets none sampleRecordsConfig.toAppConfig .en10mb
              sampleStreamState sampleCaptured)).2).map
                (fun packet => some (writtenCells dottedDecimal sampleRecordsConfig packet)) <+:
        readLog (logPackets dottedDecimal sampleRecordsConfig file sampleDisk (numberedPackets none
          sampleRecordsConfig.toAppConfig .en10mb sampleStreamState
            sampleCaptured)).1.durable := by
  have opened : csvLoggerOpenFile (captureLogger sampleRecordsConfig) { write := .spills 0 } =
      some { durable := writeHeader (captureLogger sampleRecordsConfig) } := rfl
  obtain ⟨names, intact, -⟩ := @log_survives dottedDecimal sampleRecordsConfig _ sampleDisk
    printsAddresses_dottedDecimal _ opened none .en10mb sampleStreamState sampleCaptured
  exact ⟨_, names, opened, intact (by decide)⟩

end Records

end MiniSniffer
