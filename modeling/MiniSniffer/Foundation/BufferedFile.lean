import Mathlib.Data.List.Infix

/-!
Contract: files that are written through a buffer, on a disk that may fail.

Owns the file with what has reached it and what is still buffered, writing and flushing under every
behaviour of the buffer and the disk, records that are written until one is refused, and which of
them are in the file at any time.

Does not own what is written.
-/

namespace MiniSniffer.Foundation

variable {Byte : Type}

structure BufferedFile (Byte : Type) where
  durable : List Byte := []
  buffered : List Byte := []
  failed : Bool := false
deriving DecidableEq, Repr

/-- What comes of a write: some of the pending bytes reach the file, or an error leaves anything
behind what is there. -/
inductive DiskAnswer (Byte : Type) where
  | spills (count : Nat)
  | fails (torn : List Byte)
deriving DecidableEq, Repr

/-- How the disk behaves while one record is written. -/
structure RecordAnswer (Byte : Type) where
  write : DiskAnswer Byte
  flush : Option (List Byte) := none
deriving DecidableEq, Repr

namespace BufferedFile

def write (file : BufferedFile Byte) (bytes : List Byte) (answer : DiskAnswer Byte) :
    BufferedFile Byte :=
  match answer with
  | .spills count =>
      { file with
        durable := file.durable ++ (file.buffered ++ bytes).take count
        buffered := (file.buffered ++ bytes).drop count }
  | .fails torn => { durable := file.durable ++ torn, failed := true }

/-- Everything reaches the file, unless there is an error. -/
def flush (file : BufferedFile Byte) (error : Option (List Byte)) : BufferedFile Byte :=
  match error with
  | none => { file with durable := file.durable ++ file.buffered, buffered := [] }
  | some torn => { durable := file.durable ++ torn, failed := true }

/-- The text was written without an error. -/
structure Carries (file : BufferedFile Byte) (text : List Byte) : Prop where
  sound : file.failed = false
  text_eq : file.durable ++ file.buffered = text

section Writing

variable {file : BufferedFile Byte} {text : List Byte}

theorem Carries.durable_prefix (carries : file.Carries text) : file.durable <+: text :=
  ⟨file.buffered, carries.text_eq⟩

theorem Carries.durable_eq (carries : file.Carries text) (empty : file.buffered = []) :
    file.durable = text := by
  rw [← carries.text_eq, empty, List.append_nil]

theorem Carries.write (carries : file.Carries text) (bytes : List Byte) (count : Nat) :
    (file.write bytes (.spills count)).Carries (text ++ bytes) where
  sound := carries.sound
  text_eq := by
    show (file.durable ++ (file.buffered ++ bytes).take count) ++
      (file.buffered ++ bytes).drop count = text ++ bytes
    rw [List.append_assoc, List.take_append_drop, ← List.append_assoc, carries.text_eq]

theorem Carries.flush (carries : file.Carries text) : (file.flush none).Carries text where
  sound := carries.sound
  text_eq := by
    show (file.durable ++ file.buffered) ++ [] = text
    rw [List.append_nil, carries.text_eq]

end Writing

/-! ### Records -/

/-- Writes a record, and flushes it if `flushes`; the answer tells whether there was no error. -/
def writeRecord (flushes : Bool) (file : BufferedFile Byte) (record : List Byte)
    (disk : RecordAnswer Byte) : BufferedFile Byte × Bool :=
  let written := file.write record disk.write
  if written.failed then (written, false)
  else if flushes then
    let flushed := written.flush disk.flush
    (flushed, !flushed.failed)
  else (written, true)

/-- Writes records up to the first error; the number of those before it is returned. -/
def writeRecords (flushes : Bool) (file : BufferedFile Byte) :
    List (List Byte × RecordAnswer Byte) → BufferedFile Byte × Nat
  | [] => (file, 0)
  | (record, disk) :: rest =>
      match file.writeRecord flushes record disk with
      | (next, false) => (next, 0)
      | (next, true) =>
          let later := next.writeRecords flushes rest
          (later.1, later.2 + 1)

section Records

variable {flushes : Bool} {file : BufferedFile Byte} {text record : List Byte}
variable {records : List (List Byte × RecordAnswer Byte)}

/-- A file between records. -/
structure Holds (flushes : Bool) (file : BufferedFile Byte) (text : List Byte) : Prop
    extends file.Carries text where
  flushed : flushes = true → file.buffered = []

/-- A record is written behind the others, or the file keeps what had reached it. -/
theorem Holds.writeRecord (holds : Holds flushes file text) (record : List Byte)
    (disk : RecordAnswer Byte) :
    let next := file.writeRecord flushes record disk
    if next.2 then Holds flushes next.1 (text ++ record)
    else ∃ kept torn, next.1.durable = kept ++ torn ∧ kept <+: text ++ record ∧
      file.durable <+: kept := by
  intro next
  have longer : file.durable <+: text ++ record :=
    holds.toCarries.durable_prefix.trans (List.prefix_append _ _)
  unfold next BufferedFile.writeRecord
  dsimp only
  cases write : disk.write with
  | fails torn => exact ⟨file.durable, torn, rfl, longer, List.prefix_refl _⟩
  | spills count =>
      have written := holds.toCarries.write record count
      simp only [written.sound, Bool.false_eq_true, if_false]
      cases flushes with
      | false => exact ⟨written, fun on => absurd on Bool.false_ne_true⟩
      | true =>
          cases flush : disk.flush with
          | none =>
              have flushed := written.flush
              simp only [if_true, flushed.sound, Bool.not_false]
              exact ⟨flushed, fun _ => rfl⟩
          | some torn =>
              exact ⟨_, torn, rfl, written.durable_prefix, List.prefix_append _ _⟩

/-- Whatever the disk does: without an error the file holds all records, and with one those before
it, up to what was still buffered. -/
theorem writeRecords_spec (holds : Holds flushes file text)
    (records : List (List Byte × RecordAnswer Byte)) :
    let run := file.writeRecords flushes records
    let whole := text ++ (records.map Prod.fst).flatten
    run.2 ≤ records.length ∧
      (run.2 = records.length → Holds flushes run.1 whole) ∧
      (flushes = true →
        text ++ ((records.map Prod.fst).take run.2).flatten <+: run.1.durable) ∧
      ∃ kept torn, run.1.durable = kept ++ torn ∧ kept <+: whole := by
  induction records generalizing file text with
  | nil =>
      simp only [writeRecords, List.map_nil, List.flatten_nil, List.append_nil, List.take_nil]
      refine ⟨le_rfl, fun _ => holds, fun on => ?_, ?_⟩
      · rw [holds.toCarries.durable_eq (holds.flushed on)]
      · exact ⟨file.durable, [], (List.append_nil _).symm, holds.toCarries.durable_prefix⟩
  | cons entry records inductionHypothesis =>
      obtain ⟨record, disk⟩ := entry
      have step := holds.writeRecord record disk
      rw [writeRecords]
      rcases written : file.writeRecord flushes record disk with ⟨next, _ | _⟩
      · rw [written] at step
        obtain ⟨kept, torn, durable, within, behind⟩ := step
        dsimp only at durable ⊢
        refine ⟨Nat.zero_le _, fun none => by contradiction, fun on => ?_, kept, torn, durable, ?_⟩
        · rw [List.take_zero, List.flatten_nil, List.append_nil, durable,
            ← holds.toCarries.durable_eq (holds.flushed on)]
          exact behind.trans (List.prefix_append _ _)
        · refine within.trans ?_
          rw [List.map_cons, List.flatten_cons, ← List.append_assoc]
          exact List.prefix_append _ _
      · rw [written] at step
        obtain ⟨fewer, all, before, kept, torn, durable, within⟩ := inductionHypothesis step
        simp only [List.map_cons, List.flatten_cons, List.length_cons, List.take_succ_cons,
          ← List.append_assoc] at within all before ⊢
        refine ⟨Nat.succ_le_succ fewer, fun same => all (Nat.succ.inj same), before, kept, torn,
          durable, within⟩

end Records

end BufferedFile

end MiniSniffer.Foundation
