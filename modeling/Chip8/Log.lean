import Chip8.Fault
import Chip8.Instruction.Basic
import Chip8.Snapshot

/-!
# Log records

What the library reports while it works, as data: a `LogRecord` says what happened, and its
severity, its place of origin and its text follow from that. A `Journal` keeps, in order, the
records that are severe enough for its threshold.
-/

namespace Chip8

/-- How severe a record is. -/
inductive Severity where
  | error
  | warn
  | info
  | debug
  | trace
deriving DecidableEq, Repr

namespace Severity

/-- The place of a severity in the order from the most severe. -/
def rank : Severity → Nat
  | error => 1
  | warn => 2
  | info => 3
  | debug => 4
  | trace => 5

/-- The name of a severity. -/
def name : Severity → String
  | error => "ERROR"
  | warn => "WARN"
  | info => "INFO"
  | debug => "DEBUG"
  | trace => "TRACE"

end Severity

/-- Something worth reporting. -/
inductive LogRecord where
  /-- A program run without a screen came to an end because of an error. -/
  | halted (error : Error)
  /-- A program called machine code, which does nothing here. -/
  | machineCodeIgnored (address : UInt16)
  /-- The machine was reset. -/
  | resetting
  /-- A program of some size was placed in memory. -/
  | loaded (size : Nat)
  /-- A file was read into the machine. -/
  | fileRead (path : String)
  /-- A file is about to be run. -/
  | executing (path : String)
  /-- The runner was paused. -/
  | paused
  /-- The runner was resumed. -/
  | resumed
  /-- The state of the machine before an instruction. -/
  | state (snapshot : Snapshot)
  /-- An instruction was fetched from an address. -/
  | fetched (pc : UInt16) (instruction : Instruction)
deriving DecidableEq

namespace LogRecord

/-- The severity of a record. -/
def severity : LogRecord → Severity
  | halted _ => .error
  | machineCodeIgnored _ => .warn
  | resetting | loaded _ | fileRead _ | executing _ | paused | resumed => .info
  | state _ => .debug
  | fetched .. => .trace

/-- The text of a record. -/
def text : LogRecord → String
  | halted e => "Halted: " ++ e.message
  | machineCodeIgnored a => "Ignoring call to machine code routine at " ++ Text.hex 3 a.toNat
  | resetting => "Resetting"
  | loaded n => "Loaded " ++ Text.decimal n ++ " byte program"
  | fileRead path => "Read " ++ Text.quoted path
  | executing path => "Executing " ++ Text.quoted path
  | paused => "Paused"
  | resumed => "Resumed"
  | state s => s.text
  | fetched pc i => Text.hex 3 pc.toNat ++ ": " ++ i.describe

/-- The name under which a record is printed, that of the part of the program it comes from. -/
def origin : LogRecord → String
  | halted _ => "no_frontend"
  | machineCodeIgnored _ | resetting | loaded _ | fileRead _ | fetched .. =>
    "chip8_vm::emulator::emulator"
  | executing _ | paused | resumed | state _ => "chip8_vm::emulator::runner"

end LogRecord

/-- The records that have been kept, in order. -/
structure Journal where
  /-- The least severe records that are kept; none are if there is no threshold. -/
  threshold : Option Severity
  /-- The records, oldest first. -/
  records : Array LogRecord

namespace Journal

/-- A journal that has no records yet. -/
def empty (threshold : Option Severity) : Journal :=
  ⟨threshold, #[]⟩

/-- Whether a record is severe enough to be kept. -/
def keeps (j : Journal) (record : LogRecord) : Bool :=
  j.threshold.any fun t => record.severity.rank ≤ t.rank

/-- Keeps a record if it is severe enough. -/
def note (j : Journal) (record : LogRecord) : Journal :=
  if j.keeps record then { j with records := j.records.push record } else j

/-- Keeps those of several records that are severe enough. -/
def noteAll (j : Journal) (records : List LogRecord) : Journal :=
  records.foldl note j

end Journal

end Chip8
