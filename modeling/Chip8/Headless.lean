import Chip8.CommandLine
import Chip8.Runner.Basic

/-!
# Running a program without a screen

`Headless.run` runs a program for a number of frames without keys, screen or sound, and prints the
display and a snapshot of the machine at the end, also if the program failed. What is reported on
the way goes to the log, one line per record. `Headless.main?` does this for a command line. Reading
files is left to the caller: what is passed on is the result of reading, whatever it is.
-/

namespace Chip8

/-- What a program leaves behind when it ends. -/
structure ProgramResult where
  /-- What it wrote to its output. -/
  output : String
  /-- What it wrote to its log, line by line. -/
  log : List String
  /-- The error that it ended with, if it did. -/
  error? : Option Error

namespace ProgramResult

/-- The exit code: 1 after an error and else 0. -/
def exitCode (r : ProgramResult) : Nat :=
  if r.error?.isSome then 1 else 0

/-- The line that reports the error. -/
def errorLine? (r : ProgramResult) : Option String :=
  r.error?.map fun e => "Error: " ++ e.describe

end ProgramResult

namespace Headless

open CommandLine (Arguments OptionSpec)

/-! ### Options -/

/-- What the command line asks for. -/
structure Options where
  /-- The number of frames to run. -/
  frames : Nat
  /-- Instructions per second. -/
  clock : UInt32
  /-- Whether the timers tick once per instruction. -/
  coupledTimers : Bool
  /-- Whether the state of the machine is reported before every instruction. -/
  debug : Bool
  /-- How much is reported, from 0. -/
  verbosity : Nat
  /-- The path of the program. -/
  path : String
deriving DecidableEq, Repr

namespace Options

/-- The options there are. -/
def specs : List OptionSpec :=
  [⟨"frames", some 'f', .value⟩, ⟨"clock", some 'c', .value⟩, ⟨"coupled-timers", none, .flag⟩,
    ⟨"debug", some 'd', .flag⟩, ⟨"verbose", some 'v', .counter⟩]

/-- Reads a command line: 600 frames at 400 instructions per second unless it asks for something
else, and the path of the program, which it must name. Verbosity is counted in a byte. -/
def ofList? (arguments : List String) : Option Options := do
  let a ← Arguments.ofList? specs arguments
  let frames ← a.number? "frames" UInt64.size 600
  let clock ← a.number? "clock" UInt32.size 400
  let path ← a.soleOperand?
  return {
    frames := frames
    clock := UInt32.ofNat clock
    coupledTimers := a.has "coupled-timers"
    debug := a.has "debug"
    verbosity := a.count "verbose" % 256
    path := path }

/-- The least severe records that are reported. -/
def threshold (o : Options) : Severity :=
  match o.verbosity with
  | 0 => .warn
  | 1 => .info
  | 2 => .debug
  | _ => .trace

/-- The settings of the runner. -/
def config (o : Options) : Config :=
  { clockSpeed := o.clock
    timerMode := if o.coupledTimers then .coupled else .decoupled
    mute := true
    debug := o.debug }

end Options

/-! ### Log lines -/

/-- A text filled up with spaces on the right to some width. -/
def padded (width : Nat) (text : String) : String :=
  String.ofList (text.toList.rightpad width ' ')

/-- The line of a record, its origin filled up to some width. -/
def logLine (width : Nat) (record : LogRecord) : String :=
  " " ++ padded 5 record.severity.name ++ " " ++ padded width record.origin ++ " > " ++ record.text

/-- The lines of records in order. The origins are filled up to the longest one seen so far, of
which `width` is the length. -/
def logLines (width : Nat) : List LogRecord → List String
  | [] => []
  | record :: rest =>
    let width := max width record.origin.length
    logLine width record :: logLines width rest

/-! ### Running -/

/-- The display and the snapshot of a machine, as they are printed at the end. -/
def report (m : Machine) : String :=
  m.display.text ++ m.snapshot.text ++ "\n"

/-- Runs a loaded program for a number of frames: the runner afterwards and the error, if there was
one, which is also reported. -/
def finish (r : Runner NoKeys NoOutput) (frames : Nat) : Runner NoKeys NoOutput × Option Error :=
  match r.run frames with
  | .ok r => (r, none)
  | .error halt => (halt.runner.note (.halted halt.error), some halt.error)

/-- Runs the program that the options name, read with some result, on a machine. A program that
cannot be loaded prints nothing. -/
def run (o : Options) (machine : Machine) (contents : Except ReadError (List UInt8)) :
    ProgramResult :=
  match (Runner.new machine NoKeys.mk NoOutput.mk o.config (some o.threshold)).loadFile o.path
      contents with
  | .error halt => ⟨"", logLines 0 halt.runner.journal.records.toList, some halt.error⟩
  | .ok r =>
    let (r, error?) := finish r o.frames
    ⟨report r.machine, logLines 0 r.journal.records.toList, error?⟩

/-- Runs a command line, unless it is refused, given what reading each path gives. -/
def main? (arguments : List String) (read : String → Except ReadError (List UInt8))
    (machine : Machine) : Option ProgramResult :=
  (Options.ofList? arguments).map fun o => run o machine (read o.path)

end Headless

end Chip8
