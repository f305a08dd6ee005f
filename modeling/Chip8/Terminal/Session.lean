import Chip8.Headless
import Chip8.Terminal.Canvas
import Chip8.Terminal.KeyReader

/-!
# Playing a program on a terminal

A session plays a program on a terminal, sixty turns a second. A turn takes at most one command from
the keyboard and obeys it (`obey`), and then runs one frame; it ends the session if the command was
to quit, or if something failed (`turn`). Keys arrive between turns, and a turn looks at the
keyboard at the time it starts.

`Session.play` is a whole session, given what is typed before each turn: it prepares the terminal,
loads the program, takes turns until the session ends, and leaves the terminal as it was found.
-/

namespace Chip8.Terminal

open CommandLine (Arguments OptionSpec)

/-! ### Options -/

/-- What the command line asks for. -/
structure Options where
  /-- Instructions per second. -/
  clock : UInt32
  /-- Whether the timers tick once per instruction. -/
  coupledTimers : Bool
  /-- Whether the bell stays silent. -/
  mute : Bool
  /-- The colour of pixels that are on. -/
  colour : Colour
  /-- Whether the state of the machine is reported before every instruction. -/
  debug : Bool
  /-- The path of the program. -/
  path : String
deriving DecidableEq, Repr

namespace Options

/-- The options there are. -/
def specs : List OptionSpec :=
  [⟨"clock", some 'c', .value⟩, ⟨"coupled-timers", none, .flag⟩, ⟨"mute", some 'm', .flag⟩,
    ⟨"color", none, .value⟩, ⟨"debug", some 'd', .flag⟩]

/-- Reads a command line: 400 instructions per second and white pixels unless it asks for something
else, and the path of the program, which it must name. -/
def ofList? (arguments : List String) : Option Options := do
  let a ← Arguments.ofList? specs arguments
  let clock ← a.number? "clock" UInt32.size 400
  let path ← a.soleOperand?
  return {
    clock := UInt32.ofNat clock
    coupledTimers := a.has "coupled-timers"
    mute := a.has "mute"
    colour := Colour.ofName ((a.value? "color").getD "white")
    debug := a.has "debug"
    path := path }

/-- The settings of the runner. -/
def config (o : Options) : Config :=
  { clockSpeed := o.clock
    timerMode := if o.coupledTimers then .coupled else .decoupled
    mute := o.mute
    debug := o.debug }

/-- The title of the screen: the name of the file that the path leads to, which is the last
component of the path apart from empty ones and `.`, if there is one and it is not `..`. -/
def title (o : Options) : String :=
  match ((o.path.splitOn "/").filter fun c => c != "" && c != ".").getLast? with
  | none => ""
  | some ".." => ""
  | some name => name

end Options

/-! ### Turns -/

/-- How a session ends. -/
inductive Ending where
  /-- By the command to quit. -/
  | quit
  /-- By an error. -/
  | failed (error : Error)
deriving DecidableEq

/-- A session in progress. -/
structure Session where
  /-- The program at work. -/
  runner : Runner Keyboard Canvas
  /-- What has been typed of an unfinished sequence. -/
  reader : KeyReader

/-- Obeys a command, if there is one. A step is only taken while paused; quitting is left to the
turn. -/
def obey (r : Runner Keyboard Canvas) (command? : Option Command) :
    Except (Halt Keyboard Canvas) (Runner Keyboard Canvas) :=
  match command? with
  | some .togglePause => .ok r.togglePause
  | some .step => if r.paused then r.singleStep else .ok r
  | some .reset => r.reset
  | some .quit | none => .ok r

/-- Takes the oldest command from the keyboard. -/
def nextCommand (r : Runner Keyboard Canvas) : Option Command × Runner Keyboard Canvas :=
  let (command?, buffer) := r.keys.buffer.pop
  (command?, { r with keys := { r.keys with buffer } })

/-- Obeys a command and runs a frame. -/
def obeyAndRun (r : Runner Keyboard Canvas) (command? : Option Command) :
    Except (Halt Keyboard Canvas) (Runner Keyboard Canvas) :=
  match obey r command? with
  | .ok r => r.frame
  | .error halt => .error halt

/-- One turn: the runner afterwards, and how the session ends if it does. -/
def turn (r : Runner Keyboard Canvas) : Runner Keyboard Canvas × Option Ending :=
  match nextCommand r with
  | (some .quit, r) => (r, some .quit)
  | (command?, r) =>
    match obeyAndRun r command? with
    | .ok r => (r, none)
    | .error halt => (halt.runner, some (.failed halt.error))

/-! ### Sessions -/

/-- The time at which a turn starts, in milliseconds. -/
def turnTime (n : Nat) : Nat :=
  n * 1000 / 60

namespace Session

/-- Waits until the turn of number `n`. -/
def wait (s : Session) (n : Nat) : Session :=
  { s with runner := { s.runner with keys := { s.runner.keys with time := turnTime n } } }

/-- Takes in what is typed at once. -/
def type (s : Session) (typed : String) : Session :=
  let (reader, codes) := s.reader.read typed.toList
  { s with reader, runner := { s.runner with keys := s.runner.keys.receive codes } }

/-- Takes at most `limit` turns, beginning with that of number `n`, given what is typed before each:
the runner at the end, and how the session ended if it did. -/
def takeTurns (typed : Nat → List String) (s : Session) (n : Nat) :
    Nat → Runner Keyboard Canvas × Option Ending
  | 0 => (s.runner, none)
  | limit + 1 =>
    let s := (typed n).foldl type (s.wait n)
    match turn s.runner with
    | (r, some ending) => (r, some ending)
    | (r, none) => takeTurns typed { s with runner := r } (n + 1) limit

/-- The error that a session ended with. -/
def errorOf : Option Ending → Option Error
  | some (.failed e) => some e
  | some .quit | none => none

/-- Everything that a session writes to the terminal, given the runner at its end. -/
def transcript (o : Options) (r : Runner Keyboard Canvas) : String :=
  Action.codes (opening o.title o.colour ++ r.output.actions.toList ++ closing)

/-- The runner of a session before its program is loaded. -/
def start (o : Options) (machine : Machine) : Runner Keyboard Canvas :=
  .new machine (.untouched holdTimeout) (.blank o.mute) o.config none

/-- Plays the program that the options name, read with some result, on a machine, for at most
`limit` turns, given what is typed before each. -/
def play (o : Options) (machine : Machine) (contents : Except ReadError (List UInt8))
    (typed : Nat → List String) (limit : Nat) : ProgramResult :=
  match (start o machine).loadFile o.path contents with
  | .error halt => ⟨transcript o halt.runner, [], some halt.error⟩
  | .ok r =>
    let (r, ending?) := takeTurns typed ⟨r, .idle⟩ 0 limit
    ⟨transcript o r, [], errorOf ending?⟩

/-- Plays a command line, unless it is refused, given what reading each path gives. -/
def main? (arguments : List String) (read : String → Except ReadError (List UInt8))
    (machine : Machine) (typed : Nat → List String) (limit : Nat) : Option ProgramResult :=
  (Options.ofList? arguments).map fun o => play o machine (read o.path) typed limit

end Session

end Chip8.Terminal
