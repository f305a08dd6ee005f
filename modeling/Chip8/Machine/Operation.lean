import Chip8.Machine.Execute

/-!
# Histories of a machine

Everything that can be done to a machine from outside, as data. `Machine.perform` does one of these
things: it gives the machine afterwards, what was reported, and the error if there was one; a
history of a machine is a list of operations performed one after the other, whether they succeed or
not.
-/

namespace Chip8

/-- Something that can be done to a machine. -/
inductive Operation where
  /-- Tick the timers and execute the instruction at the program counter. -/
  | step
  /-- Execute the instruction at the program counter. -/
  | cycle
  /-- Execute a given instruction. -/
  | execute (instruction : Instruction)
  /-- Execute given instructions, stopping at the first fault. -/
  | executeAll (instructions : List Instruction)
  /-- Tick the timers. -/
  | tick
  /-- Reset the machine. -/
  | reset
  /-- Load a program. -/
  | load (program : List UInt8)
  /-- Load a file that was read with some result. -/
  | loadFile (path : String) (contents : Except ReadError (List UInt8))
  /-- Move a key down. -/
  | press (key : UInt8)
  /-- Move a key up. -/
  | release (key : UInt8)
  /-- Move every key up. -/
  | releaseAll
  /-- Take note that the display has been shown. -/
  | markDrawn
  /-- Replace a byte of memory. -/
  | poke (address : UInt16) (b : UInt8)
  /-- Replace all of memory by zeros. -/
  | wipe
  /-- Replace the value of a register. -/
  | setRegister (x b : UInt8)
  /-- Replace the address register. -/
  | setIndex (address : UInt16)
  /-- Replace the program counter. -/
  | setCounter (address : UInt16)
  /-- Replace the stack depth. -/
  | setDepth (depth : UInt8)
  /-- Replace the delay timer. -/
  | setDelay (t : UInt8)
  /-- Replace the sound timer. -/
  | setSound (t : UInt8)

/-- What an operation leaves behind. -/
structure Outcome where
  /-- The machine afterwards. -/
  machine : Machine
  /-- What was reported, in order. -/
  log : List LogRecord
  /-- What went wrong, if anything did. -/
  error? : Option Error

namespace Outcome

/-- The outcome of an operation that cannot fail and has nothing to report. -/
def quiet (m : Machine) : Outcome :=
  ⟨m, [], none⟩

/-- The outcome of an attempt to execute something: a fault leaves the machine as it was. -/
def ofAttempt (m : Machine) (log : List LogRecord) (result : Except Fault Machine) : Outcome :=
  match result with
  | .ok m' => ⟨m', log, none⟩
  | .error f => ⟨m, log, some (.fault f)⟩

/-- The outcome of an attempt to load something: an error leaves the machine as it was and reports
nothing. -/
def ofLoad (m : Machine) (log : List LogRecord) (result : Except LoadError Machine) : Outcome :=
  match result with
  | .ok m' => ⟨m', log, none⟩
  | .error e => ⟨m, [], some (.load e)⟩

end Outcome

namespace Machine

/-- Executes instructions one after the other, stopping at the first fault. Those before it have
taken effect. -/
def executeAll (m : Machine) : List Instruction → Outcome
  | [] => .quiet m
  | i :: rest =>
    match m.execute i with
    | .ok m' =>
      let outcome := m'.executeAll rest
      { outcome with log := warnings i ++ outcome.log }
    | .error f => ⟨m, [], some (.fault f)⟩

/-- Loads a file that was read with some result. That it was read is reported whether or not it then
fits, and its size only if it does. -/
def loadFile (m : Machine) (path : String) (contents : Except ReadError (List UInt8)) :
    Outcome :=
  match contents with
  | .error reason => ⟨m, [], some (.load (.unreadable path reason))⟩
  | .ok program =>
    let outcome := Outcome.ofLoad m [.loaded program.length] (m.load program)
    { outcome with log := .fileRead path :: outcome.log }

/-- Performs an operation. -/
def perform (m : Machine) : Operation → Outcome
  | .step => .ofAttempt m m.trace m.step
  | .cycle => .ofAttempt m m.trace m.cycle
  | .execute i => .ofAttempt m (warnings i) (m.execute i)
  | .executeAll is => m.executeAll is
  | .tick => .quiet m.tick
  | .reset => ⟨m.reset, [.resetting], none⟩
  | .load program => .ofLoad m [.loaded program.length] (m.load program)
  | .loadFile path contents => m.loadFile path contents
  | .press key => .quiet { m with keypad := m.keypad.press key }
  | .release key => .quiet { m with keypad := m.keypad.release key }
  | .releaseAll => .quiet { m with keypad := .released }
  | .markDrawn => .quiet m.markDrawn
  | .poke a b => .quiet { m with memory := m.memory.write a b }
  | .wipe => .quiet { m with memory := .zeros }
  | .setRegister x b => .quiet (m.put x b)
  | .setIndex a => .quiet { m with i := a }
  | .setCounter a => .quiet { m with pc := a }
  | .setDepth n => .quiet { m with calls := { m.calls with depth := n } }
  | .setDelay t => .quiet { m with timers := { m.timers with delay := t } }
  | .setSound t => .quiet { m with timers := { m.timers with sound := t } }

/-- Performs operations one after the other, whether they succeed or not. -/
def performAll (m : Machine) (operations : List Operation) : Machine :=
  operations.foldl (fun m op => (m.perform op).machine) m

end Machine

end Chip8
