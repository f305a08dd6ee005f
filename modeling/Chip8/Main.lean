import Chip8.Terminal.Session

/-!
# The command line

`chip8 run [OPTIONS] FILE` runs a program without a screen and prints the display and the registers
at the end; `chip8 play [OPTIONS] FILE` plays it on the terminal, which has to be in raw mode for
keys to arrive one by one. What both do is decided by `Headless.run` and by the turns of a
`Terminal.Session`; here files are read, time passes, and what is to be printed is printed.
-/

namespace Chip8.Main

/-- Whether the code of an error is that of the operating system's error of some number. Some codes
are counted downwards from zero. -/
def isError (number code : UInt32) : Bool :=
  code == number || code == 0 - number

/-- The reason that the operating system gives for not reading a file. -/
def readErrorOf : IO.Error → ReadError
  | .noFileOrDirectory .. => .notFound
  | .inappropriateType _ code _ => if isError 20 code then .notADirectory else .isADirectory
  | .invalidArgument name code details =>
    if isError 36 code then .nameTooLong
    else .other (IO.Error.invalidArgument name code details).toString
  | e => .other e.toString

/-- Reads a file. -/
def readFile (path : String) : IO (Except ReadError (List UInt8)) := do
  try
    return .ok (← IO.FS.readBinFile path).toList
  catch e =>
    return .error (readErrorOf e)

/-- A machine whose random bytes nobody has chosen. -/
def freshMachine : IO Machine := do
  let seed ← IO.getRandomBytes 8
  return .ofSeed (seed.toList.foldl (fun n b => 256 * n + b.toUInt64) 0)

/-- Reports an error and gives the exit code. -/
def conclude (error? : Option Error) : IO UInt32 := do
  let result : ProgramResult := ⟨"", [], error?⟩
  for line in result.errorLine? do
    IO.eprintln line
  return UInt32.ofNat result.exitCode

/-- Runs a program without a screen. -/
def runHeadless (o : Headless.Options) : IO UInt32 := do
  let result := Headless.run o (← freshMachine) (← readFile o.path)
  for line in result.log do
    IO.eprintln line
  IO.print result.output
  conclude result.error?

/-! ### Playing -/

/-- Tells the terminal to do something. -/
def perform (actions : List Terminal.Action) : IO Unit := do
  let output ← IO.getStdout
  output.putStr (Terminal.Action.codes actions)
  output.flush

/-- Collects what is typed until it ends. -/
partial def listen (typed : IO.Ref ByteArray) : IO Unit := do
  let arrived ← (← IO.getStdin).read 64
  unless arrived.isEmpty || (← IO.checkCanceled) do
    typed.modify (· ++ arrived)
    listen typed

/-- Takes turns until the session ends, sixty of them a second. -/
partial def takeTurns (typed : IO.Ref ByteArray) (s : Terminal.Session) (n start : Nat) :
    IO (Option Terminal.Ending) := do
  let arrived ← typed.modifyGet fun bytes => (bytes, ByteArray.empty)
  let waited := s.wait n
  let s := if arrived.isEmpty then waited else waited.type ((String.fromUTF8? arrived).getD "")
  let (r, ending?) := Terminal.turn s.runner
  perform r.output.actions.toList
  if ending?.isSome then
    return ending?
  else
    let now ← IO.monoMsNow
    IO.sleep (UInt32.ofNat (start + Terminal.turnTime (n + 1) - now))
    takeTurns typed { s with runner := { r with output := { r.output with actions := #[] } } }
      (n + 1) start

/-- Plays a program on the terminal. -/
def playOnTerminal (o : Terminal.Options) : IO UInt32 := do
  perform (Terminal.opening o.title o.colour)
  let error? ←
    match (Terminal.Session.start o (← freshMachine)).loadFile o.path (← readFile o.path) with
    | .error halt => pure (some halt.error)
    | .ok r => do
      let typed ← IO.mkRef ByteArray.empty
      let listener ← IO.asTask (listen typed) .dedicated
      let ending? ← takeTurns typed ⟨r, .idle⟩ 0 (← IO.monoMsNow)
      IO.cancel listener
      pure (Terminal.Session.errorOf ending?)
  perform Terminal.closing
  conclude error?

/-- Refuses a command line. -/
def refuse : IO UInt32 := do
  IO.eprintln "usage: chip8 run|play [OPTIONS] FILE"
  return 1

end Chip8.Main

/-- Runs or plays a program. -/
def main (arguments : List String) : IO UInt32 :=
  match arguments with
  | "run" :: rest =>
    (Chip8.Headless.Options.ofList? rest).elim Chip8.Main.refuse Chip8.Main.runHeadless
  | "play" :: rest =>
    (Chip8.Terminal.Options.ofList? rest).elim Chip8.Main.refuse Chip8.Main.playOnTerminal
  | _ => Chip8.Main.refuse
