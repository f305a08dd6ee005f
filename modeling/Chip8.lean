import Chip8.Instruction.Form
import Chip8.Machine.InPlace
import Chip8.Main
import Chip8.Runner.Operation
import Chip8.Snapshot.Reader
import Chip8.Terminal.Grid
import Chip8.Proofs.Instruction.Decoding
import Chip8.Proofs.Instruction.RoundTrip
import Chip8.Proofs.CallStack
import Chip8.Proofs.Memory
import Chip8.Proofs.Registers
import Chip8.Proofs.Display
import Chip8.Proofs.Machine.Footprint
import Chip8.Proofs.Machine.Atomicity
import Chip8.Proofs.Machine.OpenCalls
import Chip8.Proofs.Machine.Lockstep
import Chip8.Proofs.Machine.AddressWidth
import Chip8.Proofs.Machine.Observers
import Chip8.Proofs.Machine.KeyWait
import Chip8.Proofs.Machine.Timers
import Chip8.Proofs.Machine.Stepping
import Chip8.Proofs.Machine.Safety
import Chip8.Proofs.Machine.Drawing
import Chip8.Proofs.Machine.RegisterBlock
import Chip8.Proofs.Machine.Arithmetic
import Chip8.Proofs.Machine.Effects
import Chip8.Proofs.Machine.Randomness
import Chip8.Proofs.Runner.Screen
import Chip8.Proofs.Allowance
import Chip8.Proofs.Runner.Pacing
import Chip8.Proofs.Runner.Leftover
import Chip8.Proofs.Terminal.Repaint
import Chip8.Proofs.Runner.FreshStart
import Chip8.Proofs.Runner.Sound
import Chip8.Proofs.Runner.Presenting
import Chip8.Proofs.Runner.Settings
import Chip8.Proofs.Runner.Loading
import Chip8.Proofs.Runner.Pausing
import Chip8.Proofs.Terminal.Turns
import Chip8.Proofs.Terminal.Listening
import Chip8.Proofs.Headless
import Chip8.Proofs.Memory.LastWrite
import Chip8.Proofs.Runner.Polling
import Chip8.Proofs.Runner.Reporting
import Chip8.Proofs.Text.Numeral
import Chip8.Proofs.Snapshot
import Chip8.Proofs.Printout
