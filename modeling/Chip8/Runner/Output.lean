import Chip8.Display

/-!
# Where frames and sound go

An output device shows frames and starts and stops the beep. `NoOutput` ignores both, and a
`History` remembers every call, so that what was shown last, how often, and whether the beep is on
can be read off it.

What is done to a device is data as well: it can `receive` a call, or in `replay` all the calls that
a history remembers.
-/

namespace Chip8

/-- A device that frames and sound are sent to. -/
class OutputDevice (ω : Type) where
  /-- Show a frame. -/
  present : ω → Display → ω
  /-- Start or stop the beep. -/
  sound : ω → Bool → ω

/-- The device that shows nothing and makes no sound. -/
structure NoOutput where
deriving DecidableEq, Repr

instance : OutputDevice NoOutput where
  present output _ := output
  sound output _ := output

/-- A call made on an output device. -/
inductive OutputEvent where
  /-- A frame was shown. -/
  | present (frame : Display)
  /-- The beep was started or stopped. -/
  | sound (on : Bool)
deriving DecidableEq

namespace OutputEvent

/-- The frame that a call shows, if it shows one. -/
def frame? : OutputEvent → Option Display
  | present frame => some frame
  | sound _ => none

/-- The state that a call puts the beep in, if it does. -/
def sound? : OutputEvent → Option Bool
  | present _ => none
  | sound on => some on

end OutputEvent

namespace OutputDevice

variable {ω : Type} [OutputDevice ω]

/-- Makes a call on a device. -/
def receive (output : ω) : OutputEvent → ω
  | .present frame => present output frame
  | .sound on => sound output on

/-- Makes calls on a device one after the other. -/
def receiveAll (output : ω) (events : List OutputEvent) : ω :=
  events.foldl receive output

theorem receiveAll_append (output : ω) (events later : List OutputEvent) :
    receiveAll output (events ++ later) = receiveAll (receiveAll output events) later :=
  List.foldl_append

end OutputDevice

/-- The device that remembers the calls made on it. -/
structure History where
  /-- The calls, oldest first. -/
  events : Array OutputEvent

namespace History

/-- No call made yet. -/
def empty : History := ⟨#[]⟩

instance : OutputDevice History where
  present history frame := ⟨history.events.push (.present frame)⟩
  sound history on := ⟨history.events.push (.sound on)⟩

/-- A history remembers the calls made on it after those that it remembers already. -/
theorem toList_events_receiveAll (h : History) (events : List OutputEvent) :
    (OutputDevice.receiveAll h events).events.toList = h.events.toList ++ events := by
  induction events generalizing h with
  | nil => exact (List.append_nil _).symm
  | cons event rest ih =>
    have hone : (OutputDevice.receive h event).events.toList = h.events.toList ++ [event] := by
      cases event with
      | present frame => exact Array.toList_push
      | sound on => exact Array.toList_push
    exact (ih _).trans (by rw [hone, List.append_assoc, List.singleton_append])

/-- The frames shown, oldest first. -/
def frames (h : History) : List Display :=
  h.events.toList.filterMap OutputEvent.frame?

/-- The frame shown last. -/
def lastFrame? (h : History) : Option Display :=
  h.frames.getLast?

/-- The states that the beep was put in, oldest first. -/
def sounds (h : History) : List Bool :=
  h.events.toList.filterMap OutputEvent.sound?

/-- Whether the beep is on. -/
def soundOn (h : History) : Bool :=
  h.sounds.getLast?.getD false

/-- A device after all the calls that a history remembers. -/
def replay {ω : Type} [OutputDevice ω] (h : History) (output : ω) : ω :=
  OutputDevice.receiveAll output h.events.toList

theorem frames_receiveAll (h : History) (events : List OutputEvent) :
    (OutputDevice.receiveAll h events).frames
      = h.frames ++ events.filterMap OutputEvent.frame? := by
  rw [frames, toList_events_receiveAll, List.filterMap_append, frames]

theorem sounds_receiveAll (h : History) (events : List OutputEvent) :
    (OutputDevice.receiveAll h events).sounds
      = h.sounds ++ events.filterMap OutputEvent.sound? := by
  rw [sounds, toList_events_receiveAll, List.filterMap_append, sounds]

theorem replay_receiveAll {ω : Type} [OutputDevice ω] (h : History) (events : List OutputEvent)
    (output : ω) :
    (OutputDevice.receiveAll h events).replay output
      = OutputDevice.receiveAll (h.replay output) events := by
  rw [replay, toList_events_receiveAll, OutputDevice.receiveAll_append, replay]

end History

end Chip8
