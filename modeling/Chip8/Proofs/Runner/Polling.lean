import Chip8.Proofs.Runner.Playing
import Chip8.Proofs.Terminal.Listening

/-!
# Reading the keys

Reading the keys overwrites the keypad, whatever device they are read from: a key that was down
before is up afterwards unless the device holds it (`KeySource.Overwrites`). It comes to the same as
changing the keypad in place: letting go of one key after the other (`NoKeys.poll_eq_clear`), then
pressing those of a script (`KeyScript.poll_eq_pollInPlace`), or setting every key as a terminal's
keyboard has it (`Keyboard.poll_eq_setEach`).

A frame reads the keys once and so does a single step, whether or not it fails and whether or not
the runner is paused, and nothing else that is done to a runner reads them (`keys_perform`). So a
script is played one list of keys per frame or single step, however these are mixed with other
operations (`frames_performAll`).
-/

namespace Chip8

/-- Reading the keys from a device overwrites the keypad: neither the keys that are down then nor
the device depend on the keys that were down before. -/
def KeySource.Overwrites (κ : Type) [KeySource κ] : Prop :=
  ∀ (source : κ) (keypad keypad' : Keypad), poll source keypad = poll source keypad'

/-- Whether an operation reads the keys, once. A run reads them once for each of its frames. -/
def RunnerOperation.polls : RunnerOperation → Bool
  | frame | singleStep => true
  | _ => false

namespace Keypad

/-- Pressing keys one after the other leaves those down that are pressed or were down before. -/
theorem isPressed_foldl_press (k : Keypad) (keys : List UInt8) (key : UInt8) :
    (keys.foldl press k).isPressed key = true ↔
      (key.toNat < 16 ∧ key ∈ keys) ∨ k.isPressed key = true := by
  induction keys generalizing k with
  | nil => simp
  | cons first rest ih =>
    rw [List.foldl_cons, ih, press, isPressed_set, List.mem_cons]
    by_cases hfirst : first = key ∧ first.toNat < 16
    · obtain ⟨rfl, hlt⟩ := hfirst
      simp [hlt]
    · -- a key that is not there is not pressed
      have hnot : ¬(key.toNat < 16 ∧ key = first) := fun h => hfirst ⟨h.2.symm, h.2 ▸ h.1⟩
      rw [if_neg hfirst, and_or_left, or_iff_right hnot]

/-- Lets go of every key, one after the other. -/
def clear (k : Keypad) : Keypad :=
  all.foldl release k

theorem clear_eq_released (k : Keypad) : k.clear = released := by
  have hset : k.clear = k.setEach released all := by
    rw [clear, setEach]
    refine List.foldl_ext _ _ _ fun k key _ => ?_
    rw [release, isPressed_released]
  rw [hset, setEach_all]

theorem isPressed_ofKeys {keys : List UInt8} {key : UInt8} :
    (ofKeys keys).isPressed key = true ↔ key.toNat < 16 ∧ key ∈ keys := by
  rw [ofKeys, isPressed_foldl_press, isPressed_released]
  exact or_iff_left Bool.false_ne_true

end Keypad

theorem NoKeys.poll_eq_clear (source : NoKeys) (keypad : Keypad) :
    KeySource.poll source keypad = (keypad.clear, source) := by
  rw [keypad.clear_eq_released]
  rfl

/-- Lets go of every key and then presses those of the first list one after the other, if there is
one, which is taken off the script. -/
def KeyScript.pollInPlace (s : KeyScript) (keypad : Keypad) : Keypad × KeyScript :=
  match s.frames with
  | [] => (keypad.clear, s)
  | keys :: rest => (keys.foldl Keypad.press keypad.clear, ⟨rest⟩)

theorem KeyScript.poll_eq_pollInPlace (s : KeyScript) (keypad : Keypad) :
    KeySource.poll s keypad = s.pollInPlace keypad := by
  obtain ⟨frames⟩ := s
  cases frames with
  | nil =>
    rw [pollInPlace, keypad.clear_eq_released]
    rfl
  | cons keys rest =>
    rw [pollInPlace, keypad.clear_eq_released]
    rfl

namespace Runner

variable {κ ω : Type}

/-! ### The device -/

theorem keys_load (r : Runner κ ω) (program : List UInt8) :
    (Halt.settle (r.load program)).1.keys = r.keys := by
  rw [load]
  cases r.machine.load program with
  | ok machine => rfl
  | error e => rfl

section

variable [KeySource κ] [OutputDevice ω]

/-- Only frames and single steps, and the frames of a run, read the keys. -/
theorem keys_perform (r : Runner κ ω) {op : RunnerOperation} (hop : op.isRun = false) :
    (Halt.settle (r.perform op)).1.keys
      = if op.polls then (KeySource.poll r.keys r.machine.keypad).2 else r.keys := by
  cases op with
  | load program => exact keys_load r program
  | loadFile path contents =>
    cases contents with
    | ok program => exact keys_load (r.note (.executing path)) program
    | error reason => rfl
  | frame => exact (sameKeys_frame r).keys
  | run frames => cases hop
  | singleStep => exact (sameKeys_singleStep r).keys
  | togglePause => rfl
  | reset =>
    rw [perform, reset_eq]
    refine Eq.trans ?_ (keys_load r.cleared r.program)
    cases r.cleared.load r.program with
    | ok s => rfl
    | error halt => rfl
  | edit operation =>
    rw [perform, edit]
    cases (r.machine.perform operation).error? with
    | none => rfl
    | some error => rfl

/-- A frame or a single step reads the keys first, and no key moves after that. -/
theorem keypad_perform (r : Runner κ ω) {op : RunnerOperation} (hop : op.polls = true) :
    (Halt.settle (r.perform op)).1.machine.keypad = r.pollKeys.machine.keypad := by
  cases op with
  | frame => exact (sameKeys_frame r).keypad
  | singleStep => exact (sameKeys_singleStep r).keypad
  | _ => cases hop

end

/-! ### Scripts -/

section

variable {r : Runner KeyScript ω}

/-- The keys that are read are those of the first list that has not been played yet, if there is
one. -/
theorem isPressed_pollKeys_iff_mem {key : UInt8} :
    r.pollKeys.machine.keypad.isPressed key = true ↔
      key.toNat < 16 ∧ ∃ keys, r.keys.frames[0]? = some keys ∧ key ∈ keys := by
  have hkeypad : r.pollKeys.machine.keypad = .ofKeys (r.keys.frames.headD []) := rfl
  rw [hkeypad, Keypad.isPressed_ofKeys]
  cases r.keys.frames with
  | nil => simp
  | cons keys rest => simp

variable [OutputDevice ω] {op : RunnerOperation} {ops : List RunnerOperation}

theorem frames_perform (hop : op.isRun = false) :
    (Halt.settle (r.perform op)).1.keys.frames
      = if op.polls then r.keys.frames.tail else r.keys.frames := by
  rw [keys_perform r hop]
  split
  · rfl
  · rfl

/-- A script is played one list of keys per frame or single step. -/
theorem frames_performAll (hops : ∀ op ∈ ops, op.isRun = false) :
    (r.performAll ops).keys.frames = r.keys.frames.drop (ops.countP RunnerOperation.polls) := by
  induction ops generalizing r with
  | nil => rfl
  | cons op rest ih =>
    rw [List.forall_mem_cons] at hops
    have hrest := ih (r := (Halt.settle (r.perform op)).1) hops.2
    rw [frames_perform hops.1] at hrest
    refine hrest.trans ?_
    cases hpolls : op.polls with
    | true => rw [if_pos rfl, List.drop_tail, List.countP_cons_of_pos hpolls]
    | false =>
      rw [if_neg Bool.false_ne_true,
        List.countP_cons_of_neg fun h => Bool.false_ne_true (hpolls.symm.trans h)]

/-- Reading the keys overwrites the keypad, whether there are no keys, a script or a terminal's
keyboard: in place every key is let go of, and then those of a script are pressed, or every key is
set in turn as the keyboard has it. The frame or single step that follows `n` others plays
the list of number `n` of a script, counted from 0: while it executes and after it, whether or not
it fails, exactly those keys are down that there are and that are in this list, and none if the
script has no such list. It takes this list off the script, which no other operation does, so that
the script is finished once there were as many frames and single steps as it has lists. -/
theorem script_is_played_poll_by_poll (r : Runner KeyScript ω) {ops : List RunnerOperation}
    (hops : ∀ op ∈ ops, op.isRun = false) :
    (KeySource.Overwrites NoKeys ∧ KeySource.Overwrites KeyScript ∧
      KeySource.Overwrites Terminal.Keyboard ∧
      (∀ (source : NoKeys) (keypad : Keypad),
        KeySource.poll source keypad = (keypad.clear, source)) ∧
      (∀ (script : KeyScript) (keypad : Keypad),
        KeySource.poll script keypad = script.pollInPlace keypad) ∧
      ∀ (k : Terminal.Keyboard) (keypad : Keypad),
        (KeySource.poll k keypad).1 = keypad.setEach (k.buffer.held k.time) Keypad.all) ∧
    let s := r.performAll ops
    let n := ops.countP RunnerOperation.polls
    s.keys.frames = r.keys.frames.drop n ∧
      (s.keys.finished = true ↔ r.keys.frames.length ≤ n) ∧
      ∀ op : RunnerOperation, op.isRun = false →
        let s' := (Halt.settle (s.perform op)).1
        (op.polls = true →
          s'.keys.frames = s.keys.frames.tail ∧
          s'.machine.keypad = s.pollKeys.machine.keypad ∧
          ∀ key, s'.machine.keypad.isPressed key = true ↔
            key.toNat < 16 ∧ ∃ keys, r.keys.frames[n]? = some keys ∧ key ∈ keys) ∧
        (op.polls = false → s'.keys = s.keys) := by
  refine ⟨⟨fun _ _ _ => rfl, fun _ _ _ => rfl, fun _ _ _ => rfl, NoKeys.poll_eq_clear,
    KeyScript.poll_eq_pollInPlace, Terminal.Keyboard.poll_eq_setEach⟩, ?_⟩
  intro s n
  have hframes : s.keys.frames = r.keys.frames.drop n := frames_performAll hops
  refine ⟨hframes, ?_, fun op hop => ⟨fun hpolls => ⟨?_, keypad_perform s hpolls, fun key => ?_⟩,
    fun hpolls => ?_⟩⟩
  · rw [KeyScript.finished, hframes, List.isEmpty_iff, List.drop_eq_nil_iff]
  · rw [frames_perform hop, if_pos hpolls]
  · rw [keypad_perform s hpolls, isPressed_pollKeys_iff_mem, hframes, List.getElem?_drop,
      Nat.add_zero]
  · rw [keys_perform s hop, hpolls]
    exact if_neg Bool.false_ne_true

end

/-- The first frame is stopped and plays `A` and a key that there is not. A reset does not start the
script over, so the next frame plays its second list, although it is paused, and lets go of a key
that was pressed by hand. -/
theorem script_is_played_poll_by_poll_of_stopped_frame :
    let r : Runner KeyScript NoOutput :=
      new (Machine.initial (.ofSeed 0)) ⟨[[0xA, 0x10, 0xA], [0x2, 0xFF]]⟩ ⟨⟩ {} none
    let s := r.performAll
      [.load [0x00, 0xEE], .frame, .reset, .togglePause, .edit (.press 0x7)]
    s.keys.frames = [[0x2, 0xFF]] ∧ s.keys.finished = false ∧
      s.machine.keypad.isPressed 0x7 = true ∧
      ∀ key, (Halt.settle (s.perform .frame)).1.machine.keypad.isPressed key = true ↔
        key = 0x2 := by
  intro r s
  have hops : ∀ op ∈ [RunnerOperation.load [0x00, 0xEE], .frame, .reset, .togglePause,
      .edit (.press 0x7)], op.isRun = false := by
    decide
  obtain ⟨-, hframes, hfinished, hop⟩ := script_is_played_poll_by_poll r hops
  obtain ⟨-, -, hkeys⟩ := (hop .frame rfl).1 rfl
  refine ⟨hframes, Bool.eq_false_iff.2 fun h => ?_, ?_, fun key => (hkeys key).trans ?_⟩
  · exact absurd (hfinished.1 h) (by decide)
  · unfold s r
    decide +kernel
  · constructor
    · rintro ⟨hlt, keys, hlist, hmem⟩
      obtain rfl : [0x2, 0xFF] = keys := Option.some.inj hlist
      rcases List.mem_pair.1 hmem with rfl | rfl
      · rfl
      · exact absurd hlt (by decide)
    · rintro rfl
      exact ⟨by decide, [0x2, 0xFF], rfl, List.mem_cons_self⟩

end Runner

end Chip8
