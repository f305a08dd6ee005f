import Chip8.Proofs.Runner.FreshStart
import Chip8.Proofs.Runner.Playing

/-!
# Pausing

A frame leaves no news for the output device and the keypad as it has been read
(`upToDate_of_frame`). With no keys to be pressed, a paused frame finds nothing to do then, and
leaves the runner exactly as it was (`frame_eq_self`).

So frames and pauses come to the same as the frames alone that are not made while paused: those are
what `RunnerOperation.withoutPauses` leaves, and a runner that is given no others goes on as a twin
of the one that is paused and resumed (`twins_performAll`). This is `pausing_is_transparent`.
-/

namespace Chip8

/-- Operations without the pauses and without the frames made in them, `paused` saying whether there
is one to begin with. -/
def RunnerOperation.withoutPauses (paused : Bool) : List RunnerOperation → List RunnerOperation
  | [] => []
  | .togglePause :: rest => withoutPauses (!paused) rest
  | .frame :: rest =>
    if paused then withoutPauses paused rest else .frame :: withoutPauses paused rest
  | op :: rest => op :: withoutPauses paused rest

namespace Runner

variable {κ ω : Type} {r r' t : Runner κ ω}

/-! ### Twins -/

/-- Two runners that agree in everything but what has been reported. -/
structure Twins (r r' : Runner κ ω) : Prop where
  alike : Alike r r'
  mute : r.config.mute = r'.config.mute
  soundOn : r.soundOn = r'.soundOn
  output : r.output = r'.output

theorem Twins.news (h : Twins r r') : r.news = r'.news := by
  rw [Runner.news, Runner.news, wantsSound, wantsSound, h.mute, h.soundOn, h.alike.machine]

theorem lockstep_twins [OutputDevice ω] : Lockstep (Twins : Runner κ ω → Runner κ ω → Prop) where
  alike h := h.alike
  silent h hs hs' halike :=
    { alike := halike
      mute := by rw [hs.config, hs'.config, h.mute]
      soundOn := by rw [hs.soundOn, hs'.soundOn, h.soundOn]
      output := by rw [hs.output, hs'.output, h.output] }
  updateOutput {r r'} h :=
    { alike := h.alike.updateOutput
      mute := by rw [config_updateOutput, config_updateOutput, h.mute]
      soundOn := by
        rw [soundOn_updateOutput, soundOn_updateOutput, wantsSound, wantsSound, h.mute,
          h.alike.machine]
      output := by rw [output_updateOutput, output_updateOutput, h.output, h.news] }

/-! ### Frames without keys -/

section

variable {r r' t : Runner NoKeys ω}

/-- No key is down, no frame is due, and the output device has been told about the sound. -/
structure UpToDate (r : Runner NoKeys ω) : Prop where
  released : r.machine.keypad = .released
  needDraw : r.machine.needDraw = false
  soundOn : r.soundOn = r.wantsSound

variable [OutputDevice ω]

theorem upToDate_of_frame (h : r.frame = .ok r') : r'.UpToDate := by
  have hkeys := sameKeys_frameWork r
  rw [frame_eq] at h
  obtain ⟨s, hwork, rfl⟩ := exists_of_map_eq_ok h
  rw [hwork] at hkeys
  rw [updateOutput_eq]
  exact ⟨hkeys.keypad, rfl, rfl⟩

/-- A paused frame that finds nothing to do leaves the runner as it was. -/
theorem frame_eq_self (hpaused : r.paused = true) (h : r.UpToDate) : r.frame = .ok r := by
  -- reading the keys releases them all, which they are already
  have hpoll : r.pollKeys = r := by
    rw [pollKeys]
    show { r with machine := { r.machine with keypad := .released } } = r
    rw [← h.released]
  have hdrawn : r.machine.markDrawn = r.machine := by
    rw [Machine.markDrawn, ← h.needDraw]
  have hnews : r.news = [] := by
    rw [news, if_pos h.soundOn.symm, h.needDraw]
    rfl
  rw [frame_of_paused hpaused, hpoll, updateOutput_eq, hdrawn, hnews, ← h.soundOn]
  rfl

/-! ### Frames and pauses -/

/-- The same but not paused. -/
def resumed (r : Runner NoKeys ω) : Runner NoKeys ω :=
  { r with paused := false }

omit [OutputDevice ω] in
theorem resumed_of_not_paused (h : r.paused = false) : r.resumed = r := by
  rw [resumed, ← h]

/-- Whether none of operations one after the other fails. -/
def Succeeds (r : Runner NoKeys ω) (ops : List RunnerOperation) : Prop :=
  ∀ result ∈ r.transcript ops, result.1 = none

theorem succeeds_cons_iff {op : RunnerOperation} {rest : List RunnerOperation} :
    r.Succeeds (op :: rest) ↔ ∃ r', r.perform op = .ok r' ∧ r'.Succeeds rest := by
  rw [Succeeds, transcript, List.forall_mem_cons]
  constructor
  · rintro ⟨hop, hrest⟩
    cases hr' : r.perform op with
    | ok r' =>
      rw [hr'] at hrest
      exact ⟨r', rfl, hrest⟩
    | error halt =>
      rw [hr'] at hop
      cases hop
  · rintro ⟨r', hr', hrest⟩
    rw [hr']
    exact ⟨rfl, hrest⟩

theorem performAll_cons_of_ok {op : RunnerOperation} {rest : List RunnerOperation}
    (h : r.perform op = .ok r') : r.performAll (op :: rest) = r'.performAll rest := by
  rw [performAll, List.foldl_cons, h]
  rfl

theorem succeeds_of_append {before after : List RunnerOperation}
    (h : r.Succeeds (before ++ after)) : r.Succeeds before := by
  induction before generalizing r with
  | nil => exact nofun
  | cons op rest ih =>
    obtain ⟨r', hop, hrest⟩ := succeeds_cons_iff.1 h
    exact succeeds_cons_iff.2 ⟨r', hop, ih hrest⟩

/-- Without the pauses a runner goes on as a twin of the one that is paused and resumed. -/
theorem twins_performAll (h : Twins r.resumed t) (hcurrent : r.UpToDate)
    {ops : List RunnerOperation} (hops : ∀ op ∈ ops, op = .frame ∨ op = .togglePause)
    (hok : r.Succeeds ops) :
    let frames := RunnerOperation.withoutPauses r.paused ops
    Twins (r.performAll ops).resumed (t.performAll frames) ∧ (r.performAll ops).UpToDate ∧
      t.Succeeds frames := by
  induction ops generalizing r t with
  | nil => exact ⟨h, hcurrent, nofun⟩
  | cons op rest ih =>
    obtain ⟨r', hr', hrest⟩ := succeeds_cons_iff.1 hok
    rw [List.forall_mem_cons] at hops
    rw [performAll_cons_of_ok hr']
    rcases hops.1 with rfl | rfl
    · cases hpaused : r.paused with
      | true =>
        -- the frame leaves the runner where it is, and its twin is not given it
        obtain rfl : r = r' := Except.ok.inj ((frame_eq_self hpaused hcurrent).symm.trans hr')
        have hnext := ih h hcurrent hops.2 hrest
        rwa [hpaused] at hnext
      | false =>
        -- both are given the frame, and neither fails
        have hboth := lockstep_twins.perform h .frame
        rw [resumed_of_not_paused hpaused, hr'] at hboth
        obtain ⟨t', ht', htwins⟩ := hboth.exists_of_ok
        have hpaused' : r'.paused = false := by
          have hframe := paused_frame r
          rw [show r.frame = .ok r' from hr'] at hframe
          exact hframe.trans hpaused
        rw [← resumed_of_not_paused hpaused'] at htwins
        have hnext := ih htwins (upToDate_of_frame hr') hops.2 hrest
        rw [hpaused'] at hnext
        intro frames
        have hframes : frames = .frame :: RunnerOperation.withoutPauses false rest := rfl
        rw [hframes, performAll_cons_of_ok ht', succeeds_cons_iff]
        exact ⟨hnext.1, hnext.2.1, t', ht', hnext.2.2⟩
    · -- only the runner itself is paused or resumed
      cases hr'
      have htoggled : Twins r.togglePause.resumed t :=
        ⟨{ h.alike with }, h.mute, h.soundOn, h.output⟩
      have hcurrent' : r.togglePause.UpToDate :=
        ⟨hcurrent.released, hcurrent.needDraw, hcurrent.soundOn⟩
      exact ih htoggled hcurrent' hops.2 hrest

/-- Pausing is transparent. Starting with no key down, no frame due and the sound up to date, frames
and pauses of which none fails leave the same machine, the same instructions owed and the same calls
made on the output device, whatever device that is, as the frames alone that are not made while
paused. A frame that is made while paused executes nothing, owes nothing and leaves the runner, its
timers included, exactly as it was. -/
theorem pausing_is_transparent (hpaused : r.paused = false) (hcurrent : r.UpToDate)
    {ops : List RunnerOperation} (hops : ∀ op ∈ ops, op = .frame ∨ op = .togglePause)
    (hok : r.Succeeds ops) :
    let frames := RunnerOperation.withoutPauses false ops
    let s := r.performAll ops
    let t := r.performAll frames
    r.Succeeds frames ∧ s.machine = t.machine ∧ s.budget = t.budget ∧ s.output = t.output ∧
      ∀ before after, ops = before ++ .frame :: after →
        let now := r.performAll before
        now.paused = true →
          now.executed .frame = [] ∧ now.attempts = 0 ∧ now.frame = .ok now := by
  intro frames s t
  have hself : Twins r.resumed r := by
    rw [resumed_of_not_paused hpaused]
    exact ⟨⟨rfl, rfl, rfl, rfl, rfl, rfl, rfl, rfl⟩, rfl, rfl, rfl⟩
  obtain ⟨htwins, -, hok'⟩ := twins_performAll hself hcurrent hops hok
  rw [hpaused] at htwins hok'
  refine ⟨hok', htwins.alike.machine, htwins.alike.budget, htwins.output, ?_⟩
  rintro before after rfl now hnow
  rw [List.forall_mem_append] at hops
  obtain ⟨-, hcurrent', -⟩ := twins_performAll hself hcurrent hops.1 (succeeds_of_append hok)
  exact ⟨if_pos hnow, attempts_of_paused hnow, frame_eq_self hnow hcurrent'⟩

end

/-- At three instructions in two frames, the half instruction that the first frame leaves is still
owed after a pause of two frames, so that the next frame executes two. -/
theorem pausing_is_transparent_mid_fraction :
    let r : Runner NoKeys History :=
      (new (Machine.initial (.ofSeed 0)) ⟨⟩ .empty { clockSpeed := 90 } none).performAll
        [.load [0x00, 0xE0, 0x60, 5, 0xF0, 0x18]]
    let s := r.performAll [.frame, .togglePause, .frame, .frame, .togglePause, .frame]
    let t := r.performAll [.frame, .frame]
    s.machine = t.machine ∧ s.budget = t.budget ∧ s.output = t.output ∧ t.machine.pc = 0x206 ∧
      t.output.sounds = [true] ∧ t.output.frames.length = 1 := by
  intro r s t
  have hstart : r.paused = false ∧ r.machine.keypad = .released ∧ r.machine.needDraw = false ∧
      r.soundOn = r.wantsSound := by
    unfold r
    decide +kernel
  have hok : r.Succeeds [.frame, .togglePause, .frame, .frame, .togglePause, .frame] := by
    unfold r Succeeds
    decide +kernel
  have htold : t.machine.pc = 0x206 ∧ t.output.sounds = [true] ∧ t.output.frames.length = 1 := by
    unfold t r
    decide +kernel
  obtain ⟨hpaused, hreleased, hdraw, hsound⟩ := hstart
  obtain ⟨-, hmachine, hbudget, houtput, -⟩ :=
    pausing_is_transparent hpaused ⟨hreleased, hdraw, hsound⟩ (by simp) hok
  exact ⟨hmachine, hbudget, houtput, htold⟩

end Runner

end Chip8
