import Chip8.Proofs.Memory
import Chip8.Proofs.Printout
import Chip8.Proofs.Runner.Schedule

/-!
# What a run without a screen reports

A command line names a program, which is read with some result and loaded, and the machine goes
through the schedule that the options make. What is printed at the end is the machine that has gone
through all of it, or the one that the first failing instruction was found in (`run_of_completes`,
`run_of_not_completes`). That is the machine which the error speaks of: `Fault.pc?`, where there is
one, is its program counter, and an opcode in the error is its opcode (`StoppedBy.pc?_eq`,
`StoppedBy.opcode_eq`). A program that cannot be loaded has nothing printed (`run_of_unreadable`,
`run_of_not_fits`).
-/

namespace Chip8

/-- The address of the instruction that a fault speaks of. -/
def Fault.pc? : Fault → Option UInt16
  | unknownOpcode _ pc | stackOverflow pc | stackUnderflow pc => some pc
  | spriteTooTall _ => none

namespace Machine.StoppedBy

variable {m : Machine} {f : Fault}

/-- The fault names the instruction at the program counter. -/
theorem pc?_eq (h : m.StoppedBy f) : f.pc? = some m.pc := by
  cases h with
  | unknownOpcode _ => rfl
  | stackOverflow _ _ => rfl
  | stackUnderflow _ _ => rfl

theorem opcode_eq {opcode pc : UInt16} (h : m.StoppedBy (.unknownOpcode opcode pc)) :
    opcode = m.opcode.toWord := by
  cases h with
  | unknownOpcode _ => rfl

end Machine.StoppedBy

namespace Headless

variable {o : Options} {machine : Machine}

/-! ### Programs that are not loaded -/

theorem run_of_unreadable (o : Options) (machine : Machine) (reason : ReadError) :
    (run o machine (.error reason)).output = "" ∧
      (run o machine (.error reason)).error? = some (.load (.unreadable o.path reason)) :=
  ⟨rfl, rfl⟩

theorem run_of_not_fits {program : List UInt8} (h : programLimit < program.length) :
    (run o machine (.ok program)).output = "" ∧
      (run o machine (.ok program)).error?
        = some (.load (.tooLarge program.length programLimit)) := by
  have hload : machine.load program = .error (.tooLarge program.length programLimit) := by
    rw [Machine.load, machine.memory.load_of_not_fits h]
    rfl
  rw [run, Runner.loadFile, Runner.load]
  simp only [Runner.note, Runner.new, hload, and_self]

/-! ### Programs that are -/

theorem exists_load_of_fits (machine : Machine) {program : List UInt8}
    (h : program.length ≤ programLimit) : ∃ loaded, machine.load program = .ok loaded := by
  obtain ⟨memory, hload, -⟩ := machine.memory.load_of_fits h
  rw [Machine.load, hload]
  exact ⟨_, rfl⟩

theorem reached_finish (r : Runner NoKeys NoOutput) (frames : ℕ) :
    ((finish r frames).1.machine, (finish r frames).2) = Runner.reached (r.run frames) := by
  rw [finish]
  cases r.run frames with
  | ok r' => rfl
  | error halt => rfl

/-- The machine goes through the schedule until an operation fails, and is printed then. -/
theorem run_eq {program : List UInt8} {loaded : Machine} (h : machine.load program = .ok loaded) :
    let left := loaded.performUntil (o.config.schedule .zero o.frames)
    (run o machine (.ok program)).output = report left.1 ∧
      (run o machine (.ok program)).error? = left.2 := by
  intro left
  -- the runner that has loaded the program
  obtain ⟨r, hr, hmachine, hplan⟩ : ∃ r : Runner NoKeys NoOutput,
      (Runner.new machine NoKeys.mk NoOutput.mk o.config (some o.threshold)).loadFile o.path
        (.ok program) = .ok r ∧ r.machine = loaded ∧
      r.plan = ⟨o.config, program, .zero, false⟩ := by
    rw [Runner.loadFile, Runner.load]
    simp only [Runner.note, Runner.new, h]
    exact ⟨_, rfl, rfl, rfl⟩
  have hconfig : r.config = o.config := congrArg Plan.config hplan
  have hbudget : r.budget = .zero := congrArg Plan.budget hplan
  have hpaused : r.paused = false := congrArg Plan.paused hplan
  have hleft : ((finish r o.frames).1.machine, (finish r o.frames).2) = left := by
    rw [reached_finish, Runner.reached_run hpaused, hmachine, hconfig, hbudget]
  rw [run, hr, ← hleft]
  exact ⟨rfl, rfl⟩

section

variable {program : List UInt8} {loaded : Machine}

theorem run_of_completes (h : machine.load program = .ok loaded)
    (hcompletes : loaded.Completes (o.config.schedule .zero o.frames)) :
    (run o machine (.ok program)).output
        = report (loaded.performAll (o.config.schedule .zero o.frames)) ∧
      (run o machine (.ok program)).error? = none := by
  have hrun := run_eq (o := o) h
  rwa [Machine.performUntil_of_completes hcompletes] at hrun

/-- If something fails, it is an instruction, which leaves the machine as it was. -/
theorem run_of_not_completes (h : machine.load program = .ok loaded)
    (hfails : ¬loaded.Completes (o.config.schedule .zero o.frames)) :
    ∃ before after f, o.config.schedule .zero o.frames = before ++ o.config.instruction :: after ∧
      loaded.Completes before ∧ (loaded.performAll before).StoppedBy f ∧
      o.config.update.run (loaded.performAll before) = .error f (loaded.performAll before) ∧
      (run o machine (.ok program)).output = report (loaded.performAll before) ∧
      (run o machine (.ok program)).error? = some (.fault f) := by
  have hrun := run_eq (o := o) h
  obtain ⟨before, op, after, e, hsplit, hbefore, hstop, hleft⟩ :=
    Machine.exists_of_not_completes hfails
  have hop : op = o.config.instruction := by
    have hmem : op ∈ o.config.schedule .zero o.frames := by
      rw [hsplit]
      exact List.mem_append_right before List.mem_cons_self
    exact Config.eq_instruction_of_mem_schedule hmem hstop
  subst hop
  obtain ⟨hsame, f, rfl, hstopped, hupdate⟩ := Config.of_perform_instruction_error hstop
  rw [hleft, hsame] at hrun
  exact ⟨before, after, f, hsplit, hbefore, hstopped, hupdate, hrun⟩

end

theorem exitCode_of_error {r : ProgramResult} {e : Error} (h : r.error? = some e) :
    r.exitCode = 1 := by
  rw [ProgramResult.exitCode, h]
  rfl

theorem exitCode_of_none {r : ProgramResult} (h : r.error? = none) : r.exitCode = 0 := by
  rw [ProgramResult.exitCode, h]
  rfl

/-- What the options that a command line is accepted with come to, whatever reading the program
gives. A program that cannot be read or is too large has nothing printed and the exit code 1. Any
other is loaded, and exits with code 0 iff nothing in the schedule of its frames fails. Then the
machine that has gone through the schedule is printed, and else the machine that the first failing
instruction was found in and has left alone; the fault is the error, and the address in it and the
opcode, if there is one, are those printed. -/
theorem main_reports_last_good_machine (o : Options) (random : RandomSource)
    (contents : Except ReadError (List UInt8)) :
    let c : Config :=
      { clockSpeed := o.clock
        tickRate := 60
        timerMode := if o.coupledTimers then .coupled else .decoupled
        mute := true
        debug := o.debug }
    let result := run o (.initial random) contents
    (∀ arguments read, Options.ofList? arguments = some o → read o.path = contents →
      main? arguments read (.initial random) = some result) ∧
    (∀ reason, contents = .error reason →
      result.output = "" ∧ result.exitCode = 1 ∧
        result.error? = some (.load (.unreadable o.path reason))) ∧
    (∀ program, contents = .ok program → 3584 < program.length →
      result.output = "" ∧ result.exitCode = 1 ∧
        result.error? = some (.load (.tooLarge program.length 3584))) ∧
    ∀ program, contents = .ok program → program.length ≤ 3584 →
      let ops := c.schedule .zero o.frames
      ∃ loaded, (Machine.initial random).load program = .ok loaded ∧
        (result.exitCode = 0 ↔ loaded.Completes ops) ∧
        (loaded.Completes ops →
          let m := loaded.performAll ops
          result.error? = none ∧ Shows m result.output ∧
            result.output = m.display.text ++ m.snapshot.text ++ "\n") ∧
        (¬loaded.Completes ops →
          ∃ before after f, ops = before ++ c.instruction :: after ∧ loaded.Completes before ∧
            let m := loaded.performAll before
            m.StoppedBy f ∧ c.update.run m = .error f m ∧
            result.exitCode = 1 ∧ result.error? = some (.fault f) ∧ Shows m result.output ∧
            result.output = m.display.text ++ m.snapshot.text ++ "\n" ∧
            f.pc? = some m.pc ∧ ∀ opcode pc, f = .unknownOpcode opcode pc →
              opcode = m.opcode.toWord) := by
  intro c result
  refine ⟨?_, ?_, ?_, ?_⟩
  · rintro arguments read hoptions rfl
    rw [main?, hoptions]
    rfl
  · rintro reason rfl
    obtain ⟨houtput, herror⟩ := run_of_unreadable o (.initial random) reason
    exact ⟨houtput, exitCode_of_error herror, herror⟩
  · rintro program rfl hlarge
    obtain ⟨houtput, herror⟩ := @run_of_not_fits o (.initial random) program hlarge
    exact ⟨houtput, exitCode_of_error herror, herror⟩
  · rintro program rfl hfits ops
    obtain ⟨loaded, hload⟩ := exists_load_of_fits (.initial random) hfits
    refine ⟨loaded, hload, ⟨fun hexit => ?_, fun hcompletes => ?_⟩, fun hcompletes => ?_,
      fun hfails => ?_⟩
    · by_contra hfails
      obtain ⟨-, -, f, -, -, -, -, -, herror⟩ := run_of_not_completes (o := o) hload hfails
      rw [exitCode_of_error herror] at hexit
      cases hexit
    · exact exitCode_of_none (run_of_completes (o := o) hload hcompletes).2
    · obtain ⟨houtput, herror⟩ := run_of_completes (o := o) hload hcompletes
      exact ⟨herror, houtput ▸ shows_report _, houtput⟩
    · obtain ⟨before, after, f, hsplit, hbefore, hstopped, hupdate, houtput, herror⟩ :=
        run_of_not_completes (o := o) hload hfails
      refine ⟨before, after, f, hsplit, hbefore, hstopped, hupdate, exitCode_of_error herror,
        herror, houtput ▸ shows_report _, houtput, hstopped.pc?_eq, ?_⟩
      rintro opcode pc rfl
      exact hstopped.opcode_eq

/-- A program that returns without a call is stopped in its first frame, and the machine that has
just loaded it is printed. -/
theorem main_reports_last_good_machine_of_return :
    let o : Options := ⟨1, 60, false, false, 0, "programs/rom"⟩
    let result := run o (.initial (.ofSeed 0)) (.ok [0x00, 0xEE])
    main? ["programs/rom", "-f", "1", "-c", "60"] (fun _ => .ok [0x00, 0xEE])
        (.initial (.ofSeed 0)) = some result ∧
      result.exitCode = 1 ∧ result.error? = some (.fault (.stackUnderflow 0x200)) ∧
      ∃ loaded, (Machine.initial (.ofSeed 0)).load [0x00, 0xEE] = .ok loaded ∧
        Shows loaded result.output := by
  intro o result
  have hoptions : Options.ofList? ["programs/rom", "-f", "1", "-c", "60"] = some o := by
    decide +kernel
  obtain ⟨hmain, -, -, hloaded⟩ :=
    main_reports_last_good_machine o (.ofSeed 0) (.ok [0x00, 0xEE])
  obtain ⟨loaded, hload, -, -, hstop⟩ := hloaded [0x00, 0xEE] rfl (by decide)
  -- one frame of one instruction
  have hwhole :
      (Allowance.zero.add (Config.instructionsPerFrame { clockSpeed := 60 })).whole = 1 := by
    decide +kernel
  have hops : o.config.schedule .zero 1 = [.releaseAll, .cycle, .tick, .markDrawn] := by
    show Config.frameOperations _ (Allowance.whole _) ++ Config.schedule _ _ 0 = _
    refine (congrArg (fun n => Config.frameOperations _ n ++ []) hwhole).trans rfl
  have hmachine :
      ((Machine.initial (.ofSeed 0)).perform (.load [0x00, 0xEE])).machine = loaded := by
    rw [Machine.perform, hload]
    rfl
  have herror : ((loaded.performAll [.releaseAll]).perform .cycle).error?
      = some (.fault (.stackUnderflow 0x200)) := by
    rw [← hmachine]
    decide +kernel
  have hfails : ¬loaded.Completes [.releaseAll, .cycle, .tick, .markDrawn] := by
    intro hcompletes
    have hnone := hcompletes [.releaseAll] .cycle [.tick, .markDrawn] rfl
    rw [herror] at hnone
    cases hnone
  obtain ⟨before, after, f, hsplit, -, hstopped, -, hexit, hfault, hshows, -⟩ :=
    hstop (hops ▸ hfails)
  have hbefore : before = [.releaseAll] := by
    have hsplit := hops.symm.trans hsplit
    rcases before with _ | ⟨a, _ | ⟨b, _ | ⟨c, _ | ⟨d, before⟩⟩⟩⟩
    · cases hsplit
    · cases hsplit
      rfl
    · cases hsplit
    · cases hsplit
    · simp at hsplit
  subst hbefore
  obtain ⟨g, hg, hcycle⟩ := Machine.error?_ofAttempt_iff.1 herror
  rw [Machine.cycle_eq_error_iff.2 hstopped, Except.error.injEq] at hcycle
  subst hcycle
  exact ⟨hmain _ _ hoptions rfl, hexit, hfault.trans (congrArg some hg.symm), loaded, hload, hshows⟩

end Headless

end Chip8
