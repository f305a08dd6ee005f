import Chip8.Proofs.Instruction.RoundTrip
import Chip8.Proofs.Runner.FreshStart
import Chip8.Proofs.Runner.Pacing

/-!
# What is reported of instructions

An attempt at an instruction reports the machine that it finds, if the settings ask for that, then
the instruction unless there is none, and then what the execution reports (`PlainLoop.reports`). The
snapshot of this machine shows the word that is fetched and where it stands, so all of it can be
read off the snapshot (`Machine.trace_eq_account`).

`Runner.found` are the machines that the attempts of an operation find, in order and with the one
that is stopped: within a frame, each finds what the instructions before it leave
(`getElem?_foundMany`). Frames and single steps report nothing but these attempts
(`reports_perform`), so the journal of any number of them is an account of the machines found. The
settings that ask for the state of the machine change nothing else about it
(`journal_traces_execution`).
-/

namespace Chip8

/-! ### What a snapshot tells about an attempt -/

namespace Opcode

theorem toNat_family_ofWord (w : UInt16) : (ofWord w).family.toNat = w.toNat / 4096 := by
  have hw := w.toNat_lt
  simp only [ofWord, family, UInt8.toNat_div, UInt16.toNat_toUInt8, UInt16.toNat_div,
    UInt16.reduceToNat, UInt8.reduceToNat]
  omega

theorem toNat_nnn_ofWord (w : UInt16) : (ofWord w).nnn.toNat = w.toNat % 4096 := by
  have hw := w.toNat_lt
  simp only [ofWord, nnn, x, UInt8.toNat_mod, UInt16.toNat_toUInt8, UInt16.toNat_div,
    UInt16.toNat_add, UInt16.toNat_mul, UInt8.toNat_toUInt16, UInt16.reduceToNat, UInt8.reduceToNat]
  omega

end Opcode

/-- What there is to report of an attempt at the instruction that a snapshot shows, the snapshot
aside: nothing if the opcode stands for none, else the instruction and its address, and after it a
call of machine code, which is `0NNN` but neither `00E0` nor `00EE`. -/
def Snapshot.account (s : Snapshot) : List LogRecord :=
  match Instruction.decodeAt s.opcode s.pc with
  | .ok i =>
    .fetched s.pc i ::
      if s.opcode < 0x1000 ∧ s.opcode ≠ 0x00E0 ∧ s.opcode ≠ 0x00EE then
        [.machineCodeIgnored s.opcode]
      else []
  | .error _ => []

theorem Snapshot.severity_of_mem_account {s : Snapshot} {record : LogRecord}
    (h : record ∈ s.account) : record.severity = .trace ∨ record.severity = .warn := by
  rw [account] at h
  split at h
  · rcases List.mem_cons.1 h with rfl | h
    · exact .inl rfl
    · split at h
      · obtain rfl := List.mem_singleton.1 h
        exact .inr rfl
      · exact absurd h List.not_mem_nil
  · exact absurd h List.not_mem_nil

namespace Instruction

variable {word : UInt16} {i : Instruction}

/-- A word of the form `0NNN` calls machine code unless it is `00E0` or `00EE`. -/
theorem warnings_decodeSystem (h : word < 0x1000) :
    Machine.warnings (decodeSystem (.ofWord word))
      = if word ≠ 0x00E0 ∧ word ≠ 0x00EE then [.machineCodeIgnored word] else [] := by
  have hlt : word.toNat < 4096 := h
  have hnnn : (Opcode.ofWord word).nnn = word := by
    apply UInt16.toNat_inj.1
    rw [Opcode.toNat_nnn_ofWord, Nat.mod_eq_of_lt hlt]
  rw [decodeSystem, hnnn]
  split
  · next hword =>
    obtain rfl : word = 0x00E0 := UInt16.toNat_inj.1 hword
    rfl
  · next hword =>
    obtain rfl : word = 0x00EE := UInt16.toNat_inj.1 hword
    rfl
  · next hclear hret =>
    have hother : word ≠ 0x00E0 ∧ word ≠ 0x00EE :=
      ⟨fun hword => hclear (congrArg UInt16.toNat hword),
        fun hword => hret (congrArg UInt16.toNat hword)⟩
    rw [if_pos hother]
    rfl

theorem warnings_of_decode? (h : decode? (.ofWord word) = some i) :
    Machine.warnings i
      = if word < 0x1000 ∧ word ≠ 0x00E0 ∧ word ≠ 0x00EE then [.machineCodeIgnored word]
        else [] := by
  have hfamily := Opcode.toNat_family_ofWord word
  -- the top digit is 0 in exactly the words below `0x1000`
  by_cases hlt : word < 0x1000
  · have hlt' : word.toNat < 4096 := hlt
    have hzero : (Opcode.ofWord word).family.toNat = 0x0 := by omega
    have hsystem : decodeSystem (.ofWord word) = i := by
      simpa only [decode?, hzero, Option.some.injEq] using h
    rw [← hsystem, warnings_decodeSystem hlt]
    simp only [hlt, true_and]
  · have hle : ¬word.toNat < 4096 := hlt
    have hfits : (Opcode.ofWord word).family.toNat = i.form.family :=
      (fits_form_of_decode? h).family
    rw [if_neg fun hcall => hlt hcall.1]
    cases i with
    | sys a =>
      have hsys : (sys a).form.family = 0 := rfl
      omega
    | _ => rfl

end Instruction

/-- What a machine reports can be read off its snapshot. -/
theorem Machine.trace_eq_account (m : Machine) : m.trace = m.snapshot.account := by
  have hfetch : m.fetch = Instruction.decodeAt m.snapshot.opcode m.snapshot.pc :=
    Instruction.fetch_eq_decodeAt m
  rw [trace, Snapshot.account, hfetch]
  cases hdecode : Instruction.decodeAt m.snapshot.opcode m.snapshot.pc with
  | ok i =>
    have hwarn := Instruction.warnings_of_decode? (Instruction.decodeAt_eq_ok_iff.1 hdecode)
    exact congrArg (.fetched m.pc i :: ·) hwarn
  | error f => rfl

/-! ### Records that are kept -/

namespace Journal

theorem noteAll_append (j : Journal) (records later : List LogRecord) :
    j.noteAll (records ++ later) = (j.noteAll records).noteAll later :=
  List.foldl_append

theorem keeps_note (j : Journal) (record : LogRecord) : (j.note record).keeps = j.keeps := by
  rw [note]
  split
  · rfl
  · rfl

/-- What is noted comes after the records that there are already, if it is kept. -/
theorem toList_records_noteAll (j : Journal) (records : List LogRecord) :
    (j.noteAll records).records.toList = j.records.toList ++ records.filter j.keeps := by
  induction records generalizing j with
  | nil => exact (List.append_nil _).symm
  | cons record rest ih =>
    have hrest : (j.noteAll (record :: rest)).records.toList
        = (j.note record).records.toList ++ rest.filter j.keeps := by
      rw [← keeps_note j record]
      exact ih (j.note record)
    rw [hrest, note]
    split
    · next hkeeps =>
      rw [List.filter_cons_of_pos hkeeps, Array.toList_push, List.append_assoc,
        List.singleton_append]
    · next hkeeps => rw [List.filter_cons_of_neg hkeeps]

end Journal

/-- Whether an operation executes instructions, and does nothing else. -/
def RunnerOperation.executes : RunnerOperation → Bool
  | frame | run _ | singleStep => true
  | _ => false

namespace Runner

variable {κ ω ω' : Type} {r s t : Runner κ ω}

/-! ### The machines that attempts find -/

/-- The machines that are found after something that may have been stopped, none if it was. -/
def foundAfter (x : Except (Halt κ ω) (Runner κ ω)) (later : Runner κ ω → List Machine) :
    List Machine :=
  match x with
  | .ok r => later r
  | .error _ => []

/-- The machines that attempts at `n` instructions find, up to the first one that is stopped. -/
def foundMany (r : Runner κ ω) : ℕ → List Machine
  | 0 => []
  | n + 1 =>
    r.machine :: foundAfter { r with budget := r.budget.spend }.executeOne fun r => r.foundMany n

/-- An attempt finds the machine that the instructions before it leave, unless one of them is
stopped. -/
theorem getElem?_foundMany {k n : ℕ} {m : Machine} :
    (r.foundMany n)[k]? = some m ↔
      k < n ∧ ∃ r', r.executeMany k = .ok r' ∧ r'.machine = m := by
  induction n generalizing r k with
  | zero => simp [foundMany]
  | succ n ih =>
    cases k with
    | zero => simp [foundMany, executeMany]
    | succ k =>
      rw [foundMany, executeMany_succ, List.getElem?_cons_succ, Nat.succ_lt_succ_iff]
      cases { r with budget := r.budget.spend }.executeOne with
      | ok next => exact ih
      | error halt => simp [foundAfter, Except.bind]

section

variable [KeySource κ] [OutputDevice ω]

/-- The machines that the attempts of a frame find. -/
def foundFrame (r : Runner κ ω) : List Machine :=
  if r.paused then [] else r.pollKeys.owe.foundMany r.pollKeys.owe.budget.whole

/-- The machines that the attempts of `n` frames find. -/
def foundRun (r : Runner κ ω) : ℕ → List Machine
  | 0 => []
  | n + 1 => r.foundFrame ++ foundAfter r.frame fun r => r.foundRun n

/-- The machines that the attempts of an operation find. -/
def found (r : Runner κ ω) : RunnerOperation → List Machine
  | .frame => r.foundFrame
  | .run frames => r.foundRun frames
  | .singleStep => [r.pollKeys.machine]
  | _ => []

/-- The machines that the attempts of operations find. -/
def foundAll (r : Runner κ ω) : List RunnerOperation → List Machine
  | [] => []
  | op :: rest => r.found op ++ (Halt.settle (r.perform op)).1.foundAll rest

end

/-! ### What operations report -/

/-- Nothing is reported from `r` to `s` but attempts, which find these machines. -/
structure Reports (ms : List Machine) (r s : Runner κ ω) : Prop where
  config : s.config = r.config
  journal : s.journal = r.journal.noteAll (ms.flatMap (PlainLoop.reports r.config))

namespace Reports

variable {ms ms' : List Machine}

theorem refl (r : Runner κ ω) : Reports [] r r :=
  ⟨rfl, rfl⟩

theorem trans (h : Reports ms r s) (h' : Reports ms' s t) : Reports (ms ++ ms') r t where
  config := h'.config.trans h.config
  journal := by
    rw [h'.journal, h.journal, h.config, List.flatMap_append, Journal.noteAll_append]

-- This is `trans` without the empty list: to tell `[] ++ ms` from `ms` by evaluation is to round.
theorem after (h' : Reports ms s t) (h : Reports [] r s) : Reports ms r t := by
  have hall := h.trans h'
  rwa [List.nil_append] at hall

/-- A sequence finds what its parts find, as far as it gets. -/
theorem bind {x : Except (Halt κ ω) (Runner κ ω)} {f : Runner κ ω → Except (Halt κ ω) (Runner κ ω)}
    {later : Runner κ ω → List Machine} (h : Reports ms r (Halt.settle x).1)
    (hf : ∀ s, x = .ok s → Reports (later s) s (Halt.settle (f s)).1) :
    Reports (ms ++ foundAfter x later) r (Halt.settle (x.bind f)).1 := by
  cases x with
  | ok s => exact h.trans (hf s rfl)
  | error halt =>
    rw [foundAfter, List.append_nil]
    exact h

theorem map {x : Except (Halt κ ω) (Runner κ ω)} {f : Runner κ ω → Runner κ ω}
    (h : Reports ms r (Halt.settle x).1) (hf : ∀ s, Reports [] s (f s)) :
    Reports ms r (Halt.settle (x.map f)).1 := by
  cases x with
  | ok s =>
    have hall := h.trans (hf s)
    rwa [List.append_nil] at hall
  | error halt => exact h

end Reports

theorem reports_attempt (r : Runner κ ω) (result : Except Fault Machine) :
    Reports [r.machine] r (Halt.settle (r.noteState.attempt result)).1 := by
  rw [attempt_noteState]
  cases result with
  | ok machine => exact ⟨rfl, by rw [List.flatMap_singleton]; rfl⟩
  | error f => exact ⟨rfl, by rw [List.flatMap_singleton]; rfl⟩

theorem reports_executeOne (r : Runner κ ω) :
    Reports [r.machine] r (Halt.settle r.executeOne).1 := by
  rw [executeOne]
  cases r.config.timerMode with
  | coupled => exact reports_attempt r r.machine.step
  | decoupled => exact reports_attempt r r.machine.cycle

theorem reports_executeMany (r : Runner κ ω) (n : ℕ) :
    Reports (r.foundMany n) r (Halt.settle (r.executeMany n)).1 := by
  induction n generalizing r with
  | zero => exact .refl r
  | succ n ih =>
    have hone := reports_executeOne { r with budget := r.budget.spend }
    rw [executeMany_succ]
    exact Reports.bind (r := r) ⟨hone.config, hone.journal⟩ fun next _ => ih next

theorem reports_owe (r : Runner κ ω) : Reports [] r r.owe := by
  rw [owe]
  exact ⟨rfl, rfl⟩

theorem reports_tickFrame (r : Runner κ ω) : Reports [] r r.tickFrame := by
  rw [tickFrame]
  cases r.config.timerMode with
  | coupled => exact .refl r
  | decoupled => exact ⟨rfl, rfl⟩

theorem reports_play (r : Runner κ ω) :
    Reports (r.owe.foundMany r.owe.budget.whole) r (Halt.settle r.play).1 := by
  rw [play]
  exact ((reports_executeMany _ _).after (reports_owe r)).map reports_tickFrame

section

variable [KeySource κ] [OutputDevice ω]

omit [KeySource κ] in
theorem reports_updateOutput (r : Runner κ ω) : Reports [] r r.updateOutput := by
  rw [updateOutput_eq]
  exact ⟨rfl, rfl⟩

theorem reports_frame (r : Runner κ ω) : Reports r.foundFrame r (Halt.settle r.frame).1 := by
  have hpoll : Reports [] r r.pollKeys := ⟨rfl, rfl⟩
  rw [frame_eq, frameWork, foundFrame]
  split
  · exact (reports_updateOutput _).after hpoll
  · exact ((reports_play _).after hpoll).map reports_updateOutput

theorem reports_run (r : Runner κ ω) (n : ℕ) :
    Reports (r.foundRun n) r (Halt.settle (r.run n)).1 := by
  induction n generalizing r with
  | zero => exact .refl r
  | succ n ih =>
    rw [run_succ]
    exact (reports_frame r).bind fun next _ => ih next

theorem reports_singleStep (r : Runner κ ω) :
    Reports [r.pollKeys.machine] r (Halt.settle r.singleStep).1 := by
  have hpoll : Reports [] r r.pollKeys := ⟨rfl, rfl⟩
  rw [singleStep_eq]
  exact ((reports_attempt _ _).after hpoll).map reports_updateOutput

/-- What a frame, several frames or a single step report is what their attempts report. -/
theorem reports_perform (r : Runner κ ω) {op : RunnerOperation} (hop : op.executes = true) :
    Reports (r.found op) r (Halt.settle (r.perform op)).1 := by
  cases op with
  | frame => exact reports_frame r
  | run frames => exact reports_run r frames
  | singleStep => exact reports_singleStep r
  | _ => cases hop

theorem reports_performAll (r : Runner κ ω) {ops : List RunnerOperation}
    (hops : ∀ op ∈ ops, op.executes = true) : Reports (r.foundAll ops) r (r.performAll ops) := by
  induction ops generalizing r with
  | nil => exact .refl r
  | cons op rest ih =>
    rw [List.forall_mem_cons] at hops
    exact (reports_perform r hops.1).trans (ih _ hops.2)

end

/-! ### Runners that report differently -/

section

variable {r' : Runner κ ω'}

/-- Runners that are alike find the same after what is parallel. -/
theorem foundAfter_eq_of_parallel {x : Except (Halt κ ω) (Runner κ ω)}
    {x' : Except (Halt κ ω') (Runner κ ω')} (h : Parallel Alike x x')
    {later : Runner κ ω → List Machine} {later' : Runner κ ω' → List Machine}
    (hlater : ∀ {s s'}, Alike s s' → later s = later' s') :
    foundAfter x later = foundAfter x' later' := by
  cases h with
  | ok h => exact hlater h
  | error he h => rfl

theorem Alike.foundMany (h : Alike r r') (n : ℕ) : r.foundMany n = r'.foundMany n := by
  induction n generalizing r r' with
  | zero => rfl
  | succ n ih =>
    have hone := (h.owing r.budget.spend).executeOne
    rw [Runner.foundMany, Runner.foundMany, ← h.budget]
    exact congrArg₂ List.cons h.machine (foundAfter_eq_of_parallel hone ih)

variable [KeySource κ] [OutputDevice ω] [OutputDevice ω']

omit [OutputDevice ω] [OutputDevice ω'] in
theorem Alike.foundFrame (h : Alike r r') : r.foundFrame = r'.foundFrame := by
  have howe := h.pollKeys.owe
  rw [Runner.foundFrame, Runner.foundFrame, ← h.paused, ← howe.budget, howe.foundMany]

theorem Alike.foundRun (h : Alike r r') (n : ℕ) : r.foundRun n = r'.foundRun n := by
  induction n generalizing r r' with
  | zero => rfl
  | succ n ih =>
    rw [Runner.foundRun, Runner.foundRun, h.foundFrame,
      foundAfter_eq_of_parallel (lockstep_alike.frame h) ih]

theorem Alike.found (h : Alike r r') (op : RunnerOperation) : r.found op = r'.found op := by
  cases op with
  | frame => exact h.foundFrame
  | run frames => exact h.foundRun frames
  | singleStep => exact congrArg (fun m => [m]) h.pollKeys.machine
  | _ => rfl

theorem Alike.foundAll (h : Alike r r') (ops : List RunnerOperation) :
    r.foundAll ops = r'.foundAll ops := by
  induction ops generalizing r r' with
  | nil => rfl
  | cons op rest ih =>
    rw [Runner.foundAll, Runner.foundAll, h.found, ih (lockstep_alike.perform h op).settled]

end

section

variable [KeySource κ] [OutputDevice ω]

omit [KeySource κ] [OutputDevice ω] in
/-- Without the states, an account of attempts is what else they report. -/
theorem filter_account (ms : List Machine) :
    (ms.flatMap fun m => .state m.snapshot :: m.snapshot.account).filter (·.severity != .debug)
      = ms.flatMap fun m => m.snapshot.account := by
  have hone : ∀ s : Snapshot,
      (LogRecord.state s :: s.account).filter (·.severity != .debug) = s.account := by
    intro s
    rw [List.filter_cons_of_neg Bool.false_ne_true, List.filter_eq_self]
    intro record hrecord
    rcases Snapshot.severity_of_mem_account hrecord with h | h
    · rw [h]
      rfl
    · rw [h]
      rfl
  rw [List.filter_flatMap]
  exact congrArg (List.flatMap · ms) (funext fun m => hone m.snapshot)

/-- Of any number of frames and single steps, paused or not and stopped or not, the journal of a
runner that reports states is an account of the attempts: of each in order the snapshot of the
machine that it finds, then the instruction that the snapshot shows, if it is one, then the call of
machine code if it is one, and nothing else. These are records for debugging and for tracing, and
warnings. A runner that does not report states lacks the records for debugging and nothing else, and
its errors and machines are the same. -/
theorem journal_traces_execution (r : Runner κ ω) {ops : List RunnerOperation}
    (hdebug : r.config.debug = true) (hops : ∀ op ∈ ops, op.executes = true) :
    let quiet : Runner κ ω := { r with config := { r.config with debug := false } }
    let account := (r.foundAll ops).flatMap fun m => .state m.snapshot :: m.snapshot.account
    let logged := account.filter r.journal.keeps
    (r.performAll ops).journal.records.toList = r.journal.records.toList ++ logged ∧
      (quiet.performAll ops).journal.records.toList
        = r.journal.records.toList ++ logged.filter (·.severity != .debug) ∧
      (quiet.performAll ops).machine = (r.performAll ops).machine ∧
      quiet.transcript ops = r.transcript ops ∧
      (∀ s, (LogRecord.state s).severity = .debug ∧ (LogRecord.state s).text = s.text) ∧
      (∀ pc i, (LogRecord.fetched pc i).severity = .trace) ∧
      ∀ a, (LogRecord.machineCodeIgnored a).severity = .warn := by
  intro quiet account logged
  have halike : Alike quiet r := ⟨rfl, rfl, rfl, rfl, rfl, rfl, rfl, rfl⟩
  have hreports : PlainLoop.reports r.config
      = fun m => .state m.snapshot :: m.snapshot.account := by
    funext m
    rw [PlainLoop.reports, hdebug, m.trace_eq_account]
    rfl
  have hquiet : PlainLoop.reports quiet.config = fun m => m.snapshot.account := by
    funext m
    exact m.trace_eq_account
  refine ⟨?_, ?_, (lockstep_alike.performAll halike ops).machine,
    lockstep_alike.transcript halike ops, fun s => ⟨rfl, rfl⟩, fun pc i => rfl, fun a => rfl⟩
  · rw [(reports_performAll r hops).journal, hreports, Journal.toList_records_noteAll]
  · -- which records are kept does not depend on which of them are dropped for debugging
    have hfilter : logged.filter (·.severity != .debug)
        = (account.filter (·.severity != .debug)).filter r.journal.keeps := by
      rw [List.filter_filter, List.filter_filter]
      exact List.filter_congr fun record _ => Bool.and_comm _ _
    rw [(reports_performAll quiet hops).journal, hquiet, Journal.toList_records_noteAll,
      halike.foundAll, hfilter, filter_account]

end

/-- The first frame calls machine code, and at the second instruction, which is none, it is stopped;
so is the single step. Two of the three attempts therefore report only a state. -/
theorem journal_traces_execution_of_stopped_frame :
    let r : Runner NoKeys NoOutput :=
      (new (Machine.initial (.ofSeed 0)) ⟨⟩ ⟨⟩ { clockSpeed := 120, debug := true }
        (some .trace)).performAll [.load [0x01, 0x23, 0x50, 0x01]]
    let quiet : Runner NoKeys NoOutput := { r with config := { r.config with debug := false } }
    let before : Snapshot := ⟨0x0123, 0x200, 0, 0, .replicate 16 0⟩
    let after : Snapshot := ⟨0x5001, 0x202, 0, 0, .replicate 16 0⟩
    (r.performAll [.frame, .singleStep]).journal.records.toList
        = [.loaded 4, .state before, .fetched 0x200 (.sys 0x123), .machineCodeIgnored 0x123,
            .state after, .state after] ∧
      (quiet.performAll [.frame, .singleStep]).journal.records.toList
        = [.loaded 4, .fetched 0x200 (.sys 0x123), .machineCodeIgnored 0x123] := by
  intro r quiet before after
  have hdebug : r.config.debug = true := by
    unfold r
    decide +kernel
  have hops : ∀ op ∈ [RunnerOperation.frame, .singleStep], op.executes = true := by decide
  obtain ⟨hrecords, hquiet, -⟩ := journal_traces_execution r hdebug hops
  refine ⟨hrecords.trans ?_, hquiet.trans ?_⟩
  · unfold r before after
    decide +kernel
  · unfold r
    decide +kernel

end Runner

end Chip8
