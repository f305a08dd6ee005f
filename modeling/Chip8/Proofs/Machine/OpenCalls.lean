import Chip8.Machine.Operation
import Chip8.Proofs.Machine.Footprint

/-!
# Calls and returns as a bounded stack

The slots and the depth of the call stack stand for a list of call sites: the ones that calls were
made from and that have not been returned to. `CallEvent` is what a history does to this list, as
can be told from which instructions were executed and where, and `unreturned` the list that it ends
with. The depth and the slots below it agree with it after every history in which the depth is not
set from outside (`openCalls_performAll`).

Since an event changes a list at its end only, the sites below some depth stay what they are as long
as the list is longer (`take_openCalls_performAll`). So a return that closes a call goes on after
that very call, whatever has been executed in between.
-/

namespace Chip8

/-! ### What happens to the open calls -/

/-- Something that happens to the open calls. -/
inductive CallEvent where
  /-- A call is made from a site. -/
  | called (site : UInt16)
  /-- The youngest open call is returned from. -/
  | returned
  /-- All open calls are forgotten. -/
  | forgotten
deriving DecidableEq, Repr

/-- The sites of the open calls after an event, oldest first. -/
def CallEvent.apply (sites : List UInt16) : CallEvent → List UInt16
  | called site => sites ++ [site]
  | returned => sites.dropLast
  | forgotten => []

/-- The sites of the open calls after an event, if there is one. -/
def CallEvent.applyAny (sites : List UInt16) : Option CallEvent → List UInt16
  | some event => event.apply sites
  | none => sites

/-- The sites of the calls that a history has not returned from, oldest first. -/
def unreturned (history : List CallEvent) : List UInt16 :=
  history.foldl CallEvent.apply []

/-- What an instruction does to the open calls if it is executed at `pc`. -/
def Instruction.callEvent? (pc : UInt16) : Instruction → Option CallEvent
  | call _ => some (.called pc)
  | ret => some .returned
  | _ => none

/-- Whether an operation leaves the stack depth to calls and returns, and is no bundle of several
instructions. -/
def Operation.ordinary : Operation → Bool
  | .setDepth _ | .executeAll _ => false
  | _ => true

namespace Machine

/-- The instruction that an operation attempts to execute. -/
def attempted? (m : Machine) : Operation → Option Instruction
  | .step | .cycle => Instruction.decode? m.opcode
  | .execute i => some i
  | _ => none

/-- What an operation does to the open calls. -/
def callEvent? (m : Machine) : Operation → Option CallEvent
  | .reset => some .forgotten
  | op =>
    match m.attempted? op, (m.perform op).error? with
    | some i, none => i.callEvent? m.pc
    | _, _ => none

/-- What operations performed one after the other do to the open calls. -/
def callHistory (m : Machine) : List Operation → List CallEvent
  | [] => []
  | op :: rest => (m.callEvent? op).toList ++ (m.perform op).machine.callHistory rest

variable {m m' : Machine} {op : Operation} {i : Instruction}

/-! ### One operation -/

/-- An operation that attempts an instruction executes it, on the machine or on the machine with its
timers ticked. -/
theorem perform_of_attempted? (h : m.attempted? op = some i) :
    ∃ (m₀ : Machine) (log : List LogRecord), m₀.calls = m.calls ∧ m₀.pc = m.pc ∧
      m.perform op = .ofAttempt m log (m₀.execute i) := by
  cases op with
  | step =>
    have hf : m.fetch = .ok i := by rw [fetch, show Instruction.decode? m.opcode = some i from h]
    exact ⟨m.tick, m.trace, rfl, rfl, by rw [perform, step, hf]⟩
  | cycle =>
    have hf : m.fetch = .ok i := by rw [fetch, show Instruction.decode? m.opcode = some i from h]
    exact ⟨m, m.trace, rfl, rfl, by rw [perform, cycle, hf]⟩
  | execute j =>
    obtain rfl := Option.some.inj h
    exact ⟨m, warnings j, rfl, rfl, rfl⟩
  | _ => cases h

theorem error?_perform_call_iff {a : UInt16} (h : m.attempted? op = some (.call a)) :
    (m.perform op).error? = none ↔ m.calls.depth.toNat < 16 := by
  obtain ⟨m₀, log, hcalls, -, hp⟩ := perform_of_attempted? h
  rw [hp, ← hcalls]
  cases he : m₀.execute (.call a) with
  | ok m' =>
    obtain ⟨hd, -⟩ := CallStack.push?_eq_some_iff.1 (calls_of_execute_call he)
    exact ⟨fun _ => hd, fun _ => rfl⟩
  | error f =>
    rcases execute_eq_error_iff.1 he with ⟨-, hd⟩ | - | -
    exact ⟨nofun, fun h => absurd h (Nat.not_lt.2 hd)⟩

theorem error?_perform_ret_iff (h : m.attempted? op = some .ret) :
    (m.perform op).error? = none ↔ m.calls.depth.toNat ≠ 0 ∧ m.calls.depth.toNat ≤ 16 := by
  obtain ⟨m₀, log, hcalls, -, hp⟩ := perform_of_attempted? h
  rw [hp, ← hcalls]
  cases he : m₀.execute .ret with
  | ok m' =>
    obtain ⟨site, hpop, -⟩ := calls_of_execute_ret he
    have hsome : m₀.calls.pop? ≠ none := by rw [hpop]; nofun
    rw [ne_eq, CallStack.pop?_eq_none_iff] at hsome
    exact ⟨fun _ => ⟨by omega, by omega⟩, fun _ => rfl⟩
  | error f =>
    rcases execute_eq_error_iff.1 he with - | hd | -
    exact ⟨nofun, fun h => by omega⟩

/-- A return that changes the stack at all closes a call and goes on after its site. -/
theorem exists_of_perform_ret (h : m.attempted? op = some .ret)
    (hne : (m.perform op).machine.calls.depth ≠ m.calls.depth) :
    ∃ site, m.calls.pop? = some (site, (m.perform op).machine.calls) ∧
      (m.perform op).machine.pc = site + 2 := by
  obtain ⟨m₀, log, hcalls, -, hp⟩ := perform_of_attempted? h
  rw [hp] at hne ⊢
  rw [← hcalls]
  cases he : m₀.execute .ret with
  | ok m' => exact calls_of_execute_ret he
  | error f =>
    rw [he] at hne
    exact absurd rfl hne

/-- An instruction that is executed does to the open calls what its event says. -/
theorem openCalls_of_execute (h : m.execute i = .ok m') (hd : m.calls.depth.toNat ≤ 16) :
    m'.calls.depth.toNat ≤ 16 ∧
      m'.calls.openCalls = CallEvent.applyAny m.calls.openCalls (i.callEvent? m.pc) := by
  cases hi : i.usesStack with
  | false =>
    rw [(footprint_of_execute h).calls hi]
    cases i with
    | call a => cases hi
    | ret => cases hi
    | _ => exact ⟨hd, rfl⟩
  | true =>
    cases i with
    | call a =>
      have hpush := calls_of_execute_call h
      obtain ⟨hlt, -⟩ := CallStack.push?_eq_some_iff.1 hpush
      refine ⟨?_, CallStack.openCalls_of_push? hpush⟩
      rw [CallStack.depth_of_push? hpush]
      exact hlt
    | ret =>
      obtain ⟨site, hpop, -⟩ := calls_of_execute_ret h
      refine ⟨?_, ?_⟩
      · rw [CallStack.depth_of_pop? hpop] at hd
        omega
      · rw [CallStack.openCalls_of_pop? hpop]
        exact List.dropLast_concat.symm
    | _ => cases hi

theorem callEvent?_of_attempted? (h : m.attempted? op = some i) :
    m.callEvent? op = if (m.perform op).error? = none then i.callEvent? m.pc else none := by
  cases op with
  | step | cycle | execute j =>
    rw [callEvent?, h]
    · cases (m.perform _).error? with
      | none => rfl
      | some e => rfl
    · nofun
  | _ => cases h

/-- An attempt that fails does nothing to the open calls, and one that succeeds what the event of
its instruction says. -/
theorem openCalls_perform_of_attempted? (h : m.attempted? op = some i)
    (hd : m.calls.depth.toNat ≤ 16) :
    (m.perform op).machine.calls.depth.toNat ≤ 16 ∧
      (m.perform op).machine.calls.openCalls
        = CallEvent.applyAny m.calls.openCalls (m.callEvent? op) := by
  obtain ⟨m₀, log, hcalls, hpc, hp⟩ := perform_of_attempted? h
  rw [callEvent?_of_attempted? h, hp]
  cases he : m₀.execute i with
  | ok m' =>
    rw [← hcalls] at hd ⊢
    rw [← hpc]
    exact openCalls_of_execute he hd
  | error f => exact ⟨hd, rfl⟩

/-- An operation that attempts nothing leaves the open calls alone, unless it is a reset. -/
theorem calls_perform_of_not_attempted (hop : op.ordinary) (h : m.attempted? op = none) :
    op = .reset ∨ (m.perform op).machine.calls = m.calls ∧ m.callEvent? op = none := by
  cases op with
  | step | cycle =>
    have hf : m.fetch = .error (.unknownOpcode m.opcode.toWord m.pc) := by
      rw [fetch, show Instruction.decode? m.opcode = none from h]
    refine .inr ⟨?_, ?_⟩
    · simp only [perform, step, cycle, hf, Outcome.ofAttempt]
    · rw [callEvent?, h]
      intro hreset
      cases hreset
  | execute i => cases h
  | executeAll is => cases hop
  | setDepth n => cases hop
  | reset => exact .inl rfl
  | load program =>
    obtain ⟨memory, hmachine⟩ := exists_machine_ofLoad m [.loaded program.length] program
    refine .inr ⟨?_, rfl⟩
    rw [perform, hmachine]
  | loadFile path contents =>
    obtain ⟨memory, hmachine⟩ := exists_machine_loadFile m path contents
    refine .inr ⟨?_, rfl⟩
    rw [perform, hmachine]
  | _ => exact .inr ⟨rfl, rfl⟩

/-- An ordinary operation does to the open calls what its event says. -/
theorem openCalls_perform (hop : op.ordinary) (hd : m.calls.depth.toNat ≤ 16) :
    (m.perform op).machine.calls.depth.toNat ≤ 16 ∧
      (m.perform op).machine.calls.openCalls
        = CallEvent.applyAny m.calls.openCalls (m.callEvent? op) := by
  cases hi : m.attempted? op with
  | some i => exact openCalls_perform_of_attempted? hi hd
  | none =>
    rcases calls_perform_of_not_attempted hop hi with rfl | ⟨hcalls, hevent⟩
    · exact ⟨Nat.zero_le _, rfl⟩
    · rw [hcalls, hevent]
      exact ⟨hd, rfl⟩

/-! ### Histories -/

/-- After any history of ordinary operations, the open calls are what its events make of those
before it. -/
theorem openCalls_performAll {ops : List Operation} (hops : ∀ op ∈ ops, op.ordinary)
    (hd : m.calls.depth.toNat ≤ 16) :
    (m.performAll ops).calls.depth.toNat ≤ 16 ∧
      (m.performAll ops).calls.openCalls
        = (m.callHistory ops).foldl CallEvent.apply m.calls.openCalls := by
  induction ops generalizing m with
  | nil => exact ⟨hd, rfl⟩
  | cons op rest ih =>
    obtain ⟨hd', hopen⟩ := openCalls_perform (hops op (List.mem_cons_self ..)) hd
    have hrest := ih (fun op h => hops op (List.mem_cons_of_mem _ h)) hd'
    rw [hopen] at hrest
    rw [callHistory, List.foldl_append]
    cases he : m.callEvent? op with
    | none => rwa [he] at hrest
    | some event => rwa [he] at hrest

/-- An event leaves the sites below some depth alone if the list is longer before and after it. -/
theorem take_apply {sites : List UInt16} {event : CallEvent} {d : Nat} (h : d < sites.length)
    (h' : d < (event.apply sites).length) :
    (event.apply sites).take (d + 1) = sites.take (d + 1) := by
  cases event with
  | called site => exact List.take_append_of_le_length h
  | returned =>
    rw [CallEvent.apply, List.length_dropLast] at h'
    rw [CallEvent.apply, List.dropLast_eq_take, List.take_take, Nat.min_eq_left (by omega)]
  | forgotten => exact absurd h' (Nat.not_lt_zero d)

/-- The sites below some depth stay what they are as long as more calls than that are open. -/
theorem take_openCalls_performAll {ops : List Operation} {d : Nat}
    (hops : ∀ op ∈ ops, op.ordinary) (hd : m.calls.depth.toNat ≤ 16)
    (hdeep : ∀ k ≤ ops.length, d < (m.performAll (ops.take k)).calls.depth.toNat) :
    (m.performAll ops).calls.openCalls.take (d + 1) = m.calls.openCalls.take (d + 1) := by
  induction ops generalizing m with
  | nil => rfl
  | cons op rest ih =>
    obtain ⟨hd', hopen⟩ := openCalls_perform (hops op (List.mem_cons_self ..)) hd
    have hdeep' : ∀ k ≤ rest.length,
        d < ((m.perform op).machine.performAll (rest.take k)).calls.depth.toNat :=
      fun k hk => hdeep (k + 1) (Nat.succ_le_succ hk)
    have hrest := ih (fun op h => hops op (List.mem_cons_of_mem _ h)) hd' hdeep'
    refine hrest.trans ?_
    -- what is left is one operation, which keeps more than `d` calls open
    have hlen := CallStack.length_openCalls hd
    have hlen' := CallStack.length_openCalls hd'
    have hlt : d < m.calls.openCalls.length := hlen ▸ hdeep 0 (Nat.zero_le _)
    have hlt' : d < (m.perform op).machine.calls.openCalls.length :=
      hlen' ▸ hdeep' 0 (Nat.zero_le _)
    rw [hopen] at hlt' ⊢
    cases he : m.callEvent? op with
    | none => rfl
    | some event =>
      rw [he] at hlt'
      exact take_apply hlt hlt'

/-! ### The call stack as a bounded stack of call sites -/

/-- A return that closes the call before `between` goes on after it. -/
theorem pc_perform_of_closes {first last : Operation} {between : List Operation} {a : UInt16}
    (hd : m.calls.depth.toNat ≤ 16) (hfirst : m.attempted? first = some (.call a))
    (hmade : (m.perform first).error? = none) (hbetween : ∀ op ∈ between, op.ordinary)
    (hdeep : ∀ k ≤ between.length, m.calls.depth.toNat
      < ((m.perform first).machine.performAll (between.take k)).calls.depth.toNat)
    (hlast : ((m.perform first).machine.performAll between).attempted? last = some .ret)
    (hclosed : (((m.perform first).machine.performAll between).perform last).machine.calls.depth
      = m.calls.depth) :
    (((m.perform first).machine.performAll between).perform last).machine.pc = m.pc + 2 := by
  obtain ⟨hd₁, hopen₁⟩ := openCalls_perform_of_attempted? hfirst hd
  rw [callEvent?_of_attempted? hfirst, if_pos hmade] at hopen₁
  change _ = m.calls.openCalls ++ [m.pc] at hopen₁
  have hlen : (m.calls.openCalls ++ [m.pc]).length = m.calls.depth.toNat + 1 := by
    rw [List.length_append, CallStack.length_openCalls hd, List.length_singleton]
  -- the call and what was open before it is what is open below the depth that it was made at
  have htake := take_openCalls_performAll hbetween hd₁ hdeep
  rw [hopen₁, ← hlen, List.take_length, hlen] at htake
  have hd₂ := (openCalls_performAll hbetween hd₁).1
  have hdeep₂ := hdeep between.length (Nat.le_refl _)
  rw [List.take_length] at hdeep₂
  generalize (m.perform first).machine.performAll between = m₂ at *
  -- the depth has changed, so the return was not refused
  have hne : (m₂.perform last).machine.calls.depth ≠ m₂.calls.depth := by
    rw [hclosed]
    exact fun h => absurd (congrArg UInt8.toNat h) (Nat.ne_of_lt hdeep₂)
  obtain ⟨site, hpop, hpc⟩ := exists_of_perform_ret hlast hne
  have hdepth := CallStack.depth_of_pop? hpop
  rw [hclosed] at hdepth
  rw [← hdepth, ← CallStack.length_openCalls hd₂, List.take_length,
    CallStack.openCalls_of_pop? hpop] at htake
  obtain ⟨-, hsite⟩ := List.append_inj' htake rfl
  obtain rfl := List.head_eq_of_cons_eq hsite
  exact hpc

/-- After every history of ordinary operations of a machine that has just been made, at most 16
calls are open, the slots below the depth are the sites of the calls that were not returned from, a
call is made iff there are fewer than 16 of them, and a return iff there is one. A return that
closes a call goes on after its site, whatever happens as long as the call is open. -/
theorem calls_refine_bounded_stack (random : RandomSource) (ops : List Operation)
    (hops : ∀ op ∈ ops, op.ordinary) :
    let m := (initial random).performAll ops
    let sites := unreturned ((initial random).callHistory ops)
    m.calls.depth.toNat ≤ 16 ∧
      m.calls.depth.toNat = sites.length ∧
      m.calls.slots.toList.take m.calls.depth.toNat = sites ∧
      (∀ op a, m.attempted? op = some (.call a) →
        ((m.perform op).error? = none ↔ sites.length < 16)) ∧
      (∀ op, m.attempted? op = some .ret → ((m.perform op).error? = none ↔ sites ≠ [])) ∧
      ∀ first a between last,
        m.attempted? first = some (.call a) →
        (m.perform first).error? = none →
        (∀ op ∈ between, op.ordinary) →
        (∀ k ≤ between.length, m.calls.depth.toNat
          < ((m.perform first).machine.performAll (between.take k)).calls.depth.toNat) →
        let m' := (m.perform first).machine.performAll between
        m'.attempted? last = some .ret →
        (m'.perform last).machine.calls.depth = m.calls.depth →
        (m'.perform last).machine.pc = m.pc + 2 := by
  intro m sites
  obtain ⟨hd, hopen⟩ := openCalls_performAll (m := initial random) hops (Nat.zero_le _)
  change m.calls.depth.toNat ≤ 16 at hd
  change m.calls.openCalls = sites at hopen
  have hlen : m.calls.depth.toNat = sites.length := by
    rw [← hopen, CallStack.length_openCalls hd]
  refine ⟨hd, hlen, hopen, ?_, ?_, ?_⟩
  · intro op a h
    rw [error?_perform_call_iff h, hlen]
  · intro op h
    rw [error?_perform_ret_iff h, hlen, ne_eq, List.length_eq_zero_iff]
    exact and_iff_left (hlen ▸ hd)
  · intro first a between last hfirst hmade hbetween hdeep m' hlast hclosed
    exact pc_perform_of_closes hd hfirst hmade hbetween hdeep hlast hclosed

/-- A call made inside another, during which a third is made and returned from. -/
theorem calls_refine_bounded_stack_nested :
    let m := (initial (.ofSeed 0)).performAll [.execute (.call 0x250)]
    let m' := (m.perform (.execute (.call 0x300))).machine.performAll
      [.execute (.call 0x400), .execute .ret]
    m.pc = 0x250 ∧ m'.calls.depth = 2 ∧ (m'.perform (.execute .ret)).machine.pc = 0x250 + 2 := by
  obtain ⟨-, -, -, -, -, hreturn⟩ :=
    calls_refine_bounded_stack (.ofSeed 0) [.execute (.call 0x250)] (by decide)
  refine ⟨rfl, rfl, hreturn (.execute (.call 0x300)) 0x300 [.execute (.call 0x400), .execute .ret]
    (.execute .ret) rfl rfl (by decide) ?_ rfl rfl⟩
  decide

end Machine

end Chip8
