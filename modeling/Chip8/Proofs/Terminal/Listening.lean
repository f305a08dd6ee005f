import Chip8.Terminal.Keyboard
import Mathlib.Data.List.ReduceOption

/-!
# Listening for keys while the program runs

Two parties share a key buffer: a listener, which handles the events of the terminal one after the
other, and the main loop, which asks for commands and reads the keys. Their moves may follow each
other in any order and at any times. An `Exchange` is both of them together, with a record of what
has been handled and of what the main loop was told, and `Exchange.run` lets them make the moves of
a schedule.

`Exchange.Accounts` is what every move keeps (`accounts_act`): the commands that the main loop was
given and those that are still queued are, one after the other, the commands among the events
handled, and the buffer remembers of each key when it was last pressed by one of these. What the
main loop reads follows from that (`isPressed_pollKeys_iff`).
-/

namespace Chip8

namespace Keypad

/-! ### Setting all keys -/

/-- Keypads on which the same keys are down are the same. -/
theorem eq_of_isPressed_eq {k k' : Keypad} (h : ∀ key, k.isPressed key = k'.isPressed key) :
    k = k' := by
  obtain ⟨down⟩ := k
  obtain ⟨down'⟩ := k'
  refine congrArg mk (Vector.ext fun n hn => ?_)
  have hkey := h (UInt8.ofNat n)
  have hnat : (UInt8.ofNat n).toNat = n := UInt8.toNat_ofNat_of_lt' (Nat.lt_trans hn (by decide))
  simpa [isPressed, hnat, hn] using hkey

/-- Sets some of the keys one after the other as they are on another keypad. -/
def setEach (k held : Keypad) (keys : List UInt8) : Keypad :=
  keys.foldl (fun k key => k.set key (held.isPressed key)) k

theorem isPressed_setEach (k held : Keypad) (keys : List UInt8) (key : UInt8) :
    (k.setEach held keys).isPressed key
      = if key ∈ keys then held.isPressed key else k.isPressed key := by
  induction keys generalizing k with
  | nil => rfl
  | cons first rest ih =>
    have hset : (k.set first (held.isPressed first)).isPressed key
        = if first = key then held.isPressed key else k.isPressed key := by
      rw [isPressed_set]
      by_cases hfirst : first = key
      · subst hfirst
        rw [if_pos rfl]
        split
        · rfl
        · next h =>
          -- a number that names no key is down on neither
          have hlarge : 16 ≤ first.toNat := Nat.not_lt.1 fun hlt => h ⟨rfl, hlt⟩
          rw [isPressed_of_le _ hlarge, isPressed_of_le _ hlarge]
      · rw [if_neg hfirst, if_neg fun h => hfirst h.1]
    refine (ih _).trans ?_
    rw [hset]
    by_cases hrest : key ∈ rest
    · rw [if_pos hrest, if_pos (List.mem_cons_of_mem first hrest)]
    · rw [if_neg hrest]
      by_cases hfirst : first = key
      · rw [if_pos hfirst, if_pos (List.mem_cons.2 (.inl hfirst.symm))]
      · have hnot : key ∉ first :: rest := by
          rw [List.mem_cons]
          rintro (h | h)
          · exact hfirst h.symm
          · exact hrest h
        rw [if_neg hfirst, if_neg hnot]

/-- The numbers of the keys. -/
def all : List UInt8 :=
  (List.range 16).map UInt8.ofNat

/-- Setting every key leaves nothing of what was there before. -/
theorem setEach_all (k held : Keypad) : k.setEach held all = held := by
  refine eq_of_isPressed_eq fun key => ?_
  rw [isPressed_setEach]
  split
  · rfl
  · next h =>
    have hlarge : 16 ≤ key.toNat := by
      by_contra hlt
      refine h (List.mem_map.2 ⟨key.toNat, List.mem_range.2 (Nat.lt_of_not_le hlt), ?_⟩)
      exact UInt8.ofNat_toNat
    rw [isPressed_of_le _ hlarge, isPressed_of_le _ hlarge]

end Keypad

namespace Terminal

/-! ### Keys and commands -/

namespace KeyCode

/-- The key of the keypad that an event presses: a key that is a command presses none. -/
def pressed? (code : KeyCode) : Option UInt8 :=
  if code.command?.isSome then none else code.key?

theorem pressed?_eq_some_iff {code : KeyCode} {key : UInt8} :
    code.pressed? = some key
      ↔ ∃ c, code = char c ∧ (char c).command? = none ∧ keyOfChar? c = some key := by
  rw [pressed?]
  split
  · next h =>
    refine ⟨nofun, ?_⟩
    rintro ⟨c, rfl, hc, -⟩
    rw [hc] at h
    cases h
  · next h =>
    rw [Option.not_isSome_iff_eq_none] at h
    cases code with
    | char c =>
      constructor
      · intro hkey
        exact ⟨c, rfl, h, hkey⟩
      · rintro ⟨d, hd, -, hkey⟩
        cases hd
        exact hkey
    | _ =>
      refine ⟨nofun, ?_⟩
      rintro ⟨c, hc, -⟩
      cases hc

/-- What stands for a key of the keypad stands for one that there is. -/
theorem toNat_lt_of_keyOfChar? {c : Char} {key : UInt8} (h : keyOfChar? c = some key) :
    key.toNat < 16 := by
  unfold keyOfChar? at h
  split at h
  all_goals cases h
  all_goals decide

end KeyCode

namespace KeyBuffer

variable (b : KeyBuffer)

/-- When a key was last pressed, if there is such a key and it was. -/
def lastPress? (key : UInt8) : Option ℕ :=
  b.lastPressed[key.toNat]?.join

theorem lastPress?_empty (timeout : ℕ) (key : UInt8) : (empty timeout).lastPress? key = none := by
  rw [lastPress?, empty, Vector.getElem?_replicate]
  split
  · rfl
  · rfl

theorem lastPress?_press (pressed key : UInt8) (time : ℕ) (h : pressed.toNat < 16) :
    (b.press pressed time).lastPress? key
      = if pressed = key then some time else b.lastPress? key := by
  rw [press, dif_pos h, lastPress?, Vector.getElem?_set, lastPress?]
  by_cases hkey : pressed = key
  · subst hkey
    rw [if_pos rfl, if_pos rfl]
    rfl
  · rw [if_neg hkey, if_neg fun e => hkey (UInt8.toNat_inj.1 e)]

/-- What an event does to the buffer. -/
theorem receive_eq (code : KeyCode) (time : ℕ) :
    (b.receive code time).timeout = b.timeout ∧
      (b.receive code time).commands = b.commands ++ code.command?.toList ∧
      ∀ key, (b.receive code time).lastPress? key
        = if code.pressed? = some key then some time else b.lastPress? key := by
  rw [receive, KeyCode.pressed?]
  cases code.command? with
  | some command => exact ⟨rfl, rfl, fun key => rfl⟩
  | none =>
    cases hkey : code.key? with
    | none => exact ⟨rfl, (List.append_nil _).symm, fun key => rfl⟩
    | some pressed =>
      have hlt : pressed.toNat < 16 := by
        cases code with
        | char c => exact KeyCode.toNat_lt_of_keyOfChar? hkey
        | _ => cases hkey
      have hpress : (b.press pressed time).timeout = b.timeout ∧
          (b.press pressed time).commands = b.commands := by
        rw [press, dif_pos hlt]
        exact ⟨rfl, rfl⟩
      refine ⟨hpress.1, hpress.2.trans (List.append_nil _).symm, fun key => ?_⟩
      refine (lastPress?_press b pressed key time hlt).trans ?_
      simp

theorem isPressed_held (time : ℕ) (key : UInt8) :
    (b.held time).isPressed key
      = (b.lastPress? key).any fun pressed => time - pressed < b.timeout := by
  rw [Keypad.isPressed, held, Vector.getElem?_map, lastPress?]
  cases b.lastPressed[key.toNat]? with
  | none => rfl
  | some pressed => rfl

end KeyBuffer

/-- Reading the keyboard sets every key of the keypad, one after the other, as the buffer has it. -/
theorem Keyboard.poll_eq_setEach (k : Keyboard) (keypad : Keypad) :
    (KeySource.poll k keypad).1 = keypad.setEach (k.buffer.held k.time) Keypad.all :=
  (Keypad.setEach_all keypad (k.buffer.held k.time)).symm

/-! ### The two parties -/

/-- What happens next. -/
inductive Move where
  /-- The listener handles an event, if one has arrived. -/
  | listen
  /-- The main loop asks for a command. -/
  | nextCommand
  /-- The main loop reads the keys. -/
  | pollKeys
deriving DecidableEq, Repr

/-- A listener and a main loop that share a key buffer. -/
structure Exchange where
  /-- The events that the listener has yet to handle. -/
  pending : List KeyCode
  /-- The events handled, with the times at which they were. -/
  handled : List (ℕ × KeyCode)
  /-- The buffer. -/
  buffer : KeyBuffer
  /-- What the main loop was told each time it asked for a command. -/
  answers : List (Option Command)
  /-- The keypad of the machine. -/
  keypad : Keypad

namespace Exchange

/-- The exchange before its first move: the events are on their way, and the buffer is empty. -/
def start (events : List KeyCode) (timeout : ℕ) (keypad : Keypad) : Exchange :=
  ⟨events, [], .empty timeout, [], keypad⟩

/-- Makes a move at some time. -/
def act (x : Exchange) (time : ℕ) : Move → Exchange
  | .listen =>
    match x.pending with
    | [] => x
    | code :: rest =>
      { x with
        pending := rest
        handled := x.handled ++ [(time, code)]
        buffer := x.buffer.receive code time }
  | .nextCommand =>
    { x with answers := x.answers ++ [x.buffer.pop.1], buffer := x.buffer.pop.2 }
  | .pollKeys => { x with keypad := (KeySource.poll (⟨x.buffer, time⟩ : Keyboard) x.keypad).1 }

/-- Makes the moves of a schedule. -/
def run (x : Exchange) (schedule : List (ℕ × Move)) : Exchange :=
  schedule.foldl (fun x move => x.act move.1 move.2) x

/-- How often the listener has its turn. -/
def listens (schedule : List (ℕ × Move)) : ℕ :=
  schedule.countP (·.2 = .listen)

/-- The events handled, without their times. -/
def codes (x : Exchange) : List KeyCode :=
  x.handled.map Prod.snd

/-- The commands that the main loop was given. -/
def returned (x : Exchange) : List Command :=
  x.answers.reduceOption

/-- When a key was last pressed by one of some events. -/
def lastPressIn? (handled : List (ℕ × KeyCode)) (key : UInt8) : Option ℕ :=
  (handled.filter fun e => e.2.pressed? = some key).getLast?.map Prod.fst

theorem lastPressIn?_append (handled : List (ℕ × KeyCode)) (e : ℕ × KeyCode) (key : UInt8) :
    lastPressIn? (handled ++ [e]) key
      = if e.2.pressed? = some key then some e.1 else lastPressIn? handled key := by
  rw [lastPressIn?, List.filter_append, List.filter_singleton]
  by_cases h : e.2.pressed? = some key
  · rw [if_pos h, decide_eq_true h]
    exact congrArg _ List.getLast?_concat
  · rw [if_neg h, decide_eq_false h]
    exact congrArg (fun l => (List.getLast? l).map Prod.fst) (List.append_nil _)

/-- What the parties have done so far adds up, after the listener has had its turn `n` times. -/
structure Accounts (events : List KeyCode) (timeout n : ℕ) (x : Exchange) : Prop where
  timeout_eq : x.buffer.timeout = timeout
  codes_eq : x.codes = events.take n
  pending_eq : x.pending = events.drop n
  commands_eq : x.returned ++ x.buffer.commands = x.codes.filterMap KeyCode.command?
  lastPress_eq : ∀ key, x.buffer.lastPress? key = lastPressIn? x.handled key

theorem accounts_start (events : List KeyCode) (timeout : ℕ) (keypad : Keypad) :
    Accounts events timeout 0 (start events timeout keypad) where
  timeout_eq := rfl
  codes_eq := rfl
  pending_eq := rfl
  commands_eq := rfl
  lastPress_eq key := KeyBuffer.lastPress?_empty timeout key

section

variable {events : List KeyCode} {timeout n : ℕ} {x : Exchange}

/-- An event that is handled leaves the queue of those on their way. -/
theorem accounts_listen (h : Accounts events timeout n x) (time : ℕ) :
    Accounts events timeout (n + 1) (x.act time .listen) := by
  rw [act]
  cases hpending : x.pending with
  | nil =>
    -- no event is left, and one turn more of the listener changes nothing
    have hlen : events.length ≤ n := by
      rw [← List.drop_eq_nil_iff, ← h.pending_eq, hpending]
    refine { h with codes_eq := ?_, pending_eq := ?_ }
    · rw [h.codes_eq, List.take_of_length_le hlen, List.take_of_length_le (Nat.le_succ_of_le hlen)]
    · rw [h.pending_eq, List.drop_eq_nil_of_le hlen,
        List.drop_eq_nil_of_le (Nat.le_succ_of_le hlen)]
  | cons code rest =>
    have hdrop : events.drop n = code :: rest := h.pending_eq.symm.trans hpending
    have hcodes : (x.handled ++ [(time, code)]).map Prod.snd = x.codes ++ [code] :=
      List.map_append
    obtain ⟨htimeout, hcommands, hpress⟩ := x.buffer.receive_eq code time
    constructor
    case timeout_eq => exact htimeout.trans h.timeout_eq
    case codes_eq =>
      refine hcodes.trans ?_
      rw [h.codes_eq, List.take_add, hdrop]
      rfl
    case pending_eq =>
      exact (congrArg List.tail hdrop).symm.trans List.tail_drop
    case commands_eq =>
      show x.returned ++ (x.buffer.receive code time).commands = List.filterMap _ (List.map _ _)
      rw [hcommands, ← List.append_assoc, h.commands_eq, hcodes, List.filterMap_append]
      cases hcommand : code.command? with
      | none => rw [List.filterMap_cons_none hcommand]; rfl
      | some command => rw [List.filterMap_cons_some hcommand]; rfl
    case lastPress_eq =>
      intro key
      rw [lastPressIn?_append, ← h.lastPress_eq]
      exact hpress key

/-- The answer to a request for a command is the first in the queue, which loses it. -/
theorem accounts_nextCommand (h : Accounts events timeout n x) (time : ℕ) :
    Accounts events timeout n (x.act time .nextCommand) := by
  refine { h with commands_eq := Eq.trans ?_ h.commands_eq }
  show (x.answers ++ [x.buffer.commands.head?]).reduceOption ++ x.buffer.commands.tail = _
  rw [List.reduceOption_append, List.append_assoc]
  cases x.buffer.commands with
  | nil => rfl
  | cons command rest => rfl

/-- Every move keeps the accounts. -/
theorem accounts_act (h : Accounts events timeout n x) (time : ℕ) (move : Move) :
    Accounts events timeout (n + listens [(time, move)]) (x.act time move) := by
  cases move with
  | listen => exact accounts_listen h time
  | nextCommand => exact accounts_nextCommand h time
  | pollKeys => exact { h with }

/-- The accounts hold after every schedule. -/
theorem accounts_run (h : Accounts events timeout n x) (schedule : List (ℕ × Move)) :
    Accounts events timeout (n + listens schedule) (x.run schedule) := by
  induction schedule generalizing n x with
  | nil => exact h
  | cons move rest ih =>
    have hcount : listens (move :: rest) = listens [move] + listens rest :=
      @List.countP_append _ _ [move] rest
    rw [hcount, ← Nat.add_assoc]
    exact ih (accounts_act h move.1 move.2)

/-! ### What the main loop reads -/

theorem keypad_pollKeys (time : ℕ) : (x.act time .pollKeys).keypad = x.buffer.held time :=
  rfl

/-- A key is down iff it counts as held since it was last pressed. -/
theorem isPressed_pollKeys (h : Accounts events timeout n x) (time : ℕ) (key : UInt8) :
    (x.act time .pollKeys).keypad.isPressed key
      = (lastPressIn? x.handled key).any fun pressed => time - pressed < timeout := by
  rw [keypad_pollKeys, KeyBuffer.isPressed_held, h.lastPress_eq, h.timeout_eq]

/-- While no press has expired, exactly the keys are down that an event has pressed. -/
theorem isPressed_pollKeys_iff (h : Accounts events timeout n x) {time : ℕ}
    (hheld : ∀ e ∈ x.handled, time - e.1 < timeout) (key : UInt8) :
    (x.act time .pollKeys).keypad.isPressed key = true
      ↔ ∃ c, .char c ∈ x.codes ∧ (KeyCode.char c).command? = none ∧
        KeyCode.keyOfChar? c = some key := by
  rw [isPressed_pollKeys h, lastPressIn?]
  constructor
  · intro hany
    obtain ⟨pressed, hlast, -⟩ := (Option.any_eq_true _ _).1 hany
    obtain ⟨e, he, -⟩ := Option.map_eq_some_iff.1 hlast
    obtain ⟨hmem, hkey⟩ := List.mem_filter.1 (List.mem_of_getLast? he)
    obtain ⟨c, hc, hplain⟩ := KeyCode.pressed?_eq_some_iff.1 (of_decide_eq_true hkey)
    exact ⟨c, hc ▸ List.mem_map_of_mem hmem, hplain⟩
  · rintro ⟨c, hmem, hplain⟩
    obtain ⟨e, he, hc⟩ := List.mem_map.1 hmem
    have hkey : e.2.pressed? = some key := KeyCode.pressed?_eq_some_iff.2 ⟨c, hc, hplain⟩
    have hfilter : e ∈ x.handled.filter fun e => e.2.pressed? = some key :=
      List.mem_filter.2 ⟨he, decide_eq_true hkey⟩
    rw [List.getLast?_eq_getLast_of_ne_nil (List.ne_nil_of_mem hfilter)]
    have hlast := List.getLast_mem (List.ne_nil_of_mem hfilter)
    exact decide_eq_true (hheld _ (List.mem_filter.1 hlast).1)

/-- A press that does not count as held at all presses nothing. -/
theorem keypad_pollKeys_of_timeout_zero (h : Accounts events 0 n x) (time : ℕ) :
    (x.act time .pollKeys).keypad = .released := by
  refine Keypad.eq_of_isPressed_eq fun key => ?_
  rw [isPressed_pollKeys h, Keypad.isPressed_released]
  cases lastPressIn? x.handled key with
  | none => rfl
  | some pressed => exact decide_eq_false (Nat.not_lt_zero (time - pressed))

/-- The queue holds the commands among the events handled that have not been given out yet. -/
theorem commands_eq_drop (h : Accounts events timeout n x) :
    x.buffer.commands = (x.codes.filterMap KeyCode.command?).drop x.returned.length := by
  rw [← h.commands_eq, List.drop_left]

/-- An event that is a command leaves the keys alone. -/
theorem lastPressed_listen_of_command {code : KeyCode} {rest : List KeyCode}
    (hpending : x.pending = code :: rest) (hcommand : code.command?.isSome) (time : ℕ) :
    (x.act time .listen).buffer.lastPressed = x.buffer.lastPressed := by
  obtain ⟨command, hcommand⟩ := Option.isSome_iff_exists.1 hcommand
  rw [act, hpending]
  show (x.buffer.receive code time).lastPressed = _
  rw [KeyBuffer.receive, hcommand]
  rfl

end

/-- Events are neither lost nor handled twice, and each reaches what it is meant for. After any
schedule the listener has handled the events from the first on, one each time it had its turn. The
commands given to the main loop are a prefix of those among the events, those still queued are the
rest of those handled, and the next one given is the first of these. An event that is a command
presses no key. Reading the keys sets each of them; while no press has expired exactly those keys
are down that events which are not commands stand for, and if presses do not last, none is. -/
theorem run_delivers (events : List KeyCode) (timeout : ℕ) (keypad : Keypad)
    (schedule : List (ℕ × Move)) :
    let x := (start events timeout keypad).run schedule
    let commands := x.codes.filterMap KeyCode.command?
    (x.codes = events.take (listens schedule) ∧ x.pending = events.drop (listens schedule)) ∧
    (x.returned <+: events.filterMap KeyCode.command? ∧
      x.returned ++ x.buffer.commands = commands) ∧
    (∀ time, (x.act time .nextCommand).answers
      = x.answers ++ [(commands.drop x.returned.length).head?]) ∧
    (∀ time code rest, x.pending = code :: rest → code.command?.isSome →
      (x.act time .listen).buffer.lastPressed = x.buffer.lastPressed) ∧
    ∀ time,
      let polled := (x.act time .pollKeys).keypad
      polled = x.keypad.setEach (x.buffer.held time) Keypad.all ∧
      ((∀ e ∈ x.handled, time - e.1 < timeout) → ∀ key, polled.isPressed key = true
        ↔ ∃ c, .char c ∈ x.codes ∧ (KeyCode.char c).command? = none ∧
          KeyCode.keyOfChar? c = some key) ∧
      (timeout = 0 → polled = .released) := by
  intro x commands
  have h : Accounts events timeout (0 + listens schedule) x :=
    accounts_run (accounts_start events timeout keypad) schedule
  rw [Nat.zero_add] at h
  have hgiven : x.returned <+: events.filterMap KeyCode.command? := by
    have hhandled : commands <+: events.filterMap KeyCode.command? := by
      show List.filterMap _ x.codes <+: _
      rw [h.codes_eq]
      exact (List.take_prefix _ events).filterMap _
    exact (h.commands_eq ▸ List.prefix_append x.returned x.buffer.commands).trans hhandled
  refine ⟨⟨h.codes_eq, h.pending_eq⟩, ⟨hgiven, h.commands_eq⟩, fun time => ?_,
    fun time code rest hpending hcommand => lastPressed_listen_of_command hpending hcommand time,
    fun time => ?_⟩
  · show _ ++ [x.buffer.commands.head?] = _
    rw [commands_eq_drop h]
  · refine ⟨Keyboard.poll_eq_setEach ⟨x.buffer, time⟩ x.keypad,
      fun hheld => isPressed_pollKeys_iff h hheld, fun htimeout => ?_⟩
    subst htimeout
    exact keypad_pollKeys_of_timeout_zero h time

/-- A capital `Q` and a `p` are handled, and the main loop asks for two commands: the first answer
is that of `p`, there is no second, and only the key of `Q` is down. -/
theorem run_delivers_of_two_events :
    let events : List KeyCode := [.char 'Q', .char 'p', .escape]
    let x := (start events 300 .released).run
      [(0, .listen), (20, .pollKeys), (50, .listen), (60, .nextCommand), (61, .nextCommand)]
    x.answers = [some .togglePause, none] ∧ x.returned <+: [.togglePause, .quit] ∧
      x.pending = [.escape] ∧
      ∀ key, (x.act 100 .pollKeys).keypad.isPressed key = true ↔ key = 0x4 := by
  intro events x
  have hgiven : x.answers = [some .togglePause, none] := rfl
  have hcodes : x.codes = [.char 'Q', .char 'p'] := rfl
  obtain ⟨⟨-, hpending⟩, ⟨hreturned, -⟩, -, -, hpoll⟩ := run_delivers events 300 .released
    [(0, .listen), (20, .pollKeys), (50, .listen), (60, .nextCommand), (61, .nextCommand)]
  refine ⟨hgiven, hreturned, hpending, fun key => ?_⟩
  refine ((hpoll 100).2.1 (by decide) key).trans ?_
  show (∃ c, .char c ∈ x.codes ∧ _) ↔ _
  rw [hcodes]
  constructor
  · rintro ⟨c, hc, hplain, hkey⟩
    rcases List.mem_pair.1 hc with hc | hc
    · cases hc
      exact Option.some.inj hkey.symm
    · cases hc
      cases hplain
  · rintro rfl
    exact ⟨'Q', by decide, by decide, by decide⟩

end Exchange

end Terminal

end Chip8
