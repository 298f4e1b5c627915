import Greeter.Session
import Greeter.Proofs.Alternator
import Greeter.Proofs.Panel

/-!
# The wire trace of a session

What a session puts on the wire can be said without the panel, the display interface or the
alternator's code: every step has a fixed list of writes, and the bus tries them in one batch.

**The flat model** (`FlatSession`). Its state is the bus (fault plan, attempt count, log) and the
greeting and count of the alternator. A step sends its nominal writes, spelled out byte by byte in
`FlatSession.writes`, through `Bus.writeAll`: they are tried at consecutive attempts from the
running total, the first attempt that the plan fails stops the batch with the bus error of the
first fault listed for it, the writes before it are logged, and every attempt made is counted. A
tick whose batch went through reports the greeting and the count and moves both on; resetting the
alternator sends nothing.

**Theorem (`Session.replay_wire_eq_flat`).** For every fault plan and every list of steps, each
answer of a session has the result, the writes and the attempt total of the flat model's answer.

The proof is a simulation through the abstraction `Session.flat`, which forgets the panel's
handshake mark. One step commutes with it (`Session.flat_step`): each panel operation is a batch
(`Panel.run_issue`), a tick is the batch of the update cycle of the greeting shown, and a panel
built anew keeps its bus. The replay follows by induction over the steps.
-/

namespace Greeter

/-- The flat model of a session: the bus, and the greeting and count of the alternator. -/
structure FlatSession where
  bus : Bus
  greeting : Greeting := .hello
  -- completed ticks, modulo `2^32`
  completed : UInt32 := 0

namespace FlatSession

/-! ## Nominal writes -/

/-- The cursor reset. -/
def cursorWrite : Transfer := ⟨62, [128, 128]⟩

/-- A text write: the marker, then the message. -/
def textWrite (m : Message) : Transfer := ⟨62, 64 :: m.bytes⟩

/-- The three channel writes of a colour: blue, red, green. -/
def colorWrites (c : Color) : List Transfer :=
  [⟨98, [2, c.blue]⟩, ⟨98, [4, c.red]⟩, ⟨98, [3, c.green]⟩]

/-- The writes of the update cycle of a greeting. -/
def cycleWrites (g : Greeting) : List Transfer :=
  cursorWrite :: textWrite g.message :: colorWrites g.color

/-- The writes a step makes when none of them fails, given the greeting the alternator shows. -/
def writes (shown : Greeting) : Step → List Transfer
  | .initLcd => [⟨62, [0, 1]⟩, ⟨62, [0, 56]⟩, ⟨62, [0, 15]⟩]
  | .resetCursor => [cursorWrite]
  | .writeText m => [textWrite m]
  | .setColor c => colorWrites c
  | .showGreeting g => cycleWrites g
  | .tick | .tickOnFreshPanel => cycleWrites shown
  | .renewPanel | .renewAlternator | .observe => []

/-- The nominal writes are the transfers of the commands the step sends. -/
theorem writes_eq_map_transfer (shown : Greeting) (st : Step) :
    writes shown st = (st.commands shown).map Command.transfer := by
  cases st <;> rfl

/-! ## Steps and replay -/

/-- What a step answers when its batch went through: a tick reports the greeting shown and the
count, every other step answers `done`. -/
def reply (f : FlatSession) : Step → Reply
  | .tick | .tickOnFreshPanel => .ticked ⟨f.completed, f.greeting, f.greeting.message, f.greeting.color⟩
  | _ => .done

/-- How a step whose batch went through moves the alternator: a tick toggles the greeting and
counts, a reset starts it over. -/
def advance (f : FlatSession) : Step → FlatSession
  | .tick | .tickOnFreshPanel => { f with greeting := f.greeting.toggled, completed := f.completed + 1 }
  | .renewAlternator => { bus := f.bus }
  | _ => f

/-- One step of the flat model: its nominal writes as one batch; only a batch that went through
moves the alternator. -/
def step (f : FlatSession) (st : Step) : Except BusError Reply × FlatSession :=
  match f.bus.writeAll (writes f.greeting st) with
  | (.ok (), bus) => (.ok (f.reply st), { f.advance st with bus })
  | (.error e, bus) => (.error e, { f with bus })

theorem bus_step (f : FlatSession) (st : Step) :
    (f.step st).2.bus = (f.bus.writeAll (writes f.greeting st)).2 := by
  cases h : f.bus.writeAll (writes f.greeting st) with
  | mk r bus => cases r <;> simp [step, h]

theorem fst_step (f : FlatSession) (st : Step) :
    (f.step st).1 = (f.bus.writeAll (writes f.greeting st)).1.map fun () => f.reply st := by
  cases h : f.bus.writeAll (writes f.greeting st) with
  | mk r bus => cases r <;> simp [step, h, Except.map]

/-- A step that does not move the alternator changes only the bus. -/
theorem step_of_advance_eq {f : FlatSession} {st : Step} (h : f.advance st = f) :
    f.step st =
      ((f.bus.writeAll (writes f.greeting st)).1.map fun () => f.reply st,
        { f with bus := (f.bus.writeAll (writes f.greeting st)).2 }) := by
  cases hw : f.bus.writeAll (writes f.greeting st) with
  | mk r bus => cases r <;> simp [step, hw, h, Except.map]

theorem step_tickOnFreshPanel (f : FlatSession) : f.step .tickOnFreshPanel = f.step .tick := rfl

/-- Answers each step with its result, the writes it logged and the attempt total after it; a
step that could not be built sends nothing. -/
def replay {ε : Type} (f : FlatSession) :
    List (Except ε Step) → List (Except ε (Except BusError Reply) × List Transfer × Nat)
  | [] => []
  | .error e :: rest => (.error e, [], f.bus.attempts) :: f.replay rest
  | .ok st :: rest =>
    let (r, f') := f.step st
    (.ok r, f'.bus.log.drop f.bus.log.length, f'.bus.attempts) :: f'.replay rest

end FlatSession

/-- What the wire shows of an answer: the result, the writes and the attempt total. -/
def Entry.wire {ε : Type} (e : Entry ε) : Except ε (Except BusError Reply) × List Transfer × Nat :=
  (e.result, e.writes, e.attempts)

namespace Session

/-- The flat model's view of a session: it forgets the panel's handshake mark. -/
def flat (s : Session) : FlatSession := ⟨s.panel.bus, s.alternator.greeting, s.alternator.completed⟩

@[simp] theorem flat_renewPanel (s : Session) : s.renewPanel.flat = s.flat := rfl

/-! ## One step -/

theorem operate_eq {s : Session} {op : DeviceM Panel Unit} {r : Except BusError Unit} {p : Panel}
    (h : op.run.run s.panel = pure (r, p)) :
    s.operate op = (r.map fun () => .done, { s with panel := p }) := by
  rw [operate, h]
  rfl

/-- A panel operation that runs as the batch of a step's nominal writes is that step of the flat
model, for a step that leaves the alternator alone. -/
theorem flat_operate {s : Session} {st : Step} {op : DeviceM Panel Unit} {r : Except BusError Unit}
    {p : Panel} (hst : s.step st = s.operate op) (hrun : op.run.run s.panel = pure (r, p))
    (hbus : s.flat.bus.writeAll (FlatSession.writes s.flat.greeting st) = (r, p.bus))
    (hadv : s.flat.advance st = s.flat) (hreply : s.flat.reply st = .done) :
    Prod.map id flat (s.step st) = s.flat.step st := by
  rw [hst, operate_eq hrun, FlatSession.step_of_advance_eq hadv, hbus, hreply]
  rfl

/-- A tick is the batch of the update cycle of the greeting shown. -/
theorem flat_tick (s : Session) : Prod.map id flat s.tick = s.flat.step .tick := by
  have hrun := Panel.run_issue (Command.cycle s.alternator.greeting.appearance) s.panel
  rw [← Panel.showGreeting_eq_issue] at hrun
  simp only [FlatSession.step, FlatSession.writes_eq_map_transfer, Step.commands, flat]
  cases hw : s.panel.bus.writeAll ((Command.cycle s.alternator.greeting.appearance).map Command.transfer) with
  | mk r b =>
    rw [hw] at hrun
    cases r with
    | ok u =>
      rw [tick, Alternator.run_tick_of_ok hrun]
      rfl
    | error e =>
      rw [tick, Alternator.run_tick_of_error hrun]
      rfl

/-- **One step of a session is one step of the flat model.** -/
theorem flat_step (s : Session) (st : Step) : Prod.map id flat (s.step st) = s.flat.step st := by
  cases st with
  -- the panel operations are batches of their nominal writes
  | initLcd => exact flat_operate rfl (Panel.run_initLcd _) rfl rfl rfl
  | resetCursor => exact flat_operate rfl (Panel.run_issue [.cursorReset] _) rfl rfl rfl
  | writeText m => exact flat_operate rfl (Panel.run_issue [.text m] _) rfl rfl rfl
  | setColor c => exact flat_operate rfl (Panel.run_issue (Command.colorCommands c) _) rfl rfl rfl
  | showGreeting g =>
    exact flat_operate (by rw [step, Panel.showGreeting_eq_issue])
      (Panel.run_issue (Command.cycle g.appearance) _) rfl rfl rfl
  | tick => exact flat_tick s
  | tickOnFreshPanel =>
    -- a tick on a panel built anew on the same bus: rebuilding forgets only the mark
    have h := flat_tick s.renewPanel
    rw [flat_renewPanel, ← FlatSession.step_tickOnFreshPanel] at h
    rw [← h, step]
    obtain ⟨r, s'⟩ := s.renewPanel.tick
    rfl
  | renewPanel =>
    simp [step, FlatSession.step, FlatSession.writes, FlatSession.reply, FlatSession.advance, flat,
      renewPanel, Panel.ofBus]
  | renewAlternator =>
    simp [step, FlatSession.step, FlatSession.writes, FlatSession.reply, FlatSession.advance, flat]
  | observe =>
    simp [step, FlatSession.step, FlatSession.writes, FlatSession.reply, FlatSession.advance, flat]

/-- The bus after a step is the batch of the step's nominal writes. -/
theorem bus_step (s : Session) (st : Step) :
    (s.step st).2.panel.bus = (s.panel.bus.writeAll (FlatSession.writes s.alternator.greeting st)).2 := by
  have h := congrArg (fun p => p.2.bus) (flat_step s st)
  rw [FlatSession.bus_step] at h
  exact h

/-- A step answers what its batch answers, with the reply of the step. -/
theorem fst_step (s : Session) (st : Step) :
    (s.step st).1 =
      (s.panel.bus.writeAll (FlatSession.writes s.alternator.greeting st)).1.map
        fun () => s.flat.reply st := by
  have h := congrArg Prod.fst (flat_step s st)
  rw [FlatSession.fst_step] at h
  exact h

/-! ## Whole sessions -/

theorem replay_map_wire {ε : Type} (s : Session) (steps : List (Except ε Step)) :
    (s.replay steps).map Entry.wire = s.flat.replay steps := by
  induction steps generalizing s with
  | nil => rfl
  | cons st rest ih =>
    cases st with
    | error e => simp [replay, FlatSession.replay, Entry.wire, entry, ih, flat]
    | ok st =>
      have h := flat_step s st
      simp only [replay, FlatSession.replay, List.map_cons]
      rw [← h]
      obtain ⟨r, s'⟩ := s.step st
      simp [Entry.wire, entry, ih, flat]

/-- **Wire-trace refinement.** For every fault plan and every list of steps, each answer of a
session started on that plan has the result, the writes and the attempt total that the flat model
gives. -/
theorem replay_wire_eq_flat {ε : Type} (plan : List Fault) (steps : List (Except ε Step)) :
    ((start plan).replay steps).map Entry.wire = ({ bus := { plan } } : FlatSession).replay steps :=
  replay_map_wire (start plan) steps

end Session

end Greeter
