import Greeter.Panel

/-!
# Sessions

A `Session` is the firmware's world without its clock: one panel on a bus with a fault plan, and
one alternator. It is driven by a list of `Step`s, each one call on the panel or the alternator,
and answers each step with an `Entry`: the step's result, the writes it put on the wire, and what
the panel and the alternator show afterwards.

**Steps.** The four panel operations and a whole update cycle (`showGreeting`) run on the panel;
a `tick` runs the alternator on it. `tickOnFreshPanel` ticks through a panel built anew on the
same bus, and keeps that new panel, so the handshake mark is lost. `renewPanel` rebuilds the panel
on the same bus (same fault plan, same attempt count, same log) and `renewAlternator` starts the
alternator over.

**Nominal traffic.** `Step.commands` lists the commands a step sends when nothing fails: a tick
sends the update cycle of the greeting the alternator shows, and the steps that rebuild or
observe send nothing.

**Replay.** `Session.replay` runs the steps in order. A step that the caller could not build is
still answered, with its error, and sends nothing.
-/

namespace Greeter

/-- One call on the session's panel or alternator. -/
inductive Step where
  | initLcd
  | resetCursor
  | writeText (m : Message)
  | setColor (c : Color)
  | showGreeting (g : Greeting)
  | tick
  -- ticks through a panel built anew on the same bus, and keeps that panel
  | tickOnFreshPanel
  | renewPanel
  | renewAlternator
  | observe
deriving DecidableEq, Repr

/-- The commands a step sends when none of its writes fails, given the greeting the alternator
shows next. -/
def Step.commands (next : Greeting) : Step → List Command
  | .initLcd => Command.handshake
  | .resetCursor => [.cursorReset]
  | .writeText m => [.text m]
  | .setColor c => Command.colorCommands c
  | .showGreeting g => Command.cycle g.appearance
  | .tick => Command.cycle next.appearance
  | .tickOnFreshPanel => Command.cycle next.appearance
  | .renewPanel => []
  | .renewAlternator => []
  | .observe => []

/-- What a step that went through returns. -/
inductive Reply where
  | done
  | ticked (r : TickReport)
deriving DecidableEq, Repr

/-- A panel and an alternator driving it. -/
structure Session where
  panel : Panel
  alternator : Alternator := {}
deriving Repr

/-- The answer to one step, with the writes it made and the state after it. -/
structure Entry (ε : Type) where
  -- `.error` for a step that could not be built
  result : Except ε (Except BusError Reply)
  writes : List Transfer
  -- write attempts since the session began
  attempts : Nat
  -- whether the handshake went through since the panel was built
  initialized : Bool
  greeting : Greeting
  completed : UInt32
deriving Repr

namespace Session

/-- A new panel on a bus that follows `plan`, and a new alternator. -/
def start (plan : List Fault) : Session := { panel := .ofBus { plan } }

/-- Runs a panel operation. -/
def operate (s : Session) (op : DeviceM Panel Unit) : Except BusError Reply × Session :=
  let (r, p) := op.run.run s.panel
  (r.map fun () => .done, { s with panel := p })

/-- Ticks the alternator on the panel. -/
def tick (s : Session) : Except BusError Reply × Session :=
  let ((r, a), p) := s.alternator.tick.run s.panel
  (r.map .ticked, ⟨p, a⟩)

/-- The panel rebuilt on the same bus. -/
def renewPanel (s : Session) : Session := { s with panel := .ofBus s.panel.bus }

/-- Runs one step. -/
def step (s : Session) : Step → Except BusError Reply × Session
  | .initLcd => s.operate Display.initLcd
  | .resetCursor => s.operate Display.resetCursor
  | .writeText m => s.operate (Display.writeText m)
  | .setColor c => s.operate (Display.setColor c)
  | .showGreeting g => s.operate (Display.showGreeting g.appearance)
  | .tick => s.tick
  | .tickOnFreshPanel =>
    let (r, s') := s.renewPanel.tick
    (r, s'.renewPanel)
  | .renewPanel => (.ok .done, s.renewPanel)
  | .renewAlternator => (.ok .done, { s with alternator := {} })
  | .observe => (.ok .done, s)

/-- The entry for a session after a step with result `r` that made the writes `ws`. -/
def entry {ε : Type} (s : Session) (r : Except ε (Except BusError Reply)) (ws : List Transfer) :
    Entry ε where
  result := r
  writes := ws
  attempts := s.panel.bus.attempts
  initialized := s.panel.initialized
  greeting := s.alternator.greeting
  completed := s.alternator.completed

/-- Runs the steps in order and answers each; a step that could not be built changes nothing. -/
def replay {ε : Type} (s : Session) : List (Except ε Step) → List (Entry ε)
  | [] => []
  | .error e :: rest => s.entry (.error e) [] :: s.replay rest
  | .ok st :: rest =>
    let (r, s') := s.step st
    s'.entry (.ok r) (s'.panel.bus.log.drop s.panel.bus.log.length) :: s'.replay rest

end Session

end Greeter
