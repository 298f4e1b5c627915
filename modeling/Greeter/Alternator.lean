import Greeter.Greeting

/-!
# Displays and the alternator

A `Display` is the interface the scheduler sees: four operations that may fail with a bus error,
and the update cycle built from three of them. `Display.Traced` wraps any display and writes down
the calls made on it. The `Alternator` runs one update cycle per tick on any display and moves
to the other greeting only when the cycle went through.
-/

namespace Greeter

/-!
## Displays

A `Display` is anything that can put a greeting on the LCD and its backlight. It offers four
operations, each a fixed sequence of blocking bus writes: the LCD handshake, the cursor reset,
a text write and a colour change. An operation stops at its first failing write and returns that
write's error; nothing after it is sent.

Operations run in `DeviceM δ`: they change the device `δ` (its bus, its flags) and may fail with a
`BusError`.

**Main definition.** `Display.showGreeting` is one update cycle: the cursor reset, then the text,
then the colour. A failure ends the cycle at once, so the text write always comes right after a
cursor reset that went through, and the handshake is never part of a cycle.
-/

/-- Operations on a device `δ`: they change the device and may fail with a bus error. -/
abbrev DeviceM (δ : Type) := ExceptT BusError (StateM δ)

/-- A device that shows greetings: an LCD and its backlight behind one bus. -/
class Display (δ : Type) where
  initLcd : DeviceM δ Unit
  -- to line 1, column 0
  resetCursor : DeviceM δ Unit
  -- as one text frame
  writeText : Message → DeviceM δ Unit
  -- one channel at a time
  setColor : Color → DeviceM δ Unit

namespace Display

variable {δ : Type} [Display δ]

/-- One update cycle: cursor reset, text, then colour, stopping at the first failure. -/
def showGreeting (look : Appearance) : DeviceM δ Unit := do
  resetCursor
  writeText look.message
  setColor look.color

end Display

/-!
## Call traces

A display is only seen through the calls made on it. `Display.Traced δ` wraps any display `δ` and
writes down every call made on it, in order, with what the call returned; each call runs on the
wrapped display unchanged. So a statement about the calls that `Display.showGreeting` or a tick
makes, stated on `Traced δ`, holds for every display whatever its operations do.

**Cycles.** `Display.Call.cycle look` is the call sequence of an update cycle that goes through:
cursor reset, text, colour. A cycle that fails makes a non-empty prefix of it.
-/

namespace Display

/-- A call on a display, with its argument. -/
inductive Call where
  | initLcd
  | resetCursor
  | writeText (m : Message)
  | setColor (c : Color)
deriving DecidableEq, Repr

/-- The calls of an update cycle that goes through. -/
def Call.cycle (look : Appearance) : List Call :=
  [.resetCursor, .writeText look.message, .setColor look.color]

/-- A display together with the calls made on it so far, oldest first. -/
structure Traced (δ : Type) where
  device : δ
  -- each call made so far, with what it returned
  calls : List (Call × Except BusError Unit) := []

namespace Traced

variable {δ : Type}

/-- Runs an operation of the wrapped display and writes the call down with its result. -/
def record (call : Call) (op : DeviceM δ Unit) : DeviceM (Traced δ) Unit :=
  ExceptT.mk <| modifyGet fun s =>
    let (r, d) := op.run.run s.device
    (r, { device := d, calls := s.calls ++ [(call, r)] })

instance [Display δ] : Display (Traced δ) where
  initLcd := record .initLcd Display.initLcd
  resetCursor := record .resetCursor Display.resetCursor
  writeText m := record (.writeText m) (Display.writeText m)
  setColor c := record (.setColor c) (Display.setColor c)

end Traced

end Display

/-!
## The alternator

The `Alternator` owns the greeting state and runs one update cycle per tick. Timing belongs to the
caller; a tick never waits.

**The state.** The greeting the next tick will show, and the number of completed ticks, counted
in 32 bits and wrapping from `2^32 - 1` to `0`. A new alternator shows `Hello` and has completed
nothing.

**A tick** (`Alternator.tick`) shows the current greeting on any `Display` and turns the outcome
into an `Event`. A completed cycle is reported with its zero-based index, the greeting shown, its
message and its colour; then the greeting toggles and the count goes up by one. A failed cycle
returns the display's error and changes nothing (`Alternator.record`).
-/

/-- What a completed tick put on the module. -/
structure TickReport where
  -- zero-based index of the tick among the completed ones
  tick : UInt32
  greeting : Greeting
  message : Message
  color : Color
deriving DecidableEq, Repr

/-- The scheduler that alternates the two greetings. -/
structure Alternator where
  greeting : Greeting := .hello
  -- completed ticks, modulo `2^32`
  completed : UInt32 := 0
deriving DecidableEq, Repr

namespace Alternator

instance : Inhabited Alternator := ⟨{}⟩

/-- The alternator after a cycle that ended in `ev`: a completed cycle toggles the greeting and
counts, a fault changes nothing. -/
def record (a : Alternator) (ev : Event) : Alternator where
  greeting := a.greeting.transition ev
  completed := match ev with
    | .tickComplete => a.completed + 1
    | .busFault _ => a.completed

/-- The report of a cycle that showed the current greeting and went through. -/
def report (a : Alternator) : TickReport where
  tick := a.completed
  greeting := a.greeting
  message := a.greeting.message
  color := a.greeting.color

/-- Runs one update cycle on a display. -/
def tick {δ : Type} [Display δ] (a : Alternator) :
    StateM δ (Except BusError TickReport × Alternator) := do
  match ← (Display.showGreeting a.greeting.appearance).run with
  | .ok () => pure (.ok a.report, a.record .tickComplete)
  | .error e => pure (.error e, a.record (.busFault e))

@[simp] theorem record_busFault (a : Alternator) (e : BusError) : a.record (.busFault e) = a := rfl

end Alternator

end Greeter
