import Greeter.Bus
import Greeter.Protocol

/-!
# Greetings and the board

The greeting table, the state machine that moves between its two entries, and the rest of what
is fixed when the firmware is built: the bus the module is wired to and the update period.
-/

namespace Greeter

/-!
## Greetings

The device alternates between two greetings. Each has an `Appearance`: the message on the
first LCD line and the backlight colour shown with it. `Hello` is `@HELLO!` on orange
(207, 83, 0); `World` is `@WORLD!` on turquoise (64, 224, 228).

**The state machine.** An update cycle ends in an `Event`: either every write went out, or a
write failed with a bus error and the rest of the cycle was not sent. Only a completed cycle
moves to the other greeting (`Greeting.transition`); after a fault the same greeting is shown
again. From `Hello`, the greeting after `n` completed cycles is `Greeting.afterTicks n`: `Hello`
when `n` is even, `World` when it is odd.
-/

/-- What the module shows for a greeting. -/
structure Appearance where
  message : Message
  color : Color
deriving DecidableEq, Repr

/-- The two greetings. -/
inductive Greeting where
  | hello
  | world
deriving DecidableEq, Repr

/-- The outcome of one update cycle. -/
inductive Event where
  | tickComplete
  -- the rest of the cycle was not sent
  | busFault (e : BusError)
deriving DecidableEq, Repr

/-- Whether the event reports a failure. -/
def Event.isError : Event → Bool
  | .tickComplete => false
  | .busFault _ => true

namespace Greeting

/-- The first greeting: `@HELLO!` on orange. -/
def helloLook : Appearance where
  message := ⟨[64, 72, 69, 76, 76, 79, 33], rfl⟩
  color := ⟨207, 83, 0⟩

/-- The second greeting: `@WORLD!` on turquoise. -/
def worldLook : Appearance where
  message := ⟨[64, 87, 79, 82, 76, 68, 33], rfl⟩
  color := ⟨64, 224, 228⟩

instance : Inhabited Greeting := ⟨hello⟩

/-- The other greeting. -/
def toggled : Greeting → Greeting
  | hello => world
  | world => hello

/-- The greeting after `n` completed cycles from `Hello`: `Hello` exactly when `n` is even. -/
def afterTicks (n : UInt32) : Greeting :=
  if n % 2 = 0 then hello else world

/-- What the module shows for the greeting. -/
def appearance : Greeting → Appearance
  | hello => helloLook
  | world => worldLook

/-- The text of the greeting. -/
def message (g : Greeting) : Message := g.appearance.message

/-- The backlight colour of the greeting. -/
def color (g : Greeting) : Color := g.appearance.color

/-- The greeting after an update cycle: a completed cycle moves to the other greeting, a fault
keeps this one. -/
def transition (g : Greeting) : Event → Greeting
  | .tickComplete => g.toggled
  | .busFault _ => g

@[simp] theorem toggled_toggled (g : Greeting) : g.toggled.toggled = g := by
  cases g <;> rfl

@[simp] theorem transition_tickComplete (g : Greeting) : g.transition .tickComplete = g.toggled :=
  rfl

@[simp] theorem transition_busFault (g : Greeting) (e : BusError) :
    g.transition (.busFault e) = g := rfl

end Greeting

/-!
## Configuration

Everything here is fixed when the firmware is built: the bus the module is wired to, its clock,
and the period between two greeting updates.

**Bus presets.** The three standard I2C speeds on bus 0: standard mode at 100 kHz, fast mode at
400 kHz and fast mode plus at 1 MHz. `BusConfig.onBus` keeps the clock and changes the bus. The
default is standard mode.

**The board.** The Grove module is wired to bus 0 at standard speed and updated every 2000 ms;
that is also the default board.
-/

/-- The period between two greeting updates, in milliseconds. -/
def tickPeriodMs : UInt32 := 2000

/-- Which I2C bus of the chip to use, and at what clock. -/
structure BusConfig where
  bus : UInt8
  -- in Hz
  frequency : UInt32
deriving DecidableEq, Repr

namespace BusConfig

/-- Standard mode: 100 kHz on bus 0. -/
def standard : BusConfig := ⟨0, 100000⟩

/-- Fast mode: 400 kHz on bus 0. -/
def fast : BusConfig := ⟨0, 400000⟩

/-- Fast mode plus: 1 MHz on bus 0. -/
def fastPlus : BusConfig := ⟨0, 1000000⟩

instance : Inhabited BusConfig := ⟨standard⟩

/-- The same clock on another bus. -/
def onBus (c : BusConfig) (bus : UInt8) : BusConfig := { c with bus }

end BusConfig

/-- How the module is wired and how often it is updated. -/
structure BoardConfig where
  bus : BusConfig
  -- in milliseconds
  tickPeriodMs : UInt32
deriving DecidableEq, Repr

namespace BoardConfig

/-- The Grove module on bus 0 at 100 kHz, updated every 2000 ms. -/
def grove : BoardConfig := ⟨.standard, Greeter.tickPeriodMs⟩

instance : Inhabited BoardConfig := ⟨grove⟩

end BoardConfig

end Greeter
