import Greeter.Alternator

/-!
# The Grove panel

The driver of the Grove LCD with RGB backlight and what its devices hold. Every write the panel
makes is a `Command`; the panel's operations send lists of them over its bus and stop at the
first failure. Both devices are write-only, so what they show is read off the log of the writes
that went through.
-/

namespace Greeter

/-!
## Commands on the wire

Every write the panel makes is one of four commands: a step of the LCD handshake, the cursor
reset, a text write, or one backlight channel. `Command.transfer` is the write a command becomes:
the device's address and the frame of `Lcd` or `Backlight`.

**Reading writes back.** `Command.ofTransfer?` reads a write as the command it carries, or
`none`. It looks at the address first. On the LCD, a frame of the handshake is that step, the
cursor frame is the reset, and a frame of eight bytes that opens with the text marker is a text
write. On the backlight, a two-byte frame whose first byte is a channel's register sets that
channel. The frames are built so that no two commands share a write, which is what lets the
reader undo `Command.transfer`.
-/

/-- A command that the panel sends as one write. -/
inductive Command where
  -- step `k` of the LCD handshake
  | init (k : Fin 3)
  -- to line 1, column 0
  | cursorReset
  | text (m : Message)
  | channel (ch : Channel) (value : UInt8)
deriving DecidableEq, Repr

namespace Command

/-- The write that carries a command. -/
def transfer : Command → Transfer
  | .init k => ⟨Lcd.address, Lcd.initFrames.get (k.cast rfl)⟩
  | .cursorReset => ⟨Lcd.address, Lcd.cursorResetFrame⟩
  | .text m => ⟨Lcd.address, Lcd.textFrame m⟩
  | .channel ch v => ⟨Backlight.address, Backlight.frame ch v⟩

/-- Reads a frame sent to the LCD as the command it carries. -/
def ofLcdFrame? (bytes : List UInt8) : Option Command :=
  match Lcd.initFrames.finIdxOf? bytes with
  | some k => some (.init (k.cast rfl))
  | none =>
    if bytes = Lcd.cursorResetFrame then some .cursorReset
    else match bytes with
      | marker :: rest =>
        if h : marker = Lcd.textMarker ∧ rest.length = Message.size then some (.text ⟨rest, h.2⟩)
        else none
      | [] => none

/-- Reads a frame sent to the backlight as the command it carries. -/
def ofBacklightFrame? : List UInt8 → Option Command
  | [r, v] => (Channel.ofRegister? r).map fun ch => .channel ch v
  | _ => none

/-- Reads a write as the command it carries. -/
def ofTransfer? (t : Transfer) : Option Command :=
  if t.address = Lcd.address then ofLcdFrame? t.bytes
  else if t.address = Backlight.address then ofBacklightFrame? t.bytes
  else none

/-- The commands of the LCD handshake, in order. -/
def handshake : List Command := [.init 0, .init 1, .init 2]

/-- The commands that set a colour, in write order. -/
def colorCommands (c : Color) : List Command :=
  Channel.writeOrder.map fun ch => .channel ch (c.channel ch)

/-- The commands of one update cycle: cursor reset, text, colour. -/
def cycle (look : Appearance) : List Command :=
  [.cursorReset, .text look.message] ++ colorCommands look.color

/-- The handshake's writes are the init frames, sent to the LCD. -/
theorem map_transfer_handshake :
    handshake.map transfer = Lcd.initFrames.map fun f => ⟨Lcd.address, f⟩ := by
  decide

/-- A colour's writes are its colour frames, sent to the backlight. -/
theorem map_transfer_colorCommands (c : Color) :
    (colorCommands c).map transfer = (Backlight.colorFrames c).map fun f => ⟨Backlight.address, f⟩ := by
  simp [colorCommands, Backlight.colorFrames, transfer]

end Command

/-!
## The LCD and backlight panel

A `Panel` drives the Grove 16×2 character LCD with RGB backlight: two write-only devices, the
LCD controller at `0x3E` and the backlight controller at `0x62`, behind one bus. The panel owns
the bus and remembers whether the LCD handshake has gone through since the panel was built.

**Operations** (the `Display` instance). Each operation sends a list of `Command`s, one write
each, and stops at its first failing write. The handshake sends its three steps in order and
marks the panel initialized only when all three went out; a failed handshake leaves the mark as it
was. The cursor reset and a text write are one command each. A colour is three channel commands,
blue, red, green.
-/

/-- The LCD and backlight module, driven over one bus. -/
structure Panel where
  bus : Bus
  -- whether the LCD handshake went through since the panel was built
  initialized : Bool := false
deriving Repr

namespace Panel

/-- A panel just built on a bus; its handshake has not run. -/
def ofBus (bus : Bus) : Panel := { bus }

/-- Sends one write on the panel's bus. -/
def send (t : Transfer) : DeviceM Panel Unit :=
  ExceptT.mk <| modifyGet fun p =>
    let (r, b) := p.bus.write t
    (r, { p with bus := b })

/-- Sends commands in order, stopping at the first failure. -/
def issue (cs : List Command) : DeviceM Panel Unit :=
  cs.forM fun c => send c.transfer

instance : Display Panel where
  initLcd := do
    issue Command.handshake
    modify fun p => { p with initialized := true }
  resetCursor := issue [.cursorReset]
  writeText m := issue [.text m]
  setColor c := issue (Command.colorCommands c)

end Panel

/-!
## What the devices hold

Both devices on the bus are write-only, so what they hold is a function of the writes that went
through: replaying the bus log gives it.

**The backlight** is a file of byte registers (`Registers`). A two-byte write to the backlight
sets the register named by its first byte to its second byte; nothing else touches the file.

**The LCD line** (`Lcd.line?`) shows the message of the last text write: a write of eight bytes to
the LCD that opens with the text marker. Before any text write it shows nothing the log knows of.
-/

/-- The backlight controller's register file: a byte for each register index. -/
def Registers : Type := UInt8 → UInt8

namespace Registers

/-- The register file after one write. -/
def apply (R : Registers) (t : Transfer) : Registers :=
  if t.address = Backlight.address then
    match t.bytes with
    | [i, v] => fun j => if j = i then v else R j
    | _ => R
  else R

/-- The register file after a log of writes, oldest first. -/
def replay (R : Registers) (log : List Transfer) : Registers := log.foldl apply R

end Registers

namespace Lcd

/-- The message that a write puts on the LCD line, if it is a text write. -/
def text? (t : Transfer) : Option (List UInt8) :=
  if t.address = address ∧ t.bytes.length = textFrameLength then
    match t.bytes with
    | marker :: rest => if marker = textMarker then some rest else none
    | [] => none
  else none

/-- The message on the LCD line after a log of writes: that of the last text write. -/
def line? (log : List Transfer) : Option (List UInt8) := log.reverse.findSome? text?

end Lcd

end Greeter
