/-!
# The wire protocol

What goes on the wire to the two devices of the Grove module: the seven-byte messages the LCD
shows, the frames of the LCD controller, and the colours and register writes of the backlight
controller. Everything here is a pure function of its arguments; sending is the panel's business.
-/

namespace Greeter

/-!
## Messages

A `Message` is what the first line of the LCD shows: exactly seven bytes. The length is part of
the type, so no frame built from a message has to check it.

**Building a message.** From seven bytes a message is built as it is, with no check; this is how
the greeting table is written. From text, `Message.ofString?` measures the text in UTF-8 bytes:
text that is not seven bytes long is refused as `wrongLength`, whatever its characters, and only
then is text with a byte of `0x80` or above refused as `notAscii`. Accepted text is copied byte
for byte, never padded or cut.

**Showing a message.** `Message.text` reads the seven bytes back as UTF-8 text. Bytes that are not
well-formed UTF-8 (a lone continuation byte, an overlong form, a surrogate, a value above
U+10FFFF, a sequence cut short) are shown as the empty text; seven bytes never decode to the
empty text, so the empty text is not ambiguous.
-/

/-- Seven bytes shown on the first LCD line. -/
structure Message where
  bytes : List UInt8
  length_bytes : bytes.length = 7 := by decide
deriving DecidableEq, Repr

/-- Why text cannot be a message. -/
inductive MessageError where
  -- not exactly seven bytes long in UTF-8
  | wrongLength
  -- seven bytes long, and one of them is not ASCII
  | notAscii
deriving DecidableEq, Repr

namespace Message

/-- A message is its bytes. -/
@[ext] theorem ext {m m' : Message} (h : m.bytes = m'.bytes) : m = m' := by
  cases m
  cases m'
  subst h
  rfl

/-- The number of bytes of every message. -/
def size : Nat := 7

/-- A byte the LCD shows as an ASCII character: one below `0x80`. -/
def IsAscii (b : UInt8) : Prop := b < 0x80

instance (b : UInt8) : Decidable (IsAscii b) := inferInstanceAs (Decidable (b < 0x80))

/-- Parses text into a message: the UTF-8 length is checked before the characters. -/
def ofString? (s : String) : Except MessageError Message :=
  let bytes := s.toByteArray.toList
  if h : bytes.length = 7 then
    if bytes.all fun b => decide (IsAscii b) then .ok ⟨bytes, h⟩ else .error .notAscii
  else .error .wrongLength

/-- The message read as UTF-8 text, or the empty text when its bytes are not well-formed UTF-8. -/
def text (m : Message) : String :=
  (String.fromUTF8? m.bytes.toByteArray).getD ""

end Message

/-!
## Frames for the character LCD

The LCD controller sits at address `0x3E`. Every write to it starts with a control byte that
says how to read what follows: a command, a cursor address, or character data.

**Commands** are two bytes, the control byte and the command value (`Lcd.command`). The
handshake that brings the display up is three commands, always in this order: clear the
display, set the function (eight-bit interface, two lines, 5×8 font), and switch the display on
with cursor and blink. Moving the cursor to the start of the first line is the command
`0x80` sent under the cursor control byte.

**Text** is one write: the marker `0x40` followed by the seven bytes of a message, eight bytes
in all, never split.
-/

namespace Lcd

/-- The bus address of the LCD controller. -/
def address : UInt8 := 0x3E

/-- Control byte: the next byte is a command. -/
def controlCommand : UInt8 := 0x00

/-- Control byte used with the cursor address command. -/
def controlSetCursor : UInt8 := 0x80

/-- Control byte: the next bytes are character data. -/
def controlData : UInt8 := 0x01

/-- The byte that opens a text write. -/
def textMarker : UInt8 := 0x40

/-- The length of a text write: the marker and a message. -/
def textFrameLength : Nat := 1 + Message.size

/-- First step of the handshake: clear the display. -/
def clearDisplay : UInt8 := 0x01

/-- Second step: eight-bit interface, two lines, 5×8 font. -/
def functionSet : UInt8 := 0x38

/-- Third step: display, cursor and blink on. -/
def displayOn : UInt8 := 0x0F

/-- Cursor address command for line 1, column 0. -/
def homeAddress : UInt8 := 0x80

/-- A command: the control byte, then the value. -/
def command (control value : UInt8) : List UInt8 := [control, value]

/-- The three frames of the handshake, in the order they must be sent. -/
def initFrames : List (List UInt8) :=
  [command controlCommand clearDisplay, command controlCommand functionSet,
    command controlCommand displayOn]

/-- The frame that moves the cursor to line 1, column 0. -/
def cursorResetFrame : List UInt8 := command controlSetCursor homeAddress

/-- The frame that writes a message: the text marker, then the message. -/
def textFrame (m : Message) : List UInt8 := textMarker :: m.bytes

example : initFrames = [[0, 1], [0, 56], [0, 15]] := by decide

example : cursorResetFrame = [128, 128] := by decide

@[simp] theorem length_textFrame (m : Message) : (textFrame m).length = textFrameLength := by
  simp [textFrame, textFrameLength, Message.size, m.length_bytes, Nat.add_comm]

end Lcd

/-!
## Colours and frames for the RGB backlight

The backlight controller sits at address `0x62`. A colour is three channel values; each channel
is set by one register write of two bytes, the register and the value.

**The register map is not in channel order:** blue is register 2, green 3 and red 4. The
channels are written blue, red, green (`Channel.writeOrder`), because some revisions of the
controller latch the colour wrongly in any other order. `Backlight.colorFrames` gives the three
writes of a colour in that order.
-/

/-- A backlight colour. -/
structure Color where
  red : UInt8
  green : UInt8
  blue : UInt8
deriving DecidableEq, Repr

/-- One colour channel of the backlight. -/
inductive Channel where
  | blue
  | green
  | red
deriving DecidableEq, Repr

namespace Color

/-- The colour with every channel at zero: the backlight is dark. -/
def black : Color := ⟨0, 0, 0⟩

instance : Inhabited Color := ⟨black⟩

/-- The value of one channel. -/
def channel (c : Color) : Channel → UInt8
  | .blue => c.blue
  | .green => c.green
  | .red => c.red

end Color

namespace Channel

/-- The controller register that holds the channel. -/
def register : Channel → UInt8
  | .blue => 0x02
  | .green => 0x03
  | .red => 0x04

/-- The order in which the channels of a colour are written. -/
def writeOrder : List Channel := [.blue, .red, .green]

/-- Every channel, in register order. -/
def all : List Channel := [.blue, .green, .red]

/-- The channel that a register holds, if it holds one. -/
def ofRegister? (r : UInt8) : Option Channel := all.find? fun ch => ch.register == r

example : all.map (fun ch => ofRegister? ch.register) = all.map some := by decide

end Channel

namespace Backlight

/-- The bus address of the backlight controller. -/
def address : UInt8 := 0x62

/-- The write that sets one register. -/
def frame (ch : Channel) (value : UInt8) : List UInt8 := [ch.register, value]

/-- The three writes that set a colour, in write order. -/
def colorFrames (c : Color) : List (List UInt8) :=
  Channel.writeOrder.map fun ch => frame ch (c.channel ch)

example : colorFrames ⟨207, 83, 0⟩ = [[2, 0], [4, 207], [3, 83]] := by decide

end Backlight

end Greeter
