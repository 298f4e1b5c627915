import Mathlib.Logic.Function.Basic
import Greeter.Proofs.Devices

/-!
# The wire format is unambiguous

Every write the panel makes carries one `Command`, and no two commands share a write. The frames
are told apart by their shape: a text write is eight bytes and every other frame two, and a
two-byte frame opens with a byte that names its kind (`0x00` for a handshake step, `0x80` for the
cursor, a register for a backlight channel). The registers are three distinct bytes, none of
them `0x00`, `0x40` or `0x80`.

**Theorem (`Command.wire_format_unambiguous`).** `Command.ofTransfer?` is a partial inverse of
`Command.transfer`: it reads every command's write back as that command, and reads a write as a
command only if it is that command's write. So `Command.transfer` is injective. More: the bytes
alone, without the address, determine the command (`Command.ofFrame?`). A text frame is the
marker followed by the message, eight bytes, and different messages give different frames; the
register map is injective.

The proof reads each kind of frame back on its own (one lemma per constructor), then each
decoder's success back to the frame it read.
-/

namespace Greeter

namespace Channel

@[simp] theorem ofRegister?_register (ch : Channel) : ofRegister? ch.register = some ch := by
  cases ch <;> rfl

theorem register_of_ofRegister? {r : UInt8} {ch : Channel} (h : ofRegister? r = some ch) :
    ch.register = r := by
  simpa using List.find?_some h

end Channel

namespace Lcd

theorem textFrame_injective : Function.Injective textFrame := by
  intro m m' h
  exact Message.ext (List.cons.inj h).2

/-- A text frame is longer than every two-byte frame. -/
theorem length_textFrame_ne_two (m : Message) : (textFrame m).length ≠ 2 := by
  simp [textFrameLength, Message.size]

end Lcd

namespace Command

/-! ## Reading each kind of frame back -/

theorem ofTransfer?_of_lcd {t : Transfer} (h : t.address = Lcd.address) :
    ofTransfer? t = ofLcdFrame? t.bytes := by
  simp [ofTransfer?, h]

theorem ofTransfer?_of_backlight {t : Transfer} (h : t.address = Backlight.address) :
    ofTransfer? t = ofBacklightFrame? t.bytes := by
  simp [ofTransfer?, h, Backlight.address, Lcd.address]

theorem ofLcdFrame?_init (k : Fin 3) : ofLcdFrame? (transfer (.init k)).bytes = some (.init k) := by
  revert k
  decide

theorem ofLcdFrame?_textFrame (m : Message) : ofLcdFrame? (Lcd.textFrame m) = some (.text m) := by
  -- a text frame is neither a handshake frame nor the cursor frame: those are two bytes long
  have hinit : Lcd.initFrames.finIdxOf? (Lcd.textFrame m) = none := by
    refine List.finIdxOf?_eq_none_iff.2 fun h => Lcd.length_textFrame_ne_two m ?_
    simp only [Lcd.initFrames, List.mem_cons, List.not_mem_nil, or_false] at h
    rcases h with h | h | h <;> rw [h] <;> rfl
  have hcursor : Lcd.textFrame m ≠ Lcd.cursorResetFrame := fun h =>
    Lcd.length_textFrame_ne_two m (by rw [h]; rfl)
  simp only [ofLcdFrame?, hinit, if_neg hcursor]
  simp [Lcd.textFrame, m.length_bytes, Message.size]

/-- A frame that opens with a byte that is no register is no backlight write. -/
theorem ofBacklightFrame?_cons_of_ofRegister? {r : UInt8} (h : Channel.ofRegister? r = none)
    (rest : List UInt8) : ofBacklightFrame? (r :: rest) = none := by
  match rest with
  | [] => rfl
  | [v] => simp [ofBacklightFrame?, h]
  | _ :: _ :: _ => rfl

theorem ofBacklightFrame?_channel (ch : Channel) (v : UInt8) :
    ofBacklightFrame? (transfer (.channel ch v)).bytes = some (.channel ch v) := by
  simp [transfer, Backlight.frame, ofBacklightFrame?]

/-- The frames sent to the LCD open with `0x00`, `0x80` or `0x40`, none of them a register. -/
theorem ofBacklightFrame?_of_address {c : Command} (h : c.transfer.address = Lcd.address) :
    ofBacklightFrame? c.transfer.bytes = none := by
  cases c with
  | init k => revert k; decide
  | cursorReset => decide
  | text m => exact ofBacklightFrame?_cons_of_ofRegister? (by decide) m.bytes
  | channel ch v => cases h

/-! ## Reading a frame back gives the frame -/

theorem transfer_of_ofLcdFrame? {bytes : List UInt8} {c : Command}
    (h : ofLcdFrame? bytes = some c) : c.transfer = ⟨Lcd.address, bytes⟩ := by
  unfold ofLcdFrame? at h
  split at h
  · -- a handshake frame, found at its index
    obtain ⟨hk, -⟩ := List.finIdxOf?_eq_some_iff.1 ‹_›
    cases h
    rw [← hk]
    rfl
  · split at h
    · cases h
      rw [‹bytes = _›]
      rfl
    · split at h
      · split at h
        · obtain ⟨rfl, -⟩ := ‹_ ∧ _›
          cases h
          rfl
        · cases h
      · cases h

theorem transfer_of_ofBacklightFrame? {bytes : List UInt8} {c : Command}
    (h : ofBacklightFrame? bytes = some c) : c.transfer = ⟨Backlight.address, bytes⟩ := by
  unfold ofBacklightFrame? at h
  split at h
  · obtain ⟨ch, hch, rfl⟩ := Option.map_eq_some_iff.1 h
    simp [transfer, Backlight.frame, Channel.register_of_ofRegister? hch]
  · cases h

/-! ## The decoders -/

theorem ofTransfer?_transfer (c : Command) : ofTransfer? c.transfer = some c := by
  cases c with
  | init k => rw [ofTransfer?_of_lcd rfl, ofLcdFrame?_init]
  | cursorReset => decide
  | text m => rw [ofTransfer?_of_lcd rfl, transfer, ofLcdFrame?_textFrame]
  | channel ch v => rw [ofTransfer?_of_backlight rfl, ofBacklightFrame?_channel]

theorem isPartialInv_ofTransfer? : Function.IsPartialInv transfer ofTransfer? := by
  intro c t
  constructor
  · intro h
    by_cases hl : t.address = Lcd.address
    · rw [ofTransfer?_of_lcd hl] at h
      rw [transfer_of_ofLcdFrame? h, ← hl]
    · by_cases hb : t.address = Backlight.address
      · rw [ofTransfer?_of_backlight hb] at h
        rw [transfer_of_ofBacklightFrame? h, ← hb]
      · simp [ofTransfer?, hl, hb] at h
  · rintro rfl
    exact ofTransfer?_transfer c

/-- Reads a frame as the command it carries, whatever device it was sent to: as a backlight
write if it is one, else as an LCD write. -/
def ofFrame? (bytes : List UInt8) : Option Command :=
  (ofBacklightFrame? bytes).or (ofLcdFrame? bytes)

theorem ofFrame?_bytes (c : Command) : ofFrame? c.transfer.bytes = some c := by
  by_cases h : c.transfer.address = Lcd.address
  · rw [ofFrame?, ofBacklightFrame?_of_address h, Option.none_or, ← ofTransfer?_of_lcd h,
      ofTransfer?_transfer]
  · cases c with
    | channel ch v => rw [ofFrame?, ofBacklightFrame?_channel, Option.some_or]
    | _ => exact absurd rfl h

theorem isPartialInv_ofFrame? :
    Function.IsPartialInv (fun c : Command => c.transfer.bytes) ofFrame? := by
  intro c bytes
  constructor
  · intro h
    show c.transfer.bytes = bytes
    cases hb : ofBacklightFrame? bytes with
    | some c' =>
      rw [ofFrame?, hb, Option.some_or] at h
      cases h
      rw [transfer_of_ofBacklightFrame? hb]
    | none =>
      rw [ofFrame?, hb, Option.none_or] at h
      rw [transfer_of_ofLcdFrame? h]
  · rintro rfl
    exact ofFrame?_bytes c

/-- **The wire format is unambiguous.** `ofTransfer?` reads every command's write back and reads
nothing else, so distinct commands have distinct writes; even their bytes alone differ. A text
frame is the marker and the message, eight bytes, and tells messages apart; the register map tells
channels apart. -/
theorem wire_format_unambiguous :
    Function.IsPartialInv transfer ofTransfer? ∧
    Function.Injective transfer ∧
    Function.Injective (fun c : Command => c.transfer.bytes) ∧
    (∀ m, Lcd.textFrame m = [Lcd.textMarker] ++ m.bytes ∧
      (Lcd.textFrame m).length = Lcd.textFrameLength) ∧
    Lcd.textFrameLength = 8 ∧
    Function.Injective Lcd.textFrame ∧
    Function.Injective Channel.register :=
  ⟨isPartialInv_ofTransfer?, isPartialInv_ofTransfer?.injective, isPartialInv_ofFrame?.injective,
    fun m => ⟨rfl, Lcd.length_textFrame m⟩, rfl, Lcd.textFrame_injective,
    fun _ _ h => Channel.register_inj.1 h⟩

end Command

end Greeter
