import Greeter.Panel
import Greeter.Proofs.WireTrace

/-!
# What the devices hold after a step

The backlight is a file of byte registers and the LCD line shows the last text written; both are
read off the bus log (`Registers.replay`, `Lcd.line?`). This file says what they hold after each
step of a session, from any register file the session started with.

**Theorem (`Session.step_device_state`).** From any session state, whatever the faulted steps
before it left behind:

* a colour change that went through leaves every channel's register at the colour's value;
* an update cycle that went through (a whole cycle, or a tick) leaves its colour on the backlight
  and its message on the LCD line;
* a colour phase whose `k`-th write is the first that the plan fails sets exactly the registers
  of the first `k` channels of the write order and leaves every other register as it was.

Two facts about the register map carry it. The channels' registers are distinct
(`Channel.register_inj`), so a register is written only by its own channel; and the write order
names every channel (`Channel.mem_writeOrder`), so a full colour phase reaches every register.
The rest is the wire trace of the step (`Session.bus_step`): the writes before its colour phase go
to the LCD and do not touch the registers.
-/

namespace Greeter

namespace Channel

theorem register_inj {a b : Channel} : a.register = b.register ↔ a = b := by
  cases a <;> cases b <;> decide

theorem mem_writeOrder (ch : Channel) : ch ∈ writeOrder := by
  cases ch <;> decide

end Channel

/-! ## Replaying the backlight's writes -/

namespace Registers

@[simp] theorem replay_nil (R : Registers) : R.replay [] = R := rfl

@[simp] theorem replay_cons (R : Registers) (t : Transfer) (log : List Transfer) :
    R.replay (t :: log) = (R.apply t).replay log := rfl

theorem replay_append (R : Registers) (l₁ l₂ : List Transfer) :
    R.replay (l₁ ++ l₂) = (R.replay l₁).replay l₂ :=
  List.foldl_append

theorem apply_of_address_ne (R : Registers) {t : Transfer} (h : t.address ≠ Backlight.address) :
    R.apply t = R := by
  simp [apply, h]

/-- Writes to another device leave the register file as it was. -/
theorem replay_of_address_ne (R : Registers) {log : List Transfer}
    (h : ∀ t ∈ log, t.address ≠ Backlight.address) : R.replay log = R := by
  induction log generalizing R with
  | nil => rfl
  | cons t log ih =>
    rw [replay_cons, apply_of_address_ne R (h t (List.mem_cons_self ..))]
    exact ih R fun t' ht' => h t' (List.mem_cons_of_mem t ht')

/-- A channel write sets the channel's register and no other. -/
theorem apply_channel (R : Registers) (ch : Channel) (v : UInt8) (j : UInt8) :
    R.apply (Command.channel ch v).transfer j = if j = ch.register then v else R j := by
  simp [apply, Command.transfer, Backlight.frame]

/-- The writes that set the channels `chs` of a colour. -/
theorem replay_channels_of_forall_ne (R : Registers) (c : Color) {chs : List Channel} {j : UInt8}
    (h : ∀ ch ∈ chs, ch.register ≠ j) :
    R.replay (chs.map fun ch => (Command.channel ch (c.channel ch)).transfer) j = R j := by
  induction chs generalizing R with
  | nil => rfl
  | cons ch chs ih =>
    rw [List.map_cons, replay_cons, ih _ fun ch' h' => h ch' (List.mem_cons_of_mem ch h'),
      apply_channel, if_neg (Ne.symm (h ch (List.mem_cons_self ..)))]

theorem replay_channels_of_mem (R : Registers) (c : Color) {chs : List Channel} {ch : Channel}
    (h : ch ∈ chs) :
    R.replay (chs.map fun ch => (Command.channel ch (c.channel ch)).transfer) ch.register =
      c.channel ch := by
  induction chs generalizing R with
  | nil => cases h
  | cons ch' chs ih =>
    rw [List.map_cons, replay_cons]
    by_cases hin : ch ∈ chs
    · exact ih _ hin
    · -- the last write to the register is the channel's own: no later channel shares it
      have hch : ch = ch' := by
        rcases List.mem_cons.mp h with h | h
        · exact h
        · exact absurd h hin
      subst hch
      have hne : ∀ x ∈ chs, x.register ≠ ch.register := fun x hx hreg =>
        hin (Channel.register_inj.mp hreg ▸ hx)
      rw [replay_channels_of_forall_ne _ c hne, apply_channel, if_pos rfl]

end Registers

/-! ## The LCD line -/

namespace Lcd

theorem line?_append (l₁ l₂ : List Transfer) : line? (l₁ ++ l₂) = (line? l₂).or (line? l₁) := by
  simp [line?, List.findSome?_append]

theorem text?_of_address_ne {t : Transfer} (h : t.address ≠ address) : text? t = none := by
  simp [text?, h]

theorem line?_of_address_ne {log : List Transfer} (h : ∀ t ∈ log, t.address ≠ address) :
    line? log = none := by
  simp only [line?, List.findSome?_eq_none_iff, List.mem_reverse]
  exact fun t ht => text?_of_address_ne (h t ht)

theorem text?_text (m : Message) : text? (Command.text m).transfer = some m.bytes := by
  simp [text?, Command.transfer, textFrame, textFrameLength, Message.size, m.length_bytes]

end Lcd

/-! ## The colour phase of a step -/

/-- Where the colour phase of a step begins among its writes, and the colour it writes: a colour
change writes it first, a whole update cycle after the cursor reset and the text. -/
def Step.colorPhase? (shown : Greeting) : Step → Option (Nat × Color)
  | .setColor c => some (0, c)
  | .showGreeting g => some (2, g.color)
  | .tick | .tickOnFreshPanel => some (2, shown.color)
  | _ => none

namespace FlatSession

theorem colorWrites_eq_map (c : Color) :
    colorWrites c = Channel.writeOrder.map fun ch => (Command.channel ch (c.channel ch)).transfer :=
  rfl

/-- The writes of a step with a colour phase: writes to the LCD, then the colour's. -/
theorem writes_of_colorPhase? {shown : Greeting} {st : Step} {pre : Nat} {c : Color}
    (h : st.colorPhase? shown = some (pre, c)) :
    ∃ lcd, writes shown st = lcd ++ colorWrites c ∧ lcd.length = pre ∧
      ∀ t ∈ lcd, t.address = Lcd.address := by
  -- the cursor reset and the text go to the LCD
  have hcycle : ∀ g : Greeting, ∀ t ∈ [cursorWrite, textWrite g.message], t.address = Lcd.address := by
    intro g
    simp [cursorWrite, textWrite, Lcd.address]
  cases st <;> simp only [Step.colorPhase?, Option.some.injEq, Prod.mk.injEq, reduceCtorEq] at h
  case setColor =>
    obtain ⟨rfl, rfl⟩ := h
    exact ⟨[], rfl, rfl, by simp⟩
  case showGreeting g =>
    obtain ⟨rfl, rfl⟩ := h
    exact ⟨_, rfl, rfl, hcycle g⟩
  case tick | tickOnFreshPanel =>
    obtain ⟨rfl, rfl⟩ := h
    exact ⟨_, rfl, rfl, hcycle shown⟩

end FlatSession

theorem Registers.replay_cycleWrites (R : Registers) (g : Greeting) (ch : Channel) :
    R.replay (FlatSession.cycleWrites g) ch.register = g.color.channel ch := by
  have h : FlatSession.cycleWrites g =
      [FlatSession.cursorWrite, FlatSession.textWrite g.message] ++ FlatSession.colorWrites g.color :=
    rfl
  rw [h, Registers.replay_append, Registers.replay_of_address_ne R
    (by simp [FlatSession.cursorWrite, FlatSession.textWrite, Backlight.address])]
  exact Registers.replay_channels_of_mem R g.color (Channel.mem_writeOrder ch)

theorem Lcd.line?_cycleWrites (g : Greeting) :
    Lcd.line? (FlatSession.cycleWrites g) = some g.message.bytes := by
  have h : FlatSession.cycleWrites g =
      [FlatSession.cursorWrite, (Command.text g.message).transfer] ++ FlatSession.colorWrites g.color :=
    rfl
  -- the colour writes go to the backlight, so the line is the text frame's
  have hcolor : Lcd.line? (FlatSession.colorWrites g.color) = none :=
    Lcd.line?_of_address_ne (by simp [FlatSession.colorWrites, Lcd.address])
  rw [h, Lcd.line?_append, hcolor]
  simp [Lcd.line?, Lcd.text?_text]

namespace Session

/-! ## What a step logs -/

/-- A step that went through logged all its nominal writes. -/
theorem log_step_of_isOk {s : Session} {st : Step} (h : (s.step st).1.isOk) :
    (s.step st).2.panel.bus.log =
      s.panel.bus.log ++ FlatSession.writes s.alternator.greeting st := by
  rw [bus_step]
  apply Bus.log_writeAll_of_isOk
  rw [fst_step] at h
  cases hw : (s.panel.bus.writeAll (FlatSession.writes s.alternator.greeting st)).1 with
  | ok u => rfl
  | error e => simp [hw, Except.map, Except.isOk, Except.toBool] at h

/-- A step whose `i`-th nominal write is the first that the plan fails: it fails with that
fault's error and logged the writes before it. -/
theorem step_of_firstFault? {s : Session} {st : Step} {i : Nat} {k : FaultKind}
    (h : s.panel.bus.firstFault? (FlatSession.writes s.alternator.greeting st).length = some (i, k)) :
    (s.step st).1 = .error (BusError.ofKind k) ∧
      (s.step st).2.panel.bus.log =
        s.panel.bus.log ++ (FlatSession.writes s.alternator.greeting st).take i := by
  rw [fst_step, bus_step, Bus.writeAll_of_firstFault?_eq_some h]
  exact ⟨rfl, rfl⟩

/-- An update cycle that went through leaves its colour on the backlight and its message on the
LCD line, whatever earlier steps left behind. -/
theorem devices_of_cycle {s : Session} {st : Step} {g : Greeting} (R₀ : Registers)
    (hw : FlatSession.writes s.alternator.greeting st = FlatSession.cycleWrites g)
    (hok : (s.step st).1.isOk) :
    (∀ ch, R₀.replay (s.step st).2.panel.bus.log ch.register = g.color.channel ch) ∧
      Lcd.line? (s.step st).2.panel.bus.log = some g.message.bytes := by
  rw [log_step_of_isOk hok, hw]
  refine ⟨fun ch => ?_, ?_⟩
  · rw [Registers.replay_append, Registers.replay_cycleWrites]
  · rw [Lcd.line?_append, Lcd.line?_cycleWrites]
    rfl

/-- A tick that went through reports the greeting it showed. -/
theorem report_of_tick_ok {s : Session} {st : Step} {rep : TickReport}
    (hst : st = .tick ∨ st = .tickOnFreshPanel) (h : (s.step st).1 = .ok (.ticked rep)) :
    rep = ⟨s.alternator.completed, s.alternator.greeting, s.alternator.greeting.message,
      s.alternator.greeting.color⟩ := by
  rw [fst_step] at h
  cases hw : (s.panel.bus.writeAll (FlatSession.writes s.alternator.greeting st)).1 with
  | ok u =>
    rw [hw] at h
    rcases hst with rfl | rfl <;> simpa [Except.map, FlatSession.reply, flat] using h.symm
  | error e => simp [hw, Except.map] at h

theorem registers_of_colorPhase_fault {s : Session} {st : Step} {pre k : Nat} {c : Color}
    {kind : FaultKind} (R₀ : Registers)
    (hphase : st.colorPhase? s.alternator.greeting = some (pre, c))
    (hfault : s.panel.bus.firstFault? (pre + 3) = some (pre + k, kind)) :
    (s.step st).1 = .error (BusError.ofKind kind) ∧
      (∀ ch ∈ Channel.writeOrder.take k,
        R₀.replay (s.step st).2.panel.bus.log ch.register = c.channel ch) ∧
      (∀ j, (∀ ch ∈ Channel.writeOrder.take k, ch.register ≠ j) →
        R₀.replay (s.step st).2.panel.bus.log j = R₀.replay s.panel.bus.log j) := by
  obtain ⟨lcd, hw, hlen, hlcd⟩ := FlatSession.writes_of_colorPhase? hphase
  have hlength : (FlatSession.writes s.alternator.greeting st).length = pre + 3 := by
    rw [hw, List.length_append, hlen]
    rfl
  rw [← hlength] at hfault
  obtain ⟨hres, hlog⟩ := step_of_firstFault? hfault
  -- what went out: the LCD writes whole, then the first `k` channel writes
  have hsent : (FlatSession.writes s.alternator.greeting st).take (pre + k) =
      lcd ++ (Channel.writeOrder.take k).map fun ch => (Command.channel ch (c.channel ch)).transfer := by
    rw [hw, ← hlen, List.take_length_add_append, FlatSession.colorWrites_eq_map, List.map_take]
  have hreg : R₀.replay (s.step st).2.panel.bus.log =
      (R₀.replay s.panel.bus.log).replay
        ((Channel.writeOrder.take k).map fun ch => (Command.channel ch (c.channel ch)).transfer) := by
    have hskip : (R₀.replay s.panel.bus.log).replay lcd = R₀.replay s.panel.bus.log :=
      Registers.replay_of_address_ne _ fun t ht => by rw [hlcd t ht]; decide
    rw [hlog, hsent, ← List.append_assoc, Registers.replay_append, Registers.replay_append, hskip]
  refine ⟨hres, fun ch hch => ?_, fun j hj => ?_⟩
  · rw [hreg]
    exact Registers.replay_channels_of_mem _ c hch
  · rw [hreg]
    exact Registers.replay_channels_of_forall_ne _ c hj

/-- **Device-state refinement.** From any session state and any initial register file, after a
step: a colour change that went through set every channel; an update cycle that went through
left its colour and its message; a colour phase that failed at its `k`-th write set exactly the
first `k` channels of the write order. -/
theorem step_device_state (s : Session) (st : Step) (R₀ : Registers) :
    (∀ c, st = .setColor c → (s.step st).1 = .ok .done →
      ∀ ch, R₀.replay (s.step st).2.panel.bus.log ch.register = c.channel ch) ∧
    (∀ g, st = .showGreeting g → (s.step st).1 = .ok .done →
      (∀ ch, R₀.replay (s.step st).2.panel.bus.log ch.register = g.color.channel ch) ∧
        Lcd.line? (s.step st).2.panel.bus.log = some g.message.bytes) ∧
    (∀ rep, (st = .tick ∨ st = .tickOnFreshPanel) → (s.step st).1 = .ok (.ticked rep) →
      (∀ ch, R₀.replay (s.step st).2.panel.bus.log ch.register = rep.color.channel ch) ∧
        Lcd.line? (s.step st).2.panel.bus.log = some rep.message.bytes) ∧
    (∀ pre c k kind, st.colorPhase? s.alternator.greeting = some (pre, c) →
      s.panel.bus.firstFault? (pre + 3) = some (pre + k, kind) →
      (s.step st).1 = .error (BusError.ofKind kind) ∧
      (∀ ch ∈ Channel.writeOrder.take k,
        R₀.replay (s.step st).2.panel.bus.log ch.register = c.channel ch) ∧
      (∀ j, (∀ ch ∈ Channel.writeOrder.take k, ch.register ≠ j) →
        R₀.replay (s.step st).2.panel.bus.log j = R₀.replay s.panel.bus.log j)) := by
  refine ⟨?_, ?_, ?_, fun pre c k kind => registers_of_colorPhase_fault R₀⟩
  · rintro c rfl hok ch
    rw [log_step_of_isOk (by rw [hok]; rfl), Registers.replay_append]
    exact Registers.replay_channels_of_mem _ c (Channel.mem_writeOrder ch)
  · rintro g rfl hok
    exact devices_of_cycle R₀ rfl (by rw [hok]; rfl)
  · intro rep hst hok
    have hw : FlatSession.writes s.alternator.greeting st =
        FlatSession.cycleWrites s.alternator.greeting := by
      rcases hst with rfl | rfl <;> rfl
    rw [report_of_tick_ok hst hok]
    exact devices_of_cycle R₀ hw (by rw [hok]; rfl)

/-- A new session on a bus whose fourth write fails with an overrun: the colour phase of a tick
fails at its second write. -/
def overrunAtFourthWrite : Session := start [⟨3, .overrun⟩]

/-- The register file with every register at zero. -/
def darkRegisters : Registers := fun _ => 0

/-- On a fault-free session, a colour, an update cycle and a tick each leave the channel registers
and the LCD line as they asked; a tick whose fourth write fails sets the blue register only and
leaves green and red as they were. -/
theorem device_state_on_new_sessions :
    (((start []).step (.setColor ⟨1, 2, 3⟩)).1 = .ok .done ∧
      ∀ ch, darkRegisters.replay ((start []).step (.setColor ⟨1, 2, 3⟩)).2.panel.bus.log ch.register =
        (⟨1, 2, 3⟩ : Color).channel ch) ∧
    (((start []).step (.showGreeting .world)).1 = .ok .done ∧
      (∀ ch, darkRegisters.replay ((start []).step (.showGreeting .world)).2.panel.bus.log ch.register =
        Greeting.world.color.channel ch) ∧
      Lcd.line? ((start []).step (.showGreeting .world)).2.panel.bus.log =
        some Greeting.world.message.bytes) ∧
    (((start []).step .tick).1 = .ok (.ticked ({} : Alternator).report) ∧
      (∀ ch, darkRegisters.replay ((start []).step .tick).2.panel.bus.log ch.register =
        ({} : Alternator).report.color.channel ch) ∧
      Lcd.line? ((start []).step .tick).2.panel.bus.log = some ({} : Alternator).report.message.bytes) ∧
    (Step.tick.colorPhase? overrunAtFourthWrite.alternator.greeting = some (2, Greeting.hello.color) ∧
      overrunAtFourthWrite.panel.bus.firstFault? (2 + 3) = some (2 + 1, .overrun) ∧
      (overrunAtFourthWrite.step .tick).1 = .error (BusError.ofKind .overrun) ∧
      (∀ ch ∈ Channel.writeOrder.take 1,
        darkRegisters.replay (overrunAtFourthWrite.step .tick).2.panel.bus.log ch.register =
          Greeting.hello.color.channel ch) ∧
      (∀ j, (∀ ch ∈ Channel.writeOrder.take 1, ch.register ≠ j) →
        darkRegisters.replay (overrunAtFourthWrite.step .tick).2.panel.bus.log j =
          darkRegisters.replay overrunAtFourthWrite.panel.bus.log j)) := by
  have hcolor : ((start []).step (.setColor ⟨1, 2, 3⟩)).1 = .ok .done := rfl
  have hcycle : ((start []).step (.showGreeting .world)).1 = .ok .done := rfl
  have htick : ((start []).step .tick).1 = .ok (.ticked ({} : Alternator).report) := rfl
  have hphase : Step.tick.colorPhase? overrunAtFourthWrite.alternator.greeting =
      some (2, Greeting.hello.color) := by decide
  have hfault : overrunAtFourthWrite.panel.bus.firstFault? (2 + 3) = some (2 + 1, .overrun) := by
    decide
  refine ⟨⟨hcolor, ?_⟩, ⟨hcycle, ?_⟩, ⟨htick, ?_⟩, hphase, hfault, ?_⟩
  · exact (step_device_state _ _ darkRegisters).1 _ rfl hcolor
  · exact (step_device_state _ _ darkRegisters).2.1 _ rfl hcycle
  · exact (step_device_state _ _ darkRegisters).2.2.1 _ (.inl rfl) htick
  · exact (step_device_state _ _ darkRegisters).2.2.2 _ _ _ _ hphase hfault

end Session

end Greeter
