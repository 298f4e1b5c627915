import Mathlib.Data.List.Forall2
import Greeter.Proofs.Alternator

/-!
# The calls of an update cycle

An update cycle talks to the display only through its interface, so what it does is the list of
calls it makes. Wrapping any display in `Display.Traced` shows that list, each call with what it
returned.

**One cycle** (`Display.CycleCalls`). An update cycle resets the cursor; only if that went
through does it write the text, and only if that went through does it set the colour. It makes
no other call, never the handshake, and returns the first error, or `ok` when all three calls
went through. So the calls it adds to a log are one of three blocks, each a non-empty prefix of
`Display.Call.cycle`.

**Theorem (`Alternator.update_cycle_call_protocol`).** On every display, an update cycle adds
one such block to the call log; and any run of ticks, over any display with any pattern of
failing calls, adds one block per tick, for the greeting that tick showed and ending at its first
failing call. Hence every text write of the run comes right after a cursor reset that went
through.

The cycle is a chain of three binds, peeled one call at a time (`DeviceM.run_bind_of_ok`,
`DeviceM.run_bind_of_error`). The run is an induction over the number of ticks with the
alternator and the display generalised; a tick adds no call of its own.
-/

namespace Greeter

/-! ## Running a cycle -/

namespace DeviceM

variable {δ : Type}

theorem run_bind_of_ok {α β : Type} {x : DeviceM δ α} {f : α → DeviceM δ β} {d d' : δ} {a : α}
    (h : x.run.run d = pure (.ok a, d')) : (x >>= f).run.run d = (f a).run.run d' := by
  rw [ExceptT.run_bind, StateT.run_bind, h]
  rfl

theorem run_bind_of_error {α β : Type} {x : DeviceM δ α} {f : α → DeviceM δ β} {d d' : δ}
    {e : BusError} (h : x.run.run d = pure (.error e, d')) :
    (x >>= f).run.run d = pure (.error e, d') := by
  rw [ExceptT.run_bind, StateT.run_bind, h]
  rfl

end DeviceM

namespace Display

variable {δ : Type} [Display δ]

/-! ## The blocks of a cycle -/

/-- What one update cycle for `look` adds to a call log when it returns `r`: the cursor reset
failed; or it went through and the text failed; or both went through, the colour was set, and the
cycle returns what that returned. -/
inductive CycleCalls (look : Appearance) :
    Except BusError Unit → List (Call × Except BusError Unit) → Prop
  | resetFailed (e : BusError) : CycleCalls look (.error e) [(.resetCursor, .error e)]
  | textFailed (e : BusError) :
      CycleCalls look (.error e) [(.resetCursor, .ok ()), (.writeText look.message, .error e)]
  | colorSent (r : Except BusError Unit) :
      CycleCalls look r
        [(.resetCursor, .ok ()), (.writeText look.message, .ok ()), (.setColor look.color, r)]

theorem CycleCalls.ne_nil {look : Appearance} {r : Except BusError Unit}
    {block : List (Call × Except BusError Unit)} (h : CycleCalls look r block) : block ≠ [] := by
  cases h <;> simp

/-- The calls of a cycle start the full cycle: cursor reset, text, colour. -/
theorem CycleCalls.starts_cycle {look : Appearance} {r : Except BusError Unit}
    {block : List (Call × Except BusError Unit)} (h : CycleCalls look r block) :
    block.map Prod.fst <+: Call.cycle look := by
  cases h <;> simp [Call.cycle]

namespace Traced

@[simp] theorem resetCursor_eq :
    (Display.resetCursor : DeviceM (Traced δ) Unit) = record .resetCursor Display.resetCursor := rfl

@[simp] theorem writeText_eq (m : Message) :
    (Display.writeText m : DeviceM (Traced δ) Unit) = record (.writeText m) (Display.writeText m) :=
  rfl

@[simp] theorem setColor_eq (c : Color) :
    (Display.setColor c : DeviceM (Traced δ) Unit) = record (.setColor c) (Display.setColor c) := rfl

omit [Display δ] in
/-- A recorded call runs on the wrapped display and is written down with its result. -/
theorem run_record (call : Call) {op : DeviceM δ Unit} {d d' : δ} {r : Except BusError Unit}
    (calls : List (Call × Except BusError Unit)) (h : op.run.run d = pure (r, d')) :
    (record call op).run.run ⟨d, calls⟩ = pure (r, ⟨d', calls ++ [(call, r)]⟩) := by
  simp only [record, ExceptT.run_mk, StateT.run_modifyGet, h]
  rfl

theorem run_showGreeting (look : Appearance) (t : Traced δ) :
    ∃ block, ((showGreeting look : DeviceM (Traced δ) Unit).run.run t).2.calls = t.calls ++ block ∧
      CycleCalls look ((showGreeting look : DeviceM (Traced δ) Unit).run.run t).1 block := by
  obtain ⟨d, calls⟩ := t
  simp only [showGreeting, resetCursor_eq, writeText_eq, setColor_eq]
  -- the cursor reset, and the text only if it went through
  cases h1 : (Display.resetCursor : DeviceM δ Unit).run.run d with
  | mk r1 d1 =>
  cases r1 with
  | error e =>
    rw [DeviceM.run_bind_of_error (run_record .resetCursor calls h1)]
    exact ⟨_, rfl, .resetFailed e⟩
  | ok u =>
  rw [DeviceM.run_bind_of_ok (run_record .resetCursor calls h1)]
  -- the text, and the colour only if it went through
  cases h2 : (Display.writeText look.message : DeviceM δ Unit).run.run d1 with
  | mk r2 d2 =>
  cases r2 with
  | error e =>
    rw [DeviceM.run_bind_of_error (run_record (.writeText look.message) _ h2)]
    exact ⟨_, List.append_assoc _ _ _, .textFailed e⟩
  | ok u' =>
  rw [DeviceM.run_bind_of_ok (run_record (.writeText look.message) _ h2)]
  cases h3 : (Display.setColor look.color : DeviceM δ Unit).run.run d2 with
  | mk r3 d3 =>
  rw [run_record (.setColor look.color) _ h3]
  exact ⟨_, (List.append_assoc _ _ _).trans (List.append_assoc _ _ _), .colorSent r3⟩

end Traced

/-! ## Text writes come after a reset -/

/-- Every text write in `calls` comes right after a cursor reset that went through. -/
def TextAfterReset (calls : List (Call × Except BusError Unit)) : Prop :=
  ∀ i m r, calls[i]? = some (.writeText m, r) →
    ∃ j, i = j + 1 ∧ calls[j]? = some (.resetCursor, .ok ())

theorem TextAfterReset.nil : TextAfterReset [] := by
  intro i m r h
  simp at h

theorem TextAfterReset.append {l₁ l₂ : List (Call × Except BusError Unit)}
    (h₁ : TextAfterReset l₁) (h₂ : TextAfterReset l₂) : TextAfterReset (l₁ ++ l₂) := by
  intro i m r hi
  by_cases hlt : i < l₁.length
  · rw [List.getElem?_append_left hlt] at hi
    obtain ⟨j, rfl, hj⟩ := h₁ i m r hi
    exact ⟨j, rfl, by rw [List.getElem?_append_left (by omega), hj]⟩
  · rw [List.getElem?_append_right (by omega)] at hi
    obtain ⟨j, hij, hj⟩ := h₂ _ m r hi
    refine ⟨l₁.length + j, by omega, ?_⟩
    rw [List.getElem?_append_right (by omega), Nat.add_sub_cancel_left, hj]

theorem CycleCalls.textAfterReset {look : Appearance} {r : Except BusError Unit}
    {block : List (Call × Except BusError Unit)} (h : CycleCalls look r block) :
    TextAfterReset block := by
  intro i m r' hi
  -- the only text write of a cycle is its second call, after a reset that went through
  cases h with
  | resetFailed e => rcases i with _ | _ | i <;> simp at hi
  | textFailed e =>
    rcases i with _ | _ | i
    · simp at hi
    · exact ⟨0, rfl, rfl⟩
    · simp at hi
  | colorSent r =>
    rcases i with _ | _ | i
    · simp at hi
    · exact ⟨0, rfl, rfl⟩
    · rcases i with _ | i <;> simp at hi

theorem textAfterReset_flatten {shown : List (Greeting × Except BusError TickReport)}
    {blocks : List (List (Call × Except BusError Unit))}
    (h : List.Forall₂ (fun (shown : Greeting × Except BusError TickReport) block =>
      CycleCalls shown.1.appearance (shown.2.map fun _ => ()) block) shown blocks) :
    TextAfterReset blocks.flatten := by
  induction h with
  | nil => exact TextAfterReset.nil
  | cons hb _ ih =>
    rw [List.flatten_cons]
    exact hb.textAfterReset.append ih

end Display

/-! ## Runs of ticks -/

namespace Alternator

open Display

variable {δ : Type} [Display δ]

/-- Ticks `n` times in a row on one display. Returns, for each tick, the greeting it showed with
its result, and the alternator at the end. -/
def tickRun : Nat → Alternator → StateM δ (List (Greeting × Except BusError TickReport) × Alternator)
  | 0, a => pure ([], a)
  | n + 1, a => do
    let (r, a') ← a.tick
    let (rest, last) ← tickRun n a'
    pure ((a.greeting, r) :: rest, last)

/-- A tick adds the calls of one update cycle of the greeting it shows. -/
theorem run_tick_traced (a : Alternator) (t : Traced δ) :
    ∃ block, (a.tick.run t).2.calls = t.calls ++ block ∧
      CycleCalls a.greeting.appearance ((a.tick.run t).1.1.map fun _ => ()) block := by
  obtain ⟨block, hcalls, hblock⟩ := Traced.run_showGreeting a.greeting.appearance t
  cases h : (showGreeting a.greeting.appearance : DeviceM (Traced δ) Unit).run.run t with
  | mk r t' =>
    rw [h] at hcalls hblock
    cases r with
    | ok u =>
      rw [run_tick_of_ok h]
      exact ⟨block, hcalls, hblock⟩
    | error e =>
      rw [run_tick_of_error h]
      exact ⟨block, hcalls, hblock⟩

theorem run_tickRun_traced (n : Nat) (a : Alternator) (t : Traced δ) :
    ∃ blocks, ((a.tickRun n).run t).2.calls = t.calls ++ blocks.flatten ∧
      List.Forall₂ (fun (shown : Greeting × Except BusError TickReport) block =>
        CycleCalls shown.1.appearance (shown.2.map fun _ => ()) block) ((a.tickRun n).run t).1.1 blocks := by
  induction n generalizing a t with
  | zero => exact ⟨[], (List.append_nil _).symm, .nil⟩
  | succ n ih =>
    obtain ⟨block, hcalls, hblock⟩ := run_tick_traced a t
    obtain ⟨blocks, hrest, hforall⟩ := ih (a.tick.run t).1.2 (a.tick.run t).2
    -- the first tick's block, then the blocks of the rest of the run from where it left off
    refine ⟨block :: blocks, ?_, ?_⟩
    · show ((tickRun n (a.tick.run t).1.2).run (a.tick.run t).2).2.calls = _
      rw [hrest, hcalls, List.flatten_cons, List.append_assoc]
    · exact .cons hblock hforall

/-- **Call protocol of an update cycle.** On any display, an update cycle adds to the call log
one block of `CycleCalls`. A run of `n` ticks adds one block per tick, each a non-empty prefix of
the cycle of the greeting that tick showed, ending at its first failing call; so every text write
of the run comes right after a cursor reset that went through. -/
theorem update_cycle_call_protocol (look : Appearance) (t : Traced δ) (a : Alternator) (n : Nat) :
    (∃ block, ((showGreeting look : DeviceM (Traced δ) Unit).run.run t).2.calls = t.calls ++ block ∧
      CycleCalls look ((showGreeting look : DeviceM (Traced δ) Unit).run.run t).1 block) ∧
    (∃ blocks, ((a.tickRun n).run t).2.calls = t.calls ++ blocks.flatten ∧
      List.Forall₂ (fun (shown : Greeting × Except BusError TickReport) block =>
        block ≠ [] ∧ block.map Prod.fst <+: Call.cycle shown.1.appearance ∧
          CycleCalls shown.1.appearance (shown.2.map fun _ => ()) block)
        ((a.tickRun n).run t).1.1 blocks ∧
      TextAfterReset blocks.flatten) := by
  refine ⟨Traced.run_showGreeting look t, ?_⟩
  obtain ⟨blocks, hcalls, hforall⟩ := run_tickRun_traced n a t
  refine ⟨blocks, hcalls, hforall.imp fun _ _ hb => ⟨hb.ne_nil, hb.starts_cycle, hb⟩, ?_⟩
  exact textAfterReset_flatten hforall

end Alternator

end Greeter
