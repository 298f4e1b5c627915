import Greeter.Panel

/-!
# The panel's operations as batches of writes

Every operation of the panel sends a list of commands, one write each, and gives up at the first
write that fails. This module shows that such a list is one batch on the panel's bus, described
in closed form by `Bus.writeAll`: first for the bus alone, then for the panel's operations.
-/

/-!
## Batches of writes on a planned bus

A driver sends its writes one at a time and gives up at the first that fails. `Bus.writeAll`
describes a whole batch at once: it looks up the first index of the batch that the plan fails.
This section shows that the two descriptions agree.

**Theorem (`Bus.writeAll_cons`).** A batch is its first write followed, if that write went
through, by the rest of the batch on the bus it left.

The proof peels the first index off the search: the first failing index among `n + 1` writes is
either the first write, or one more than the first failing index among the next `n`. The search
reads the bus only through its plan and its attempt count, so the log written by the first
write does not disturb it.
-/

namespace Greeter.Bus

/-- The search for a failing write reads only the plan and the attempt count. -/
theorem firstFault?_congr {b b' : Bus} (hp : b.plan = b'.plan) (ha : b.attempts = b'.attempts) :
    b.firstFault? = b'.firstFault? := by
  funext n
  simp [firstFault?, faultAt?, hp, ha]

/-- The first failing index among `n + 1` writes: the first write, or a later one found by
the same search one attempt further on. -/
theorem firstFault?_succ (b : Bus) (n : Nat) :
    b.firstFault? (n + 1) =
      match b.faultAt? b.attempts with
      | some k => some (0, k)
      | none => (({ b with attempts := b.attempts + 1 } : Bus).firstFault? n).map
          fun (i, k) => (i + 1, k) := by
  simp only [firstFault?, List.range_succ_eq_map, List.findSome?_cons, Nat.add_zero]
  cases b.faultAt? b.attempts with
  | some k => simp
  | none => simp [List.findSome?_map, Function.comp_def, Nat.add_assoc, Nat.add_comm 1, faultAt?]

@[simp] theorem writeAll_nil (b : Bus) : b.writeAll [] = (.ok (), b) := by
  simp [writeAll, firstFault?]

/-- **A batch is its writes one after another**, stopping at the first that fails. -/
theorem writeAll_cons (b : Bus) (t : Transfer) (ts : List Transfer) :
    b.writeAll (t :: ts) =
      match b.write t with
      | (.ok (), b') => b'.writeAll ts
      | (.error e, b') => (.error e, b') := by
  cases h : b.faultAt? b.attempts with
  | some k =>
    rw [write_of_faultAt? h]
    simp [writeAll, firstFault?_succ, h]
  | none =>
    rw [write_of_faultAt?_eq_none h]
    -- the rest of the batch starts one attempt later, on a bus whose log has grown
    have hlog : ({ b with attempts := b.attempts + 1, log := b.log ++ [t] } : Bus).firstFault? =
        ({ b with attempts := b.attempts + 1 } : Bus).firstFault? := firstFault?_congr rfl rfl
    simp only [writeAll, List.length_cons, firstFault?_succ, h, hlog]
    cases ({ b with attempts := b.attempts + 1 } : Bus).firstFault? ts.length with
    | some p => simp [Nat.add_assoc, Nat.add_comm 1]
    | none => simp [Nat.add_assoc, Nat.add_comm 1]

theorem writeAll_of_firstFault?_eq_some {b : Bus} {ts : List Transfer} {i : Nat} {k : FaultKind}
    (h : b.firstFault? ts.length = some (i, k)) :
    b.writeAll ts =
      (.error (BusError.ofKind k),
        { b with attempts := b.attempts + (i + 1), log := b.log ++ ts.take i }) := by
  simp [writeAll, h]

theorem writeAll_of_firstFault?_eq_none {b : Bus} {ts : List Transfer}
    (h : b.firstFault? ts.length = none) :
    b.writeAll ts = (.ok (), { b with attempts := b.attempts + ts.length, log := b.log ++ ts }) := by
  simp [writeAll, h]

/-- A batch that went through logged all its writes. -/
theorem log_writeAll_of_isOk {b : Bus} {ts : List Transfer} (h : (b.writeAll ts).1.isOk) :
    (b.writeAll ts).2.log = b.log ++ ts := by
  cases hf : b.firstFault? ts.length with
  | none => rw [writeAll_of_firstFault?_eq_none hf]
  | some p =>
    rw [writeAll_of_firstFault?_eq_some hf] at h
    simp [Except.isOk, Except.toBool] at h

/-- The failing write found among the next `n` is one of them. -/
theorem firstFault?_lt {b : Bus} {n i : Nat} {k : FaultKind} (h : b.firstFault? n = some (i, k)) :
    i < n := by
  obtain ⟨j, hj, hf⟩ := List.exists_of_findSome?_eq_some h
  obtain ⟨k', -, hjk⟩ := Option.map_eq_some_iff.1 hf
  cases hjk
  exact List.mem_range.1 hj

/-- **A batch went through exactly when it logged all its writes**: a failed batch logged only
the writes before the failing one, which are fewer. -/
theorem isOk_writeAll_iff (b : Bus) (ts : List Transfer) :
    (b.writeAll ts).1.isOk = true ↔ (b.writeAll ts).2.log.drop b.log.length = ts := by
  cases hf : b.firstFault? ts.length with
  | none =>
    rw [writeAll_of_firstFault?_eq_none hf]
    simp [Except.isOk, Except.toBool]
  | some p =>
    obtain ⟨i, k⟩ := p
    have hi := firstFault?_lt hf
    rw [writeAll_of_firstFault?_eq_some hf, List.drop_left]
    refine iff_of_false (by simp [Except.isOk, Except.toBool]) fun h => ?_
    have hlen := congrArg List.length h
    simp at hlen
    omega

@[simp] theorem plan_writeAll (b : Bus) (ts : List Transfer) : (b.writeAll ts).2.plan = b.plan := by
  unfold writeAll; split <;> rfl

end Greeter.Bus

/-!
## What the panel's operations put on the bus

Every operation of the panel issues a list of commands, and issuing commands is a batch of
writes on the panel's bus.

**Theorem (`Panel.run_issue`).** Issuing `cs` on a panel runs `Bus.writeAll` over the
transfers of `cs` and changes nothing else of the panel.

The induction is over the commands, with the panel generalised: the first command is one write,
and `Bus.writeAll_cons` splits the batch the same way. From it, each operation of the `Display`
instance is a batch: an update cycle is the batch of `Command.cycle`, and the handshake is the
batch of `Command.handshake` that marks the panel initialized exactly when it went through.
-/

namespace Greeter.Panel

/-! ### The operations as command lists -/

@[simp] theorem resetCursor_eq : (Display.resetCursor : DeviceM Panel Unit) = issue [.cursorReset] :=
  rfl

@[simp] theorem writeText_eq (m : Message) :
    (Display.writeText m : DeviceM Panel Unit) = issue [.text m] := rfl

@[simp] theorem setColor_eq (c : Color) :
    (Display.setColor c : DeviceM Panel Unit) = issue (Command.colorCommands c) := rfl

theorem issue_append (cs ds : List Command) :
    issue (cs ++ ds) = (issue cs >>= fun _ => issue ds) := by
  simp [issue]

/-- An update cycle on the panel issues the commands of `Command.cycle`, in one go. -/
theorem showGreeting_eq_issue (look : Appearance) :
    (Display.showGreeting look : DeviceM Panel Unit) = issue (Command.cycle look) := by
  show _ = issue ([.cursorReset] ++ ([.text look.message] ++ Command.colorCommands look.color))
  rw [issue_append, issue_append]
  rfl

/-! ### Running them -/

@[simp] theorem run_modify {δ : Type} (f : δ → δ) (d : δ) :
    (modify f : DeviceM δ Unit).run.run d = pure (.ok (), f d) := rfl

theorem run_send (t : Transfer) (p : Panel) :
    (send t).run.run p = pure ((p.bus.write t).1, { p with bus := (p.bus.write t).2 }) := by
  simp [send]

/-- **Issuing commands is the batch write of their transfers**; the mark is left alone. -/
theorem run_issue (cs : List Command) (p : Panel) :
    (issue cs).run.run p =
      pure ((p.bus.writeAll (cs.map Command.transfer)).1,
        { p with bus := (p.bus.writeAll (cs.map Command.transfer)).2 }) := by
  induction cs generalizing p with
  | nil => simp [issue]
  | cons c cs ih =>
    simp only [issue, List.forM_eq_forM] at ih
    simp only [issue, List.forM_eq_forM, List.forM_cons, ExceptT.run_bind, StateT.run_bind,
      run_send, List.map_cons, Bus.writeAll_cons, pure_bind]
    obtain ⟨r, b⟩ := p.bus.write c.transfer
    cases r with
    | ok u => simp [ih]
    | error e => simp

/-- The handshake is one batch; the panel is marked initialized when it went through, and keeps
its mark otherwise. -/
theorem run_initLcd (p : Panel) :
    (Display.initLcd : DeviceM Panel Unit).run.run p =
      pure ((p.bus.writeAll (Command.handshake.map Command.transfer)).1,
        { bus := (p.bus.writeAll (Command.handshake.map Command.transfer)).2,
          initialized := p.initialized || (p.bus.writeAll (Command.handshake.map Command.transfer)).1.isOk }) := by
  show (issue Command.handshake >>= fun _ => modify fun p => { p with initialized := true }).run.run p = _
  simp only [ExceptT.run_bind, StateT.run_bind, run_issue, pure_bind]
  cases (p.bus.writeAll (Command.handshake.map Command.transfer)).1 with
  | ok u => simp [Except.isOk, Except.toBool]
  | error e => simp [Except.isOk, Except.toBool]

end Greeter.Panel
