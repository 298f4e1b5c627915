/-!
# The I2C bus

The drivers of this library see the bus as one operation: a blocking write of some bytes to a
7-bit address, which goes through or fails with a `BusError`. This module gives the errors, as a
controller reports them and as the drivers see them, and a bus whose failures follow a plan fixed
up front, which is how every statement about failing writes is made.
-/

namespace Greeter

/-!
## Bus errors

A write on the I2C bus either goes through or fails. A bus controller reports a failure as a
`FaultKind`: a misplaced start or stop condition, lost arbitration, a missing acknowledge (after
the address, after a data byte, or from an unknown source), an overrun, or something else. The
drivers of this library see the coarser `BusError`, which forgets where an acknowledge was
missing.

**Main definition.** `BusError.ofKind` maps each fault kind to its bus error. Every missing
acknowledge becomes `nack`, whatever its source; each other kind keeps its meaning.
-/

/-- Where a missing acknowledge was detected. -/
inductive NackSource where
  | address
  | data
  | unknown
deriving DecidableEq, Repr

/-- A failure as the bus controller reports it. -/
inductive FaultKind where
  | bus
  | arbitrationLoss
  | noAcknowledge (source : NackSource)
  | overrun
  | other
deriving DecidableEq, Repr

/-- A failed bus write, as the drivers see it. -/
inductive BusError where
  | bus
  | arbitrationLost
  | nack
  | overrun
  | other
deriving DecidableEq, Repr

/-- The bus error a driver sees for a fault the controller reports. -/
def BusError.ofKind : FaultKind → BusError
  | .bus => .bus
  | .arbitrationLoss => .arbitrationLost
  | .noAcknowledge _ => .nack
  | .overrun => .overrun
  | .other => .other

@[simp] theorem BusError.ofKind_noAcknowledge (s : NackSource) :
    BusError.ofKind (.noAcknowledge s) = .nack := rfl

/-!
## A bus with a fault plan

The drivers of this library only ever write: a `Transfer` is one write, the 7-bit address of a
device and the bytes it receives in one transaction. The bus they write on is described by what
can be observed of it: which writes fail, and how.

**The state** (`Bus`). A fault plan, fixed up front, says which writes fail: a `Fault` names the
index of a write, counted from zero over every write the bus is asked for, and the kind of
failure. Beside the plan the bus keeps the number of writes it was asked for so far and the log
of those that went through, in order. Any sequence of successes and failures of a real bus is
the behaviour of some plan, so nothing is lost by this description.

**The operation** (`Bus.write`). A write with index `i` fails with the first fault listed for
`i`, if there is one, and is logged otherwise. Either way it is counted.

**Batches** (`Bus.writeAll`). A list of writes sent one after another until one fails has a
closed description: find the first of their indices that the plan fails. The writes before it
are logged, and the attempts made, the failing one included, are counted. With no such index,
all are logged and counted.
-/

/-- One write on the bus: the address of a device and the bytes it receives in one transaction. -/
structure Transfer where
  -- 7-bit device address
  address : UInt8
  bytes : List UInt8
deriving DecidableEq, Repr

/-- A planned failure: the write with index `attempt` fails with `kind`. -/
structure Fault where
  -- counted from zero over all writes, failed ones included
  attempt : Nat
  kind : FaultKind
deriving DecidableEq, Repr

/-- A bus whose failures follow a plan. -/
structure Bus where
  -- of two faults at the same index the first listed wins
  plan : List Fault
  -- writes asked for so far, failed ones included
  attempts : Nat := 0
  -- the writes that went through, oldest first
  log : List Transfer := []
deriving Repr

namespace Bus

/-- The kind of failure planned for the write with index `i`: the first one listed for `i`. -/
def faultAt? (b : Bus) (i : Nat) : Option FaultKind :=
  (b.plan.find? fun f => f.attempt == i).map (·.kind)

/-- Sends `t`. The write counts as an attempt whether it fails or not, and is logged only if it
goes through. -/
def write (b : Bus) (t : Transfer) : Except BusError Unit × Bus :=
  match b.faultAt? b.attempts with
  | some k => (.error (BusError.ofKind k), { b with attempts := b.attempts + 1 })
  | none => (.ok (), { b with attempts := b.attempts + 1, log := b.log ++ [t] })

@[simp] theorem attempts_write (b : Bus) (t : Transfer) :
    (b.write t).2.attempts = b.attempts + 1 := by
  unfold write; split <;> rfl

@[simp] theorem plan_write (b : Bus) (t : Transfer) : (b.write t).2.plan = b.plan := by
  unfold write; split <;> rfl

theorem write_of_faultAt? {b : Bus} {k : FaultKind} (h : b.faultAt? b.attempts = some k)
    (t : Transfer) :
    b.write t = (.error (BusError.ofKind k), { b with attempts := b.attempts + 1 }) := by
  simp [write, h]

theorem write_of_faultAt?_eq_none {b : Bus} (h : b.faultAt? b.attempts = none) (t : Transfer) :
    b.write t = (.ok (), { b with attempts := b.attempts + 1, log := b.log ++ [t] }) := by
  simp [write, h]

/-- The first of the next `n` writes that the plan fails, as its position among them, with the
kind of failure. -/
def firstFault? (b : Bus) (n : Nat) : Option (Nat × FaultKind) :=
  (List.range n).findSome? fun i => (b.faultAt? (b.attempts + i)).map fun k => (i, k)

/-- Sends `ts` in order as one batch that stops at its first failing write. -/
def writeAll (b : Bus) (ts : List Transfer) : Except BusError Unit × Bus :=
  match b.firstFault? ts.length with
  | some (i, k) =>
    (.error (BusError.ofKind k), { b with attempts := b.attempts + (i + 1), log := b.log ++ ts.take i })
  | none => (.ok (), { b with attempts := b.attempts + ts.length, log := b.log ++ ts })

end Bus

end Greeter
