import Mathlib.Algebra.Group.Nat.Defs
import Greeter.Alternator
import Greeter.Panel
import Greeter.Proofs.Parity

/-!
# The alternator counts what went through

A run of the alternator is any sequence of ticks, each on a display that may fail any of its
calls. Only the ticks whose update cycle went through move the alternator on.

**The state after `n` completed ticks** (`Alternator.afterCount`). The count is `n` modulo
`2^32`, and the greeting is `afterTicks` of that count: `Hello` exactly when `n` is even. That the
greeting keeps in step with the count across the wrap from `2^32 - 1` to `0` rests on `2^32` being
even (`Greeting.afterTicks_add_one`).

**Theorem (`Alternator.runOn_tracks_completed_ticks`).** Tick a new alternator once on each
display state of a list. After the run the alternator is the one after its completed ticks; each
tick shows `afterTicks k`, for the `k` ticks completed before it, and reports it as tick `k` or
returns the display's error; a tick that fails leaves the alternator as it was.

The proof is one step lemma, `Alternator.run_tick_afterCount`: from the state after `n`
completed ticks, a tick leads to the state after `n` or `n + 1` of them. The run lemmas follow by
induction over the list of displays, with `n` generalised.
-/

namespace Greeter.Alternator

variable {δ : Type}

/-! ## One tick -/

section Tick

variable [Display δ]

theorem run_tick_of_ok {a : Alternator} {d d' : δ}
    (h : (Display.showGreeting a.greeting.appearance).run.run d = pure (.ok (), d')) :
    a.tick.run d = pure ((.ok a.report, a.record .tickComplete), d') := by
  simp [tick, h]

theorem run_tick_of_error {a : Alternator} {d d' : δ} {e : BusError}
    (h : (Display.showGreeting a.greeting.appearance).run.run d = pure (.error e, d')) :
    a.tick.run d = pure ((.error e, a), d') := by
  simp [tick, h]

/-- A tick leaves the display as its update cycle left it. -/
theorem snd_run_tick (a : Alternator) (d : δ) :
    (a.tick.run d).2 = ((Display.showGreeting a.greeting.appearance).run.run d).2 := by
  cases h : (Display.showGreeting a.greeting.appearance).run.run d with
  | mk r d' =>
    cases r with
    | ok u =>
      rw [run_tick_of_ok h]
      rfl
    | error e =>
      rw [run_tick_of_error h]
      rfl

end Tick

/-! ## The state after `n` completed ticks -/

/-- The alternator after `n` completed ticks from a new one. -/
def afterCount (n : Nat) : Alternator where
  greeting := Greeting.afterTicks (UInt32.ofNat n)
  completed := UInt32.ofNat n

/-- A completed cycle moves the state after `n` ticks to the state after `n + 1`, also across
the wrap of the count. -/
theorem record_afterCount (n : Nat) : (afterCount n).record .tickComplete = afterCount (n + 1) := by
  simp only [afterCount, record, Greeting.transition_tickComplete, ← Greeting.afterTicks_add_one]
  congr 2 <;> simp [UInt32.ofNat_add]

theorem toNat_completed_afterCount (n : Nat) : (afterCount n).completed.toNat = n % 2 ^ 32 :=
  UInt32.toNat_ofNat'

theorem greeting_afterCount_eq_hello_iff (n : Nat) :
    (afterCount n).greeting = .hello ↔ n % 2 = 0 :=
  Greeting.afterTicks_ofNat_eq_hello_iff n

/-! ## Counting the ticks that went through -/

/-- The number of ticks that went through. -/
def okCount (outs : List (Except BusError TickReport × δ)) : Nat := outs.countP (·.1.isOk)

theorem okCount_cons (o : Except BusError TickReport × δ) (outs : List (Except BusError TickReport × δ)) :
    okCount (o :: outs) = o.1.isOk.toNat + okCount outs := by
  cases h : o.1.isOk <;> simp [okCount, h, Nat.add_comm]

theorem okCount_take_succ_of_error {outs : List (Except BusError TickReport × δ)} {i : Nat}
    {e : BusError} {d' : δ} (h : outs[i]? = some (.error e, d')) :
    okCount (outs.take (i + 1)) = okCount (outs.take i) := by
  simp [okCount, List.take_add_one, h, List.countP_append, Except.isOk, Except.toBool]

/-! ## Runs -/

variable [Display δ]

/-- Ticks once on each display of `ds` in turn, starting from `a`. Returns each tick's result
with the display it left, and the alternator at the end. Each tick gets its own display state,
so the caller may have done anything to the display between two ticks. -/
def tickEach (a : Alternator) : List δ → List (Except BusError TickReport × δ) × Alternator
  | [] => ([], a)
  | d :: ds =>
    let ((r, a'), d') := a.tick.run d
    let (outs, last) := a'.tickEach ds
    ((r, d') :: outs, last)

/-- What the tick after `n` completed ones does on display `d`: it shows `afterTicks n` and
reports it as tick `n` if the cycle went through, or returns the display's error. -/
def tickAfter (n : Nat) (d : δ) : Except BusError TickReport × δ :=
  let g := Greeting.afterTicks (UInt32.ofNat n)
  let (r, d') := (Display.showGreeting g.appearance).run.run d
  (r.map fun () => ⟨UInt32.ofNat n, g, g.message, g.color⟩, d')

theorem tickAfter_eq (n : Nat) (d : δ) :
    tickAfter n d =
      (((Display.showGreeting (afterCount n).greeting.appearance).run.run d).1.map
          fun () => (afterCount n).report,
        ((Display.showGreeting (afterCount n).greeting.appearance).run.run d).2) := rfl

/-- **One tick from the state after `n` completed ticks** is the tick after `n`, and leads to
the state after `n` or `n + 1` ticks as it failed or went through. -/
theorem run_tick_afterCount (n : Nat) (d : δ) :
    (afterCount n).tick.run d =
      pure (((tickAfter n d).1, afterCount (n + (tickAfter n d).1.isOk.toNat)), (tickAfter n d).2) := by
  cases h : (Display.showGreeting (afterCount n).greeting.appearance).run.run d with
  | mk r d' =>
    rw [tickAfter_eq, h]
    cases r with
    | ok u =>
      rw [run_tick_of_ok h, record_afterCount]
      rfl
    | error e =>
      rw [run_tick_of_error h]
      rfl

theorem tickEach_cons_afterCount (n : Nat) (d : δ) (ds : List δ) :
    (afterCount n).tickEach (d :: ds) =
      ((tickAfter n d) :: ((afterCount (n + (tickAfter n d).1.isOk.toNat)).tickEach ds).1,
        ((afterCount (n + (tickAfter n d).1.isOk.toNat)).tickEach ds).2) := by
  simp only [tickEach, run_tick_afterCount]
  rfl

theorem tickEach_afterCount_snd (n : Nat) (ds : List δ) :
    ((afterCount n).tickEach ds).2 = afterCount (n + okCount ((afterCount n).tickEach ds).1) := by
  induction ds generalizing n with
  | nil => rfl
  | cons d ds ih =>
    rw [tickEach_cons_afterCount, ih, okCount_cons, Nat.add_assoc]

theorem getElem?_tickEach_afterCount (n : Nat) (ds : List δ) (i : Nat) :
    ((afterCount n).tickEach ds).1[i]? =
      ds[i]?.map (tickAfter (n + okCount (((afterCount n).tickEach ds).1.take i))) := by
  induction ds generalizing n i with
  | nil => rfl
  | cons d ds ih =>
    rw [tickEach_cons_afterCount]
    cases i with
    | zero => simp [okCount]
    | succ i =>
      rw [List.getElem?_cons_succ, ih, List.getElem?_cons_succ, List.take_succ_cons, okCount_cons,
        Nat.add_assoc]

/-- A shorter run is a prefix of a longer one. -/
theorem tickEach_take (a : Alternator) (ds : List δ) (i : Nat) :
    (a.tickEach (ds.take i)).1 = (a.tickEach ds).1.take i := by
  induction ds generalizing a i with
  | nil => simp [tickEach]
  | cons d ds ih =>
    cases i with
    | zero => simp [tickEach]
    | succ i =>
      simp only [tickEach, List.take_succ_cons]
      obtain ⟨⟨r, a'⟩, d'⟩ := a.tick.run d
      simp [ih]

/-- A run: a new alternator ticked once on each display state of `ds`. -/
def runOn (ds : List δ) : List (Except BusError TickReport × δ) × Alternator :=
  ({} : Alternator).tickEach ds

/-- A run ends in the state after the ticks of it that went through. -/
theorem snd_runOn (ds : List δ) : (runOn ds).2 = afterCount (okCount (runOn ds).1) := by
  have h := tickEach_afterCount_snd 0 ds
  rw [Nat.zero_add] at h
  exact h

/-- **Run model of the alternator.** Over any display, tick a new alternator once on each display
state of `ds`. With `n` the number of ticks that went through, the count is `n` modulo `2^32`,
the greeting is `Hello` exactly when `n` is even, and so it is `afterTicks` of the count. Each
tick shows `afterTicks k`, for `k` the ticks completed before it, and reports it as tick `k`, or
returns the display's error; a tick that fails leaves the alternator as it was. -/
theorem runOn_tracks_completed_ticks (ds : List δ) :
    (runOn ds).2.completed.toNat = okCount (runOn ds).1 % 2 ^ 32 ∧
    ((runOn ds).2.greeting = .hello ↔ okCount (runOn ds).1 % 2 = 0) ∧
    (runOn ds).2.greeting = Greeting.afterTicks (runOn ds).2.completed ∧
    (∀ i (hi : i < ds.length),
      (runOn ds).1[i]? = some (tickAfter (okCount ((runOn ds).1.take i)) ds[i])) ∧
    (∀ i e d', (runOn ds).1[i]? = some (.error e, d') →
      (runOn (ds.take (i + 1))).2 = (runOn (ds.take i)).2) := by
  -- the run on a prefix of `ds` is the prefix of the run, so it ends where that prefix's ticks lead
  have hafter : ∀ j, (runOn (ds.take j)).2 = afterCount (okCount ((runOn ds).1.take j)) := by
    intro j
    rw [snd_runOn, runOn, tickEach_take]
    rfl
  have hlast := snd_runOn ds
  refine ⟨?_, ?_, ?_, ?_, ?_⟩
  · rw [hlast, toNat_completed_afterCount]
  · rw [hlast, greeting_afterCount_eq_hello_iff]
  · rw [hlast]
    rfl
  · intro i hi
    have h := getElem?_tickEach_afterCount 0 ds i
    rw [List.getElem?_eq_getElem hi, Nat.zero_add] at h
    exact h
  · intro i e d' h
    rw [hafter, hafter, okCount_take_succ_of_error h]

/-- Two panel states for two ticks: the first on a bus whose first write fails, the second on a bus
that never fails. -/
def panelsFailingFirst : List Panel :=
  [Panel.ofBus { plan := [⟨0, .bus⟩] }, Panel.ofBus { plan := [] }]

/-- On a panel whose first write fails, the first tick returns that write's error and leaves the
alternator as it was, so the second tick is the tick after none completed. -/
theorem runOn_panels_after_failed_tick :
    1 < panelsFailingFirst.length ∧
    (runOn panelsFailingFirst).1[1]? =
      some (tickAfter (okCount ((runOn panelsFailingFirst).1.take 1)) (Panel.ofBus { plan := [] })) ∧
    (runOn panelsFailingFirst).1[0]? =
      some (.error .bus, { bus := { plan := [⟨0, .bus⟩], attempts := 1 } }) ∧
    (runOn (panelsFailingFirst.take 1)).2 = (runOn (panelsFailingFirst.take 0)).2 := by
  have hfail : (runOn panelsFailingFirst).1[0]? =
      some (.error .bus, { bus := { plan := [⟨0, .bus⟩], attempts := 1 } }) := rfl
  have hrun := runOn_tracks_completed_ticks panelsFailingFirst
  exact ⟨by decide, hrun.2.2.2.1 1 (by decide), hfail, hrun.2.2.2.2 0 _ _ hfail⟩

end Greeter.Alternator
