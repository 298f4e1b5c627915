import Mathlib.Logic.Function.Iterate
import Greeter.Greeting

/-!
# Greetings follow the parity of completed cycles

Toggling twice changes nothing, so what a greeting becomes depends only on how many times it
toggled, and only on whether that number is even. Two things count toggles: the state machine,
which toggles on each completed cycle and holds on a fault, and `afterTicks`, which reads the
parity off a 32-bit count.

**Theorem (`Greeting.transitions_follow_tick_parity`).** Folding `transition` over any list of
events from any greeting gives that greeting when the list holds an even number of completed
cycles and the other one when it holds an odd number; a fault is the identity whatever its error.
One more completed cycle toggles `afterTicks`, also at the wrap from `2^32 - 1` to `0`; so
`afterTicks` of `n` modulo `2^32` is `Hello` toggled `n` times, for every `n`.

Both sides go through `toggled^[n]`, the greeting toggled `n` times. A fold toggles once per
completed cycle (`Greeting.foldl_transition`, by induction over the events), and `afterTicks` of
`n` is `Hello` toggled `n` times (`Greeting.afterTicks_ofNat`, by induction over `n` from the
step `Greeting.afterTicks_add_one`). That step survives the wrap only because `2^32` is even.
-/

namespace Greeter.Greeting

/-! ## Toggling `n` times -/

/-- One more toggle flips the parity. -/
theorem toggled_parity (n : Nat) (g : Greeting) :
    (if n % 2 = 0 then g else g.toggled).toggled = if (n + 1) % 2 = 0 then g else g.toggled := by
  rcases Nat.mod_two_eq_zero_or_one n with h | h
  · have h' : (n + 1) % 2 = 1 := by omega
    simp [h, h']
  · have h' : (n + 1) % 2 = 0 := by omega
    simp [h, h']

theorem iterate_toggled (n : Nat) (g : Greeting) :
    toggled^[n] g = if n % 2 = 0 then g else g.toggled := by
  induction n with
  | zero => rfl
  | succ n ih => rw [Function.iterate_succ_apply', ih, toggled_parity]

/-! ## The state machine -/

/-- A run of the state machine toggles once per completed cycle; faults leave it where it is. -/
theorem foldl_transition (g : Greeting) (es : List Event) :
    es.foldl transition g = toggled^[es.count .tickComplete] g := by
  induction es generalizing g with
  | nil => rfl
  | cons e es ih =>
    cases e with
    | tickComplete =>
      rw [List.foldl_cons, ih, transition_tickComplete, List.count_cons_self,
        Function.iterate_succ_apply]
    | busFault e =>
      rw [List.foldl_cons, ih, transition_busFault, List.count_cons_of_ne (by simp)]

/-! ## The count -/

theorem afterTicks_eq (n : UInt32) :
    afterTicks n = if n.toNat % 2 = 0 then .hello else .world := by
  have h : n % 2 = 0 ↔ n.toNat % 2 = 0 := by
    rw [← UInt32.toNat_inj]; simp
  simp only [afterTicks, h]

/-- One more completed cycle toggles the greeting of the count. The count wraps at `2^32`, an even
number, so its parity flips at the wrap as everywhere else. -/
theorem afterTicks_add_one (n : UInt32) : afterTicks (n + 1) = (afterTicks n).toggled := by
  have h2 : (2 : Nat) ∣ 2 ^ 32 := by decide
  have hmod : (n + 1).toNat % 2 = (n.toNat + 1) % 2 := by
    rw [UInt32.toNat_add, UInt32.toNat_one, Nat.mod_mod_of_dvd _ h2]
  rw [afterTicks_eq, afterTicks_eq, hmod]
  exact (toggled_parity n.toNat hello).symm

-- at the wrap: the largest count shows `World`, and one more cycle comes back to `Hello`
example : afterTicks 4294967295 = .world ∧ afterTicks (4294967295 + 1) = .hello := by decide

/-- The greeting of the count `n` modulo `2^32` is `Hello` toggled `n` times. -/
theorem afterTicks_ofNat (n : Nat) : afterTicks (UInt32.ofNat n) = toggled^[n] hello := by
  induction n with
  | zero => rfl
  | succ n ih =>
    rw [UInt32.ofNat_add, UInt32.ofNat_one, afterTicks_add_one, ih, Function.iterate_succ_apply']

theorem afterTicks_ofNat_eq_hello_iff (n : Nat) :
    afterTicks (UInt32.ofNat n) = .hello ↔ n % 2 = 0 := by
  rw [afterTicks_ofNat, iterate_toggled]
  split <;> simp_all [toggled]

/-- **Greetings follow the parity of completed cycles.** A run of the state machine over any
events ends where it started after an even number of completed cycles and on the other greeting
after an odd number; a fault holds the greeting, whatever its error. One more cycle toggles the
greeting of the 32-bit count, also where the count wraps; so the greeting of `n` modulo `2^32` is
`Hello` toggled `n` times. -/
theorem transitions_follow_tick_parity :
    (∀ (g : Greeting) (es : List Event),
      es.foldl transition g = if es.count .tickComplete % 2 = 0 then g else g.toggled) ∧
    (∀ (g : Greeting) (e : BusError), g.transition (.busFault e) = g) ∧
    (∀ n : UInt32, afterTicks (n + 1) = (afterTicks n).toggled) ∧
    (∀ n : Nat, afterTicks (UInt32.ofNat n) = toggled^[n] hello) := by
  refine ⟨?_, transition_busFault, afterTicks_add_one, afterTicks_ofNat⟩
  intro g es
  rw [foldl_transition, iterate_toggled]

end Greeter.Greeting
