import Greeter.Proofs.WireTrace

/-!
# The handshake mark

A panel remembers whether the LCD handshake has gone through since the panel was built. Only two
kinds of step touch the mark: a handshake sets it when all three of its writes went out, and
building the panel anew (`renewPanel`, or the tick through a fresh panel) clears it.

**Theorem (`Session.initialized_iff_handshake_since_built`).** For every fault plan and every list
of steps, the answer to step `i` shows the panel marked exactly when some step `j ≤ i` was a
handshake that logged all three writes and no step after `j` up to `i` built the panel anew. A
handshake leaves the mark set if it was set or if the handshake went through, so a failed one
neither sets nor clears it; a step that is neither a handshake nor a rebuild leaves the mark as it
was; a rebuild clears it.

The proof is a step lemma and a run lemma. `Session.initialized_step_iff` says what one step does
to the mark, in the same shape as the history (`Session.MarkedAfter`): a handshake that went
through, or a mark kept by a step that does not rebuild. The run lemma
`Session.initialized_replay` follows by induction over the steps, from any session state; moving
one step along the history shifts every index by one (`Session.markedAfter_succ`).
-/

namespace Greeter

/-- Whether a step builds the panel anew, which forgets the handshake. -/
def Step.rebuildsPanel : Step → Bool
  | .renewPanel | .tickOnFreshPanel => true
  | _ => false

namespace Session

/-! ## One step -/

theorem initialized_operate_issue (s : Session) (cs : List Command) :
    (s.operate (Panel.issue cs)).2.panel.initialized = s.panel.initialized := by
  rw [operate, Panel.run_issue]
  rfl

theorem initialized_tick (s : Session) : s.tick.2.panel.initialized = s.panel.initialized := by
  have h := Alternator.snd_run_tick s.alternator s.panel
  rw [Panel.showGreeting_eq_issue, Panel.run_issue] at h
  show (s.alternator.tick.run s.panel).2.initialized = _
  rw [h]
  rfl

theorem initialized_step_initLcd (s : Session) :
    (s.step .initLcd).2.panel.initialized = (s.panel.initialized || (s.step .initLcd).1.isOk) := by
  show (s.operate Display.initLcd).2.panel.initialized =
    (s.panel.initialized || (s.operate Display.initLcd).1.isOk)
  rw [operate, Panel.run_initLcd]
  cases (s.panel.bus.writeAll (Command.handshake.map Command.transfer)).1 <;> rfl

theorem initialized_step_of_keeps {st : Step} (hinit : st ≠ .initLcd)
    (hkeep : st.rebuildsPanel = false) (s : Session) :
    (s.step st).2.panel.initialized = s.panel.initialized := by
  cases st with
  | initLcd => exact absurd rfl hinit
  -- the other panel operations issue commands, which touch only the bus
  | resetCursor => exact initialized_operate_issue s _
  | writeText m => exact initialized_operate_issue s _
  | setColor c => exact initialized_operate_issue s _
  | showGreeting g =>
    rw [step, Panel.showGreeting_eq_issue]
    exact initialized_operate_issue s _
  | tick => exact initialized_tick s
  | tickOnFreshPanel => cases hkeep
  | renewPanel => cases hkeep
  | renewAlternator => rfl
  | observe => rfl

theorem initialized_step_of_rebuildsPanel {st : Step} (h : st.rebuildsPanel = true) (s : Session) :
    (s.step st).2.panel.initialized = false := by
  cases st with
  | renewPanel => rfl
  | tickOnFreshPanel =>
    rw [step]
    obtain ⟨r, s'⟩ := s.renewPanel.tick
    rfl
  | _ => cases h

/-- A handshake went through exactly when it logged all three of its writes. -/
theorem isOk_step_initLcd_iff (s : Session) :
    (s.step .initLcd).1.isOk = true ↔
      (s.step .initLcd).2.panel.bus.log.drop s.panel.bus.log.length =
        Command.handshake.map Command.transfer := by
  have hw : FlatSession.writes s.alternator.greeting .initLcd =
      Command.handshake.map Command.transfer :=
    FlatSession.writes_eq_map_transfer _ _
  rw [fst_step, bus_step, hw, ← Bus.isOk_writeAll_iff]
  cases (s.panel.bus.writeAll (Command.handshake.map Command.transfer)).1 <;> rfl

/-- **What one step does to the mark.** After a step the panel is marked exactly when the step
was a handshake that logged all its writes, or the panel was marked before and the step did not
build it anew. -/
theorem initialized_step_iff (s : Session) (st : Step) :
    (s.step st).2.panel.initialized = true ↔
      (st = .initLcd ∧ (s.step st).2.panel.bus.log.drop s.panel.bus.log.length =
          Command.handshake.map Command.transfer) ∨
        (s.panel.initialized = true ∧ st.rebuildsPanel = false) := by
  by_cases hinit : st = .initLcd
  · subst hinit
    rw [initialized_step_initLcd, Bool.or_eq_true, isOk_step_initLcd_iff]
    simp only [true_and, Step.rebuildsPanel, and_true]
    exact Or.comm
  · cases hkeep : st.rebuildsPanel with
    | false => simp [initialized_step_of_keeps hinit hkeep, hinit]
    | true => simp [initialized_step_of_rebuildsPanel hkeep, hinit]

/-! ## Histories -/

section History

variable {ε : Type}

/-- Step `j` of a session is a handshake that logged all three of its writes. -/
def HandshakeAt (steps : List (Except ε Step)) (entries : List (Entry ε)) (j : Nat) : Prop :=
  steps[j]? = some (.ok .initLcd) ∧
    entries[j]?.map Entry.writes = some (Command.handshake.map Command.transfer)

/-- No step from `j` to `i`, both included, builds the panel anew. -/
def KeepsPanel (steps : List (Except ε Step)) (j i : Nat) : Prop :=
  ∀ k, j ≤ k → k ≤ i → ∀ st, steps[k]? = some (.ok st) → st.rebuildsPanel = false

/-- What the history up to step `i` says of the mark, for a panel whose mark was `b` before it: a
handshake went through at a step `j ≤ i` and no step after it up to `i` built the panel anew, or
the panel was marked and no step up to `i` built it anew. -/
def MarkedAfter (b : Bool) (steps : List (Except ε Step)) (entries : List (Entry ε)) (i : Nat) :
    Prop :=
  (∃ j ≤ i, HandshakeAt steps entries j ∧ KeepsPanel steps (j + 1) i) ∨
    (b = true ∧ KeepsPanel steps 0 i)

variable {x : Except ε Step} {steps : List (Except ε Step)} {e : Entry ε}
  {entries : List (Entry ε)}

theorem handshakeAt_cons_zero :
    HandshakeAt (x :: steps) (e :: entries) 0 ↔
      x = .ok .initLcd ∧ e.writes = Command.handshake.map Command.transfer := by
  simp [HandshakeAt]

theorem KeepsPanel.mono {j i j' i' : Nat} (h : KeepsPanel steps j i) (hj : j ≤ j') (hi : i' ≤ i) :
    KeepsPanel steps j' i' :=
  fun k hjk hki => h k (by omega) (by omega)

theorem keepsPanel_succ_self (j : Nat) : KeepsPanel steps (j + 1) j := by
  intro k hj hi
  omega

theorem keepsPanel_cons_succ {j i : Nat} :
    KeepsPanel (x :: steps) (j + 1) (i + 1) ↔ KeepsPanel steps j i := by
  constructor
  · intro h k hj hi st hk
    exact h (k + 1) (by omega) (by omega) st hk
  · intro h k hj hi st hk
    obtain ⟨k, rfl⟩ : ∃ k', k = k' + 1 := ⟨k - 1, by omega⟩
    exact h k (by omega) (by omega) st hk

theorem keepsPanel_cons_zero_zero :
    KeepsPanel (x :: steps) 0 0 ↔ ∀ st, x = .ok st → st.rebuildsPanel = false := by
  constructor
  · intro h st hx
    exact h 0 (Nat.le_refl 0) (Nat.le_refl 0) st (by rw [hx]; rfl)
  · intro h k _ hk st hst
    obtain rfl : k = 0 := by omega
    exact h st (Option.some.inj hst)

theorem keepsPanel_cons_zero_succ {i : Nat} :
    KeepsPanel (x :: steps) 0 (i + 1) ↔
      (∀ st, x = .ok st → st.rebuildsPanel = false) ∧ KeepsPanel steps 0 i := by
  constructor
  · intro h
    exact ⟨keepsPanel_cons_zero_zero.1 (h.mono (Nat.le_refl 0) (Nat.zero_le _)),
      keepsPanel_cons_succ.1 (h.mono (Nat.zero_le 1) (Nat.le_refl _))⟩
  · rintro ⟨h0, hs⟩ k _ hk st hst
    cases k with
    | zero => exact h0 st (Option.some.inj hst)
    | succ k => exact hs k (Nat.zero_le k) (by omega) st hst

theorem markedAfter_zero {b : Bool} :
    MarkedAfter b (x :: steps) (e :: entries) 0 ↔
      (x = .ok .initLcd ∧ e.writes = Command.handshake.map Command.transfer) ∨
        (b = true ∧ ∀ st, x = .ok st → st.rebuildsPanel = false) := by
  have hfirst : (∃ j ≤ 0, HandshakeAt (x :: steps) (e :: entries) j ∧
        KeepsPanel (x :: steps) (j + 1) 0) ↔
      HandshakeAt (x :: steps) (e :: entries) 0 := by
    constructor
    · rintro ⟨j, hj, h, -⟩
      obtain rfl : j = 0 := by omega
      exact h
    · intro h
      exact ⟨0, Nat.le_refl 0, h, keepsPanel_succ_self 0⟩
  rw [MarkedAfter, hfirst, handshakeAt_cons_zero, keepsPanel_cons_zero_zero]

/-- The history up to step `i + 1` from a panel marked `b` is the history of the rest up to step
`i`, from the mark that the first step left. -/
theorem markedAfter_succ {b b' : Bool} {i : Nat}
    (hb' : b' = true ↔ MarkedAfter b (x :: steps) (e :: entries) 0) :
    MarkedAfter b (x :: steps) (e :: entries) (i + 1) ↔ MarkedAfter b' steps entries i := by
  rw [markedAfter_zero] at hb'
  -- a handshake at a later step is one of the rest; one at the first step goes into the mark
  have hsplit : (∃ j ≤ i + 1, HandshakeAt (x :: steps) (e :: entries) j ∧
        KeepsPanel (x :: steps) (j + 1) (i + 1)) ↔
      ((x = .ok .initLcd ∧ e.writes = Command.handshake.map Command.transfer) ∧
          KeepsPanel steps 0 i) ∨
        ∃ j ≤ i, HandshakeAt steps entries j ∧ KeepsPanel steps (j + 1) i := by
    simp only [← Nat.lt_succ_iff, Nat.exists_lt_succ_left, handshakeAt_cons_zero,
      keepsPanel_cons_succ]
    rfl
  rw [MarkedAfter, MarkedAfter, hsplit, keepsPanel_cons_zero_succ, hb']
  constructor
  · rintro ((h | h) | ⟨hb, h0, hs⟩)
    · exact .inr ⟨.inl h.1, h.2⟩
    · exact .inl h
    · exact .inr ⟨.inr ⟨hb, h0⟩, hs⟩
  · rintro (h | ⟨h | ⟨hb, h0⟩, hs⟩)
    · exact .inl (.inr h)
    · exact .inl (.inl ⟨h, hs⟩)
    · exact .inr ⟨hb, h0, hs⟩

/-- The first answer of a replay and the session it leaves for the rest: the answer shows that
session's mark, which the step lemma describes. -/
theorem replay_cons_mark (s : Session) (x : Except ε Step) (rest : List (Except ε Step)) :
    ∃ (e : Entry ε) (s' : Session), s.replay (x :: rest) = e :: s'.replay rest ∧
      e.initialized = s'.panel.initialized ∧
      (s'.panel.initialized = true ↔
        (x = .ok .initLcd ∧ e.writes = Command.handshake.map Command.transfer) ∨
          (s.panel.initialized = true ∧ ∀ st, x = .ok st → st.rebuildsPanel = false)) := by
  cases x with
  | error err =>
    -- a step that could not be built changes nothing
    refine ⟨s.entry (.error err) [], s, rfl, rfl, ?_⟩
    simp
  | ok st =>
    refine ⟨(s.step st).2.entry (.ok (s.step st).1)
      ((s.step st).2.panel.bus.log.drop s.panel.bus.log.length), (s.step st).2, rfl, rfl, ?_⟩
    rw [initialized_step_iff]
    simp [entry]

/-- **The mark along a replay.** From any session, the answer to step `i` shows the panel marked
exactly when the history up to `i` calls for it, from the mark the session started with. -/
theorem initialized_replay (s : Session) (steps : List (Except ε Step)) (i : Nat) (e : Entry ε)
    (he : (s.replay steps)[i]? = some e) :
    e.initialized = true ↔ MarkedAfter s.panel.initialized steps (s.replay steps) i := by
  induction steps generalizing s i e with
  | nil => cases he
  | cons x rest ih =>
    obtain ⟨e₀, s', hreplay, he₀, hmark⟩ := replay_cons_mark s x rest
    rw [hreplay] at he ⊢
    cases i with
    | zero =>
      cases he
      rw [he₀, hmark, markedAfter_zero]
    | succ i => rw [ih s' i e he, markedAfter_succ (hmark.trans markedAfter_zero.symm)]

/-- **The handshake mark.** For every fault plan and every list of steps, the answer to step `i`
shows the panel marked exactly when a handshake at some step `j ≤ i` logged all three of its
writes and no step after it up to `i` built the panel anew. From any session state, a handshake
marks the panel if it was marked or the handshake went through; a step that is neither a
handshake nor a rebuild leaves the mark as it was; a rebuild clears it. -/
theorem initialized_iff_handshake_since_built :
    (∀ (plan : List Fault) (steps : List (Except ε Step)) (i : Nat) (e : Entry ε),
      ((start plan).replay steps)[i]? = some e →
        (e.initialized = true ↔
          ∃ j ≤ i, HandshakeAt steps ((start plan).replay steps) j ∧
            KeepsPanel steps (j + 1) i)) ∧
    (∀ s : Session,
      (s.step .initLcd).2.panel.initialized = (s.panel.initialized || (s.step .initLcd).1.isOk)) ∧
    (∀ (s : Session) (st : Step), st ≠ .initLcd → st.rebuildsPanel = false →
      (s.step st).2.panel.initialized = s.panel.initialized) ∧
    (∀ (s : Session) (st : Step), st.rebuildsPanel = true →
      (s.step st).2.panel.initialized = false) := by
  refine ⟨fun plan steps i e he => ?_, initialized_step_initLcd,
    fun s st hinit hkeep => initialized_step_of_keeps hinit hkeep s,
    fun s st h => initialized_step_of_rebuildsPanel h s⟩
  -- a session starts on a panel that is not marked
  rw [initialized_replay _ steps i e he, MarkedAfter]
  simp [start, Panel.ofBus]

/-- A handshake, the handshake again, and a look at the panel. -/
def retriedHandshake : List (Except String Step) := [.ok .initLcd, .ok .initLcd, .ok .observe]

/-- A session whose panel went through the handshake. -/
def markedSession : Session := ((start []).step .initLcd).2

/-- On a bus whose second write fails, a failed handshake and then one that goes through leave
the panel marked, and the history shows a handshake since which the panel was kept; a tick keeps
the mark of a marked panel, and a tick through a fresh panel clears it. -/
theorem handshake_mark_after_retry :
    ((start [⟨1, .bus⟩]).replay retriedHandshake)[2]? =
        some { result := .ok (.ok .done), writes := [], attempts := 5, initialized := true,
               greeting := .hello, completed := 0 } ∧
      (∃ j ≤ 2, HandshakeAt retriedHandshake ((start [⟨1, .bus⟩]).replay retriedHandshake) j ∧
        KeepsPanel retriedHandshake (j + 1) 2) ∧
    (Step.tick ≠ .initLcd ∧ Step.tick.rebuildsPanel = false ∧
      (markedSession.step .tick).2.panel.initialized = markedSession.panel.initialized) ∧
    (Step.tickOnFreshPanel.rebuildsPanel = true ∧
      (markedSession.step .tickOnFreshPanel).2.panel.initialized = false) := by
  have hentry : ((start [⟨1, .bus⟩]).replay retriedHandshake)[2]? =
      some { result := .ok (.ok .done), writes := [], attempts := 5, initialized := true,
             greeting := .hello, completed := 0 } := rfl
  have hmark := initialized_iff_handshake_since_built (ε := String)
  exact ⟨hentry, (hmark.1 _ _ _ _ hentry).1 rfl,
    ⟨by decide, rfl, hmark.2.2.1 _ _ (by decide) rfl⟩, ⟨rfl, hmark.2.2.2 _ _ rfl⟩⟩

end History

end Session

end Greeter
