import Z16.Proofs.Clock.Life

/-!
# The step limit

A clock counts the instructions that it executes itself, whatever else happens to the machine, and it
ends when the count reaches its limit. The count is compared with the limit only after a step, hence
`WithinLimit` bounds it by the limit or by 1, and a clock with the limit 0 executes an instruction.
-/

namespace Z16

structure Clock.WithinLimit (n k : Nat) (c : Clock) : Prop where
  limited : c.limit = some n
  executed : c.executed = k
  room : c.ended = false → k < max 1 n

namespace Simulator

structure WithinLimit {H : Type} (n k : Nat) (s : Simulator H) : Prop where
  bound : k ≤ max 1 n
  clock : ∀ c, s.clock? = some c → c.WithinLimit n k

variable {H : Type} [Host H] {n k : Nat} {s : Simulator H} {c : Clock}

namespace WithinLimit

omit [Host H] in
theorem of_same_clock (w : WithinLimit n k s) {t : Simulator H} (same : t.clock? = s.clock?) :
    WithinLimit n k t where
  bound := w.bound
  clock := same ▸ w.clock

omit [Host H] in
theorem of_ended (w : WithinLimit n k s) (clock : s.clock? = some c) {t : Simulator H}
    (ends : t.clock? = some { c with ended := true }) : WithinLimit n k t where
  bound := w.bound
  clock := by
    rintro c' eq
    obtain rfl : { c with ended := true } = c' := Option.some.inj (ends.symm.trans eq)
    exact ⟨(w.clock c clock).limited, (w.clock c clock).executed, nofun⟩

theorem tick (w : WithinLimit n k s) (clock : s.clock? = some c) (running : c.ended = false) :
    WithinLimit n (k + if (Moment.mk s c).executes then 1 else 0) (s.tick c).2 := by
  obtain ⟨limited, executed, room⟩ := w.clock c clock
  have free := room running
  cases poisoned : s.poisoned with
  | true =>
    have idle : (Moment.mk s c).executes = false := by simp [Moment.executes, poisoned]
    rw [idle]
    exact w.of_ended clock (by simp [Simulator.tick, poisoned])
  | false =>
    rw [tick_of_healthy poisoned]
    cases steps : (Moment.mk s c).executes with
    | true =>
      -- The step is made in any case; whether the clock goes on is decided by the new count.
      obtain ⟨-, high, unpaused, unfinished⟩ := (Moment.executes_iff _).1 steps
      rw [Clock.tick_of_step high unpaused unfinished]
      refine ⟨free, ?_⟩
      rintro c' ⟨⟩
      refine ⟨limited, congrArg (· + 1) executed, ?_⟩
      simp [Clock.report, Clock.reaches, limited, executed]
      omega
    | false =>
      rw [Clock.tick_of_idle (Moment.idle_of_not_executes poisoned steps)]
      refine ⟨w.bound, ?_⟩
      rintro c' ⟨⟩
      exact ⟨limited, executed, fun _ => free⟩

theorem lasting (n : Nat) : Lasting (fun e : Event H => e.restarts = false)
    (fun ts s => WithinLimit n (ts.countP Moment.executes) s) where
  goes_on := id
  tick := by
    intro ts s c w clock running
    rw [List.countP_append, List.countP_singleton]
    exact w.tick clock running
  wait := fun w _ _ => w.of_same_clock rfl
  change := by
    intro ts s e w goes_on passes
    have did := s.atOnce passes
    generalize s.apply e = s' at did
    cases did with
    | quiet | poison => exact w.of_same_clock rfl
    | start => cases goes_on
    | drop => exact ⟨w.bound, nofun⟩
    | stop =>
      cases clock : s.clock? with
      | none => exact w.of_same_clock (by simp [Simulator.stop, clock])
      | some c => exact w.of_ended clock (by simp [Simulator.stop, clock])

theorem start (s : Simulator H) (frequency : Decimal.Binary64) (n : Nat) (failAt : Option Nat) :
    WithinLimit n 0 (s.handle (.start frequency (some n) failAt)).2.2 where
  bound := Nat.zero_le _
  clock := by
    intro c clock
    rw [handle, newClock] at clock
    cases accepted : Clock.halfPeriod? frequency with
    | none => simp [accepted] at clock
    | some halfPeriod =>
      simp [accepted] at clock
      subst clock
      exact ⟨rfl, rfl, fun _ => by omega⟩

end WithinLimit

def clockSteps (s : Simulator H) (es : List (Event H)) : Nat :=
  (s.life es).countP Moment.executes

theorem clockSteps_le (s : Simulator H) (frequency : Decimal.Binary64) (n : Nat)
    (failAt : Option Nat) (es : List (Event H)) :
    (s.handle (.start frequency (some n) failAt)).2.2.clockSteps es ≤ max 1 n := by
  have first : WithinLimit n (([] : List (Moment H)).countP Moment.executes) _ :=
    WithinLimit.start s frequency n failAt
  rw [clockSteps, life_takeWhile]
  exact ((WithinLimit.lasting n).life first goes_on_takeWhile).bound

def limitedLoop (limit : Nat) : Simulator Silent :=
  (handle { machine := Machine.countingLoop } (.start Clock.defaultFrequency (some limit) none)).2.2

theorem clockSteps_limitedLoop_zero :
    (limitedLoop 0).clockSteps [.request (.sleep 1000000000)] = 1 := by
  -- The phase falls twice in a second, but the first step ends the clock.
  decide +kernel

end Simulator

/-- The clock keeps its limit under every interleaving with other uses of the machine, unless the limit
is 0: the test after a step comes too late for it. -/
theorem clock_keeps_limit_iff (n : Nat) :
    (∀ (H : Type) [Host H] (s : Simulator H) (frequency : Decimal.Binary64) (failAt : Option Nat)
      (es : List (Event H)), (s.handle (.start frequency (some n) failAt)).2.2.clockSteps es ≤ n) ↔
      0 < n := by
  constructor
  · intro keeps
    cases n with
    | zero =>
      have none : (Simulator.limitedLoop 0).clockSteps [.request (.sleep 1000000000)] ≤ 0 :=
        keeps Silent _ _ _ _
      rw [Simulator.clockSteps_limitedLoop_zero] at none
      exact absurd none (Nat.not_succ_le_zero 0)
    | succ n => exact Nat.succ_pos n
  · intro positive H _ s frequency failAt es
    have bound := s.clockSteps_le frequency n failAt es
    rwa [Nat.max_eq_right positive] at bound

theorem clock_exceeds_limit_zero :
    ∃ es : List (Event Silent), ¬(Simulator.handle { machine := Machine.countingLoop }
      (.start Clock.defaultFrequency (some 0) none)).2.2.clockSteps es ≤ 0 := by
  refine ⟨[.request (.sleep 1000000000)], ?_⟩
  show ¬(Simulator.limitedLoop 0).clockSteps _ ≤ 0
  rw [Simulator.clockSteps_limitedLoop_zero]
  exact Nat.not_succ_le_zero 0

end Z16
