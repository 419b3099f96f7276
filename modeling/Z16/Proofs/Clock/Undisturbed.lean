import Z16.Proofs.Clock.Tick

/-!
# The undisturbed clock

A clock on a machine that nothing else touches runs the machine: `Undisturbed` says how far the machine
has come after `k` ticks, every tick before the last one keeps it (`Undisturbed.next`), and the last one
leaves what a run leaves (`Undisturbed.final`).
-/

namespace Z16

variable {H : Type} [Host H]

def undisturbedTick (m : Machine H) (j steps : Nat) (paused : Bool) : Tick :=
  { phase := if j % 2 = 1 then .low else .high
    machine := { (m.after steps).snapshot with paused } }

structure Undisturbed (m : Machine H) (limit : Option Nat) (k : Nat) (s : Simulator H) (c : Clock) :
    Prop where
  clock : s.clock? = some c
  running : c.ended = false
  healthy : s.poisoned = false
  machine : s.machine = m.after ((k + 1) / 2)
  phase : c.phase = if k % 2 = 0 then .high else .low
  executed : c.executed = (k + 1) / 2
  limited : c.limit = limit
  watched : c.failAt = none

namespace Undisturbed

variable {m last : Machine H} {limit : Option Nat} {k steps : Nat} {s : Simulator H} {c : Clock}

theorem start (s : Simulator H) (healthy : s.poisoned = false) (limit : Option Nat)
    (moment halfPeriod : Nat) :
    Undisturbed s.machine limit 0 { s with clock? := some (.start moment halfPeriod limit none) }
      (.start moment halfPeriod limit none) where
  clock := rfl
  running := rfl
  healthy := healthy
  machine := rfl
  phase := rfl
  executed := rfl
  limited := rfl
  watched := rfl

theorem tick_rising (u : Undisturbed m limit k s c) (odd : k % 2 = 1) :
    c.tick s.machine = c.report ((k + 2) / 2) false (m.after ((k + 2) / 2)) := by
  have idle := u.phase
  rw [if_neg (by omega)] at idle
  rw [Clock.tick_of_idle (.inl idle), u.executed, u.machine,
    show (k + 1) / 2 = (k + 2) / 2 by omega]

theorem tick_falling (u : Undisturbed m limit k s c) (even : k % 2 = 0) (unpaused : m.paused = false)
    (unfinished : ¬(m.after (k / 2)).Finished) :
    c.tick s.machine = c.report ((k + 2) / 2) (c.reaches ((k + 2) / 2))
      (if c.reaches ((k + 2) / 2) then (m.after ((k + 2) / 2)).pause else m.after ((k + 2) / 2)) := by
  have high := u.phase
  rw [if_pos even] at high
  have half : (k + 1) / 2 = k / 2 := by omega
  have next : (k + 2) / 2 = k / 2 + 1 := by omega
  rw [Clock.tick_of_step high (by rw [u.machine, Machine.after_paused, unpaused])
    (by rwa [u.machine, half]), u.executed, u.machine, half, next, Machine.after]

theorem next (u : Undisturbed m limit k s c) (unpaused : m.paused = false)
    (unfinished : ∀ i ≤ (k + 2) / 2, ¬(m.after i).Finished)
    (below : ∀ n, limit = some n → (k + 2) / 2 < n) :
    (s.tick c).1 = some (undisturbedTick m (k + 1) ((k + 2) / 2) false) ∧
      ∃ c', Undisturbed m limit (k + 1) (s.tick c).2 c' := by
  have free : c.reaches ((k + 2) / 2) = false := by
    rw [Clock.reaches, u.limited]
    cases limit with
    | none => rfl
    | some n => simpa using below n rfl
  have same : c.tick s.machine = c.report ((k + 2) / 2) false (m.after ((k + 2) / 2)) := by
    by_cases even : k % 2 = 0
    · rw [u.tick_falling even unpaused (unfinished _ (by omega)), free]
      rfl
    · exact u.tick_rising (by omega)
  have goes := unfinished _ (Nat.le_refl _)
  have phase : c.phase.flip = if (k + 1) % 2 = 1 then .low else .high := by
    rw [u.phase]
    by_cases even : k % 2 = 0
    · simp [even, Phase.flip, show (k + 1) % 2 = 1 by omega]
    · simp [even, Phase.flip, show ¬(k + 1) % 2 = 1 by omega]
  rw [Simulator.tick_of_healthy u.healthy, same]
  refine ⟨?_, _, ⟨rfl, ?_, u.healthy, rfl, ?_, rfl, u.limited, u.watched⟩⟩
  · simp [Clock.report, undisturbedTick, phase, u.watched, Machine.snapshot, unpaused]
  · simp only [Clock.report, u.watched, decide_eq_false goes]
    rfl
  · simp only [Clock.report, phase]
    split <;> split <;> first | rfl | omega

theorem reaches_eq (u : Undisturbed m limit k s c) (le : ∀ n, limit = some n → steps ≤ n) :
    c.reaches steps = decide (limit = some steps) := by
  rw [Clock.reaches, u.limited]
  cases limit with
  | none => simp
  | some n =>
    have bound := le n rfl
    rw [Bool.eq_iff_iff]
    simp
    omega

def tickCount (steps : Nat) : Nat := max 1 (2 * steps - 1)

theorem tick_final (u : Undisturbed m limit k s c) (unpaused : m.paused = false)
    (positive : limit ≠ some 0) (stops : m.StopsAfter limit steps last)
    (count : k + 1 = tickCount steps) :
    c.tick s.machine = c.report steps (decide (limit = some steps))
      { last with paused := decide (limit = some steps) } := by
  rw [stops.eq_after]
  have kept : (m.after steps).paused = false := by rw [Machine.after_paused, unpaused]
  cases steps with
  | zero =>
    -- The limit is not 0, so a run of no steps has nothing to run, and the only tick is idle.
    obtain rfl : k = 0 := by simpa [tickCount] using count
    have finished : m.Finished := stops.finished_or_limited.resolve_right positive
    have idle : s.machine.Finished := by rwa [u.machine]
    rw [Clock.tick_of_idle (.inr (.inr idle)), u.executed, u.machine, decide_eq_false positive,
      ← Machine.pause_ite kept]
    rfl
  | succ steps =>
    -- The last tick makes the last step.
    have half : k = 2 * steps := by rw [tickCount] at count; omega
    have next : (k + 2) / 2 = steps + 1 := by omega
    rw [u.tick_falling (by omega) unpaused (stops.not_finished (by omega)), next,
      u.reaches_eq fun n eq => stops.le_limit eq]
    rw [Machine.pause_ite kept]

theorem final (u : Undisturbed m limit k s c) (unpaused : m.paused = false)
    (positive : limit ≠ some 0) (stops : m.StopsAfter limit steps last)
    (count : k + 1 = tickCount steps) :
    (s.tick c).1 = some (undisturbedTick m (k + 1) steps (decide (limit = some steps))) ∧
      (s.tick c).2.isRunning = false ∧
      (s.tick c).2.machine = { last with paused := decide (limit = some steps) } := by
  have even : k % 2 = 0 := by rw [tickCount] at count; omega
  have ends : decide (limit = some steps) = true ∨
      Machine.Finished { last with paused := decide (limit = some steps) } := by
    rw [stops.eq_after, decide_eq_true_iff]
    exact stops.finished_or_limited.symm
  rw [Simulator.tick_of_healthy u.healthy, u.tick_final unpaused positive stops count]
  refine ⟨?_, ?_, rfl⟩
  · simp [Clock.report, undisturbedTick, u.watched, u.phase, even, Phase.flip, stops.eq_after,
      Machine.snapshot, show (k + 1) % 2 = 1 by omega]
  · rcases ends with limited | finished
    · simp only [Simulator.isRunning, Clock.report, limited]
      rfl
    · simp only [Simulator.isRunning, Clock.report, decide_eq_true finished]
      simp

theorem advance (fuel : Nat) (u : Undisturbed m limit k s c) (unpaused : m.paused = false)
    (unfinished : 0 < fuel → ∀ i ≤ (k + fuel + 1) / 2, ¬(m.after i).Finished)
    (below : 0 < fuel → ∀ n, limit = some n → (k + fuel + 1) / 2 < n) (ticks : Array Tick) :
    ∃ s' c', Simulator.advance none fuel ticks s = (ticks ++ ((List.range' (k + 1) fuel).map
        fun j => undisturbedTick m j ((j + 1) / 2) false).toArray, s') ∧
      Undisturbed m limit (k + fuel) s' c' := by
  induction fuel generalizing k s c ticks with
  | zero => exact ⟨s, c, by simp [Simulator.advance], u⟩
  | succ fuel ih =>
    have goes := unfinished (Nat.succ_pos fuel)
    have free := below (Nat.succ_pos fuel)
    obtain ⟨tick, c₁, u₁⟩ := u.next unpaused (fun i le => goes i (by omega))
      (fun n eq => by have := free n eq; omega)
    obtain ⟨s', c', run, u'⟩ := ih u₁ (fun _ i le => goes i (by omega))
      (fun _ n eq => by have := free n eq; omega) (ticks ++ (s.tick c).1.toArray)
    refine ⟨s', c', ?_, by rwa [Nat.add_right_comm] at u'⟩
    rw [Simulator.advance_of_due (Simulator.due?_none u.clock u.running), run, tick,
      List.range'_succ, List.map_cons]
    simp only [Option.toArray_some, Array.append_assoc, List.append_toArray, List.singleton_append]

theorem advance_below (u : Undisturbed m limit 0 s c) (unpaused : m.paused = false)
    (stops : m.StopsAfter limit steps last) {fuel : Nat} (lt : fuel < tickCount steps) :
    ∃ s' c', Simulator.advance none fuel #[] s = (((List.range' 1 fuel).map fun j =>
        undisturbedTick m j (min steps ((j + 1) / 2))
          (decide (limit = some steps ∧ j = tickCount steps))).toArray, s') ∧
      Undisturbed m limit fuel s' c' := by
  have below : 0 < fuel → (0 + fuel + 1) / 2 < steps := by rw [tickCount] at lt; omega
  obtain ⟨s', c', run, u'⟩ := u.advance fuel unpaused
    (fun pos i le => stops.not_finished (by have := below pos; omega))
    (fun pos n eq => Nat.lt_of_lt_of_le (below pos) (stops.le_limit eq)) #[]
  refine ⟨s', c', ?_, by rwa [Nat.zero_add] at u'⟩
  rw [run, Array.empty_append]
  congr 2
  apply List.map_congr_left
  intro j mem
  obtain ⟨low, high⟩ := List.mem_range'_1.1 mem
  have := below (by omega)
  rw [Nat.min_eq_right (by omega), decide_eq_false (by omega)]

theorem advance_stops (u : Undisturbed m limit 0 s c) (unpaused : m.paused = false)
    (positive : limit ≠ some 0) (stops : m.StopsAfter limit steps last) (fuel : Nat) :
    (Simulator.advance none fuel #[] s).1.toList =
        (List.range' 1 (min fuel (tickCount steps))).map (fun j =>
          undisturbedTick m j (min steps ((j + 1) / 2))
            (decide (limit = some steps ∧ j = tickCount steps))) ∧
      (Simulator.advance none fuel #[] s).2.isRunning = decide (fuel < tickCount steps) ∧
      (tickCount steps ≤ fuel → (Simulator.advance none fuel #[] s).2.machine =
        { last with paused := decide (limit = some steps) }) := by
  -- The ticks before the last one keep the clock undisturbed, and the last one ends it.
  by_cases lt : fuel < tickCount steps
  · obtain ⟨s', c', run, u'⟩ := u.advance_below unpaused stops lt
    rw [run, Nat.min_eq_left (Nat.le_of_lt lt), decide_eq_true lt]
    refine ⟨rfl, Simulator.isRunning_iff.2 ⟨c', u'.clock, u'.running⟩, fun le => ?_⟩
    exact absurd lt (Nat.not_lt.2 le)
  · obtain ⟨k, count⟩ : ∃ k, k + 1 = tickCount steps :=
      ⟨tickCount steps - 1, by rw [tickCount]; omega⟩
    obtain ⟨rest, rfl⟩ : ∃ rest, fuel = k + (rest + 1) := ⟨fuel - (k + 1), by omega⟩
    obtain ⟨s', c', run, u'⟩ := u.advance_below unpaused stops (by omega : k < tickCount steps)
    obtain ⟨tick, stopped, machine⟩ := u'.final unpaused positive stops count
    rw [Simulator.advance_add, run,
      Simulator.advance_of_due (Simulator.due?_none u'.clock u'.running),
      Simulator.advance_of_not_due (Simulator.due?_of_not_running stopped), tick, decide_eq_false lt]
    refine ⟨?_, stopped, fun _ => machine⟩
    have most : steps ≤ (k + 2) / 2 := by rw [tickCount] at count; omega
    rw [Nat.min_eq_right (Nat.le_of_not_lt lt), ← count, List.range'_1_concat, List.map_append]
    simp [Nat.add_comm 1 k, Nat.min_eq_left most]

end Undisturbed

theorem Simulator.handle_start (s : Simulator H) {frequency : Decimal.Binary64} {halfPeriod : Nat}
    (accepted : Clock.halfPeriod? frequency = some halfPeriod) (limit failAt : Option Nat) :
    s.handle (.start frequency limit failAt) =
      (.done, #[], { s with clock? := some (.start s.now halfPeriod limit failAt) }) := by
  simp [handle, newClock, accepted]

theorem Simulator.handle_join (s : Simulator H) (clock : s.clock?.isSome = true) (patience : Nat) :
    s.handle (.join patience) = (.running (s.join patience).2.isRunning, s.join patience) := by
  simp [handle, handle.ifClock, clock]

end Z16
