import Z16.Proofs.Clock.Life

/-!
# The rhythm of a clock

Whatever happens to a machine, the clock on it ticks every half period, its phase falls with every
second tick from the first one on, and only a falling phase makes the machine step. The clock between
two ticks is the first one but for its age (`Simulator.Aged`), which settles what a tick does
(`Simulator.Aged.regular`).
-/

namespace Z16

theorem Clock.halfPeriod_pos {frequency : Decimal.Binary64} {halfPeriod : Nat}
    (accepted : halfPeriod? frequency = some halfPeriod) : 0 < halfPeriod := by
  unfold halfPeriod? at accepted
  split at accepted
  · simp only at accepted
    split at accepted
    next bounds =>
      obtain rfl := Option.some.inj accepted
      exact bounds.2.2
    next => cases accepted
  · cases accepted

def Clock.aged (c : Clock) (ticks executed : Nat) : Clock :=
  { c with
    due := c.due + ticks * c.halfPeriod
    phase := if ticks % 2 = 0 then .high else .low
    executed, calls := ticks }

theorem Clock.aged_succ {c : Clock} (running : c.ended = false) (ticks executed executed' : Nat) :
    { c.aged ticks executed with
      phase := (c.aged ticks executed).phase.flip, executed := executed', calls := ticks + 1
      due := (c.aged ticks executed).due + c.halfPeriod, ended := false } =
      c.aged (ticks + 1) executed' := by
  simp only [aged, Nat.succ_mul, Nat.add_assoc, running]
  congr 1
  rcases Nat.mod_two_eq_zero_or_one ticks with even | odd
  · simp [even, Phase.flip, show ¬(ticks + 1) % 2 = 0 by omega]
  · simp [odd, Phase.flip, show (ticks + 1) % 2 = 0 by omega]

theorem Clock.aged_start (moment halfPeriod : Nat) (limit failAt : Option Nat) :
    (start moment halfPeriod limit failAt).aged 0 0 = start moment halfPeriod limit failAt := by
  simp [aged, start]

/-- What the tick does that is the `k`th of a clock, after `executed` instructions of that clock. -/
structure Moment.Regular {H : Type} [Host H] (start halfPeriod : Nat) (limit : Option Nat)
    (k executed : Nat) (t : Moment H) : Prop where
  time : t.after.now = start + k * halfPeriod
  phase : ∀ tick, t.tick? = some tick → (tick.phase = .low ↔ k % 2 = 1)
  shown : ∀ tick, t.tick? = some tick → tick.machine = t.after.machine.snapshot
  rising : k % 2 = 0 → t.after.machine = t.simulator.machine
  paused : t.simulator.machine.paused = true → t.after.machine = t.simulator.machine
  poisoned : t.simulator.poisoned = true → t.tick? = none ∧ t.after.machine = t.simulator.machine
  falling : k % 2 = 1 → t.simulator.machine.paused = false → t.simulator.poisoned = false →
    t.after.machine =
      { t.simulator.machine.step.2 with
        paused := t.simulator.machine.step.1 && limit.any (· ≤ executed + 1) }

namespace Moment

variable {H : Type} [Host H] {t : Moment H}

theorem eq_of_tick? {tick : Tick} (shown : t.tick? = some tick) :
    tick = { phase := t.clock.phase.flip, machine := t.after.machine.snapshot } := by
  rw [after_machine]
  unfold tick? at shown
  cases poisoned : t.simulator.poisoned with
  | true =>
    rw [tick_of_poisoned poisoned] at shown
    cases shown
  | false =>
    rw [tick_of_healthy poisoned] at shown
    simp only [Clock.report] at shown
    split at shown
    · cases shown
    · exact (Option.some.inj shown).symm

theorem after_of_low (low : t.clock.phase = .low) : t.after.machine = t.simulator.machine := by
  have rests : t.executes = false := Bool.eq_false_iff.2 fun runs =>
    absurd (t.executes_iff.1 runs).2.1 (by rw [low]; decide)
  rw [after_machine, machineAfter, rests]
  rfl

theorem after_of_falling (high : t.clock.phase = .high)
    (unpaused : t.simulator.machine.paused = false) (healthy : t.simulator.poisoned = false) :
    t.after.machine =
      { t.simulator.machine.step.2 with
        paused := t.simulator.machine.step.1 && t.clock.reaches (t.clock.executed + 1) } := by
  have steps : t.executes = t.simulator.machine.step.1 := by
    simp [executes, healthy, Clock.stepOn, high, Phase.flip, unpaused]
  rw [after_machine, machineAfter, limited, steps]
  cases ran : t.simulator.machine.step.1 with
  | true => rfl
  | false =>
    rw [Machine.step_of_not_ran ran, Bool.false_and]
    exact Machine.pause_ite unpaused false

end Moment

namespace Simulator

variable {H : Type} [Host H] {s : Simulator H} {first : Clock} {ts : List (Moment H)}

structure Aged (first : Clock) (ts : List (Moment H)) (s : Simulator H) : Prop where
  clock : ∀ c, s.clock? = some c → c.ended = false →
    c = first.aged ts.length (ts.countP Moment.executes)
  delivered : ∀ c, s.clock? = some c → c.ended = false → ∀ t ∈ ts, t.tick?.isSome

namespace Aged

theorem tick (running : first.ended = false) (aged : Aged first ts s) {c : Clock}
    (clock : s.clock? = some c) (goes : c.ended = false) :
    Aged first (ts ++ [⟨s, c⟩]) (s.tick c).2 where
  clock := by
    intro next clock' goes'
    obtain ⟨older, -⟩ := Moment.after_clock (t := ⟨s, c⟩) clock' goes'
    have same := aged.clock c clock goes
    have executed : (Moment.mk s c).executed = (ts ++ [Moment.mk s c]).countP Moment.executes := by
      rw [List.countP_append, List.countP_singleton, Moment.executed, same]
      rfl
    rw [older, executed, same, List.length_append, List.length_singleton]
    exact Clock.aged_succ running _ _ _
  delivered := by
    intro next clock' goes' t mem
    rcases List.mem_append.1 mem with old | new
    · exact aged.delivered c clock goes t old
    · obtain rfl := List.mem_singleton.1 new
      exact (Moment.after_clock (t := ⟨s, c⟩) clock' goes').2

theorem lasting (running : first.ended = false) :
    Lasting (fun e : Event H => e.restarts = false) (Aged first) where
  goes_on := id
  tick := fun aged clock goes => aged.tick running clock goes
  wait := fun aged _ _ => ⟨aged.clock, aged.delivered⟩
  change := fun aged goes_on passes => {
    clock := fun c clock running => aged.clock c (clock_of_apply passes goes_on clock running) running
    delivered := fun c clock running =>
      aged.delivered c (clock_of_apply passes goes_on clock running) running }

theorem start (clock : s.clock? = some first) (fresh : first.aged 0 0 = first) :
    Aged first ([] : List (Moment H)) s where
  clock := by
    intro c clock' _
    obtain rfl : first = c := Option.some.inj (clock.symm.trans clock')
    exact fresh.symm
  delivered := fun _ _ _ t mem => absurd mem List.not_mem_nil

theorem at_moment (aged : Aged first [] s) (running : first.ended = false) {es : List (Event H)}
    {k : Nat} {t : Moment H} (found : (s.life es)[k]? = some t) :
    Aged first ((s.life es).take k) t.simulator ∧ t.simulator.clock? = some t.clock ∧
      t.clock.ended = false := by
  rw [life_takeWhile] at found ⊢
  exact (lasting running).at_moment aged goes_on_takeWhile found

theorem regular {k : Nat} {t : Moment H} {start halfPeriod : Nat} {limit failAt : Option Nat}
    (aged : Aged (.start start halfPeriod limit failAt) ts t.simulator) (count : ts.length = k)
    (clock : t.simulator.clock? = some t.clock) (running : t.clock.ended = false) :
    t.Regular start halfPeriod limit (k + 1) (ts.countP Moment.executes) := by
  have same := aged.clock t.clock clock running
  rw [count] at same
  have high : t.clock.phase = .high ↔ (k + 1) % 2 = 1 := by
    rcases Nat.mod_two_eq_zero_or_one k with even | odd
    · simp [same, Clock.aged, even, show (k + 1) % 2 = 1 by omega]
    · simp [same, Clock.aged, odd, show ¬(k + 1) % 2 = 1 by omega]
  constructor
  case time =>
    rw [Moment.after_now, same]
    simp only [Clock.aged, Clock.start, Nat.succ_mul]
    omega
  case phase =>
    intro tick shown
    rw [Moment.eq_of_tick? shown, ← high]
    cases t.clock.phase <;> simp [Phase.flip]
  case shown =>
    intro tick shown
    rw [Moment.eq_of_tick? shown]
  case rising =>
    intro even
    apply Moment.after_of_low
    cases phase : t.clock.phase with
    | low => rfl
    | high => exact absurd (high.1 phase) (by omega)
  case paused => exact Moment.after_of_paused
  case poisoned =>
    intro poisoned
    exact ⟨by rw [Moment.tick?, Moment.tick_of_poisoned poisoned],
      by rw [Moment.after, Moment.tick_of_poisoned poisoned]⟩
  case falling =>
    intro odd unpaused healthy
    rw [Moment.after_of_falling (high.2 odd) unpaused healthy, same]
    rfl

end Aged

/-- If all ticks before a moment are delivered, the ticks and the moments are numbered alike. -/
theorem getElem?_filterMap_tick? {ts : List (Moment H)}
    (early : ∀ k t, ts[k]? = some t → ∀ t' ∈ ts.take k, t'.tick?.isSome) (k : Nat) :
    (ts.filterMap Moment.tick?)[k]? = ts[k]?.bind Moment.tick? := by
  induction ts generalizing k with
  | nil => simp
  | cons t ts ih =>
    have rest : ∀ k t, ts[k]? = some t → ∀ t' ∈ ts.take k, t'.tick?.isSome :=
      fun k t' found t'' mem => early (k + 1) t' found t'' (List.mem_cons_of_mem _ mem)
    cases shown : t.tick? with
    | some tick =>
      rw [List.filterMap_cons_some shown]
      cases k with
      | zero => simp [shown]
      | succ k => simpa using ih rest k
    | none =>
      -- The first tick is not delivered, so it is the last one.
      cases ts with
      | nil => cases k <;> simp [shown]
      | cons t' ts => simpa [shown] using early 1 t' rfl t (by simp)

end Simulator

/-- Whatever happens between its ticks, a clock ticks every half period, and a tick makes the machine
step if it falls and the machine is not paused, and else leaves the machine alone. So a machine that
stays paused is changed by what else happens only. -/
theorem clock_ticks_regularly {H : Type} [Host H] (s : Simulator H) {frequency : Decimal.Binary64}
    {halfPeriod : Nat} (accepted : Clock.halfPeriod? frequency = some halfPeriod)
    (limit failAt : Option Nat) (es : List (Event H)) :
    let started := (s.handle (.start frequency limit failAt)).2.2
    let moments := started.life es
    (∀ k : Nat, (started.delivered es)[k]? = moments[k]?.bind Moment.tick?) ∧
    (∀ (k : Nat) (t : Moment H), moments[k]? = some t →
      t.Regular s.now halfPeriod limit (k + 1) ((moments.take k).countP Moment.executes)) ∧
    ((∀ n, (started.applyAll (es.take n)).machine.paused = true) →
      (started.applyAll es).machine =
        (started.applyAll (es.filter fun e => !e.passesTime)).machine) := by
  intro started moments
  have clock : started.clock? = some (.start s.now halfPeriod limit failAt) := by
    simp [started, Simulator.handle, Simulator.newClock, accepted]
  have aged := Simulator.Aged.start clock (Clock.aged_start ..)
  refine ⟨fun k => ?_, fun k t found => ?_, fun paused => ?_⟩
  · rw [Simulator.delivered_eq]
    refine Simulator.getElem?_filterMap_tick? (fun k t found => ?_) k
    obtain ⟨aged, clock, running⟩ := aged.at_moment rfl found
    exact aged.delivered t.clock clock running
  · obtain ⟨aged, clock, running⟩ := aged.at_moment rfl found
    have short : k ≤ moments.length := Nat.le_of_lt (List.getElem?_eq_some_iff.1 found).1
    exact aged.regular (List.length_take_of_le short) clock running
  · exact Simulator.applyAll_eq_of_still fun n e _ passes =>
      Simulator.apply_of_paused (paused n) passes

def pausedMeanwhile : List (Event Silent) :=
  [.request (.sleep 300000000), .request .pause, .request (.sleep 500000000),
    .touch fun m => m.writeRegister 1 9, .request .resume, .request (.sleep 500000000)]

def drivenLoop : Simulator Silent :=
  (Simulator.handle { machine := Machine.countingLoop } (.start Clock.defaultFrequency none none)).2.2

theorem clock_ticks_regularly_pausedMeanwhile :
    Clock.halfPeriod? Clock.defaultFrequency = some 250000000 ∧
      ∃ t : Moment Silent, (drivenLoop.delivered pausedMeanwhile)[4]? = t.tick? ∧
        t.Regular 0 250000000 none 5 1 := by
  have accepted : Clock.halfPeriod? Clock.defaultFrequency = some 250000000 := by decide +kernel
  have count : (drivenLoop.life pausedMeanwhile).length = 5 := by decide +kernel
  have executed : ((drivenLoop.life pausedMeanwhile).take 4).countP Moment.executes = 1 := by
    decide +kernel
  obtain ⟨delivered, regular, -⟩ := clock_ticks_regularly { machine := Machine.countingLoop } accepted
    none none pausedMeanwhile
  obtain ⟨t, found⟩ : ∃ t, (drivenLoop.life pausedMeanwhile)[4]? = some t :=
    ⟨_, List.getElem?_eq_getElem (by rw [count]; decide)⟩
  have last : t.Regular 0 250000000 none 5
      (((drivenLoop.life pausedMeanwhile).take 4).countP Moment.executes) := regular 4 t found
  rw [executed] at last
  exact ⟨accepted, t, (delivered 4).trans (congrArg (Option.bind · Moment.tick?) found), last⟩

end Z16
