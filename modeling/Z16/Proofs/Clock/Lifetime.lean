import Z16.Proofs.Clock.Rhythm
import Z16.Proofs.Machine.Range

/-!
# The lifetime of a clock

A clock that is not interrupted ends with the first tick that leaves its machine halted or at its end,
or that makes the last step allowed, and up to then no tick is late (`Simulator.Unbroken`). A clock that
does not run, whatever the reason, never ticks again (`Simulator.life_of_not_running`).
-/

namespace Z16

def Event.KeepsRange {H : Type} : Event H → Prop
  | .request _ => True
  | .touch change => ∀ m : Machine H, m.InRange → (change m).InRange

namespace Moment

variable {H : Type} [Host H] {t : Moment H}

/-- Whether the tick is the last one of a clock that has executed that many instructions before it. -/
def Ends (limit : Option Nat) (executed : Nat) (t : Moment H) : Prop :=
  (t.executes = true ∧ ∃ n, limit = some n ∧ n ≤ executed + 1) ∨
    t.after.machine.halted = true ∨ t.after.machine.pc = t.after.machine.program.size

theorem ends_iff (inRange : t.after.machine.InRange) :
    t.Ends t.clock.limit t.clock.executed ↔ t.limited = true ∨ t.after.machine.Finished := by
  rw [Ends, inRange.finished_iff, limited, Clock.reaches]
  cases t.clock.limit <;> simp

theorem tick_of_watched (healthy : t.simulator.poisoned = false) (watched : t.clock.failAt = none) :
    t.tick?.isSome = true ∧ t.after.clock? = some
      { t.clock with
        phase := t.clock.phase.flip, executed := t.executed, calls := t.clock.calls + 1
        due := t.clock.due + t.clock.halfPeriod
        ended := t.limited || decide t.after.machine.Finished } := by
  rw [after_machine, tick?, after, tick_of_healthy healthy]
  simp [Clock.report, watched]

theorem after_inRange (inRange : t.simulator.machine.InRange) : t.after.machine.InRange := by
  rw [after_machine, machineAfter]
  split
  · exact inRange.step
  · exact inRange

end Moment

namespace Simulator

variable {H : Type} [Host H] {s : Simulator H} {c : Clock} {ts : List (Moment H)}

omit [Host H] in
theorem onMachine_inRange (inRange : s.machine.InRange) {f : Machine H → Answer × Machine H}
    (keeps : ∀ m, m.InRange → (f m).2.InRange) : (s.onMachine f).2.machine.InRange := by
  unfold onMachine
  split
  · exact inRange
  · exact keeps _ inRange

omit [Host H] in
theorem throughClock_inRange (inRange : s.machine.InRange) {f : Machine H → Answer × Machine H}
    (keeps : ∀ m, m.InRange → (f m).2.InRange) : (s.throughClock f).2.machine.InRange := by
  unfold throughClock
  split
  · exact onMachine_inRange inRange keeps
  · exact inRange

theorem apply_inRange (inRange : s.machine.InRange) {e : Event H} (passes : e.passesTime = false)
    (keeps : e.KeepsRange) : (s.apply e).machine.InRange := by
  cases e with
  | touch change => exact onMachine_inRange inRange keeps
  | request r =>
    cases r with
    | sleep | join => cases passes
    | start frequency limit failAt =>
      simp only [Simulator.apply, handle]
      split <;> exact inRange
    | drop | stop | poison | isRunning => exact inRange
    | command c =>
      exact onMachine_inRange (f := fun m => (.reply (m.perform c).1, (m.perform c).2)) inRange
        fun _ inRange => inRange.perform c
    | pause | resume | toggle | snapshot => exact throughClock_inRange inRange fun _ inRange => inRange
    | seek delta =>
      refine throughClock_inRange inRange fun m inRange => ?_
      show (if m.paused then m.seek delta else m).InRange
      split
      · exact m.seek_inRange delta
      · exact inRange

/-- What holds of a simulator and its clock after the ticks of the clock, if it is not interrupted. -/
structure Unbroken (ts : List (Moment H)) (s : Simulator H) (c : Clock) : Prop where
  clock : s.clock? = some c
  healthy : s.poisoned = false
  inRange : s.machine.InRange
  watched : c.failAt = none
  positive : 0 < c.halfPeriod
  ended : c.ended = true ↔ ∃ t ∈ ts, t.limited = true ∨ t.after.machine.Finished
  delivered : ∀ t ∈ ts, t.tick?.isSome = true
  inside : ∀ t ∈ ts, t.after.machine.InRange
  timely : c.ended = false → s.now < c.due ∧ c.due ≤ s.now + c.halfPeriod

namespace Unbroken

theorem tick (u : Unbroken ts s c) (running : c.ended = false) :
    ∃ next, Unbroken (ts ++ [⟨s, c⟩]) (s.tick c).2 next := by
  obtain ⟨delivered, clock⟩ := Moment.tick_of_watched (t := ⟨s, c⟩) u.healthy u.watched
  have inRange := Moment.after_inRange (t := ⟨s, c⟩) u.inRange
  refine ⟨_, clock, ?_, inRange, u.watched, u.positive, ?_, ?_, ?_, ?_⟩
  · exact (Moment.after_poisoned ⟨s, c⟩).trans u.healthy
  · have none : ¬∃ t ∈ ts, t.limited = true ∨ t.after.machine.Finished := by
      rw [← u.ended, running]
      exact Bool.false_ne_true
    have old (t : Moment H) : (t ∈ ts ∧ (t.limited = true ∨ t.after.machine.Finished)) ↔ False :=
      iff_false_intro fun ends => none ⟨t, ends⟩
    simp [or_and_right, old]
  · intro t mem
    rcases List.mem_append.1 mem with old | new
    · exact u.delivered t old
    · obtain rfl := List.mem_singleton.1 new
      exact delivered
  · intro t mem
    rcases List.mem_append.1 mem with old | new
    · exact u.inside t old
    · obtain rfl := List.mem_singleton.1 new
      exact inRange
  · intro _
    rw [show (s.tick c).2.now = c.due from Moment.after_now ⟨s, c⟩]
    exact ⟨Nat.lt_add_of_pos_right u.positive, Nat.le_refl _⟩

theorem lasting : Lasting (fun e : Event H => e.interrupts = false ∧ e.KeepsRange)
    (fun ts s => ∃ c, Unbroken ts s c) where
  goes_on := by
    rintro e ⟨quiet, -⟩
    unfold Event.restarts
    split
    next => cases quiet
    next => rfl
  tick := by
    rintro ts s c ⟨c', u⟩ clock running
    obtain rfl : c' = c := Option.some.inj (u.clock.symm.trans clock)
    exact u.tick running
  wait := by
    rintro ts s moment ⟨c, u⟩ le late
    refine ⟨c, { u with timely := fun running => ?_ }⟩
    have bound := (u.timely running).2
    exact ⟨late c u.clock running u.positive, by show c.due ≤ moment + c.halfPeriod; omega⟩
  change := by
    rintro ts s e ⟨c, u⟩ ⟨quiet, keeps⟩ passes
    have inRange := apply_inRange u.inRange passes keeps
    rw [apply_eq passes quiet] at inRange ⊢
    exact ⟨c, { u with inRange }⟩

theorem start (healthy : s.poisoned = false) (inRange : s.machine.InRange) {halfPeriod : Nat}
    (positive : 0 < halfPeriod) (limit : Option Nat) :
    Unbroken [] { s with clock? := some (.start s.now halfPeriod limit none) }
      (.start s.now halfPeriod limit none) where
  clock := rfl
  healthy := healthy
  inRange := inRange
  watched := rfl
  positive := positive
  ended := by simp [Clock.start]
  delivered := by simp
  inside := by simp
  timely := fun _ => ⟨Nat.lt_add_of_pos_right positive, Nat.le_refl _⟩

theorem length_of_last (u : Unbroken [] s c) {es : List (Event H)}
    (allowed : ∀ e ∈ es, e.interrupts = false ∧ e.KeepsRange) {k : Nat} {t : Moment H}
    (found : (s.life es)[k]? = some t) (last : t.limited = true ∨ t.after.machine.Finished) :
    (s.life es).length = k + 1 := by
  refine Nat.le_antisymm (Nat.le_of_not_lt fun lt => ?_) (List.getElem?_eq_some_iff.1 found).1
  -- A later tick would need a clock that still runs.
  obtain ⟨⟨c', later⟩, clock, running⟩ :=
    lasting.at_moment ⟨c, u⟩ allowed (List.getElem?_eq_getElem lt)
  obtain rfl : c' = _ := Option.some.inj (later.clock.symm.trans clock)
  have mem : t ∈ (s.life es).take (k + 1) :=
    List.mem_of_getElem? ((List.getElem?_take_of_lt (Nat.lt_succ_self k)).trans found)
  rw [later.ended.2 ⟨t, mem, last⟩] at running
  cases running

theorem length_eq (u : Unbroken ts s c) {moment halfPeriod : Nat} {limit : Option Nat}
    (aged : Aged (.start moment halfPeriod limit none) ts s) (running : c.ended = false) :
    ts.length = (s.now - moment) / halfPeriod := by
  obtain ⟨early, late⟩ := u.timely running
  rw [aged.clock c u.clock running] at early late
  simp only [Clock.aged, Clock.start] at early late
  symm
  apply Nat.div_eq_of_lt_le
  · omega
  · rw [Nat.succ_mul]
    omega

end Unbroken

theorem map_some_delivered {es : List (Event H)} (shown : ∀ t ∈ s.life es, t.tick?.isSome = true) :
    (s.delivered es).map some = (s.life es).map Moment.tick? := by
  rw [delivered_eq]
  generalize s.life es = ts at shown
  induction ts with
  | nil => rfl
  | cons t ts ih =>
    rw [List.forall_mem_cons] at shown
    obtain ⟨tick, first⟩ := Option.isSome_iff_exists.1 shown.1
    rw [List.filterMap_cons, first, List.map_cons, List.map_cons, first, ih shown.2]

theorem resting : Lasting (fun e : Event H => e.restarts = false)
    (fun ts s => ts = [] ∧ s.isRunning = false) where
  goes_on := id
  tick := by
    rintro ts s c ⟨-, stopped⟩ clock running
    rw [isRunning_iff.2 ⟨c, clock, running⟩] at stopped
    cases stopped
  wait := fun stopped _ _ => stopped
  change := by
    rintro ts s e ⟨none, stopped⟩ goes_on passes
    refine ⟨none, Bool.eq_false_iff.2 fun runs => ?_⟩
    obtain ⟨c, clock, running⟩ := isRunning_iff.1 runs
    rw [isRunning_iff.2 ⟨c, clock_of_apply passes goes_on clock running, running⟩] at stopped
    cases stopped

theorem apply_of_not_running (stopped : s.isRunning = false) {e : Event H}
    (passes : e.passesTime = true) : (s.apply e).machine = s.machine := by
  have still (deadline : Option Nat) (fuel : Nat) :
      (advance deadline fuel #[] s).2.machine = s.machine := by
    rw [advance_of_not_due (due?_of_not_running stopped)]
  unfold Event.passesTime at passes
  split at passes
  next nanoseconds => exact still _ _
  next patience => exact still _ _
  next => cases passes

theorem life_of_not_running (stopped : s.isRunning = false) {es : List (Event H)}
    (goes_on : ∀ e ∈ es, e.restarts = false) :
    s.life es = [] ∧ (s.applyAll es).isRunning = false ∧
      (s.applyAll es).machine = (s.applyAll (es.filter fun e => !e.passesTime)).machine := by
  have start : ([] : List (Moment H)) = [] ∧ s.isRunning = false := ⟨rfl, stopped⟩
  obtain ⟨none, rests⟩ := resting.life start goes_on
  refine ⟨none, rests, applyAll_eq_of_still fun n e _ passes => ?_⟩
  have goes_on' : ∀ e ∈ es.take n, e.restarts = false := fun e mem => goes_on e (List.mem_of_mem_take mem)
  exact apply_of_not_running (resting.life start goes_on').2 passes

omit [Host H] in
theorem not_running_of_stop (s : Simulator H) : s.stop.isRunning = false := by
  simp [isRunning, stop, Option.any_map]

omit [Host H] in
theorem stop_stop (s : Simulator H) : s.stop.stop = s.stop := by
  simp [stop, Function.comp_def]

theorem handle_stop (s : Simulator H) :
    s.stop.handle .stop = ((s.handle .stop).1, #[], s.stop) := by
  simp only [handle, handle.ifClock, stop_stop]
  simp [stop]

end Simulator

/-- A clock that nothing interrupts runs, and ticks once in every half period, until the first tick after
which its machine is halted or at its end or which makes the last step allowed; that tick is delivered
and it is the last one. A clock that has ended, is stopped or dropped never ticks again and never again
changes the machine. -/
theorem clock_ends_when_done {H : Type} [Host H] (s : Simulator H) (healthy : s.poisoned = false)
    (inRange : s.machine.InRange) {frequency : Decimal.Binary64} {halfPeriod : Nat}
    (accepted : Clock.halfPeriod? frequency = some halfPeriod) (limit : Option Nat)
    (es : List (Event H)) (quiet : ∀ e ∈ es, e.interrupts = false)
    (keeps : ∀ e ∈ es, e.KeepsRange) :
    let started := (s.handle (.start frequency limit none)).2.2
    let moments := started.life es
    let ends (k : Nat) (t : Moment H) := t.Ends limit ((moments.take k).countP Moment.executes)
    (started.delivered es).map some = moments.map Moment.tick? ∧
    (∀ k t, moments[k]? = some t → t.after.now = s.now + (k + 1) * halfPeriod) ∧
    ((started.applyAll es).isRunning = true ↔ ∀ k t, moments[k]? = some t → ¬ends k t) ∧
    (∀ k t, moments[k]? = some t → ends k t → moments.length = k + 1) ∧
    ((started.applyAll es).isRunning = true →
      (started.delivered es).length = ((started.applyAll es).now - s.now) / halfPeriod) ∧
    (∀ s' : Simulator H, s'.isRunning = false → ∀ es', (∀ e ∈ es', e.restarts = false) →
      s'.delivered es' = [] ∧ (s'.applyAll es').isRunning = false ∧
        (s'.applyAll es').machine = (s'.applyAll (es'.filter fun e => !e.passesTime)).machine) ∧
    ∀ s' : Simulator H, (s'.handle .drop).2.2.isRunning = false ∧
      (s'.handle .stop).2.2.isRunning = false ∧
      (s'.handle .stop).2.2.handle .stop = ((s'.handle .stop).1, #[], (s'.handle .stop).2.2) := by
  intro started moments ends
  have state : started = { s with clock? := some (.start s.now halfPeriod limit none) } := by
    simp [started, Simulator.handle, Simulator.newClock, accepted]
  have allowed : ∀ e ∈ es, e.interrupts = false ∧ e.KeepsRange :=
    fun e mem => ⟨quiet e mem, keeps e mem⟩
  have first : Simulator.Unbroken [] started (.start s.now halfPeriod limit none) :=
    state ▸ Simulator.Unbroken.start healthy inRange (Clock.halfPeriod_pos accepted) limit
  have young := Simulator.Aged.start first.clock (Clock.aged_start ..)
  -- The life is unbroken, and its clock is the first one but for its age.
  obtain ⟨c, u⟩ : ∃ c, Simulator.Unbroken moments (started.applyAll es) c :=
    Simulator.Unbroken.lasting.life ⟨_, first⟩ allowed
  have aged : Simulator.Aged _ moments (started.applyAll es) :=
    (Simulator.Aged.lasting rfl).life young fun e mem =>
      Simulator.Unbroken.lasting.goes_on (allowed e mem)
  have ends_iff (k : Nat) (t : Moment H) (found : moments[k]? = some t) :
      ends k t ↔ t.limited = true ∨ t.after.machine.Finished := by
    obtain ⟨young, clock, running⟩ := young.at_moment rfl found
    have same := young.clock t.clock clock running
    rw [← Moment.ends_iff (u.inside t (List.mem_of_getElem? found)), show t.clock.limit = limit by
      rw [same]; rfl, show t.clock.executed = (moments.take k).countP Moment.executes by rw [same]; rfl]
  have delivered := Simulator.map_some_delivered u.delivered
  refine ⟨delivered, fun k t found => ?_, ?_, ?_, ?_, ?_, ?_⟩
  · obtain ⟨young, clock, running⟩ := young.at_moment rfl found
    have short : k ≤ moments.length := Nat.le_of_lt (List.getElem?_eq_some_iff.1 found).1
    exact (young.regular (List.length_take_of_le short) clock running).time
  · rw [show (started.applyAll es).isRunning = !c.ended by simp [Simulator.isRunning, u.clock],
      Bool.not_eq_true', ← Bool.not_eq_true, u.ended]
    constructor
    · intro none k t found last
      exact none ⟨t, List.mem_of_getElem? found, (ends_iff k t found).1 last⟩
    · rintro none ⟨t, mem, last⟩
      obtain ⟨k, found⟩ := List.mem_iff_getElem?.1 mem
      exact none k t found ((ends_iff k t found).2 last)
  · intro k t found last
    exact first.length_of_last allowed found ((ends_iff k t found).1 last)
  · intro runs
    obtain ⟨c', clock, running⟩ := Simulator.isRunning_iff.1 runs
    obtain rfl : c = c' := Option.some.inj (u.clock.symm.trans clock)
    have count := congrArg List.length delivered
    rw [List.length_map, List.length_map] at count
    rw [count, u.length_eq aged running]
  · intro s' stopped es' goes_on
    obtain ⟨none, rests, still⟩ := Simulator.life_of_not_running stopped goes_on
    rw [Simulator.delivered_eq, none]
    exact ⟨rfl, rests, still⟩
  · intro s'
    exact ⟨rfl, s'.not_running_of_stop, s'.handle_stop⟩

def movedToEnd : List (Event Silent) :=
  [.request (.sleep 300000000), .request .pause, .touch fun m => m.seek 5,
    .request (.sleep 1000000000)]

theorem clock_ends_when_done_movedToEnd :
    Machine.countingLoop.InRange ∧ Clock.halfPeriod? Clock.defaultFrequency = some 250000000 ∧
      (∀ e ∈ movedToEnd, e.interrupts = false) ∧ (∀ e ∈ movedToEnd, e.KeepsRange) ∧
      (drivenLoop.applyAll movedToEnd).isRunning = false ∧
      (drivenLoop.delivered movedToEnd).map (fun tick => (tick.phase, tick.machine.paused)) =
        [(.low, false), (.high, true)] ∧
      (drivenLoop.life movedToEnd).length = 2 := by
  have inRange : Machine.countingLoop.InRange := Nat.zero_le _
  have accepted : Clock.halfPeriod? Clock.defaultFrequency = some 250000000 := by decide +kernel
  have quiet : ∀ e ∈ movedToEnd, e.interrupts = false := by simp [movedToEnd, Event.interrupts]
  have keeps : ∀ e ∈ movedToEnd, e.KeepsRange := by
    simp only [movedToEnd, List.forall_mem_cons, Event.KeepsRange]
    exact ⟨trivial, trivial, fun m _ => m.seek_inRange 5, trivial, by simp⟩
  have shown : (drivenLoop.delivered movedToEnd).map (fun tick =>
      (tick.phase, tick.machine.paused)) = [(.low, false), (.high, true)] := by decide +kernel
  have atEnd : (drivenLoop.life movedToEnd)[1]?.any (fun t =>
      t.after.machine.pc = t.after.machine.program.size) = true := by decide +kernel
  simp only [Option.any_eq_true, decide_eq_true_eq] at atEnd
  obtain ⟨t, found, pc⟩ := atEnd
  obtain ⟨-, -, runs, last, -⟩ := clock_ends_when_done { machine := Machine.countingLoop } rfl inRange
    accepted none movedToEnd quiet keeps
  have stopped : (drivenLoop.applyAll movedToEnd).isRunning = false :=
    Bool.eq_false_iff.2 fun running => runs.1 running 1 t found (.inr (.inr pc))
  exact ⟨inRange, accepted, quiet, keeps, stopped, shown, last 1 t found (.inr (.inr pc))⟩

end Z16
