import Z16.Proofs.Clock.Lifetime
import Z16.Proofs.Clock.Undisturbed

/-!
# Failures around a clock

An observer that fails ends its clock and harms nothing else: the step of its tick is kept, and the machine
answers as before (`Simulator.ObserverFailure`). A holder of the machine that fails poisons it: from then on
nobody changes the machine and nothing is delivered (`Simulator.PoisonedSince`), and the clock ends at its
next tick (`Simulator.Doomed`). Neither depends on what happens before, in between or afterwards.
-/

namespace Z16

/-- What a call through the handle of a clock answers and does to the machine. -/
def Request.onHandle? {H : Type} : Request → Option (Machine H → Answer × Machine H)
  | .pause => some fun m => (.done, m.pause)
  | .resume => some fun m => (.done, m.resume)
  | .toggle => some fun m => (.paused !m.paused, m.togglePause)
  | .seek delta => some fun m =>
    let m := if m.paused then m.seek delta else m
    (.snapshot m.snapshot, m)
  | .snapshot => some fun m => (.snapshot m.snapshot, m)
  | _ => none

namespace Simulator

variable {H : Type} [Host H] {s : Simulator H} {r : Request} {f : Machine H → Answer × Machine H}

/-! ## Calls through the handle -/

theorem handle_of_onHandle (calls : r.onHandle? = some f) :
    s.handle r = ((s.throughClock f).1, #[], (s.throughClock f).2) := by
  cases r <;> cases calls <;> rfl

theorem handle_of_healthy (calls : r.onHandle? = some f) (driven : s.clock?.isSome = true)
    (healthy : s.poisoned = false) :
    s.handle r = ((f s.machine).1, #[], { s with machine := (f s.machine).2 }) := by
  rw [handle_of_onHandle calls, throughClock, if_pos driven, onMachine, healthy]
  rfl

omit [Host H] in
theorem not_refused_of_onHandle (calls : r.onHandle? = some f) (m : Machine H) (e : Refusal) :
    (f m).1 ≠ .refused e := by
  cases r <;> cases calls <;> exact Answer.noConfusion

omit [Host H] in
theorem onMachine_of_poisoned (poisoned : s.poisoned = true) (f : Machine H → Answer × Machine H) :
    s.onMachine f = (.refused .poisoned, s) :=
  if_pos poisoned

omit [Host H] in
theorem throughClock_of_poisoned (poisoned : s.poisoned = true) (f : Machine H → Answer × Machine H) :
    (s.throughClock f).2 = s := by
  unfold throughClock
  split
  · rw [onMachine_of_poisoned poisoned]
  · rfl

theorem handle_of_poisoned (calls : r.onHandle? = some f) (driven : s.clock?.isSome = true)
    (poisoned : s.poisoned = true) : s.handle r = (.refused .poisoned, #[], s) := by
  rw [handle_of_onHandle calls, throughClock, if_pos driven, onMachine_of_poisoned poisoned]

/-! ## What events leave alone -/

namespace AtOnce

variable {s' : Simulator H} {e : Event H}

omit [Host H] in
theorem now (did : s.AtOnce e s') : s'.now = s.now := by
  cases did <;> rfl

omit [Host H] in
theorem poisoned (did : s.AtOnce e s') (other : e ≠ .request .poison) : s'.poisoned = s.poisoned := by
  cases did with
  | quiet | start | drop | stop => rfl
  | poison => exact absurd rfl other

omit [Host H] in
theorem driven (did : s.AtOnce e s') (goes_on : e.restarts = false) (kept : e ≠ .request .drop) :
    s'.clock?.isSome = s.clock?.isSome := by
  cases did with
  | quiet | poison => rfl
  | start => cases goes_on
  | drop => exact absurd rfl kept
  | stop => exact Option.isSome_map

end AtOnce

theorem poisoned_of_apply {e : Event H} (other : e ≠ .request .poison) :
    (s.apply e).poisoned = s.poisoned := by
  cases passes : e.passesTime with
  | true => exact (keeps_of_passesTime passes).1
  | false => exact (atOnce passes).poisoned other

theorem driven_of_apply {e : Event H} (goes_on : e.restarts = false) (kept : e ≠ .request .drop) :
    (s.apply e).clock?.isSome = s.clock?.isSome := by
  cases passes : e.passesTime with
  | true => exact (keeps_of_passesTime passes).2
  | false => exact (atOnce passes).driven goes_on kept

theorem poisoned_of_applyAll {es : List (Event H)} (sound : .request .poison ∉ es) :
    (s.applyAll es).poisoned = s.poisoned :=
  List.foldlRecOn (motive := fun n : Simulator H => n.poisoned = s.poisoned) es _ rfl
    fun _ same _ mem => (poisoned_of_apply fun poison => sound (poison ▸ mem)).trans same

theorem driven_of_applyAll {es : List (Event H)} (goes_on : ∀ e ∈ es, e.restarts = false)
    (kept : .request .drop ∉ es) : (s.applyAll es).clock?.isSome = s.clock?.isSome :=
  List.foldlRecOn (motive := fun n : Simulator H => n.clock?.isSome = s.clock?.isSome) es _ rfl
    fun _ same e mem => (driven_of_apply (goes_on e mem) fun drop => kept (drop ▸ mem)).trans same

/-! ## A poisoned machine -/

theorem apply_eq_of_poisoned (poisoned : s.poisoned = true) {e : Event H}
    (passes : e.passesTime = false) (quiet : e.interrupts = false) : s.apply e = s := by
  cases e with
  | touch change => exact congrArg Prod.snd (onMachine_of_poisoned poisoned _)
  | request r =>
    cases r with
    | sleep | join => cases passes
    | start | drop | stop | poison => cases quiet
    | command c =>
      exact congrArg Prod.snd <|
        onMachine_of_poisoned poisoned fun m => (.reply (m.perform c).1, (m.perform c).2)
    | pause | resume | toggle | seek | snapshot => exact throughClock_of_poisoned poisoned _
    | isRunning => rfl

theorem machine_of_poisoned (poisoned : s.poisoned = true) (e : Event H) :
    (s.apply e).machine = s.machine ∧ (s.apply e).poisoned = true := by
  cases passes : e.passesTime with
  | true => exact ⟨apply_of_poisoned poisoned passes, (keeps_of_passesTime passes).1.trans poisoned⟩
  | false =>
    cases quiet : e.interrupts with
    | false =>
      rw [apply_eq_of_poisoned poisoned passes quiet]
      exact ⟨rfl, poisoned⟩
    | true =>
      have did := s.atOnce passes
      generalize s.apply e = s' at did
      cases did with
      | quiet _ calm => rw [calm] at quiet; cases quiet
      | start | drop | stop => exact ⟨rfl, poisoned⟩
      | poison => exact ⟨rfl, rfl⟩

theorem poisoned_of_mem_life (poisoned : s.poisoned = true) {es : List (Event H)} {t : Moment H}
    (mem : t ∈ s.life es) : t.simulator.poisoned = true := by
  have lasting : Lasting (fun e : Event H => e.restarts = false) (fun _ s => s.poisoned = true) := {
    goes_on := id
    tick := fun {_ s c} poisoned _ _ => (Moment.after_poisoned ⟨s, c⟩).trans poisoned
    wait := fun poisoned _ _ => poisoned
    change := fun poisoned _ _ => (machine_of_poisoned poisoned _).2 }
  rw [life_takeWhile] at mem
  obtain ⟨_, found⟩ := List.mem_iff_getElem?.1 mem
  exact (lasting.at_moment poisoned goes_on_takeWhile found).1

theorem eventTicks_of_poisoned (poisoned : s.poisoned = true) (e : Event H) : s.eventTicks e = [] := by
  cases e with
  | touch change => rfl
  | request r =>
    refine (s.handle_ticks r).trans (List.filterMap_eq_nil_iff.2 fun t mem => ?_)
    have poisoned : t.simulator.poisoned = true :=
      poisoned_of_mem_life poisoned (s.life_singleton (.request r) ▸ mem)
    rw [Moment.tick?, Moment.tick_of_poisoned poisoned]

theorem machine_of_poisoned_all (poisoned : s.poisoned = true) (es : List (Event H)) :
    (s.applyAll es).machine = s.machine ∧ (s.applyAll es).poisoned = true :=
  List.foldlRecOn (motive := fun n : Simulator H => n.machine = s.machine ∧ n.poisoned = true) es _
    ⟨rfl, poisoned⟩ fun _ ⟨machine, poisoned⟩ e _ =>
      let ⟨same, still⟩ := machine_of_poisoned poisoned e
      ⟨same.trans machine, still⟩

theorem join_of_poisoned (poisoned : s.poisoned = true) (patience : Nat) :
    ∃ n, s.join (patience + 1) = (#[], n) ∧ n.isRunning = false := by
  cases runs : s.isRunning with
  | false => exact ⟨s, advance_of_not_due (due?_of_not_running runs) _ _, runs⟩
  | true =>
    obtain ⟨c, clock, running⟩ := isRunning_iff.1 runs
    have tick := Moment.tick_of_poisoned (t := ⟨s, c⟩) poisoned
    have ended : (s.tick c).2.isRunning = false := by
      rw [tick]
      rfl
    refine ⟨(s.tick c).2, ?_, ended⟩
    rw [join, advance_of_due (due?_none clock running),
      advance_of_not_due (due?_of_not_running ended), tick]
    rfl

def Timely (s : Simulator H) : Prop :=
  ∀ c, s.clock? = some c → c.ended = false → 0 < c.halfPeriod ∧ s.now < c.due

theorem Timely.lasting : Lasting (fun e : Event H => e.restarts = false) (fun _ s => s.Timely) where
  goes_on := id
  tick := by
    intro ts s c timely clock running next clock' running'
    obtain ⟨older, -⟩ := Moment.after_clock (t := ⟨s, c⟩) clock' running'
    have positive := (timely c clock running).1
    rw [older, show (s.tick c).2.now = c.due from Moment.after_now ⟨s, c⟩]
    exact ⟨positive, Nat.lt_add_of_pos_right positive⟩
  wait := fun timely _ late c clock running =>
    have positive := (timely c clock running).1
    ⟨positive, late c clock running positive⟩
  change := by
    intro ts s e timely goes_on passes c clock running
    rw [(atOnce passes).now]
    exact timely c (clock_of_apply passes goes_on clock running) running

structure Doomed (due : Nat) (s : Simulator H) : Prop where
  poisoned : s.poisoned = true
  running_iff : s.isRunning = true ↔ s.now < due
  clock : ∀ c, s.clock? = some c → c.ended = false → c.due = due ∧ 0 < c.halfPeriod

theorem Doomed.of_poison {due : Nat} (runs : s.isRunning = true) (timely : s.Timely)
    (clock : ∀ c, s.clock? = some c → c.ended = false → c.due = due) :
    (s.apply (.request .poison)).Doomed due where
  poisoned := rfl
  running_iff := by
    obtain ⟨c, held, running⟩ := isRunning_iff.1 runs
    have early := (timely c held running).2
    rw [clock c held running] at early
    exact iff_of_true runs early
  clock := fun c held running => ⟨clock c held running, (timely c held running).1⟩

theorem Doomed.lasting (due : Nat) :
    Lasting (fun e : Event H => e.restarts = false ∧ e ≠ .request .drop ∧ e ≠ .request .stop)
      (fun _ s => s.Doomed due) where
  goes_on := fun allowed => allowed.1
  tick := by
    intro ts s c doomed clock running
    rw [Moment.tick_of_poisoned (t := ⟨s, c⟩) doomed.poisoned]
    have now : c.due = due := (doomed.clock c clock running).1
    refine ⟨doomed.poisoned, ?_, ?_⟩
    · simp [isRunning, now]
    · rintro next clock' running'
      obtain rfl := Option.some.inj clock'
      cases running'
  wait := by
    intro ts s moment doomed le late
    refine ⟨doomed.poisoned, ?_, doomed.clock⟩
    -- A wait never passes the tick that is due next, and this is the one that ends the clock.
    show s.isRunning = true ↔ moment < due
    constructor
    · intro runs
      obtain ⟨c, clock, running⟩ := isRunning_iff.1 runs
      obtain ⟨same, positive⟩ := doomed.clock c clock running
      exact same ▸ late c clock running positive
    · intro lt
      exact doomed.running_iff.2 (Nat.lt_of_le_of_lt le lt)
  change := by
    rintro ts s e doomed ⟨goes_on, kept, spared⟩ passes
    have did := s.atOnce passes
    generalize s.apply e = s' at did
    cases did with
    | quiet => exact ⟨doomed.poisoned, doomed.running_iff, doomed.clock⟩
    | start => cases goes_on
    | drop => exact absurd rfl kept
    | stop => exact absurd rfl spared
    | poison => exact ⟨rfl, doomed.running_iff, doomed.clock⟩

/-- What holds of a simulator after events that follow a failure of a holder of its machine; `before` is
the simulator that the failure found. -/
structure PoisonedSince (before s : Simulator H) : Prop where
  machine : s.machine = before.machine
  silent : ∀ e, s.eventTicks e = []
  refuses : s.clock?.isSome = true → ∀ r (f : Machine H → Answer × Machine H), r.onHandle? = some f →
    s.handle r = (.refused .poisoned, #[], s)
  joins : s.clock?.isSome = true → ∀ patience, ∃ n,
    s.handle (.join (patience + 1)) = (.running false, #[], n) ∧ n.isRunning = false
  stops : s.clock?.isSome = true → ∃ n,
    s.handle .stop = (.running false, #[], n) ∧ n.isRunning = false

theorem PoisonedSince.of_poisoned {before : Simulator H} (poisoned : s.poisoned = true)
    (machine : s.machine = before.machine) : PoisonedSince before s where
  machine := machine
  silent := eventTicks_of_poisoned poisoned
  refuses := fun driven _ _ calls => handle_of_poisoned calls driven poisoned
  joins := by
    intro driven patience
    obtain ⟨n, joined, ended⟩ := join_of_poisoned poisoned patience
    exact ⟨n, by rw [handle_join _ driven, joined, ended], ended⟩
  stops := by
    intro driven
    refine ⟨s.stop, ?_, s.not_running_of_stop⟩
    simp only [handle, handle.ifClock, driven, if_true]

theorem PoisonedSince.of_poison (before : Simulator H) (later : List (Event H)) :
    PoisonedSince before (before.applyAll (.request .poison :: later)) :=
  have ⟨machine, poisoned⟩ :=
    machine_of_poisoned_all (s := before.apply (.request .poison)) rfl later
  of_poisoned poisoned machine

/-! ## An observer that fails -/

theorem advance_of_last {deadline : Option Nat} {fuel : Nat} {ts : List (Moment H)} {t : Moment H}
    (moments : s.moments deadline fuel = ts ++ [t]) (ended : t.after.isRunning = false)
    (ticks : Array Tick) : (advance deadline fuel ticks s).2 = t.after := by
  induction fuel generalizing s ts ticks with
  | zero => simp [Simulator.moments] at moments
  | succ fuel ih =>
    cases due : s.due? deadline with
    | none => simp [Simulator.moments, due] at moments
    | some c =>
      rw [Simulator.moments, due] at moments
      rw [advance_of_due due]
      cases ts with
      | nil =>
        obtain ⟨rfl, -⟩ := List.cons.inj moments
        rw [show (s.tick c).2 = (Moment.mk s c).after from rfl,
          advance_of_not_due (due?_of_not_running ended)]
      | cons first ts => exact ih (List.cons.inj moments).2 _

theorem apply_of_last {e : Event H} {ts : List (Moment H)} {t : Moment H}
    (moments : s.eventMoments e = ts ++ [t]) (ended : t.after.isRunning = false) :
    (s.apply e).machine = t.after.machine := by
  unfold eventMoments at moments
  split at moments
  next nanoseconds =>
    have last := advance_of_last moments ended #[]
    exact congrArg (·.machine) last
  next patience =>
    have last := advance_of_last moments ended #[]
    exact congrArg (·.machine) last
  next => simp at moments

theorem tick_of_failing {t : Moment H} (called : t.simulator.poisoned = false)
    (fails : t.clock.failAt = some (t.clock.calls + 1)) :
    t.tick? = none ∧ t.after.isRunning = false := by
  rw [Moment.tick?, Moment.after, Moment.tick_of_healthy called]
  simp [Clock.report, fails, isRunning]

namespace Aged

variable {first : Clock} {es : List (Event H)} {k : Nat} {t : Moment H}

theorem length_of_lost (aged : Aged first [] s) (running : first.ended = false)
    (found : (s.life es)[k]? = some t) (lost : t.tick? = none) : (s.life es).length = k + 1 := by
  refine Nat.le_antisymm (Nat.le_of_not_lt fun lt => ?_) (List.getElem?_eq_some_iff.1 found).1
  obtain ⟨later, clock, goes⟩ := aged.at_moment running (List.getElem?_eq_getElem lt)
  have mem : t ∈ (s.life es).take (k + 1) :=
    List.mem_of_getElem? ((List.getElem?_take_of_lt (Nat.lt_succ_self k)).trans found)
  have shown := later.delivered _ clock goes t mem
  rw [lost] at shown
  cases shown

theorem not_running_of_lost (aged : Aged first [] s) (running : first.ended = false)
    (goes_on : ∀ e ∈ es, e.restarts = false) (mem : t ∈ s.life es) (lost : t.tick? = none) :
    (s.applyAll es).isRunning = false := by
  refine Bool.eq_false_iff.2 fun runs => ?_
  obtain ⟨c, clock, goes⟩ := isRunning_iff.1 runs
  have shown := ((lasting running).life aged goes_on).delivered c clock goes t mem
  rw [lost] at shown
  cases shown

theorem eventMoments_of_lost (aged : Aged first [] s) (running : first.ended = false) {e : Event H}
    (goes_on : ∀ x ∈ es ++ [e], x.restarts = false) (le : (s.life es).length ≤ k)
    (found : (s.life (es ++ [e]))[k]? = some t) (lost : t.tick? = none) :
    ∃ ts, (s.applyAll es).eventMoments e = ts ++ [t] := by
  have length := aged.length_of_lost running found lost
  rw [List.forall_mem_append, List.forall_mem_singleton] at goes_on
  rw [life_append goes_on.1, life_singleton] at found length
  -- The lost tick is the last of the life, hence the last of the event, which has one at least.
  rcases List.eq_nil_or_concat ((s.applyAll es).eventMoments e) with none | ⟨ts, final, split⟩
  · rw [none, List.append_nil] at length
    omega
  · rw [List.concat_eq_append] at split
    rw [split, ← List.append_assoc] at found length
    rw [List.length_append, List.length_singleton] at length
    obtain rfl : k = (s.life es ++ ts).length := by omega
    obtain rfl : final = t := by simpa using found
    exact ⟨ts, split⟩

end Aged

/-- What holds after some events if the observer fails at the tick `t`, which comes after `k` others. -/
structure ObserverFailure (started : Simulator H) (es : List (Event H)) (k : Nat) (t : Moment H) :
    Prop where
  told : (started.delivered es).length = k
  lost : t.tick? = none
  last : (started.life es).length = k + 1
  ended : (started.applyAll es).isRunning = false
  kept : ∃ before e later, es = before ++ e :: later ∧
    (started.applyAll (before ++ [e])).machine = t.after.machine ∧
    (started.applyAll es).machine =
      ((started.applyAll (before ++ [e])).applyAll (later.filter fun e => !e.passesTime)).machine
  answers : .request .drop ∉ es → .request .poison ∉ es →
    ∀ r (f : Machine H → Answer × Machine H), r.onHandle? = some f →
      let last := started.applyAll es
      last.handle r = ((f last.machine).1, #[], { last with machine := (f last.machine).2 }) ∧
        ∀ e, (f last.machine).1 ≠ .refused e

theorem ObserverFailure.of_lost {started : Simulator H} {first : Clock} {es : List (Event H)} {k : Nat}
    {t : Moment H} (clock : started.clock? = some first) (aged : Aged first [] started)
    (running : first.ended = false) (goes_on : ∀ e ∈ es, e.restarts = false)
    (found : (started.life es)[k]? = some t) (called : t.simulator.poisoned = false)
    (lost : t.tick? = none) (ended : t.after.isRunning = false) :
    ObserverFailure started es k t where
  told := by
    obtain ⟨earlier, held, runs⟩ := aged.at_moment running found
    have length := aged.length_of_lost running found lost
    have split : started.life es = (started.life es).take k ++ [t] := by
      have whole : (started.life es).take (k + 1) = started.life es :=
        List.take_of_length_le (Nat.le_of_eq length)
      rwa [List.take_add_one, found, eq_comm] at whole
    have shown := List.filterMap_length_eq_length.2 (earlier.delivered t.clock held runs)
    rw [delivered_eq, split, List.filterMap_append, List.length_append, shown,
      List.filterMap_cons_none lost, List.length_take, length]
    simp
  lost := lost
  last := aged.length_of_lost running found lost
  ended := aged.not_running_of_lost running goes_on (List.mem_of_getElem? found) lost
  kept := by
    obtain ⟨before, e, later, split, le, lt⟩ :=
      exists_event_of_moment (List.getElem?_eq_some_iff.1 found).1
    have parts : es = (before ++ [e]) ++ later := by simp [split]
    rw [parts, List.forall_mem_append] at goes_on
    obtain ⟨early, late⟩ := goes_on
    rw [parts, life_append early, List.getElem?_append_left lt] at found
    have stopped := aged.not_running_of_lost running early (List.mem_of_getElem? found) lost
    -- The event with the failing tick leaves what the tick leaves, and no tick comes after it.
    refine ⟨before, e, later, split, ?_, ?_⟩
    · obtain ⟨ts, moments⟩ := aged.eventMoments_of_lost running early le found lost
      rw [applyAll_append]
      exact apply_of_last moments ended
    · rw [parts, applyAll_append, (life_of_not_running stopped late).2.2]
  answers := by
    intro kept sound r f calls last
    have driven : last.clock?.isSome = true := by
      rw [driven_of_applyAll goes_on kept, clock]
      rfl
    -- A poisoned machine stays so, and this one was not when the observer was called.
    have healthy : started.poisoned = false := Bool.eq_false_iff.2 fun poisoned => by
      rw [poisoned_of_mem_life poisoned (List.mem_of_getElem? found)] at called
      cases called
    have whole : last.poisoned = false := (poisoned_of_applyAll sound).trans healthy
    exact ⟨handle_of_healthy calls driven whole, not_refused_of_onHandle calls _⟩

end Simulator

/-- A failure of the observer ends the clock, and nothing else comes of it: the machine keeps the step of
that tick and is there for later calls. A failure of a holder of the machine refuses all later calls,
delivers no tick any more, leaves the machine as it was and ends the clock at its next tick. -/
theorem failures_stay_contained {H : Type} [Host H] (s : Simulator H) {frequency : Decimal.Binary64}
    {halfPeriod : Nat} (accepted : Clock.halfPeriod? frequency = some halfPeriod)
    (limit failAt : Option Nat) (es : List (Event H)) (goes_on : ∀ e ∈ es, e.restarts = false) :
    let started := (s.handle (.start frequency limit failAt)).2.2
    let reached := started.applyAll es
    (∀ k t, failAt = some (k + 1) → (started.life es)[k]? = some t → t.simulator.poisoned = false →
      started.ObserverFailure es k t ∧
        t.Regular s.now halfPeriod limit (k + 1) (((started.life es).take k).countP Moment.executes)) ∧
    ∀ later, let last := reached.applyAll (.request .poison :: later)
      reached.PoisonedSince last ∧
        (reached.isRunning = true →
          (∀ e ∈ later, e.restarts = false ∧ e ≠ .request .drop ∧ e ≠ .request .stop) →
          (last.isRunning = true ↔ last.now < s.now + ((started.life es).length + 1) * halfPeriod)) := by
  intro started reached
  have clock : started.clock? = some (.start s.now halfPeriod limit failAt) := by
    simp [started, s.handle_start accepted]
  have young := Simulator.Aged.start clock (Clock.aged_start ..)
  constructor
  · intro k t fails found called
    obtain ⟨aged, held, running⟩ := young.at_moment rfl found
    have count : ((started.life es).take k).length = k :=
      List.length_take_of_le (Nat.le_of_lt (List.getElem?_eq_some_iff.1 found).1)
    have same := aged.clock t.clock held running
    have failing : t.clock.failAt = some (t.clock.calls + 1) := by
      rw [same, count]
      exact fails
    obtain ⟨lost, ended⟩ := Simulator.tick_of_failing called failing
    exact ⟨.of_lost clock young rfl goes_on found called lost ended, aged.regular count held running⟩
  · intro later last
    refine ⟨.of_poison reached later, fun runs spared => ?_⟩
    have timely : started.Timely := by
      intro c held _
      obtain rfl := Option.some.inj (clock.symm.trans held)
      have positive := Clock.halfPeriod_pos accepted
      exact ⟨positive, by simp [started, s.handle_start accepted, Clock.start, positive]⟩
    have doomed : (reached.apply (.request .poison)).Doomed
        (s.now + ((started.life es).length + 1) * halfPeriod) := by
      refine .of_poison runs (Simulator.Timely.lasting.applyAll timely goes_on) fun c held running => ?_
      have same := ((Simulator.Aged.lasting rfl).life young goes_on).clock c held running
      rw [same]
      simp only [Clock.aged, Clock.start, List.nil_append, Nat.succ_mul]
      omega
    exact ((Simulator.Doomed.lasting _).applyAll doomed spared).running_iff

def watchedLoop : Simulator Silent :=
  (Simulator.handle { machine := Machine.countingLoop }
    (.start Clock.defaultFrequency none (some 3))).2.2

theorem failures_stay_contained_countingLoop :
    Clock.halfPeriod? Clock.defaultFrequency = some 250000000 ∧
      (∃ t, (watchedLoop.life [.request (.sleep 1000000000)])[2]? = some t ∧
        watchedLoop.ObserverFailure [.request (.sleep 1000000000)] 2 t ∧
        t.Regular 0 250000000 none 3 1) ∧
      (drivenLoop.applyAll [.request (.sleep 300000000)]).PoisonedSince
        (drivenLoop.applyAll [.request (.sleep 300000000), .request .poison, .request .resume,
          .request (.sleep 300000000)]) ∧
      (drivenLoop.applyAll [.request (.sleep 300000000), .request .poison, .request .resume,
        .request (.sleep 300000000)]).isRunning = false := by
  have accepted : Clock.halfPeriod? Clock.defaultFrequency = some 250000000 := by decide +kernel
  refine ⟨accepted, ?_, ?_⟩
  · have third : (watchedLoop.life [.request (.sleep 1000000000)])[2]?.any
        (!·.simulator.poisoned) = true := by decide +kernel
    have executed : ((watchedLoop.life [.request (.sleep 1000000000)]).take 2).countP
        Moment.executes = 1 := by decide +kernel
    obtain ⟨t, found, called⟩ := (Option.any_eq_true ..).1 third
    obtain ⟨fails, -⟩ := failures_stay_contained { machine := Machine.countingLoop } accepted none
      (some 3) [.request (.sleep 1000000000)] (by simp [Event.restarts])
    obtain ⟨failure, regular⟩ := fails 2 t rfl found (by simpa using called)
    exact ⟨t, found, failure, executed ▸ regular⟩
  · have runs : (drivenLoop.applyAll [.request (.sleep 300000000)]).isRunning = true := by
      decide +kernel
    obtain ⟨-, poisons⟩ := failures_stay_contained { machine := Machine.countingLoop } accepted none
      none [.request (.sleep 300000000)] (by simp [Event.restarts])
    obtain ⟨since, ends⟩ := poisons [.request .resume, .request (.sleep 300000000)]
    refine ⟨since, Bool.eq_false_iff.2 fun running => ?_⟩
    have early := (ends runs (by simp [Event.restarts])).1 running
    exact absurd early (by decide +kernel)

end Z16
