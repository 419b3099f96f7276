import Mathlib.Data.List.Induction
import Z16.Proofs.Clock.Interleaving

/-!
# The life of a clock

During any sequence of events a clock goes from tick to tick. An event is made of ticks, of a wait that
ends before the next tick, or of a change at once (`Simulator.AtOnce`); `Lasting.life` concludes from what
each of these keeps to what a whole life keeps, and `Lasting.at_moment` to what holds right before each
tick. Time alone changes the machine of a simulator only through ticks
(`Simulator.applyAll_eq_of_still`).
-/

namespace Z16

namespace Event

variable {H : Type}

def passesTime : Event H → Bool
  | .request (.sleep _) | .request (.join _) => true
  | _ => false

/-- Whether the event may end the clock or keep it from the machine. -/
def interrupts : Event H → Bool
  | .request (.start ..) | .request .drop | .request .stop | .request .poison => true
  | _ => false

end Event

namespace Moment

variable {H : Type} [Host H]

def after (t : Moment H) : Simulator H := (t.simulator.tick t.clock).2

def limited (t : Moment H) : Bool := t.executes && t.clock.reaches (t.clock.executed + 1)

def executed (t : Moment H) : Nat := t.clock.executed + if t.executes then 1 else 0

def machineAfter (t : Moment H) : Machine H :=
  if t.executes then { t.simulator.machine.step.2 with paused := t.limited } else t.simulator.machine

variable {t : Moment H}

theorem tick_machine (healthy : t.simulator.poisoned = false) :
    t.clock.tick t.simulator.machine = t.clock.report t.executed t.limited t.machineAfter := by
  unfold executed limited machineAfter limited
  cases steps : t.executes with
  | true =>
    obtain ⟨-, high, unpaused, unfinished⟩ := t.executes_iff.1 steps
    have kept : t.simulator.machine.step.2.paused = false := by
      rw [(Machine.step_keeps _).2, unpaused]
    rw [Clock.tick_of_step high unpaused unfinished, Machine.pause_ite kept]
    rfl
  | false => exact Clock.tick_of_idle (idle_of_not_executes healthy steps)

theorem tick_of_healthy (healthy : t.simulator.poisoned = false) :
    t.simulator.tick t.clock =
      ((t.clock.report t.executed t.limited t.machineAfter).1,
        { t.simulator with
          now := t.clock.due
          clock? := some (t.clock.report t.executed t.limited t.machineAfter).2.1
          machine := t.machineAfter }) := by
  rw [Simulator.tick_of_healthy healthy, tick_machine healthy]
  rfl

theorem tick_of_poisoned (poisoned : t.simulator.poisoned = true) :
    t.simulator.tick t.clock =
      (none, { t.simulator with
        now := t.clock.due, clock? := some { t.clock with ended := true } }) := by
  simp [Simulator.tick, poisoned]

theorem not_executes_of_poisoned (poisoned : t.simulator.poisoned = true) : t.executes = false := by
  simp [executes, poisoned]

theorem after_machine (t : Moment H) : t.after.machine = t.machineAfter := by
  unfold after
  cases poisoned : t.simulator.poisoned with
  | true =>
    rw [tick_of_poisoned poisoned, machineAfter, not_executes_of_poisoned poisoned]
    rfl
  | false => rw [tick_of_healthy poisoned]

theorem after_now (t : Moment H) : t.after.now = t.clock.due := by
  unfold after
  cases poisoned : t.simulator.poisoned with
  | true => rw [tick_of_poisoned poisoned]
  | false => rw [tick_of_healthy poisoned]

theorem after_poisoned (t : Moment H) : t.after.poisoned = t.simulator.poisoned := by
  unfold after
  cases poisoned : t.simulator.poisoned with
  | true => rw [tick_of_poisoned poisoned, poisoned]
  | false => rw [tick_of_healthy poisoned, poisoned]

theorem after_driven (t : Moment H) : t.after.clock?.isSome = true := by
  unfold after
  cases poisoned : t.simulator.poisoned with
  | true =>
    rw [tick_of_poisoned poisoned]
    rfl
  | false =>
    rw [tick_of_healthy poisoned]
    rfl

theorem after_of_paused (paused : t.simulator.machine.paused = true) :
    t.after.machine = t.simulator.machine := by
  have rests : t.executes = false := Bool.eq_false_iff.2 fun runs =>
    absurd paused (by rw [(t.executes_iff.1 runs).2.2.1]; exact Bool.false_ne_true)
  rw [after_machine, machineAfter, rests]
  rfl

theorem after_of_poisoned (poisoned : t.simulator.poisoned = true) :
    t.after.machine = t.simulator.machine := by
  rw [after_machine, machineAfter, not_executes_of_poisoned poisoned]
  rfl

theorem after_clock {c : Clock} (clock : t.after.clock? = some c) (running : c.ended = false) :
    c = { t.clock with
          phase := t.clock.phase.flip, executed := t.executed, calls := t.clock.calls + 1
          due := t.clock.due + t.clock.halfPeriod, ended := false } ∧
      t.tick?.isSome = true := by
  unfold after at clock
  unfold tick?
  cases poisoned : t.simulator.poisoned with
  | true =>
    rw [tick_of_poisoned poisoned] at clock
    obtain rfl := Option.some.inj clock
    cases running
  | false =>
    rw [tick_of_healthy poisoned] at clock ⊢
    obtain rfl := Option.some.inj clock
    simp only [Clock.report, Bool.or_eq_false_iff] at running ⊢
    obtain ⟨⟨limited, finished⟩, holds⟩ := running
    simp [limited, finished, holds]

end Moment

namespace Simulator

variable {H : Type} [Host H]

def applyAll (s : Simulator H) (es : List (Event H)) : Simulator H := es.foldl apply s

def eventTicks (s : Simulator H) : Event H → List Tick
  | .request r => (s.handle r).2.1.toList
  | .touch _ => []

/-- The ticks of the clock of `s` that are delivered during some events, until another clock is
started. -/
def delivered : Simulator H → List (Event H) → List Tick
  | _, [] => []
  | s, e :: es => if e.restarts then [] else s.eventTicks e ++ delivered (s.apply e) es

theorem delivered_eq (s : Simulator H) (es : List (Event H)) :
    s.delivered es = (s.life es).filterMap Moment.tick? := by
  induction es generalizing s with
  | nil => rfl
  | cons e es ih =>
    rw [delivered, life]
    by_cases restarts : e.restarts = true
    · rw [if_pos restarts, if_pos restarts]
      rfl
    · have ticks : s.eventTicks e = (s.eventMoments e).filterMap Moment.tick? := by
        cases e with
        | request r => exact s.handle_ticks r
        | touch change => rfl
      rw [if_neg restarts, if_neg restarts, List.filterMap_append, ih, ticks]

theorem life_takeWhile (s : Simulator H) (es : List (Event H)) :
    s.life es = s.life (es.takeWhile fun e => !e.restarts) := by
  induction es generalizing s with
  | nil => rfl
  | cons e es ih =>
    by_cases restarts : e.restarts = true
    · simp [life, restarts]
    · simp [life, restarts, ih]

omit [Host H] in
theorem goes_on_takeWhile {es : List (Event H)} :
    ∀ e ∈ es.takeWhile (fun e => !e.restarts), e.restarts = false := by
  intro e mem
  simpa using List.all_eq_true.1 List.all_takeWhile e mem

variable {s : Simulator H}

theorem applyAll_append (s : Simulator H) (es es' : List (Event H)) :
    s.applyAll (es ++ es') = (s.applyAll es).applyAll es' :=
  List.foldl_append

theorem life_append {es : List (Event H)} (goes_on : ∀ e ∈ es, e.restarts = false)
    (es' : List (Event H)) : s.life (es ++ es') = s.life es ++ (s.applyAll es).life es' := by
  induction es generalizing s with
  | nil => rfl
  | cons e es ih =>
    have first : ¬e.restarts = true := Bool.eq_false_iff.1 (goes_on e List.mem_cons_self)
    have rest := ih (s := s.apply e) fun e mem => goes_on e (List.mem_cons_of_mem _ mem)
    rw [List.cons_append, life, if_neg first, rest, life, if_neg first, List.append_assoc]
    rfl

theorem life_singleton (s : Simulator H) (e : Event H) : s.life [e] = s.eventMoments e := by
  rw [life]
  split
  next restarts =>
    unfold Event.restarts at restarts
    split at restarts
    next => rfl
    next => cases restarts
  next => exact List.append_nil _

theorem exists_event_of_moment {es : List (Event H)} {k : Nat} (lt : k < (s.life es).length) :
    ∃ before e later, es = before ++ e :: later ∧ (s.life before).length ≤ k ∧
      k < (s.life (before ++ [e])).length := by
  induction es using List.reverseRecOn with
  | nil => exact absurd lt (Nat.not_lt_zero k)
  | append_singleton es last ih =>
    by_cases old : k < (s.life es).length
    · obtain ⟨before, e, later, split, le, lt⟩ := ih old
      exact ⟨before, e, later ++ [last], by simp [split], le, lt⟩
    · exact ⟨es, last, [], rfl, Nat.le_of_not_lt old, lt⟩

/-! ## Waiting -/

omit [Host H] in
theorem dueTicks_next {c next : Clock} {deadline : Nat} (positive : 0 < c.halfPeriod)
    (early : c.due ≤ deadline) (same : next.halfPeriod = c.halfPeriod)
    (due : next.due = c.due + c.halfPeriod) :
    dueTicks next deadline + 1 = dueTicks c deadline := by
  rw [dueTicks, dueTicks, same, due, if_pos early]
  split
  next later => rw [← Nat.sub_sub, ← Nat.div_eq_sub_div positive (by omega)]
  next late => rw [Nat.div_eq_of_lt (by omega)]

theorem lt_due_of_advance {deadline fuel : Nat} {c : Clock}
    (enough : ∀ c, s.clock? = some c → c.ended = false → 0 < c.halfPeriod →
      dueTicks c deadline ≤ fuel)
    (ticks : Array Tick) (clock : (advance (some deadline) fuel ticks s).2.clock? = some c)
    (running : c.ended = false) (positive : 0 < c.halfPeriod) : deadline < c.due := by
  induction fuel generalizing s ticks with
  | zero =>
    have none := enough c clock running positive
    rw [dueTicks] at none
    split at none
    · exact absurd none (Nat.not_succ_le_zero _)
    · omega
  | succ fuel ih =>
    cases due : s.due? (some deadline) with
    | none =>
      rw [advance_of_not_due due] at clock
      have late := Option.filter_eq_none_iff.1 due c clock
      simpa [running] using late
    | some first =>
      obtain ⟨clock', running', early⟩ := due?_eq_some_iff.1 due
      rw [advance_of_due due] at clock
      -- The tick is one of those that are due, and one less is due afterwards.
      refine ih (fun next clock running positive => ?_) _ clock
      obtain ⟨older, -⟩ := Moment.after_clock (t := ⟨s, first⟩) clock running
      have same : next.halfPeriod = first.halfPeriod := by rw [older]
      rw [same] at positive
      have count := dueTicks_next positive (early deadline rfl) same (by rw [older])
      have bound := enough first clock' running' positive
      omega

theorem now_le_of_advance {deadline : Nat} (fuel : Nat) (ticks : Array Tick)
    (le : s.now ≤ deadline) : (advance (some deadline) fuel ticks s).2.now ≤ deadline := by
  induction fuel generalizing s ticks with
  | zero => exact le
  | succ fuel ih =>
    cases due : s.due? (some deadline) with
    | none =>
      rw [advance_of_not_due due]
      exact le
    | some c =>
      obtain ⟨-, -, early⟩ := due?_eq_some_iff.1 due
      rw [advance_of_due due]
      apply ih
      rw [show (s.tick c).2.now = c.due from Moment.after_now ⟨s, c⟩]
      exact early deadline rfl

/-! ## Events -/

/-- What holds of a simulator after the ticks at some moments, as long as only allowed events happen. -/
structure Lasting (allowed : Event H → Prop) (I : List (Moment H) → Simulator H → Prop) : Prop where
  goes_on : ∀ {e}, allowed e → e.restarts = false
  tick : ∀ {ts s c}, I ts s → s.clock? = some c → c.ended = false → I (ts ++ [⟨s, c⟩]) (s.tick c).2
  wait : ∀ {ts s moment}, I ts s → s.now ≤ moment →
    (∀ c, s.clock? = some c → c.ended = false → 0 < c.halfPeriod → moment < c.due) →
    I ts { s with now := moment }
  change : ∀ {ts s e}, I ts s → allowed e → e.passesTime = false → I ts (s.apply e)

namespace Lasting

variable {allowed : Event H → Prop} {I : List (Moment H) → Simulator H → Prop} {ts : List (Moment H)}

theorem advance (l : Lasting allowed I) (i : I ts s) (deadline : Option Nat) (fuel : Nat)
    (ticks : Array Tick) :
    I (ts ++ s.moments deadline fuel) (Simulator.advance deadline fuel ticks s).2 := by
  induction fuel generalizing ts s ticks with
  | zero => simpa [moments, Simulator.advance] using i
  | succ fuel ih =>
    cases due : s.due? deadline with
    | none => simpa [moments, due, advance_of_not_due due] using i
    | some c =>
      obtain ⟨clock, running, -⟩ := due?_eq_some_iff.1 due
      have goes := ih (l.tick i clock running) (ticks ++ (s.tick c).1.toArray)
      rw [List.append_assoc, List.singleton_append] at goes
      rwa [advance_of_due due, moments, due]

theorem sleep (l : Lasting allowed I) (i : I ts s) (nanoseconds : Nat) :
    I (ts ++ s.eventMoments (.request (.sleep nanoseconds)))
      (s.apply (.request (.sleep nanoseconds))) := by
  have goes := l.advance i (some (s.now + nanoseconds))
    (s.clock?.elim 0 (dueTicks · (s.now + nanoseconds))) #[]
  refine l.wait goes (now_le_of_advance _ _ (Nat.le_add_right _ _)) fun c clock running => ?_
  refine lt_due_of_advance (fun first clock _ _ => ?_) #[] clock running
  rw [clock]
  exact Nat.le_refl _

theorem apply (l : Lasting allowed I) (i : I ts s) {e : Event H} (ok : allowed e) :
    I (ts ++ s.eventMoments e) (s.apply e) := by
  cases passes : e.passesTime with
  | false =>
    have none : s.eventMoments e = [] := by
      unfold eventMoments
      split <;> first | rfl | cases passes
    rw [none, List.append_nil]
    exact l.change i ok passes
  | true =>
    unfold Event.passesTime at passes
    split at passes
    next nanoseconds => exact l.sleep i nanoseconds
    next patience => exact l.advance i none patience #[]
    next => cases passes

theorem life (l : Lasting allowed I) (i : I ts s) {es : List (Event H)} (ok : ∀ e ∈ es, allowed e) :
    I (ts ++ s.life es) (s.applyAll es) := by
  induction es generalizing ts s with
  | nil => simpa [Simulator.life, applyAll] using i
  | cons e es ih =>
    have first := ok e List.mem_cons_self
    have goes := ih (l.apply i first) fun e mem => ok e (List.mem_cons_of_mem _ mem)
    rw [List.append_assoc] at goes
    rwa [Simulator.life, if_neg (Bool.eq_false_iff.1 (l.goes_on first))]

theorem applyAll {I : Simulator H → Prop} (l : Lasting allowed fun _ s => I s) (i : I s)
    {es : List (Event H)} (ok : ∀ e ∈ es, allowed e) : I (s.applyAll es) :=
  @life _ _ _ _ (fun _ s => I s) [] l i _ ok

theorem looking_back (l : Lasting allowed I) :
    Lasting allowed fun ts s => I ts s ∧ ∀ k t, ts[k]? = some t →
      I (ts.take k) t.simulator ∧ t.simulator.clock? = some t.clock ∧ t.clock.ended = false where
  goes_on := l.goes_on
  tick := by
    rintro ts s c ⟨i, back⟩ clock running
    refine ⟨l.tick i clock running, fun k t found => ?_⟩
    by_cases old : k < ts.length
    · rw [List.getElem?_append_left old] at found
      rw [List.take_append_of_le_length (Nat.le_of_lt old)]
      exact back k t found
    · obtain rfl : k = ts.length := by
        have bound := (List.getElem?_eq_some_iff.1 found).1
        rw [List.length_append, List.length_singleton] at bound
        omega
      obtain rfl : ⟨s, c⟩ = t := by simpa using found
      rw [List.take_left]
      exact ⟨i, clock, running⟩
  wait := fun ⟨i, back⟩ le late => ⟨l.wait i le late, back⟩
  change := fun ⟨i, back⟩ ok passes => ⟨l.change i ok passes, back⟩

theorem at_moment (l : Lasting allowed I) (i : I [] s) {es : List (Event H)}
    (ok : ∀ e ∈ es, allowed e) {k : Nat} {t : Moment H} (found : (s.life es)[k]? = some t) :
    I ((s.life es).take k) t.simulator ∧ t.simulator.clock? = some t.clock ∧
      t.clock.ended = false := by
  have none (k : Nat) (t : Moment H) (found : ([] : List (Moment H))[k]? = some t) : False := by
    simp at found
  have back := (l.looking_back.life ⟨i, fun k t found => (none k t found).elim⟩ ok).2
  rw [List.nil_append] at back
  exact back k t found

end Lasting

/-! ## Changes at once -/

omit [Host H] in
theorem onMachine_eq (s : Simulator H) (f : Machine H → Answer × Machine H) :
    (s.onMachine f).2 = { s with machine := (s.onMachine f).2.machine } := by
  unfold onMachine
  split <;> rfl

omit [Host H] in
theorem throughClock_eq (s : Simulator H) (f : Machine H → Answer × Machine H) :
    (s.throughClock f).2 = { s with machine := (s.throughClock f).2.machine } := by
  unfold throughClock
  split
  · exact s.onMachine_eq f
  · rfl

theorem apply_eq {e : Event H} (passes : e.passesTime = false) (quiet : e.interrupts = false) :
    s.apply e = { s with machine := (s.apply e).machine } := by
  cases e with
  | touch change => exact s.onMachine_eq _
  | request r =>
    cases r with
    | sleep | join => cases passes
    | start | drop | stop | poison => cases quiet
    | command c => exact s.onMachine_eq fun m => (.reply (m.perform c).1, (m.perform c).2)
    | pause | resume | toggle | seek | snapshot => exact s.throughClock_eq _
    | isRunning => rfl

inductive AtOnce (s : Simulator H) : Event H → Simulator H → Prop where
  | quiet {e : Event H} (machine : Machine H) : e.interrupts = false → AtOnce s e { s with machine }
  | start (frequency : Decimal.Binary64) (limit failAt : Option Nat) (clock? : Option Clock) :
    AtOnce s (.request (.start frequency limit failAt)) { s with clock? }
  | drop : AtOnce s (.request .drop) { s with clock? := none }
  | stop : AtOnce s (.request .stop) s.stop
  | poison : AtOnce s (.request .poison) { s with poisoned := true }

theorem atOnce {e : Event H} (passes : e.passesTime = false) : s.AtOnce e (s.apply e) := by
  cases quiet : e.interrupts with
  | false => exact apply_eq passes quiet ▸ .quiet _ quiet
  | true =>
    unfold Event.interrupts at quiet
    split at quiet
    next frequency limit failAt =>
      simp only [Simulator.apply, handle]
      split <;> exact .start ..
    next => exact .drop
    next => exact .stop
    next => exact .poison
    next => cases quiet

theorem clock_of_apply {e : Event H} (passes : e.passesTime = false) (goes_on : e.restarts = false)
    {c : Clock} (clock : (s.apply e).clock? = some c) (running : c.ended = false) :
    s.clock? = some c := by
  have did := s.atOnce passes
  generalize s.apply e = s' at clock did
  cases did with
  | quiet | poison => exact clock
  | start => cases goes_on
  | drop => cases clock
  | stop =>
    -- A stopped clock does not run.
    obtain ⟨first, -, rfl⟩ := Option.map_eq_some_iff.1 clock
    cases running

/-! ## Ticks that change nothing -/

theorem advance_keeps (s : Simulator H) (deadline : Option Nat) (fuel : Nat) (ticks : Array Tick) :
    (advance deadline fuel ticks s).2.poisoned = s.poisoned ∧
      (advance deadline fuel ticks s).2.clock?.isSome = s.clock?.isSome := by
  induction fuel generalizing s ticks with
  | zero => exact ⟨rfl, rfl⟩
  | succ fuel ih =>
    cases due : s.due? deadline with
    | none => simp [advance_of_not_due due]
    | some c =>
      obtain ⟨clock, -⟩ := due?_eq_some_iff.1 due
      obtain ⟨poisoned, driven⟩ := ih (s.tick c).2 (ticks ++ (s.tick c).1.toArray)
      rw [advance_of_due due, poisoned, driven, clock]
      exact ⟨Moment.after_poisoned ⟨s, c⟩, Moment.after_driven ⟨s, c⟩⟩

theorem keeps_of_passesTime {e : Event H} (passes : e.passesTime = true) :
    (s.apply e).poisoned = s.poisoned ∧ (s.apply e).clock?.isSome = s.clock?.isSome := by
  unfold Event.passesTime at passes
  split at passes
  next nanoseconds => exact advance_keeps s (some (s.now + nanoseconds)) _ #[]
  next patience => exact advance_keeps s none patience #[]
  next => cases passes

structure Alike (s s' : Simulator H) : Prop where
  machine : s.machine = s'.machine
  poisoned : s.poisoned = s'.poisoned
  driven : s.clock?.isSome = s'.clock?.isSome

namespace Alike

variable {s' : Simulator H}

omit [Host H] in
theorem onMachine (a : Alike s s') (f : Machine H → Answer × Machine H) :
    Alike (s.onMachine f).2 (s'.onMachine f).2 := by
  unfold Simulator.onMachine
  rw [a.machine, a.poisoned]
  split
  · exact a
  · exact ⟨rfl, rfl, a.driven⟩

omit [Host H] in
theorem throughClock (a : Alike s s') (f : Machine H → Answer × Machine H) :
    Alike (s.throughClock f).2 (s'.throughClock f).2 := by
  unfold Simulator.throughClock
  rw [a.driven]
  split
  · exact a.onMachine f
  · exact a

theorem apply (a : Alike s s') {e : Event H} (passes : e.passesTime = false) :
    Alike (s.apply e) (s'.apply e) := by
  cases e with
  | touch change => exact a.onMachine _
  | request r =>
    cases r with
    | sleep | join => cases passes
    | start frequency limit failAt =>
      simp only [Simulator.apply, handle, newClock]
      cases Clock.halfPeriod? frequency with
      | none => exact ⟨a.machine, a.poisoned, rfl⟩
      | some halfPeriod => exact ⟨a.machine, a.poisoned, rfl⟩
    | drop => exact ⟨a.machine, a.poisoned, rfl⟩
    | poison => exact ⟨a.machine, rfl, a.driven⟩
    | command c => exact a.onMachine fun m => (.reply (m.perform c).1, (m.perform c).2)
    | pause | resume | toggle | seek | snapshot => exact a.throughClock _
    | isRunning => exact a
    | stop =>
      refine ⟨a.machine, a.poisoned, ?_⟩
      simpa [Simulator.apply, handle, Simulator.stop] using a.driven

theorem of_still {e : Event H} (passes : e.passesTime = true)
    (still : (s.apply e).machine = s.machine) : Alike (s.apply e) s := by
  obtain ⟨poisoned, driven⟩ := keeps_of_passesTime (s := s) passes
  exact ⟨still, poisoned, driven⟩

end Alike

/-- If the machine stays as it is whenever time passes, then it comes to the same as without time. -/
theorem applyAll_eq_of_still {es : List (Event H)}
    (still : ∀ n e, es[n]? = some e → e.passesTime = true →
      ((s.applyAll (es.take n)).apply e).machine = (s.applyAll (es.take n)).machine) :
    (s.applyAll es).machine = (s.applyAll (es.filter fun e => !e.passesTime)).machine := by
  suffices alike : ∀ s', Alike s s' →
      Alike (s.applyAll es) (s'.applyAll (es.filter fun e => !e.passesTime)) from
    (alike s ⟨rfl, rfl, rfl⟩).machine
  induction es generalizing s with
  | nil => exact fun _ a => a
  | cons e es ih =>
    intro s' a
    have rest := ih (s := s.apply e) fun n => still (n + 1)
    cases passes : e.passesTime with
    | true =>
      have stays := Alike.of_still passes (still 0 e rfl passes)
      have b : Alike (s.apply e) s' :=
        ⟨stays.machine.trans a.machine, stays.poisoned.trans a.poisoned, stays.driven.trans a.driven⟩
      simpa [passes, applyAll] using rest s' b
    | false => simpa [passes, applyAll] using rest _ (a.apply passes)

theorem advance_still (holds : Simulator H → Prop)
    (tick : ∀ {s : Simulator H} {c}, holds s → (s.tick c).2.machine = s.machine ∧ holds (s.tick c).2)
    (h : holds s) (deadline : Option Nat) (fuel : Nat) (ticks : Array Tick) :
    (advance deadline fuel ticks s).2.machine = s.machine := by
  induction fuel generalizing s ticks with
  | zero => rfl
  | succ fuel ih =>
    cases due : s.due? deadline with
    | none => rw [advance_of_not_due due]
    | some c =>
      obtain ⟨same, kept⟩ := tick (c := c) h
      rw [advance_of_due due, ih kept, same]

theorem apply_still (holds : Simulator H → Prop)
    (tick : ∀ {s : Simulator H} {c}, holds s → (s.tick c).2.machine = s.machine ∧ holds (s.tick c).2)
    (h : holds s) {e : Event H} (passes : e.passesTime = true) : (s.apply e).machine = s.machine := by
  unfold Event.passesTime at passes
  split at passes
  next nanoseconds => exact advance_still holds tick h _ _ _
  next patience => exact advance_still holds tick h _ _ _
  next => cases passes

theorem apply_of_paused (paused : s.machine.paused = true) {e : Event H}
    (passes : e.passesTime = true) : (s.apply e).machine = s.machine := by
  refine apply_still (fun s => s.machine.paused = true) (fun {s c} paused => ?_) paused passes
  have same : (s.tick c).2.machine = s.machine := Moment.after_of_paused (t := ⟨s, c⟩) paused
  exact ⟨same, same ▸ paused⟩

theorem apply_of_poisoned (poisoned : s.poisoned = true) {e : Event H}
    (passes : e.passesTime = true) : (s.apply e).machine = s.machine := by
  refine apply_still (fun s => s.poisoned = true) (fun {s c} poisoned => ?_) poisoned passes
  exact ⟨Moment.after_of_poisoned (t := ⟨s, c⟩) poisoned,
    (Moment.after_poisoned ⟨s, c⟩).trans poisoned⟩

end Simulator

end Z16
