import EasyProspect.ShutdownTimer

namespace EasyProspect

/-!
# The countdown

One call of `shutdown`, without another call and without signals.  The clock never goes back, and
the timer fires at its expiry or any time later.
-/

/-- What happens during a countdown. -/
inductive CountdownLabel
  /-- The posted call of `shutdown` runs. -/
  | starts (clock : ClockReadings)
  | fires (reading : ClockReading)
  /-- The handler of the timer runs. -/
  | handles (clock : ClockReadings)

structure Countdown where
  timer : ShutdownTimer
  /-- What the clock read last. -/
  now : Int

/-- The notice that an event sends. -/
def ShutdownEvent.notice : ShutdownEvent -> Option Json
  | .notified jv => some jv
  | _ => none

/-- The notices that tell the users these remaining seconds. -/
def countdownNotices (c : Option Channel) (remains : List Int) : List Json :=
  match c with
  | some c => remains.map (ShutdownTimer.shutdownNotice c)
  | none => []

namespace Countdown

/-- `shutdown` with the cooldown has been posted to the strand. -/
def posted (cooldown : Nat) : ShutdownTimer :=
  { ShutdownTimer.create with posted := [.shutdown cooldown] }

/-- A step of the timer at a time that the clock allows.  The time of the shutdown has to be
representable. -/
def step (c : Option Channel) (cooldown : Nat) (countdown : Countdown) :
    CountdownLabel -> Option Countdown
  | .starts clock =>
      if countdown.now ≤ clock.assign.now ∧ clock.assign.now ≤ clock.check.now ∧
          clock.check.now ≤ clock.arm.now ∧ clock.assign.now + cooldown * second ≤ never then
        (countdown.timer.step c (.run 0 clock)).map fun timer => ⟨timer, clock.arm.now⟩
      else none
  | .fires reading =>
      if countdown.now ≤ reading.now ∧ countdown.timer.expiry ≤ reading.now then
        (countdown.timer.step c .timerExpires).map fun timer => ⟨timer, reading.now⟩
      else none
  | .handles clock =>
      if countdown.now ≤ clock.check.now ∧ clock.check.now ≤ clock.arm.now then
        (countdown.timer.step c (.onTimer 0 clock)).map fun timer => ⟨timer, clock.arm.now⟩
      else none

def system (c : Option Channel) (cooldown : Nat) : Transition.System Countdown CountdownLabel :=
  .ofStep (fun countdown => countdown.timer = posted cooldown) fun countdown =>
    countdown.step c cooldown

/-- The notices that were sent. -/
def notices (countdown : Countdown) : List Json :=
  countdown.timer.events.filterMap ShutdownEvent.notice

/-! ## What a countdown has to be -/

/-- A call of `on_timer` stops from `shutdown_time_` on, and before that it arms the timer for one
to ten seconds. -/
structure Turn (clock : ClockReadings) (next : ShutdownTimer) : Prop where
  stops : next.stopSet = true <-> next.shutdownTime ≤ clock.check.now
  waits : next.stopSet = false -> next.timerWaits = 1 ∧ Exists fun amount : Int =>
    1 ≤ amount ∧ amount ≤ 10 ∧ next.expiry = clock.arm.now + amount * second

/-- What a step of the countdown comes to. -/
def Punctual (cooldown : Nat) (countdown next : Countdown) : CountdownLabel -> Prop
  | .starts clock =>
      next.timer.shutdownTime = clock.assign.now + cooldown * second ∧ Turn clock next.timer
  | .fires _ =>
      next.timer.shutdownTime = countdown.timer.shutdownTime ∧ next.timer.stopSet = false ∧
        next.notices = countdown.notices
  | .handles clock =>
      next.timer.shutdownTime = countdown.timer.shutdownTime ∧ Turn clock next.timer ∧
        (countdown.timer.shutdownTime ≤ countdown.now -> next.timer.stopSet = true)

structure CountsDown (c : Option Channel) (cooldown : Nat) (countdown : Countdown) : Prop where
  /-- The notices tell fewer and fewer seconds, and there is one for every ten seconds of the
  cooldown at most. -/
  told : Exists fun remains => countdown.notices = countdownNotices c remains ∧
    remains.Pairwise (fun earlier later => later < earlier) ∧
    remains.length ≤ (cooldown + 9) / 10
  punctual : forall label next, countdown.step c cooldown label = some next ->
    Punctual cooldown countdown next label
  /-- Until it stops, the call is posted, or the timer waits, or its handler does. -/
  goesOn : countdown.timer.stopSet = false ->
    countdown.timer.posted.length + countdown.timer.timerWaits +
      countdown.timer.timerHandlers.length = 1
  final : countdown.timer.stopSet = true -> forall label, countdown.step c cooldown label = none

/-! ## Rounding up -/

/-- The seconds that are left when `on_timer` reads the clock. -/
def remain (timer : ShutdownTimer) (clock : ClockReadings) : Int :=
  ceilSeconds (timer.shutdownTime - clock.check.now)

/-- The seconds that the timer is armed for. -/
def amount (remain : Int) : Int :=
  if 10 < remain then 10 else remain

theorem remain_le_iff (timer : ShutdownTimer) (clock : ClockReadings) (bound : Int) :
    remain timer clock ≤ bound <-> timer.shutdownTime - clock.check.now ≤ bound * second :=
  ShutdownTimer.ceilSeconds_le_iff _ bound

theorem remain_nonpos (timer : ShutdownTimer) (clock : ClockReadings) :
    remain timer clock ≤ 0 <-> timer.shutdownTime ≤ clock.check.now := by
  rw [remain_le_iff, Int.zero_mul]
  omega

theorem onTimer_stops {timer : ShutdownTimer} {clock : ClockReadings} (c : Option Channel)
    (expired : timer.shutdownTime ≤ clock.check.now) : timer.onTimer c clock = timer.stop :=
  if_pos ((remain_nonpos timer clock).mpr expired)

theorem onTimer_waits {timer : ShutdownTimer} {clock : ClockReadings} (c : Option Channel)
    (early : clock.check.now < timer.shutdownTime) :
    timer.onTimer c clock = (timer.notify c (remain timer clock)).arm
      (clock.arm.now + amount (remain timer clock) * second) :=
  if_neg fun expired => Int.not_le_of_gt early ((remain_nonpos timer clock).mp expired)

/-! ## Calls of `on_timer` -/

/-- The timer when `on_timer` is called. -/
structure Called (timer : ShutdownTimer) : Prop where
  running : timer.stopSet = false
  posted : timer.posted = []
  waits : timer.timerWaits = 0
  handlers : timer.timerHandlers = []

/-- The timer waits or its handler does; `remains` and `last` are what the notices told. -/
structure Counting (c : Option Channel) (cooldown : Nat) (countdown : Countdown)
    (remains : List Int) (last : Int) : Prop where
  running : countdown.timer.stopSet = false
  posted : countdown.timer.posted = []
  single : countdown.timer.timerWaits = 1 ∧ countdown.timer.timerHandlers = [] ∨
    countdown.timer.timerWaits = 0 ∧ countdown.timer.timerHandlers = [false] ∧
      countdown.timer.expiry ≤ countdown.now
  told : countdown.notices = countdownNotices c (remains ++ [last])
  decreasing : (remains ++ [last]).Pairwise fun earlier later => later < earlier
  positive : 1 ≤ last
  /-- Every notice but the last was followed by a wait of ten seconds. -/
  spent : 10 * (remains.length : Int) + last ≤ cooldown
  /-- What is left of the last seconds at the expiry. -/
  left : countdown.timer.shutdownTime - countdown.timer.expiry ≤ (last - amount last) * second

/-- The countdown has stopped. -/
structure Ended (c : Option Channel) (cooldown : Nat) (countdown : Countdown)
    (remains : List Int) : Prop where
  stopped : countdown.timer.stopSet = true
  posted : countdown.timer.posted = []
  waits : countdown.timer.timerWaits = 0
  handlers : countdown.timer.timerHandlers = []
  told : countdown.notices = countdownNotices c remains
  decreasing : remains.Pairwise fun earlier later => later < earlier
  spent : 10 * (remains.length : Int) ≤ cooldown + 9

inductive Kept (c : Option Channel) (cooldown : Nat) (countdown : Countdown) : Prop
  | posted (waiting : countdown.timer = posted cooldown)
  | counting (remains : List Int) (last : Int) (counts : Counting c cooldown countdown remains last)
  | ended (remains : List Int) (done : Ended c cooldown countdown remains)

theorem amount_bounds {seconds : Int} (positive : 1 ≤ seconds) :
    1 ≤ amount seconds ∧ amount seconds ≤ 10 := by
  unfold amount
  split <;> omega

/-- When there is time left after a wait, the wait has taken ten seconds. -/
theorem left_after_wait {seconds last : Int} (positive : 1 ≤ seconds)
    (least : seconds ≤ last - amount last) : seconds + 10 ≤ last := by
  unfold amount at least
  split at least <;> omega

variable {c : Option Channel} {cooldown : Nat} {timer : ShutdownTimer} {clock : ClockReadings}

theorem stop_of_called (called : Called timer) :
    timer.stop.stopSet = true ∧ Called { timer.stop with stopSet := false } ∧
      timer.stop.shutdownTime = timer.shutdownTime ∧
      timer.stop.events = timer.events ++ [.stopped] := by
  unfold ShutdownTimer.stop
  rw [if_neg (Bool.eq_false_iff.mp called.running)]
  refine ⟨rfl, ⟨rfl, called.posted, rfl, ?_⟩, rfl, rfl⟩
  rw [called.handlers, called.waits]
  rfl

/-- When a call stops, and for how long it waits. -/
theorem turn_of_called (called : Called timer) (c : Option Channel) (clock : ClockReadings) :
    Turn clock (timer.onTimer c clock) := by
  rcases Int.lt_or_le clock.check.now timer.shutdownTime with early | expired
  · have positive : 1 ≤ remain timer clock := by
      have left := mt (remain_nonpos timer clock).mp (Int.not_le_of_gt early)
      omega
    have bounds := amount_bounds positive
    rw [onTimer_waits c early]
    cases c with
    | none =>
        refine ⟨iff_of_false (Bool.eq_false_iff.mp called.running) (Int.not_le_of_gt early),
          fun _ => ⟨rfl, _, bounds.1, bounds.2, rfl⟩⟩
    | some c =>
        refine ⟨iff_of_false (Bool.eq_false_iff.mp called.running) (Int.not_le_of_gt early),
          fun _ => ⟨rfl, _, bounds.1, bounds.2, rfl⟩⟩
  · rcases stop_of_called called with ⟨stopped, _, same, _⟩
    rw [onTimer_stops c expired]
    refine ⟨iff_of_true stopped (same.symm ▸ expired), fun running => ?_⟩
    cases stopped.symm.trans running

theorem shutdownTime_onTimer (called : Called timer) (c : Option Channel) (clock : ClockReadings) :
    (timer.onTimer c clock).shutdownTime = timer.shutdownTime := by
  rcases Int.lt_or_le clock.check.now timer.shutdownTime with early | expired
  · rw [onTimer_waits c early]
    cases c <;> rfl
  · rw [onTimer_stops c expired]
    exact (stop_of_called called).2.2.1

theorem notices_armed {remains : List Int} (seconds expiry : Int)
    (told : timer.events.filterMap ShutdownEvent.notice = countdownNotices c remains) :
    ((timer.notify c seconds).arm expiry).events.filterMap ShutdownEvent.notice =
      countdownNotices c (remains ++ [seconds]) := by
  have armed : ((timer.notify c seconds).arm expiry).events =
      (timer.notify c seconds).events ++ [.armed] := rfl
  rw [armed, List.filterMap_append]
  cases c with
  | none =>
      have same : (timer.notify none seconds).events = timer.events := rfl
      rw [same, told]
      rfl
  | some c =>
      have sent : (timer.notify (some c) seconds).events =
          timer.events ++ [.notified (ShutdownTimer.shutdownNotice c seconds)] := rfl
      rw [sent, List.filterMap_append, told, countdownNotices, countdownNotices, List.map_append]
      exact List.append_nil _

theorem handlers_armed (called : Called timer) (c : Option Channel) (seconds expiry : Int) :
    ((timer.notify c seconds).arm expiry).timerHandlers = [] := by
  have queued : ((timer.notify c seconds).arm expiry).timerHandlers =
      timer.timerHandlers ++ List.replicate timer.timerWaits true := by
    cases c <;> rfl
  rw [queued, called.handlers, called.waits]
  rfl

/-- A call of `on_timer` goes on with the countdown or ends it. -/
theorem kept_onTimer (remains : List Int) (called : Called timer)
    (told : timer.events.filterMap ShutdownEvent.notice = countdownNotices c remains)
    (decreasing : remains.Pairwise fun earlier later => later < earlier)
    (spent : 10 * (remains.length : Int) ≤ cooldown + 9)
    (fewer : 1 ≤ remain timer clock -> 10 * (remains.length : Int) + remain timer clock ≤ cooldown ∧
      forall earlier, earlier ∈ remains -> remain timer clock < earlier)
    (ordered : clock.check.now ≤ clock.arm.now) :
    Kept c cooldown ⟨timer.onTimer c clock, clock.arm.now⟩ := by
  rcases Int.lt_or_le clock.check.now timer.shutdownTime with early | expired
  · have positive : 1 ≤ remain timer clock := by
      have left := mt (remain_nonpos timer clock).mp (Int.not_le_of_gt early)
      omega
    have time := (remain_le_iff timer clock _).mp (Int.le_refl _)
    rcases fewer positive with ⟨spent, below⟩
    rw [onTimer_waits c early]
    refine .counting remains (remain timer clock) ⟨?_, ?_, Or.inl ⟨rfl, ?_⟩, ?_, ?_, positive,
      spent, ?_⟩
    · cases c <;> exact called.running
    · cases c <;> exact called.posted
    · exact handlers_armed called c _ _
    · exact notices_armed _ _ told
    · refine List.pairwise_append.mpr ⟨decreasing, List.pairwise_singleton _ _, ?_⟩
      intro earlier member later last
      rw [List.mem_singleton.mp last]
      exact below earlier member
    · have same : ((timer.notify c (remain timer clock)).arm
          (clock.arm.now + amount (remain timer clock) * second)).shutdownTime =
            timer.shutdownTime := by
        cases c <;> rfl
      have expiry : ((timer.notify c (remain timer clock)).arm
          (clock.arm.now + amount (remain timer clock) * second)).expiry =
            clock.arm.now + amount (remain timer clock) * second := rfl
      rw [same, expiry, Int.sub_mul]
      omega
  · rcases stop_of_called called with ⟨stopped, ended, _, events⟩
    rw [onTimer_stops c expired]
    refine .ended remains
      ⟨stopped, ended.posted, ended.waits, ended.handlers, ?_, decreasing, spent⟩
    rw [notices, events, List.filterMap_append, told]
    exact List.append_nil _

/-! ## Steps -/

theorem step_starts {countdown next : Countdown} (waiting : countdown.timer = posted cooldown)
    (taken : countdown.step c cooldown (.starts clock) = some next) :
    clock.assign.now ≤ clock.check.now ∧ clock.check.now ≤ clock.arm.now ∧
      next = ⟨(ShutdownTimer.create.assign (clock.assign.now + cooldown * second)).onTimer c clock,
        clock.arm.now⟩ := by
  rcases Option.ite_none_right_eq_some.mp taken with ⟨⟨_, assigned, checked, _⟩, taken⟩
  rcases Option.map_eq_some_iff.mp taken with ⟨timer, ran, rfl⟩
  rw [waiting] at ran
  refine ⟨assigned, checked, ?_⟩
  rw [← Option.some.inj ran]
  rfl

theorem kept_starts {countdown next : Countdown} (waiting : countdown.timer = posted cooldown)
    (taken : countdown.step c cooldown (.starts clock) = some next) :
    Kept c cooldown next ∧ Punctual cooldown countdown next (.starts clock) := by
  rcases step_starts waiting taken with ⟨assigned, checked, rfl⟩
  have called : Called (ShutdownTimer.create.assign (clock.assign.now + cooldown * second)) :=
    ⟨rfl, rfl, rfl, rfl⟩
  have bounded : remain (ShutdownTimer.create.assign (clock.assign.now + cooldown * second)) clock ≤
      cooldown := by
    refine (remain_le_iff _ clock _).mpr ?_
    change clock.assign.now + cooldown * second - clock.check.now ≤ cooldown * second
    omega
  constructor
  · refine kept_onTimer [] called ?_ .nil ?_ ?_ checked
    · cases c <;> rfl
    · simp only [List.length_nil]
      omega
    · exact fun _ => ⟨by simpa using bounded, by simp⟩
  · exact ⟨shutdownTime_onTimer called c clock, turn_of_called called c clock⟩

/-- The handler was queued when the timer fired. -/
theorem step_handles {countdown next : Countdown} {remains : List Int} {last : Int}
    (counts : Counting c cooldown countdown remains last)
    (taken : countdown.step c cooldown (.handles clock) = some next) :
    countdown.timer.expiry ≤ countdown.now ∧ countdown.now ≤ clock.check.now ∧
      clock.check.now ≤ clock.arm.now ∧
      Exists fun timer : ShutdownTimer => Called timer ∧
        timer.shutdownTime = countdown.timer.shutdownTime ∧
        timer.events = countdown.timer.events ∧
        next = ⟨timer.onTimer c clock, clock.arm.now⟩ := by
  rcases Option.ite_none_right_eq_some.mp taken with ⟨⟨later, checked⟩, taken⟩
  rcases Option.map_eq_some_iff.mp taken with ⟨timer, ran, rfl⟩
  rcases Option.map_eq_some_iff.mp ran with ⟨aborted, queued, rfl⟩
  rcases counts.single with ⟨_, empty⟩ | ⟨unarmed, listed, fired⟩
  · rw [empty] at queued
    cases queued
  · rw [listed] at queued
    cases Option.some.inj queued
    refine ⟨fired, later, checked,
      { countdown.timer with timerHandlers := countdown.timer.timerHandlers.eraseIdx 0 },
      ⟨counts.running, counts.posted, unarmed, ?_⟩, rfl, rfl, rfl⟩
    exact congrArg (fun handlers => handlers.eraseIdx 0) listed

theorem kept_handles {countdown next : Countdown} {remains : List Int} {last : Int}
    (counts : Counting c cooldown countdown remains last)
    (taken : countdown.step c cooldown (.handles clock) = some next) :
    Kept c cooldown next ∧ Punctual cooldown countdown next (.handles clock) := by
  rcases step_handles counts taken with
    ⟨fired, later, checked, timer, called, time, events, rfl⟩
  have positive := counts.positive
  have spent := counts.spent
  have turn := turn_of_called called c clock
  have same := (shutdownTime_onTimer called c clock).trans time
  have told : timer.events.filterMap ShutdownEvent.notice =
      countdownNotices c (remains ++ [last]) :=
    events ▸ counts.told
  constructor
  · refine kept_onTimer (remains ++ [last]) called told counts.decreasing ?_
      (fun positive => ?_) checked
    · simp only [List.length_append, List.length_singleton]
      omega
    · have left := counts.left
      have least : remain timer clock ≤ last - amount last :=
        (remain_le_iff _ clock _).mpr (by omega)
      have less := left_after_wait positive least
      refine ⟨?_, fun earlier member => ?_⟩
      · simp only [List.length_append, List.length_singleton]
        omega
      · rcases List.mem_append.mp member with before | same
        · have greater := (List.pairwise_append.mp counts.decreasing).2.2 earlier before last
            (List.mem_singleton.mpr rfl)
          omega
        · rw [List.mem_singleton.mp same]
          omega
  · refine ⟨same, turn, fun expired => turn.stops.mpr ?_⟩
    rw [same]
    exact expired.trans later

theorem kept_fires {countdown next : Countdown} {reading : ClockReading} {remains : List Int}
    {last : Int} (counts : Counting c cooldown countdown remains last)
    (taken : countdown.step c cooldown (.fires reading) = some next) :
    Kept c cooldown next ∧ Punctual cooldown countdown next (.fires reading) := by
  rcases Option.ite_none_right_eq_some.mp taken with ⟨⟨_, late⟩, taken⟩
  rcases Option.map_eq_some_iff.mp taken with ⟨timer, ran, rfl⟩
  rcases Option.ite_none_left_eq_some.mp ran with ⟨armed, ran⟩
  rcases counts.single with ⟨one, empty⟩ | ⟨unarmed, _⟩
  · cases Option.some.inj ran
    refine ⟨.counting remains last ⟨counts.running, counts.posted, Or.inr ⟨?_, ?_, late⟩,
      counts.told, counts.decreasing, counts.positive, counts.spent, counts.left⟩,
      rfl, counts.running, rfl⟩
    · exact congrArg (fun waits => waits - 1) one
    · exact congrArg (fun handlers => handlers ++ [false]) empty
  · exact absurd unarmed armed

theorem over_of_ended {countdown : Countdown} {remains : List Int}
    (ended : Ended c cooldown countdown remains) (label : CountdownLabel) :
    countdown.step c cooldown label = none := by
  cases label with
  | starts clock =>
      have nothing : countdown.timer.step c (.run 0 clock) = none := by
        simp only [ShutdownTimer.step, ended.posted, List.getElem?_nil, Option.map_none]
      simp only [step, nothing, Option.map_none, ite_self]
  | fires reading =>
      have nothing : countdown.timer.step c .timerExpires = none := if_pos ended.waits
      simp only [step, nothing, Option.map_none, ite_self]
  | handles clock =>
      have nothing : countdown.timer.step c (.onTimer 0 clock) = none := by
        simp only [ShutdownTimer.step, ended.handlers, List.getElem?_nil, Option.map_none]
      simp only [step, nothing, Option.map_none, ite_self]

/-- Of the posted call only `starts` is possible, and of a countdown that has begun it is not. -/
theorem kept_step {countdown next : Countdown} {label : CountdownLabel}
    (kept : Kept c cooldown countdown) (taken : countdown.step c cooldown label = some next) :
    Kept c cooldown next ∧ Punctual cooldown countdown next label := by
  cases kept with
  | posted waiting =>
      cases label with
      | starts clock => exact kept_starts waiting taken
      | fires reading =>
          rcases Option.ite_none_right_eq_some.mp taken with ⟨_, taken⟩
          rw [waiting] at taken
          cases taken
      | handles clock =>
          rcases Option.ite_none_right_eq_some.mp taken with ⟨_, taken⟩
          rw [waiting] at taken
          cases taken
  | counting remains last counts =>
      cases label with
      | starts clock =>
          rcases Option.ite_none_right_eq_some.mp taken with ⟨_, taken⟩
          rcases Option.map_eq_some_iff.mp taken with ⟨timer, ran, _⟩
          rcases Option.map_eq_some_iff.mp ran with ⟨call, queued, _⟩
          rw [counts.posted] at queued
          cases queued
      | fires reading => exact kept_fires counts taken
      | handles clock => exact kept_handles counts taken
  | ended remains done =>
      rw [over_of_ended done label] at taken
      cases taken

theorem kept_reachable {countdown : Countdown}
    (reachable : (system c cooldown).Reachable countdown) : Kept c cooldown countdown := by
  refine reachable.invariant ?_ ?_
  · exact fun _ waiting => .posted waiting
  · exact fun _ _ _ kept taken => (kept_step kept taken).1

/-- Every step of a countdown is a step of the component that counts down. -/
theorem timer_step {countdown next : Countdown} {label : CountdownLabel}
    (taken : countdown.step c cooldown label = some next) :
    Exists fun own => countdown.timer.step c own = some next.timer := by
  cases label with
  | starts clock =>
      rcases Option.ite_none_right_eq_some.mp taken with ⟨_, taken⟩
      rcases Option.map_eq_some_iff.mp taken with ⟨timer, ran, rfl⟩
      exact ⟨_, ran⟩
  | fires reading =>
      rcases Option.ite_none_right_eq_some.mp taken with ⟨_, taken⟩
      rcases Option.map_eq_some_iff.mp taken with ⟨timer, ran, rfl⟩
      exact ⟨_, ran⟩
  | handles clock =>
      rcases Option.ite_none_right_eq_some.mp taken with ⟨_, taken⟩
      rcases Option.map_eq_some_iff.mp taken with ⟨timer, ran, rfl⟩
      exact ⟨_, ran⟩

theorem timer_reachable {countdown : Countdown}
    (reachable : (system c cooldown).Reachable countdown) :
    (ShutdownTimer.system c).Reachable countdown.timer := by
  rcases reachable with ⟨first, waiting, labels, run⟩
  induction run with
  | refl =>
      have fresh : (ShutdownTimer.system c).Reachable ShutdownTimer.create := .initially rfl
      have post : (ShutdownTimer.system c).step ShutdownTimer.create (.post (.shutdown cooldown))
          (posted cooldown) := rfl
      rw [show first.timer = posted cooldown from waiting]
      exact fresh.extend (.single post)
  | snoc run taken inductionHypothesis =>
      rcases timer_step taken with ⟨own, ran⟩
      exact inductionHypothesis.extend (.single ran)

theorem Kept.told {countdown : Countdown} (kept : Kept c cooldown countdown) :
    Exists fun remains => countdown.notices = countdownNotices c remains ∧
      remains.Pairwise (fun earlier later => later < earlier) ∧
      remains.length ≤ (cooldown + 9) / 10 := by
  cases kept with
  | posted waiting =>
      refine ⟨[], ?_, .nil, Nat.zero_le _⟩
      rw [notices, waiting]
      cases c <;> rfl
  | counting remains last counts =>
      have positive := counts.positive
      have spent := counts.spent
      refine ⟨_, counts.told, counts.decreasing, ?_⟩
      rw [List.length_append, List.length_singleton]
      omega
  | ended remains done =>
      have spent := done.spent
      exact ⟨remains, done.told, done.decreasing, by omega⟩

/-- The countdown of the worker and that of the frontend. -/
theorem counts_down (c : Option Channel) (cooldown : Nat) (countdown : Countdown)
    (reachable : (system c cooldown).Reachable countdown) :
    countdown.CountsDown c cooldown := by
  have kept := kept_reachable reachable
  refine ⟨kept.told, fun label next taken => (kept_step kept taken).2, ?_, ?_⟩
  · intro running
    cases kept with
    | posted waiting =>
        rw [waiting]
        rfl
    | counting remains last counts =>
        rw [counts.posted]
        rcases counts.single with ⟨one, empty⟩ | ⟨unarmed, listed, _⟩
        · rw [one, empty]
          rfl
        · rw [unarmed, listed]
          rfl
    | ended remains done => cases running.symm.trans done.stopped
  · intro stopped
    cases kept with
    | posted waiting =>
        rw [waiting] at stopped
        cases stopped
    | counting remains last counts => cases counts.running.symm.trans stopped
    | ended remains done => exact over_of_ended done

theorem ten_early : 10 * second + 10 * second < never := by
  decide

theorem thirteen_early : 13 * second + 10 * second < never := by
  decide

/-- A cooldown of twelve seconds: a wait of ten seconds, one of two that the timer is late for,
and the stop. -/
def twelveLabels : List CountdownLabel :=
  [.starts ShutdownTimer.zeroClock,
    .fires ⟨10 * second, ten_early⟩,
    .handles ⟨ShutdownTimer.zeroClock.assign, ⟨10 * second, ten_early⟩, ⟨10 * second, ten_early⟩⟩,
    .fires ⟨13 * second, thirteen_early⟩,
    .handles
      ⟨ShutdownTimer.zeroClock.assign, ⟨13 * second, thirteen_early⟩,
        ⟨13 * second, thirteen_early⟩⟩]

theorem twelve_taken (c : Option Channel) :
    (Transition.System.execute (fun countdown => step c 12 countdown) ⟨posted 12, 0⟩
      twelveLabels).isSome = true := by
  cases c <;> rfl

def twelve (c : Option Channel) : Countdown :=
  (Transition.System.execute (fun countdown => step c 12 countdown) ⟨posted 12, 0⟩
    twelveLabels).get (twelve_taken c)

theorem twelve_reachable (c : Option Channel) : (system c 12).Reachable (twelve c) := by
  refine .of_execute ?_ (twelve_taken c)
  rfl

theorem twelve_counts_down :
    (twelve (some ShutdownTimer.systemChannel)).CountsDown
        (some ShutdownTimer.systemChannel) 12 ∧
      (twelve none).CountsDown none 12 :=
  ⟨counts_down (some ShutdownTimer.systemChannel) 12 _ (twelve_reachable _),
    counts_down none 12 _ (twelve_reachable none)⟩

end Countdown
end EasyProspect
