import EasyProspect.Library.Transition
import EasyProspect.WebWorker

namespace EasyProspect

/-!
# Shutting down

`application_impl` of the worker and `server_impl` of the frontend count down to their
end in the same way; only the worker tells its users.  Calls of `shutdown` and of `stop`
from elsewhere are posted to the strand of the timer, on which the handlers of the timer
and of the signals run as well.  A handler that is already queued runs with the error code
it was queued with, whatever is cancelled later.

Times are counted in nanoseconds.
-/

def second : Int := 1000000000

/-- `time_point::max`. -/
def never : Int := 2 ^ 63 - 1

/-- What the clock reads.  The last ten seconds that it could count are not reached. -/
structure ClockReading where
  now : Int
  early : now + 10 * second < never

/-- The readings within one call: for `shutdown_time_`, for the countdown and for the timer. -/
structure ClockReadings where
  assign : ClockReading
  check : ClockReading
  arm : ClockReading

/-- `ceil` to seconds; the cast cuts toward zero. -/
def ceilSeconds (d : Int) : Int :=
  let t := d.tdiv second
  if t * second < d then t + 1 else t

/-- A call that was posted to the strand. -/
inductive StrandCall
  | shutdown (cooldown : Nat)
  | stop

inductive ShutdownEvent
  | assigned
  | notified (jv : Json)
  | armed
  | stopped

/-- `shutdown_time_` is assigned. -/
def ShutdownEvent.assigns : ShutdownEvent -> Bool
  | .assigned => true
  | _ => false

/-- The state behind `shutdown` and `stop`, with the handlers that are waiting and those that
are queued.  A queued handler is aborted or not. -/
structure ShutdownTimer where
  expiry : Int
  shutdownTime : Int
  stopSet : Bool
  posted : List StrandCall
  timerWaits : Nat
  timerHandlers : List Bool
  signalWaits : Nat
  signalHandlers : List Bool
  events : List ShutdownEvent

inductive ShutdownLabel
  | post (call : StrandCall)
  | run (index : Nat) (clock : ClockReadings)
  | timerExpires
  | onTimer (index : Nat) (clock : ClockReadings)
  | signalArrives
  | onSignal (index : Nat) (clock : ClockReadings)

namespace ShutdownTimer

/-- After `run` has begun to wait for a signal. -/
def create : ShutdownTimer where
  expiry := never
  shutdownTime := never
  stopSet := false
  posted := []
  timerWaits := 0
  timerHandlers := []
  signalWaits := 1
  signalHandlers := []
  events := []

variable (timer : ShutdownTimer)

/-- `stop` on the strand. -/
def stop : ShutdownTimer :=
  if timer.stopSet then
    timer
  else
    { timer with
      stopSet := true
      timerWaits := 0
      timerHandlers := timer.timerHandlers ++ List.replicate timer.timerWaits true
      signalWaits := 0
      signalHandlers := timer.signalHandlers ++ List.replicate timer.signalWaits true
      events := timer.events ++ [.stopped] }

/-- The notice that `application_impl` sends through channel 1. -/
def shutdownNotice (c : Channel) (remain : Int) : Json :=
  .object [("cid", .unsigned c.cid),
    ("message", .string ("Server is shutting down in " ++ toString remain ++ " seconds")),
    ("name", .string c.name), ("verb", .string "say")]

/-- Tell the users, if this is the worker. -/
def notify (c : Option Channel) (remain : Int) : ShutdownTimer :=
  match c with
  | some c => { timer with events := timer.events ++ [.notified (shutdownNotice c remain)] }
  | none => timer

/-- `expires_after` cancels what was waiting; then `async_wait`. -/
def arm (expiry : Int) : ShutdownTimer :=
  { timer with
    expiry := expiry
    timerWaits := 1
    timerHandlers := timer.timerHandlers ++ List.replicate timer.timerWaits true
    events := timer.events ++ [.armed] }

/-- `on_timer` without an error. -/
def onTimer (c : Option Channel) (clock : ClockReadings) : ShutdownTimer :=
  let remain := ceilSeconds (timer.shutdownTime - clock.check.now)
  if remain ≤ 0 then
    timer.stop
  else
    let amount := if 10 < remain then 10 else remain
    (timer.notify c remain).arm (clock.arm.now + amount * second)

def assign (shutdownTime : Int) : ShutdownTimer :=
  { timer with
    shutdownTime := shutdownTime
    events := timer.events ++ [.assigned] }

/-- `shutdown` on the strand. -/
def shutdown (c : Option Channel) (cooldown : Nat) (clock : ClockReadings) : ShutdownTimer :=
  if timer.expiry ≠ never then
    timer
  else
    (timer.assign (clock.assign.now + cooldown * second)).onTimer c clock

/-- `on_signal` without an error. -/
def onSignal (c : Option Channel) (clock : ClockReadings) : ShutdownTimer :=
  if timer.expiry = never then
    { timer with signalWaits := timer.signalWaits + 1 }.shutdown c 30 clock
  else
    timer.stop

def step (c : Option Channel) : ShutdownLabel -> Option ShutdownTimer
  | .post call => some { timer with posted := timer.posted ++ [call] }
  | .run index clock =>
      timer.posted[index]?.map fun call =>
        let rest := { timer with posted := timer.posted.eraseIdx index }
        match call with
        | .shutdown cooldown => rest.shutdown c cooldown clock
        | .stop => rest.stop
  | .timerExpires =>
      if timer.timerWaits = 0 then none
      else
        some { timer with
          timerWaits := timer.timerWaits - 1
          timerHandlers := timer.timerHandlers ++ [false] }
  | .onTimer index clock =>
      timer.timerHandlers[index]?.map fun aborted =>
        let rest := { timer with timerHandlers := timer.timerHandlers.eraseIdx index }
        if aborted then rest else rest.onTimer c clock
  | .signalArrives =>
      if timer.signalWaits = 0 then none
      else
        some { timer with
          signalWaits := timer.signalWaits - 1
          signalHandlers := timer.signalHandlers ++ [false] }
  | .onSignal index clock =>
      timer.signalHandlers[index]?.map fun aborted =>
        let rest := { timer with signalHandlers := timer.signalHandlers.eraseIdx index }
        if aborted then rest else rest.onSignal c clock

def system (c : Option Channel) : Transition.System ShutdownTimer ShutdownLabel :=
  .ofStep (fun timer => timer = create) fun timer => timer.step c

/-- The worker; `c` is what its registry holds for channel 1. -/
def applicationImpl (c : Channel) : Transition.System ShutdownTimer ShutdownLabel :=
  system (some c)

def serverImpl : Transition.System ShutdownTimer ShutdownLabel :=
  system none

/-- The time for a shutdown is set once, and `stop_` is raised once, as the last event. -/
structure Orderly : Prop where
  assigned_once : timer.events.countP ShutdownEvent.assigns ≤ 1
  stopped_last : forall before after, timer.events = before ++ .stopped :: after -> after = []
  flag : timer.stopSet = true <-> .stopped ∈ timer.events

/-- Once the time has been set, the timer is armed or `stop_` is raised. -/
def Underway : Prop :=
  0 < timer.events.countP ShutdownEvent.assigns -> timer.stopSet = true ∨ timer.expiry ≠ never

/-- Once `stop_` is raised, no shutdown finds the timer without an expiry, and no handler of the
timer that was queued before has time left. -/
def StaysStopped (label : ShutdownLabel) : Prop :=
  timer.stopSet = true ->
    match label with
    | .run index _ =>
        forall cooldown, timer.posted[index]? = some (.shutdown cooldown) ->
          timer.expiry ≠ never
    | .onTimer index clock =>
        timer.timerHandlers[index]? = some false -> timer.shutdownTime ≤ clock.check.now
    | .onSignal index _ =>
        timer.signalHandlers[index]? = some false -> timer.expiry ≠ never
    | _ => True

variable {timer}

/-! ## What the calls do -/

/-- Rounding up is left adjoint to the number of nanoseconds. -/
theorem ceilSeconds_le_iff (d bound : Int) : ceilSeconds d ≤ bound <-> d ≤ bound * second := by
  have cut : 0 ≤ d ∧ d.tdiv second = d / 1000000000 ∨
      d < 0 ∧ d.tdiv second = -((-d) / 1000000000) := by
    rcases Int.lt_or_le d 0 with negative | positive
    · refine Or.inr ⟨negative, ?_⟩
      rw [← Int.tdiv_eq_ediv_of_nonneg (by omega), Int.neg_tdiv, Int.neg_neg]
      rfl
    · exact Or.inl ⟨positive, Int.tdiv_eq_ediv_of_nonneg positive⟩
  unfold ceilSeconds
  generalize d.tdiv second = t at cut
  by_cases below : t * second < d
  · rw [if_pos below]
    unfold second at below ⊢
    omega
  · rw [if_neg below]
    unfold second at below ⊢
    omega

theorem ceilSeconds_nonpos (d : Int) : ceilSeconds d ≤ 0 <-> d ≤ 0 := by
  rw [ceilSeconds_le_iff, Int.zero_mul]

theorem stop_of_set (set : timer.stopSet = true) : timer.stop = timer := by
  unfold stop
  rw [if_pos set]

theorem stop_stopSet (timer : ShutdownTimer) : timer.stop.stopSet = true := by
  unfold stop
  split
  · assumption
  · rfl

/-- `on_timer` stops, or it arms the timer with events that neither assign nor stop. -/
theorem onTimer_cases (c : Option Channel) (clock : ClockReadings) (timer : ShutdownTimer) :
    timer.shutdownTime ≤ clock.check.now ∧ timer.onTimer c clock = timer.stop ∨
      clock.check.now < timer.shutdownTime ∧ (timer.onTimer c clock).expiry ≠ never ∧
        (timer.onTimer c clock).stopSet = timer.stopSet ∧
        Exists fun told => told ≠ [] ∧ (timer.onTimer c clock).events = timer.events ++ told ∧
          told.countP ShutdownEvent.assigns = 0 ∧ .stopped ∉ told := by
  have left := ceilSeconds_nonpos (timer.shutdownTime - clock.check.now)
  by_cases expired : ceilSeconds (timer.shutdownTime - clock.check.now) ≤ 0
  · refine Or.inl ⟨by omega, ?_⟩
    unfold onTimer
    rw [if_pos expired]
  · refine Or.inr ⟨by omega, ?_⟩
    unfold onTimer
    rw [if_neg expired]
    refine ⟨?_, ?_, ?_⟩
    · have early := clock.arm.early
      simp only [arm]
      split <;> simp only [second] at * <;> omega
    · cases c <;> rfl
    · cases c with
      | none =>
          exact ⟨[.armed], List.cons_ne_nil _ _, rfl, rfl, by simp⟩
      | some c =>
          exact ⟨[.notified (shutdownNotice c _), .armed], List.cons_ne_nil _ _,
            List.append_assoc _ _ _, rfl, by simp⟩

/-! ## The order of the events -/

theorem Orderly.same {next : ShutdownTimer} (ordered : timer.Orderly)
    (flag : next.stopSet = timer.stopSet) (events : next.events = timer.events) :
    next.Orderly where
  assigned_once := by rw [events]; exact ordered.assigned_once
  stopped_last := by rw [events]; exact ordered.stopped_last
  flag := by rw [flag, events]; exact ordered.flag

theorem Orderly.stop (ordered : timer.Orderly) : timer.stop.Orderly := by
  by_cases set : timer.stopSet = true
  · rw [stop_of_set set]
    exact ordered
  · have events : timer.stop.events = timer.events ++ [.stopped] := by
      unfold ShutdownTimer.stop
      rw [if_neg set]
    refine ⟨?_, ?_, ?_⟩
    · rw [events, List.countP_append]
      exact ordered.assigned_once
    · intro before after parts
      rw [events] at parts
      rcases List.eq_nil_or_concat after with rfl | ⟨others, last, rfl⟩
      · rfl
      · rw [List.concat_eq_append, ← List.cons_append, ← List.append_assoc] at parts
        have earlier := List.append_inj_left' parts rfl
        have raised : .stopped ∈ timer.events := by
          rw [earlier]
          exact List.mem_append_right before List.mem_cons_self
        exact False.elim (set (ordered.flag.mpr raised))
    · rw [stop_stopSet, events]
      exact ⟨fun _ => List.mem_append_right _ (List.mem_singleton.mpr rfl), fun _ => rfl⟩

/-- What happens before `stop_` is raised. -/
theorem Orderly.before {next : ShutdownTimer} {told : List ShutdownEvent}
    (ordered : timer.Orderly) (running : timer.stopSet = false)
    (flag : next.stopSet = timer.stopSet) (events : next.events = timer.events ++ told)
    (once : (timer.events ++ told).countP ShutdownEvent.assigns ≤ 1) (plain : .stopped ∉ told) :
    next.Orderly := by
  have unraised : .stopped ∉ next.events := by
    rw [events]
    intro raised
    rcases List.mem_append.mp raised with earlier | here
    · exact Bool.noConfusion (running.symm.trans (ordered.flag.mpr earlier))
    · exact plain here
  refine ⟨by rw [events]; exact once, ?_, ?_⟩
  · intro before after parts
    refine False.elim (unraised ?_)
    rw [parts]
    exact List.mem_append_right before List.mem_cons_self
  · rw [flag, running]
    exact ⟨Bool.noConfusion, fun raised => False.elim (unraised raised)⟩

/-- Nothing may happen behind the event that raises `stop_`. -/
theorem Orderly.not_after {next : ShutdownTimer} {told : List ShutdownEvent}
    (ordered : timer.Orderly) (set : timer.stopSet = true)
    (events : next.events = timer.events ++ told) (more : told ≠ []) : ¬ next.Orderly := by
  intro later
  rcases List.append_of_mem (ordered.flag.mp set) with ⟨before, after, parts⟩
  have behind : after ++ told = [] := by
    refine later.stopped_last before (after ++ told) ?_
    rw [events, parts, List.append_assoc, List.cons_append]
  exact more (List.append_eq_nil_iff.mp behind).2

theorem onTimer_orderly (ordered : timer.Orderly) (c : Option Channel) (clock : ClockReadings) :
    (timer.onTimer c clock).Orderly <->
      (timer.stopSet = true -> timer.shutdownTime ≤ clock.check.now) := by
  rcases onTimer_cases c clock timer with ⟨expired, stops⟩ | ⟨left, _, flag, told, more, events, rest⟩
  · rw [stops]
    exact ⟨fun _ _ => expired, fun _ => ordered.stop⟩
  · cases running : timer.stopSet with
    | true =>
        refine ⟨fun later => False.elim ?_, fun expired => False.elim ?_⟩
        · exact ordered.not_after running events more later
        · exact Int.not_le_of_gt left (expired rfl)
    | false =>
        refine ⟨fun _ => Bool.noConfusion, fun _ => ordered.before running flag events ?_ rest.2⟩
        rw [List.countP_append, rest.1]
        exact ordered.assigned_once

theorem onTimer_underway (c : Option Channel) (clock : ClockReadings) :
    (timer.onTimer c clock).Underway := by
  intro _
  rcases onTimer_cases c clock timer with ⟨_, stops⟩ | ⟨_, expiry, _⟩
  · rw [stops]
    exact Or.inl (stop_stopSet timer)
  · exact Or.inr expiry

theorem shutdown_orderly (ordered : timer.Orderly) (underway : timer.Underway)
    (c : Option Channel) (cooldown : Nat) (clock : ClockReadings) :
    (timer.shutdown c cooldown clock).Orderly <->
      (timer.stopSet = true -> timer.expiry ≠ never) := by
  unfold shutdown
  by_cases armed : timer.expiry ≠ never
  · rw [if_pos armed]
    exact ⟨fun _ _ => armed, fun _ => ordered⟩
  · rw [if_neg armed]
    generalize assignment : timer.assign (clock.assign.now + cooldown * second) = assigned
    have flag : assigned.stopSet = timer.stopSet := by rw [← assignment]; rfl
    have events : assigned.events = timer.events ++ [.assigned] := by rw [← assignment]; rfl
    cases running : timer.stopSet with
    | true =>
        refine ⟨fun later => False.elim ?_, fun stays => False.elim (armed (stays rfl))⟩
        rcases onTimer_cases c clock assigned with ⟨_, stops⟩ | ⟨_, _, _, told, _, grown, _⟩
        · rw [stops, stop_of_set (flag.trans running)] at later
          exact ordered.not_after running events (List.cons_ne_nil _ _) later
        · rw [events, List.append_assoc] at grown
          exact ordered.not_after running grown (List.cons_ne_nil _ _) later
    | false =>
        refine ⟨fun _ => Bool.noConfusion, fun _ => ?_⟩
        have fresh : timer.events.countP ShutdownEvent.assigns = 0 := by
          by_contra some
          rcases underway (Nat.pos_of_ne_zero some) with set | expiry
          · exact Bool.noConfusion (running.symm.trans set)
          · exact armed expiry
        have begun : assigned.Orderly := by
          refine ordered.before running flag events ?_ (by simp)
          rw [List.countP_append, fresh]
          exact Nat.le_refl 1
        refine (onTimer_orderly begun c clock).mpr fun set => ?_
        exact Bool.noConfusion (running.symm.trans (flag.symm.trans set))

theorem shutdown_underway (underway : timer.Underway) (c : Option Channel) (cooldown : Nat)
    (clock : ClockReadings) : (timer.shutdown c cooldown clock).Underway := by
  unfold shutdown
  split
  · exact underway
  · exact onTimer_underway c clock

theorem stop_underway : timer.stop.Underway :=
  fun _ => Or.inl (stop_stopSet timer)

theorem onSignal_orderly (ordered : timer.Orderly) (underway : timer.Underway)
    (c : Option Channel) (clock : ClockReadings) :
    (timer.onSignal c clock).Orderly <-> (timer.stopSet = true -> timer.expiry ≠ never) := by
  unfold onSignal
  by_cases unarmed : timer.expiry = never
  · rw [if_pos unarmed]
    have waiting : { timer with signalWaits := timer.signalWaits + 1 }.Orderly :=
      ordered.same rfl rfl
    exact shutdown_orderly waiting underway c 30 clock
  · rw [if_neg unarmed]
    exact ⟨fun _ _ => unarmed, fun _ => ordered.stop⟩

theorem onSignal_underway (underway : timer.Underway) (c : Option Channel)
    (clock : ClockReadings) : (timer.onSignal c clock).Underway := by
  unfold onSignal
  split
  · have waiting : { timer with signalWaits := timer.signalWaits + 1 }.Underway := underway
    exact shutdown_underway waiting c 30 clock
  · exact stop_underway

/-! ## Runs -/

/-- What a step runs on the strand. -/
inductive Ran (c : Option Channel) (timer : ShutdownTimer) : ShutdownTimer -> Prop
  | nothing : Ran c timer timer
  | stop : Ran c timer timer.stop
  | onTimer (clock : ClockReadings) : Ran c timer (timer.onTimer c clock)
  | shutdown (cooldown : Nat) (clock : ClockReadings) :
      Ran c timer (timer.shutdown c cooldown clock)
  | onSignal (clock : ClockReadings) : Ran c timer (timer.onSignal c clock)

/-- Taking a handler from its queue changes nothing else. -/
structure Agrees (rest timer : ShutdownTimer) : Prop where
  expiry : rest.expiry = timer.expiry
  stopSet : rest.stopSet = timer.stopSet
  events : rest.events = timer.events

theorem ran_of_step {c : Option Channel} {next : ShutdownTimer} {label : ShutdownLabel}
    (taken : timer.step c label = some next) :
    Exists fun rest => Ran c rest next ∧ Agrees rest timer := by
  cases label with
  | post call =>
      cases Option.some.inj taken
      exact ⟨_, .nothing, rfl, rfl, rfl⟩
  | run index clock =>
      rcases Option.map_eq_some_iff.mp taken with ⟨call, _, rfl⟩
      cases call with
      | shutdown cooldown => exact ⟨_, .shutdown cooldown clock, rfl, rfl, rfl⟩
      | stop => exact ⟨_, .stop, rfl, rfl, rfl⟩
  | timerExpires =>
      rcases Option.ite_none_left_eq_some.mp taken with ⟨_, queued⟩
      cases Option.some.inj queued
      exact ⟨_, .nothing, rfl, rfl, rfl⟩
  | onTimer index clock =>
      rcases Option.map_eq_some_iff.mp taken with ⟨aborted, _, rfl⟩
      cases aborted with
      | true => exact ⟨_, .nothing, rfl, rfl, rfl⟩
      | false => exact ⟨_, .onTimer clock, rfl, rfl, rfl⟩
  | signalArrives =>
      rcases Option.ite_none_left_eq_some.mp taken with ⟨_, queued⟩
      cases Option.some.inj queued
      exact ⟨_, .nothing, rfl, rfl, rfl⟩
  | onSignal index clock =>
      rcases Option.map_eq_some_iff.mp taken with ⟨aborted, _, rfl⟩
      cases aborted with
      | true => exact ⟨_, .nothing, rfl, rfl, rfl⟩
      | false => exact ⟨_, .onSignal clock, rfl, rfl, rfl⟩

structure Settled (timer : ShutdownTimer) : Prop where
  ordered : timer.Orderly
  underway : timer.Underway

theorem step_orderly {c : Option Channel} {next : ShutdownTimer} {label : ShutdownLabel}
    (settled : timer.Settled) (taken : timer.step c label = some next) :
    next.Orderly <-> timer.StaysStopped label := by
  rcases settled with ⟨ordered, underway⟩
  cases label with
  | post call =>
      cases Option.some.inj taken
      exact ⟨fun _ _ => trivial, fun _ => ordered.same rfl rfl⟩
  | run index clock =>
      rcases Option.map_eq_some_iff.mp taken with ⟨call, found, rfl⟩
      have rest : { timer with posted := timer.posted.eraseIdx index }.Orderly :=
        ordered.same rfl rfl
      cases call with
      | shutdown cooldown =>
          refine (shutdown_orderly rest underway c cooldown clock).trans ?_
          refine ⟨fun stays set _ _ => stays set, fun stays set => ?_⟩
          exact stays set cooldown found
      | stop =>
          refine ⟨fun _ _ cooldown other => ?_, fun _ => rest.stop⟩
          cases found.symm.trans other
  | timerExpires =>
      rcases Option.ite_none_left_eq_some.mp taken with ⟨_, queued⟩
      cases Option.some.inj queued
      exact ⟨fun _ _ => trivial, fun _ => ordered.same rfl rfl⟩
  | onTimer index clock =>
      rcases Option.map_eq_some_iff.mp taken with ⟨aborted, found, rfl⟩
      have rest : { timer with timerHandlers := timer.timerHandlers.eraseIdx index }.Orderly :=
        ordered.same rfl rfl
      cases aborted with
      | true =>
          refine ⟨fun _ _ succeeded => ?_, fun _ => rest⟩
          cases found.symm.trans succeeded
      | false =>
          refine (onTimer_orderly rest c clock).trans ?_
          exact ⟨fun stays set _ => stays set, fun stays set => stays set found⟩
  | signalArrives =>
      rcases Option.ite_none_left_eq_some.mp taken with ⟨_, queued⟩
      cases Option.some.inj queued
      exact ⟨fun _ _ => trivial, fun _ => ordered.same rfl rfl⟩
  | onSignal index clock =>
      rcases Option.map_eq_some_iff.mp taken with ⟨aborted, found, rfl⟩
      have rest : { timer with signalHandlers := timer.signalHandlers.eraseIdx index }.Orderly :=
        ordered.same rfl rfl
      cases aborted with
      | true =>
          refine ⟨fun _ _ succeeded => ?_, fun _ => rest⟩
          cases found.symm.trans succeeded
      | false =>
          refine (onSignal_orderly rest underway c clock).trans ?_
          exact ⟨fun stays set _ => stays set, fun stays set => stays set found⟩

theorem step_underway {c : Option Channel} {next : ShutdownTimer} {label : ShutdownLabel}
    (underway : timer.Underway) (taken : timer.step c label = some next) : next.Underway := by
  rcases ran_of_step taken with ⟨rest, ran, expiry, flag, events⟩
  have before : rest.Underway := by
    unfold Underway
    rw [expiry, flag, events]
    exact underway
  cases ran with
  | nothing => exact before
  | stop => exact stop_underway
  | onTimer clock => exact onTimer_underway c clock
  | shutdown cooldown clock => exact shutdown_underway before c cooldown clock
  | onSignal clock => exact onSignal_underway before c clock

theorem settled_reachable {c : Option Channel}
    (reachable : ((system c).restrict StaysStopped).Reachable timer) : timer.Settled := by
  refine reachable.invariant ?_ ?_
  · rintro timer rfl
    refine ⟨⟨Nat.zero_le 1, fun before after parts => ?_, ⟨Bool.noConfusion, nofun⟩⟩, nofun⟩
    cases before <;> cases parts
  · rintro timer label next settled ⟨stays, taken⟩
    exact ⟨(step_orderly settled taken).mpr stays, step_underway settled.underway taken⟩

/-- No step lowers `stop_`. -/
theorem stopSet_onTimer (set : timer.stopSet = true) (c : Option Channel)
    (clock : ClockReadings) : (timer.onTimer c clock).stopSet = true := by
  rcases onTimer_cases c clock timer with ⟨_, stops⟩ | ⟨_, _, flag, _⟩
  · rw [stops]
    exact stop_stopSet timer
  · rw [flag, set]

theorem stopSet_shutdown (set : timer.stopSet = true) (c : Option Channel) (cooldown : Nat)
    (clock : ClockReadings) : (timer.shutdown c cooldown clock).stopSet = true := by
  unfold shutdown
  split
  · exact set
  · have assigned : (timer.assign (clock.assign.now + cooldown * second)).stopSet = true := set
    exact stopSet_onTimer assigned c clock

theorem stopSet_onSignal (set : timer.stopSet = true) (c : Option Channel)
    (clock : ClockReadings) : (timer.onSignal c clock).stopSet = true := by
  unfold onSignal
  split
  · have waiting : { timer with signalWaits := timer.signalWaits + 1 }.stopSet = true := set
    exact stopSet_shutdown waiting c 30 clock
  · exact stop_stopSet timer

theorem stopSet_step {c : Option Channel} {next : ShutdownTimer} {label : ShutdownLabel}
    (set : timer.stopSet = true) (taken : timer.step c label = some next) :
    next.stopSet = true := by
  rcases ran_of_step taken with ⟨rest, ran, _, flag, _⟩
  have before : rest.stopSet = true := flag.trans set
  cases ran with
  | nothing => exact before
  | stop => exact stop_stopSet rest
  | onTimer clock => exact stopSet_onTimer before c clock
  | shutdown cooldown clock => exact stopSet_shutdown before c cooldown clock
  | onSignal clock => exact stopSet_onSignal before c clock

/-- The events are in order, the next step keeps them so exactly under the condition, and no
step lowers `stop_`. -/
def StopsOnce (timer : ShutdownTimer) (c : Option Channel) : Prop :=
  timer.Orderly ∧ forall label next, timer.step c label = some next ->
    (next.Orderly <-> timer.StaysStopped label) ∧
      (timer.stopSet = true -> next.stopSet = true)

theorem stopsOnce_reachable {c : Option Channel}
    (reachable : ((system c).restrict StaysStopped).Reachable timer) : timer.StopsOnce c := by
  have settled := settled_reachable reachable
  exact ⟨settled.ordered, fun label next taken =>
    ⟨step_orderly settled taken, fun set => stopSet_step set taken⟩⟩

/-- Both components shut down once as long as nothing that was queued before undoes a stop. -/
theorem shuts_down_once (c : Channel) (timer : ShutdownTimer) :
    (((applicationImpl c).restrict StaysStopped).Reachable timer -> timer.StopsOnce (some c)) ∧
      ((serverImpl.restrict StaysStopped).Reachable timer -> timer.StopsOnce none) :=
  ⟨stopsOnce_reachable, stopsOnce_reachable⟩

/-- `make_system_channel`. -/
def systemChannel : Channel :=
  ⟨.system, 1, "System", []⟩

def zeroClock : ClockReadings :=
  ⟨⟨0, by decide⟩, ⟨0, by decide⟩, ⟨0, by decide⟩⟩

def lateClock : ClockReadings :=
  ⟨⟨second, by decide⟩, ⟨second, by decide⟩, ⟨second, by decide⟩⟩

/-- A countdown of one second. -/
def countdownLabels : List ShutdownLabel :=
  [.post (.shutdown 1), .run 0 zeroClock, .timerExpires, .onTimer 0 lateClock]

def countdownStep (c : Option Channel) : ShutdownTimer -> ShutdownLabel -> Option ShutdownTimer :=
  Transition.System.guarded (fun timer _ => timer.stopSet = false) fun timer => timer.step c

theorem countdown_taken (c : Option Channel) :
    (Transition.System.execute (countdownStep c) create countdownLabels).isSome = true := by
  cases c <;> rfl

/-- The timer after the countdown. -/
def countdown (c : Option Channel) : ShutdownTimer :=
  (Transition.System.execute (countdownStep c) create countdownLabels).get (countdown_taken c)

theorem countdown_reachable (c : Option Channel) :
    ((system c).restrict StaysStopped).Reachable (countdown c) := by
  have running : ((system c).restrict fun timer _ => timer.stopSet = false).Reachable
      (countdown c) := by
    refine .of_execute_guarded ?_ (countdown_taken c)
    rfl
  refine running.weaken fun timer label unset set => ?_
  exact Bool.noConfusion (unset.symm.trans set)

theorem countdown_stopsOnce :
    (countdown (some systemChannel)).StopsOnce (some systemChannel) ∧
      (countdown none).StopsOnce none :=
  ⟨(shuts_down_once systemChannel (countdown (some systemChannel))).1
      (countdown_reachable (some systemChannel)),
    (shuts_down_once systemChannel (countdown none)).2 (countdown_reachable none)⟩

/-- `shutdown` without a cooldown stops at once and leaves the timer without an expiry, so a
second call is accepted. -/
def repeatedLabels : List ShutdownLabel :=
  [.post (.shutdown 0), .run 0 zeroClock, .post (.shutdown 30), .run 0 zeroClock]

theorem repeated_taken (c : Option Channel) :
    (Transition.System.execute (fun timer => step timer c) create repeatedLabels).isSome =
      true := by
  cases c <;> rfl

def repeated (c : Option Channel) : ShutdownTimer :=
  (Transition.System.execute (fun timer => step timer c) create repeatedLabels).get
    (repeated_taken c)

theorem repeated_reachable (c : Option Channel) : (system c).Reachable (repeated c) := by
  refine .of_execute ?_ (repeated_taken c)
  rfl

theorem repeated_not_orderly (c : Option Channel) : ¬ (repeated c).Orderly := by
  intro ordered
  have twice : (repeated c).events.countP ShutdownEvent.assigns = 2 := by cases c <;> rfl
  have once := ordered.assigned_once
  rw [twice] at once
  exact absurd once (by decide)

theorem shuts_down_twice :
    (¬ forall timer, (applicationImpl systemChannel).Reachable timer -> timer.Orderly) ∧
      ¬ forall timer, serverImpl.Reachable timer -> timer.Orderly :=
  ⟨fun once => repeated_not_orderly _ (once _ (repeated_reachable (some systemChannel))),
    fun once => repeated_not_orderly _ (once _ (repeated_reachable none))⟩

end ShutdownTimer

end EasyProspect
