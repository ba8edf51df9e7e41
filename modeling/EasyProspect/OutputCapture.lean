import EasyProspect.ControlMessage
import EasyProspect.Library.Transition
import Mathlib.Logic.Function.Basic

namespace EasyProspect

/-!
# Capturing the output of a worker

`process_win::listen_loop` reads the standard output and the standard error of the
process it has started.  For both it keeps a buffer, an `OVERLAPPED` with an event
that resets itself, and two flags: `process` wants another read, `pending` waits for
the last one.  A turn of the loop looks after one stream and then after the other,
and then waits for an event or for the end of the process.

The process writes and the system finishes reads at any time between these steps.
Reads that fail are left out.
-/

inductive Stream
  | stdout
  | stderr
  deriving DecidableEq

/-- What `GetOverlappedResult` reports about an `OVERLAPPED`. -/
inductive OverlappedStatus
  | incomplete
  | transferred (bytes : Nat)
  deriving DecidableEq

/-- `buffsize`. -/
def buffsize : Nat :=
  2048

/-- What belongs to one of the streams.  The last three fields are the history of the
stream: what the process wrote, what each finished read delivered, and what was logged. -/
structure OutputStream where
  /-- `stdout_process` or `stderr_process`. -/
  process : Bool
  /-- `stdout_pending` or `stderr_pending`. -/
  pending : Bool
  /-- `stdout_buff` or `stderr_buff`. -/
  buffer : Octets
  signalled : Bool
  status : OverlappedStatus
  readsInFlight : Nat
  /-- What was written and has not been taken by a read. -/
  pipe : Octets
  written : Octets
  delivered : List Octets
  logged : List Octets
  deriving DecidableEq

namespace OutputStream

def create : OutputStream where
  process := true
  pending := false
  buffer := List.replicate buffsize 0
  signalled := false
  status := .transferred 0
  readsInFlight := 0
  pipe := []
  written := []
  delivered := []
  logged := []

/-- `ReadFile`, which also resets the event. -/
def readFile (stream : OutputStream) : OutputStream :=
  { stream with
    signalled := false
    status := .incomplete
    readsInFlight := stream.readsInFlight + 1 }

/-- The first block of a turn. -/
def issue (stream : OutputStream) : OutputStream :=
  if stream.process = true ∧ stream.pending = false then
    { stream with pending := true, process := false }.readFile
  else
    stream

/-- The text that is logged after a read of so many bytes. -/
def text (stream : OutputStream) (bytes : Nat) : Octets :=
  if bytes < buffsize then stream.buffer.take bytes else stream.buffer

/-- The second block of a turn. -/
def poll (stream : OutputStream) : OutputStream :=
  if stream.pending = true then
    match stream.status with
    | .incomplete => stream
    | .transferred bytes =>
        { stream with pending := false, logged := stream.logged ++ [stream.text bytes] }
  else
    stream

/-- The wait returns with the event of the stream. -/
def awake (stream : OutputStream) : OutputStream :=
  { stream with signalled := false, process := true }

def write (stream : OutputStream) (octets : Octets) : OutputStream :=
  { stream with pipe := stream.pipe ++ octets, written := stream.written ++ octets }

/-- The system finishes a read with so many of the bytes that wait in the pipe. -/
def complete (stream : OutputStream) (bytes : Nat) : OutputStream :=
  { stream with
    buffer := stream.pipe.take bytes ++ stream.buffer.drop bytes
    signalled := true
    status := .transferred bytes
    readsInFlight := stream.readsInFlight - 1
    pipe := stream.pipe.drop bytes
    delivered := stream.delivered ++ [stream.pipe.take bytes] }

/-- What a read can deliver. -/
def Completes (stream : OutputStream) (bytes : Nat) : Prop :=
  0 < stream.readsInFlight ∧ bytes ≤ stream.pipe.length ∧ bytes ≤ stream.buffer.length

instance (stream : OutputStream) (bytes : Nat) : Decidable (stream.Completes bytes) :=
  inferInstanceAs (Decidable (_ ∧ _))

end OutputStream

/-- What `WaitForMultipleObjects` returns. -/
inductive CaptureWait
  | output (stream : Stream)
  | processEnded
  | timeout
  | failed
  deriving DecidableEq

/-- Where the loop is. -/
inductive CapturePoint
  | issue (stream : Stream)
  | poll (stream : Stream)
  | wait
  | returned (result : CaptureWait)
  deriving DecidableEq

def CapturePoint.running : CapturePoint -> Bool
  | .returned _ => false
  | _ => true

/-- The loop, its streams, and whether the process has ended. -/
structure OutputCapture where
  point : CapturePoint
  streams : Stream -> OutputStream
  exited : Bool

inductive CaptureLabel
  /-- The loop takes its next step. -/
  | advance
  | wait (result : CaptureWait)
  | write (stream : Stream) (octets : Octets)
  | complete (stream : Stream) (bytes : Nat)
  | exit
  deriving DecidableEq

namespace OutputCapture

def create : OutputCapture :=
  ⟨.issue .stdout, fun _ => .create, false⟩

/-- Change one of the streams. -/
def modify (capture : OutputCapture) (stream : Stream) (change : OutputStream -> OutputStream) :
    OutputCapture :=
  { capture with
    streams := Function.update capture.streams stream (change (capture.streams stream)) }

def moveTo (capture : OutputCapture) (point : CapturePoint) : OutputCapture :=
  { capture with point := point }

/-- Which results a wait can have.  Of several objects that are signalled it returns the
first one, and the process is the last of them.  The event for the standard input is never
signalled. -/
def Returns (capture : OutputCapture) : CaptureWait -> Prop
  | .output .stdout => (capture.streams .stdout).signalled = true
  | .output .stderr =>
      (capture.streams .stdout).signalled = false ∧ (capture.streams .stderr).signalled = true
  | .processEnded =>
      capture.exited = true ∧ (capture.streams .stdout).signalled = false ∧
        (capture.streams .stderr).signalled = false
  | .timeout => True
  | .failed => True

instance (capture : OutputCapture) : (result : CaptureWait) -> Decidable (capture.Returns result)
  | .output .stdout => inferInstanceAs (Decidable (_ = _))
  | .output .stderr => inferInstanceAs (Decidable (_ ∧ _))
  | .processEnded => inferInstanceAs (Decidable (_ ∧ _))
  | .timeout => inferInstanceAs (Decidable True)
  | .failed => inferInstanceAs (Decidable True)

/-- The `switch` behind the wait, and the condition of the loop. -/
def afterWait (capture : OutputCapture) : CaptureWait -> OutputCapture
  | .output stream => (capture.modify stream .awake).moveTo (.issue .stdout)
  | .timeout => capture.moveTo (.issue .stdout)
  | result => capture.moveTo (.returned result)

/-- The blocks of a turn before the wait. -/
def advance (capture : OutputCapture) : Option OutputCapture :=
  match capture.point with
  | .issue stream => some ((capture.modify stream .issue).moveTo (.poll stream))
  | .poll .stdout => some ((capture.modify .stdout .poll).moveTo (.issue .stderr))
  | .poll .stderr => some ((capture.modify .stderr .poll).moveTo .wait)
  | _ => none

/-- The buffers end with the call, so nothing is observed after it. -/
def step (capture : OutputCapture) : CaptureLabel -> Option OutputCapture
  | .advance => capture.advance
  | .wait result =>
      if capture.point = .wait ∧ capture.Returns result then some (capture.afterWait result)
      else none
  | .write stream octets =>
      if capture.point.running = true ∧ capture.exited = false then
        some (capture.modify stream fun changed => changed.write octets)
      else none
  | .complete stream bytes =>
      if capture.point.running = true ∧ (capture.streams stream).Completes bytes then
        some (capture.modify stream fun changed => changed.complete bytes)
      else none
  | .exit =>
      if capture.point.running = true then some { capture with exited := true } else none

def system : Transition.System OutputCapture CaptureLabel :=
  .ofStep (fun capture => capture = create) step

end OutputCapture

/-! ## One stream -/

namespace OutputStream

variable {stream : OutputStream} {due : Prop}

/-- The finished read that the loop has not logged yet. -/
def unlogged (stream : OutputStream) : List Octets :=
  match stream.pending, stream.status with
  | true, .transferred bytes => [stream.text bytes]
  | _, _ => []

theorem unlogged_of_not_pending (settled : stream.pending = false) : stream.unlogged = [] := by
  simp only [unlogged, settled]

theorem unlogged_of_incomplete (incomplete : stream.status = .incomplete) :
    stream.unlogged = [] := by
  unfold unlogged
  rw [incomplete]
  cases stream.pending <;> rfl

theorem unlogged_of_transferred {bytes : Nat} (awaited : stream.pending = true)
    (status : stream.status = .transferred bytes) : stream.unlogged = [stream.text bytes] := by
  simp only [unlogged, awaited, status]

theorem unlogged_length_le (stream : OutputStream) : stream.unlogged.length ≤ 1 := by
  unfold unlogged
  split
  · exact Nat.le_refl 1
  · exact Nat.zero_le 1

/-- The invariant of a stream.  The loop is due to poll it in this turn, or else the event
tells of every read that has finished since. -/
structure Kept (due : Prop) (stream : OutputStream) : Prop where
  sized : stream.buffer.length = buffsize
  taken : stream.written = stream.delivered.flatten ++ stream.pipe
  once : stream.delivered = stream.logged ++ stream.unlogged
  single : 0 < stream.readsInFlight ->
    stream.readsInFlight = 1 ∧ stream.pending = true ∧ stream.status = .incomplete
  noticed : stream.unlogged ≠ [] -> stream.signalled = true ∨ due

theorem kept_create : Kept due create where
  sized := List.length_replicate
  taken := rfl
  once := rfl
  single := fun reading => absurd reading (by decide)
  noticed := fun waiting => absurd rfl waiting

theorem Kept.weaken {later : Prop} (kept : Kept due stream)
    (still : stream.unlogged ≠ [] -> due -> later) : Kept later stream where
  sized := kept.sized
  taken := kept.taken
  once := kept.once
  single := kept.single
  noticed := fun waiting => (kept.noticed waiting).imp_right (still waiting)

theorem Kept.idle (kept : Kept due stream) (settled : stream.pending = false) :
    stream.readsInFlight = 0 := by
  refine Nat.eq_zero_of_not_pos fun reading => ?_
  have awaited := (kept.single reading).2.1
  rw [settled] at awaited
  cases awaited

theorem Kept.all_logged (kept : Kept due stream) (nothing : stream.unlogged = []) :
    stream.delivered = stream.logged := by
  rw [kept.once, nothing, List.append_nil]

/-- A new read is issued only after the last one has been logged. -/
theorem kept_issue (kept : Kept due stream) : Kept due stream.issue := by
  unfold issue
  split
  · rename_i wanted
    have idle := kept.idle wanted.2
    have logged := kept.all_logged (unlogged_of_not_pending wanted.2)
    have nothing : ({ stream with pending := true, process := false }.readFile).unlogged = [] :=
      unlogged_of_incomplete rfl
    refine ⟨kept.sized, kept.taken, ?_, fun _ => ⟨?_, rfl, rfl⟩, fun waiting => ?_⟩
    · rw [nothing, List.append_nil]
      exact logged
    · exact congrArg Nat.succ idle
    · exact absurd nothing waiting
  · exact kept

/-- Nothing that has finished is left after a poll. -/
theorem unlogged_poll (stream : OutputStream) : stream.poll.unlogged = [] := by
  unfold poll
  split
  · split
    · exact unlogged_of_incomplete ‹_›
    · exact unlogged_of_not_pending rfl
  · exact unlogged_of_not_pending (Bool.eq_false_iff.mpr ‹_›)

theorem kept_poll (kept : Kept due stream) : Kept False stream.poll := by
  have nothing := unlogged_poll stream
  suffices same : Kept due stream.poll from
    same.weaken fun waiting => absurd nothing waiting
  unfold poll
  split
  · rename_i awaited
    split
    · exact kept
    · rename_i bytes status
      have finished : stream.readsInFlight = 0 := by
        refine Nat.eq_zero_of_not_pos fun reading => ?_
        have incomplete := (kept.single reading).2.2
        rw [status] at incomplete
        cases incomplete
      refine ⟨kept.sized, kept.taken, ?_, fun reading => ?_, fun waiting => ?_⟩
      · rw [unlogged_of_not_pending rfl, List.append_nil]
        have once := kept.once
        rw [unlogged_of_transferred awaited status] at once
        exact once
      · exact absurd reading (Nat.not_lt_of_le (Nat.le_of_eq finished))
      · exact absurd (unlogged_of_not_pending rfl) waiting
  · exact kept

theorem kept_awake (kept : Kept due stream) : Kept True stream.awake where
  sized := kept.sized
  taken := kept.taken
  once := kept.once
  single := kept.single
  noticed := fun _ => Or.inr trivial

theorem kept_write (kept : Kept due stream) (octets : Octets) :
    Kept due (stream.write octets) where
  sized := kept.sized
  taken := by
    change stream.written ++ octets = stream.delivered.flatten ++ (stream.pipe ++ octets)
    rw [kept.taken, List.append_assoc]
  once := kept.once
  single := kept.single
  noticed := kept.noticed

/-- The text of a read is what it has taken from the pipe, also when it fills the buffer. -/
theorem text_complete {bytes : Nat} (sized : stream.buffer.length = buffsize)
    (completes : stream.Completes bytes) :
    (stream.complete bytes).text bytes = stream.pipe.take bytes := by
  have stored : (stream.pipe.take bytes).length = bytes :=
    List.length_take_of_le completes.2.1
  change (if bytes < buffsize then
      (stream.pipe.take bytes ++ stream.buffer.drop bytes).take bytes
    else stream.pipe.take bytes ++ stream.buffer.drop bytes) = stream.pipe.take bytes
  split
  · rw [List.take_append_of_le_length (Nat.le_of_eq stored.symm), List.take_of_length_le]
    exact Nat.le_of_eq stored
  · rename_i full
    rw [List.drop_of_length_le, List.append_nil]
    rw [sized]
    exact Nat.le_of_not_lt full

theorem kept_complete {bytes : Nat} (kept : Kept due stream) (completes : stream.Completes bytes) :
    Kept due (stream.complete bytes) := by
  rcases kept.single completes.1 with ⟨one, awaited, incomplete⟩
  have logged := kept.all_logged (unlogged_of_incomplete incomplete)
  have waiting : (stream.complete bytes).unlogged = [stream.pipe.take bytes] := by
    have unread : (stream.complete bytes).unlogged = [(stream.complete bytes).text bytes] :=
      unlogged_of_transferred awaited rfl
    rw [unread, text_complete kept.sized completes]
  refine ⟨?_, ?_, ?_, fun reading => ?_, fun _ => Or.inl rfl⟩
  · change (stream.pipe.take bytes ++ stream.buffer.drop bytes).length = buffsize
    rw [List.length_append, List.length_take_of_le completes.2.1, List.length_drop,
      Nat.add_sub_cancel' completes.2.2, kept.sized]
  · change stream.written =
      (stream.delivered ++ [stream.pipe.take bytes]).flatten ++ stream.pipe.drop bytes
    rw [List.flatten_append, List.flatten_singleton, List.append_assoc, List.take_append_drop,
      kept.taken]
  · rw [waiting]
    exact congrArg (fun chunks => chunks ++ [stream.pipe.take bytes]) logged
  · have none : stream.readsInFlight - 1 = 0 := by rw [one]
    exact absurd reading (Nat.not_lt_of_le (Nat.le_of_eq none))

end OutputStream

/-! ## The loop -/

/-- In this turn the loop is still going to poll the stream. -/
def CapturePoint.Due : CapturePoint -> Stream -> Prop
  | .issue .stdout, _ => True
  | .poll .stdout, _ => True
  | .issue .stderr, stream => stream = .stderr
  | .poll .stderr, stream => stream = .stderr
  | _, _ => False

namespace OutputCapture

open OutputStream (Kept)

variable {capture next : OutputCapture} {label : CaptureLabel}

theorem modify_same (capture : OutputCapture) (stream : Stream)
    (change : OutputStream -> OutputStream) :
    (capture.modify stream change).streams stream = change (capture.streams stream) := by
  simp only [modify, Function.update_self]

theorem modify_other (capture : OutputCapture) {stream other : Stream} (differs : other ≠ stream)
    (change : OutputStream -> OutputStream) :
    (capture.modify stream change).streams other = capture.streams other := by
  simp only [modify, Function.update_of_ne differs]

/-- Every stream is kept, and no read is forgotten when the process has ended. -/
structure Sound (capture : OutputCapture) : Prop where
  kept : forall stream, Kept (capture.point.Due stream) (capture.streams stream)
  ended : capture.point = .returned .processEnded ->
    forall stream, (capture.streams stream).unlogged = []

/-- One stream is changed, and of the others only what is due. -/
theorem kept_modify {point : CapturePoint} {changed : Stream}
    {change : OutputStream -> OutputStream} (sound : capture.Sound)
    (own : Kept (point.Due changed) (change (capture.streams changed)))
    (others : forall stream, stream ≠ changed -> capture.point.Due stream -> point.Due stream) :
    forall stream, Kept (point.Due stream) ((capture.modify changed change).streams stream) := by
  intro stream
  by_cases same : stream = changed
  · subst same
    rw [modify_same]
    exact own
  · rw [modify_other capture same]
    exact (sound.kept stream).weaken fun _ => others stream same

theorem sound_modify {changed : Stream} {change : OutputStream -> OutputStream}
    (sound : capture.Sound) (running : capture.point.running = true)
    (own : Kept (capture.point.Due changed) (change (capture.streams changed))) :
    (capture.modify changed change).Sound where
  kept := kept_modify sound own fun _ _ => id
  ended := fun returned => by
    rw [show capture.point = _ from returned] at running
    cases running

theorem sound_advance (sound : capture.Sound) (taken : capture.advance = some next) :
    next.Sound := by
  rcases capture with ⟨point, streams, exited⟩
  cases point with
  | issue stream =>
      cases taken
      refine ⟨kept_modify sound ?_ fun other _ due => ?_, fun returned => by cases returned⟩
      · exact (OutputStream.kept_issue (sound.kept stream)).weaken fun _ due => by
          cases stream <;> exact due
      · cases stream <;> exact due
  | poll stream =>
      cases stream with
      | stdout =>
          cases taken
          refine ⟨kept_modify sound ?_ fun other differs _ => ?_, fun returned => by
            cases returned⟩
          · exact (OutputStream.kept_poll (sound.kept .stdout)).weaken fun _ => False.elim
          · cases other with
            | stdout => exact absurd rfl differs
            | stderr => rfl
      | stderr =>
          cases taken
          refine ⟨kept_modify sound ?_ fun other differs due => absurd due differs, fun returned =>
            by cases returned⟩
          exact OutputStream.kept_poll (sound.kept .stderr)
  | wait => cases taken
  | returned result => cases taken

theorem sound_moveTo {point : CapturePoint} (sound : capture.Sound)
    (waited : capture.point = .wait)
    (ended : point = .returned .processEnded ->
      forall stream, (capture.streams stream).unlogged = []) : (capture.moveTo point).Sound where
  kept := fun stream => (sound.kept stream).weaken fun _ due => by
    rw [waited] at due
    exact due.elim
  ended := ended

/-- A wait reports the end of the process only when no event is set, and then every
finished read has been logged. -/
theorem sound_afterWait {result : CaptureWait} (sound : capture.Sound)
    (waited : capture.point = .wait) (returns : capture.Returns result) :
    (capture.afterWait result).Sound := by
  cases result with
  | output stream =>
      have awake := OutputStream.kept_awake (sound.kept stream)
      refine ⟨kept_modify sound awake fun other _ _ => trivial, fun returned => by cases returned⟩
  | timeout => exact sound_moveTo sound waited fun returned => by cases returned
  | failed => exact sound_moveTo sound waited fun returned => by cases returned
  | processEnded =>
      refine sound_moveTo sound waited fun _ stream => ?_
      by_contra waiting
      have noticed := (sound.kept stream).noticed waiting
      rw [waited] at noticed
      have signalled := noticed.resolve_right id
      cases stream with
      | stdout => exact Bool.noConfusion (returns.2.1.symm.trans signalled)
      | stderr => exact Bool.noConfusion (returns.2.2.symm.trans signalled)

theorem sound_step (sound : capture.Sound) (taken : capture.step label = some next) :
    next.Sound := by
  cases label with
  | advance => exact sound_advance sound taken
  | wait result =>
      rcases Option.ite_none_right_eq_some.mp taken with ⟨⟨waited, returns⟩, ⟨⟩⟩
      exact sound_afterWait sound waited returns
  | write stream octets =>
      rcases Option.ite_none_right_eq_some.mp taken with ⟨⟨running, _⟩, ⟨⟩⟩
      exact sound_modify sound running (OutputStream.kept_write (sound.kept stream) octets)
  | complete stream bytes =>
      rcases Option.ite_none_right_eq_some.mp taken with ⟨⟨running, completes⟩, ⟨⟩⟩
      exact sound_modify sound running (OutputStream.kept_complete (sound.kept stream) completes)
  | exit =>
      rcases Option.ite_none_right_eq_some.mp taken with ⟨running, ⟨⟩⟩
      refine ⟨sound.kept, fun returned => ?_⟩
      rw [show capture.point = _ from returned] at running
      cases running

theorem sound_reachable (reachable : system.Reachable capture) : capture.Sound := by
  refine reachable.invariant ?_ ?_
  · rintro _ rfl
    exact ⟨fun _ => OutputStream.kept_create, fun returned => by cases returned⟩
  · exact fun state label next sound taken => sound_step sound taken

/-! ## Every read is logged once -/

/-- What holds of a stream between two steps, and what a step does that polls it or issues a
read. -/
structure CapturedOnce (capture : OutputCapture) (stream : Stream) : Prop where
  /-- There is at most one outstanding read. -/
  single : (capture.streams stream).readsInFlight ≤ 1
  /-- The reads deliver what the process writes, in order. -/
  taken : (capture.streams stream).written =
    (capture.streams stream).delivered.flatten ++ (capture.streams stream).pipe
  /-- What was logged are the reads that have finished, except perhaps the last of them. -/
  once : Exists fun waiting => waiting.length ≤ 1 ∧
    (capture.streams stream).delivered = (capture.streams stream).logged ++ waiting
  /-- All of them have been logged when the process has ended. -/
  ended : capture.point = .returned .processEnded ->
    (capture.streams stream).delivered = (capture.streams stream).logged
  /-- All of them have been logged when the loop has polled the stream. -/
  polled : forall next, capture.point = .poll stream -> capture.step .advance = some next ->
    (next.streams stream).delivered = (next.streams stream).logged
  /-- A read gets the buffer only when no other has it, and all that finished are logged. -/
  issued : forall label next, capture.step label = some next ->
    (capture.streams stream).readsInFlight < (next.streams stream).readsInFlight ->
      (capture.streams stream).readsInFlight = 0 ∧
        (capture.streams stream).delivered = (capture.streams stream).logged
  /-- Until a finished read has been logged, the buffer stays as it is. -/
  stable : forall label next, capture.step label = some next ->
    (capture.streams stream).delivered ≠ (capture.streams stream).logged ->
      (next.streams stream).buffer = (capture.streams stream).buffer

/-- What a step can make of a stream. -/
inductive StreamStep (stream : OutputStream) : OutputStream -> Prop
  | same : StreamStep stream stream
  | issue : StreamStep stream stream.issue
  | poll : StreamStep stream stream.poll
  | awake : StreamStep stream stream.awake
  | write (octets : Octets) : StreamStep stream (stream.write octets)
  | complete (bytes : Nat) (completes : stream.Completes bytes) :
      StreamStep stream (stream.complete bytes)

theorem streamStep_modify {changed : Stream} {change : OutputStream -> OutputStream}
    (own : StreamStep (capture.streams changed) (change (capture.streams changed)))
    (stream : Stream) :
    StreamStep (capture.streams stream) ((capture.modify changed change).streams stream) := by
  by_cases same : stream = changed
  · subst same
    rw [modify_same]
    exact own
  · rw [modify_other capture same]
    exact .same

theorem streamStep_of_step (taken : capture.step label = some next) (stream : Stream) :
    StreamStep (capture.streams stream) (next.streams stream) := by
  cases label with
  | advance =>
      rcases capture with ⟨point, streams, exited⟩
      cases point with
      | issue changed =>
          cases taken
          exact streamStep_modify .issue stream
      | poll changed =>
          cases changed <;> cases taken
          · exact streamStep_modify .poll stream
          · exact streamStep_modify .poll stream
      | wait => cases taken
      | returned result => cases taken
  | wait result =>
      rcases Option.ite_none_right_eq_some.mp taken with ⟨_, ⟨⟩⟩
      cases result with
      | output changed => exact streamStep_modify .awake stream
      | timeout => exact .same
      | failed => exact .same
      | processEnded => exact .same
  | write changed octets =>
      rcases Option.ite_none_right_eq_some.mp taken with ⟨_, ⟨⟩⟩
      exact streamStep_modify (.write octets) stream
  | complete changed bytes =>
      rcases Option.ite_none_right_eq_some.mp taken with ⟨⟨_, completes⟩, ⟨⟩⟩
      exact streamStep_modify (.complete bytes completes) stream
  | exit =>
      rcases Option.ite_none_right_eq_some.mp taken with ⟨_, ⟨⟩⟩
      exact .same

theorem issue_readsInFlight {stream : OutputStream}
    (more : stream.readsInFlight < stream.issue.readsInFlight) : stream.pending = false := by
  unfold OutputStream.issue at more
  split at more
  · rename_i wanted
    exact wanted.2
  · exact absurd more (Nat.lt_irrefl _)

theorem poll_readsInFlight (stream : OutputStream) :
    stream.poll.readsInFlight = stream.readsInFlight := by
  unfold OutputStream.poll
  split
  · split <;> rfl
  · rfl

/-- Only `issue` starts a read, and only when none is awaited. -/
theorem settled_of_issued {stream after : OutputStream} (changed : StreamStep stream after)
    (more : stream.readsInFlight < after.readsInFlight) : stream.pending = false := by
  cases changed with
  | same => exact absurd more (Nat.lt_irrefl _)
  | issue => exact issue_readsInFlight more
  | poll =>
      rw [poll_readsInFlight] at more
      exact absurd more (Nat.lt_irrefl _)
  | awake => exact absurd more (Nat.lt_irrefl _)
  | write octets => exact absurd more (Nat.lt_irrefl _)
  | complete bytes completes => exact absurd more (Nat.not_lt_of_le (Nat.sub_le _ 1))

theorem issue_buffer (stream : OutputStream) : stream.issue.buffer = stream.buffer := by
  unfold OutputStream.issue
  split <;> rfl

theorem poll_buffer (stream : OutputStream) : stream.poll.buffer = stream.buffer := by
  unfold OutputStream.poll
  split
  · split <;> rfl
  · rfl

/-- Only a read that was in flight changes the buffer. -/
theorem buffer_of_idle {stream after : OutputStream} (changed : StreamStep stream after)
    (idle : stream.readsInFlight = 0) : after.buffer = stream.buffer := by
  cases changed with
  | same => rfl
  | issue => exact issue_buffer stream
  | poll => exact poll_buffer stream
  | awake => rfl
  | write octets => rfl
  | complete bytes completes => exact absurd completes.1 (Nat.not_lt_of_le (Nat.le_of_eq idle))

theorem idle_of_unlogged {due : Prop} {stream : OutputStream} (kept : Kept due stream)
    (waiting : stream.delivered ≠ stream.logged) : stream.readsInFlight = 0 := by
  refine Nat.eq_zero_of_not_pos fun reading => waiting ?_
  exact kept.all_logged (OutputStream.unlogged_of_incomplete (kept.single reading).2.2)

theorem streams_of_poll {stream : Stream} (polling : capture.point = .poll stream)
    (taken : capture.step .advance = some next) :
    next.streams stream = (capture.streams stream).poll := by
  rcases capture with ⟨point, streams, exited⟩
  cases polling
  cases stream <;> cases taken <;>
    exact modify_same (OutputCapture.mk _ streams exited) _ OutputStream.poll

/-- Whatever the order in which reads finish and waits return, every read is logged once. -/
theorem captured_once (reachable : system.Reachable capture) (stream : Stream) :
    capture.CapturedOnce stream := by
  have sound := sound_reachable reachable
  have kept := sound.kept stream
  refine ⟨?_, kept.taken, ?_, fun ended => ?_, fun next polling taken => ?_,
    fun label next taken more => ?_, fun label next taken waiting => ?_⟩
  · by_contra several
    exact several (Nat.le_of_eq (kept.single (Nat.lt_of_not_le fun none =>
      several (Nat.le_trans none (Nat.zero_le 1)))).1)
  · exact ⟨_, OutputStream.unlogged_length_le _, kept.once⟩
  · exact kept.all_logged (sound.ended ended stream)
  · rw [streams_of_poll polling taken]
    exact (OutputStream.kept_poll kept).all_logged (OutputStream.unlogged_poll _)
  · have settled := settled_of_issued (streamStep_of_step taken stream) more
    exact ⟨kept.idle settled, kept.all_logged (OutputStream.unlogged_of_not_pending settled)⟩
  · exact buffer_of_idle (streamStep_of_step taken stream) (idle_of_unlogged kept waiting)

/-- Two reads, of which the second is issued a turn after the event of the first. -/
def capturedLabels : List CaptureLabel :=
  [.advance, .advance, .advance, .advance, .write .stdout [72, 105], .complete .stdout 2,
    .wait (.output .stdout), .advance, .advance, .advance, .advance, .wait .timeout, .advance,
    .write .stdout [33], .complete .stdout 1, .advance]

theorem captured_taken :
    (Transition.System.execute step create capturedLabels).isSome = true := by
  decide +kernel

def captured : OutputCapture :=
  (Transition.System.execute step create capturedLabels).get captured_taken

theorem captured_reachable : system.Reachable captured := by
  refine .of_execute ?_ captured_taken
  rfl

theorem captured_captured_once :
    captured.CapturedOnce .stdout ∧ (captured.streams .stdout).logged = [[72, 105], [33]] :=
  ⟨captured_once captured_reachable .stdout, by decide +kernel⟩

/-! ## What the process wrote last -/

/-- When the loop returns because the process has ended, all that it wrote has been logged. -/
def Drained (capture : OutputCapture) : Prop :=
  capture.point = .returned .processEnded ->
    forall stream, (capture.streams stream).logged.flatten = (capture.streams stream).written

/-- The wait does not report the end of the process while output waits in a pipe. -/
def NothingWaits (capture : OutputCapture) (label : CaptureLabel) : Prop :=
  label = .wait .processEnded -> forall stream, (capture.streams stream).pipe = []

instance (capture : OutputCapture) (label : CaptureLabel) :
    Decidable (capture.NothingWaits label) :=
  decidable_of_iff
    (label = .wait .processEnded ->
      (capture.streams .stdout).pipe = [] ∧ (capture.streams .stderr).pipe = [])
    ⟨fun nothing ended stream => by
        cases stream with
        | stdout => exact (nothing ended).1
        | stderr => exact (nothing ended).2,
      fun nothing ended => ⟨nothing ended .stdout, nothing ended .stderr⟩⟩

/-- Only that result of a wait ends the loop so, and it leaves the streams alone. -/
theorem waited_of_ended (taken : capture.step label = some next)
    (ended : next.point = .returned .processEnded) :
    label = .wait .processEnded ∧ next.streams = capture.streams := by
  cases label with
  | advance =>
      rcases capture with ⟨point, streams, exited⟩
      cases point with
      | issue changed => cases taken; cases ended
      | poll changed => cases changed <;> cases taken <;> cases ended
      | wait => cases taken
      | returned result => cases taken
  | wait result =>
      rcases Option.ite_none_right_eq_some.mp taken with ⟨_, ⟨⟩⟩
      cases result with
      | output changed => cases ended
      | timeout => cases ended
      | failed => cases ended
      | processEnded => exact ⟨rfl, rfl⟩
  | write changed octets =>
      rcases Option.ite_none_right_eq_some.mp taken with ⟨⟨running, _⟩, ⟨⟩⟩
      rw [show capture.point = _ from ended] at running
      cases running
  | complete changed bytes =>
      rcases Option.ite_none_right_eq_some.mp taken with ⟨⟨running, _⟩, ⟨⟩⟩
      rw [show capture.point = _ from ended] at running
      cases running
  | exit =>
      rcases Option.ite_none_right_eq_some.mp taken with ⟨running, ⟨⟩⟩
      rw [show capture.point = _ from ended] at running
      cases running

/-- What waits in the pipe is what has not been logged, once every finished read has been. -/
theorem logged_iff {due : Prop} {stream : OutputStream} (kept : Kept due stream)
    (nothing : stream.unlogged = []) :
    stream.logged.flatten = stream.written <-> stream.pipe = [] := by
  rw [kept.taken, kept.all_logged nothing]
  exact List.self_eq_append_right

/-- In every run, the step that ends the loop leaves all output logged exactly when nothing
waits in a pipe. -/
theorem drained_step_iff (reachable : system.Reachable capture)
    (taken : capture.step label = some next) :
    next.Drained <-> capture.NothingWaits label := by
  have sound := sound_step (sound_reachable reachable) taken
  constructor
  · rintro drained rfl stream
    rcases Option.ite_none_right_eq_some.mp taken with ⟨_, ⟨⟩⟩
    exact (logged_iff (sound.kept stream) (sound.ended rfl stream)).mp (drained rfl stream)
  · intro nothing ended stream
    rcases waited_of_ended taken ended with ⟨waited, same⟩
    refine (logged_iff (sound.kept stream) (sound.ended ended stream)).mpr ?_
    rw [same]
    exact nothing waited stream

/-- A run of which every wait meets the condition loses no output, and only such a run. -/
theorem drained_iff (capture : OutputCapture) :
    ((system.restrict NothingWaits).Reachable capture -> capture.Drained) ∧
      forall label next, system.Reachable capture -> system.step capture label next ->
        (next.Drained <-> capture.NothingWaits label) := by
  refine ⟨fun reachable => ?_, fun label next => drained_step_iff⟩
  refine reachable.invariant_reachable ?_ ?_
  · rintro _ rfl ended
    cases ended
  · exact fun state label next before _ taken =>
      (drained_step_iff before.of_restrict taken.2).mpr taken.1

/-- The process ends a turn later, when the second read has been logged. -/
def drainedLabels : List CaptureLabel :=
  capturedLabels ++ [.exit, .advance, .advance, .wait (.output .stdout), .advance, .advance,
    .advance, .advance, .wait .processEnded]

theorem drained_taken :
    (Transition.System.execute (Transition.System.guarded NothingWaits step) create
      drainedLabels).isSome = true := by
  decide +kernel

def drained : OutputCapture :=
  (Transition.System.execute (Transition.System.guarded NothingWaits step) create
    drainedLabels).get drained_taken

theorem drained_reachable : (system.restrict NothingWaits).Reachable drained := by
  refine .of_execute_guarded ?_ drained_taken
  rfl

theorem drained_drained :
    drained.point = .returned .processEnded ∧ drained.Drained ∧
      (create.modify .stdout fun stream => stream.write [33]).Drained := by
  refine ⟨by decide +kernel, (drained_iff drained).1 drained_reachable, ?_⟩
  refine ((drained_iff create).2 (.write .stdout [33]) _ (.initially rfl) rfl).mpr ?_
  exact fun ended => by cases ended

/-- A read finishes after the poll, so the next turn only logs it, and the process writes
once more and ends. -/
def lostLabels : List CaptureLabel :=
  [.advance, .advance, .advance, .advance, .write .stderr [97], .complete .stderr 1,
    .wait (.output .stderr), .write .stderr [98], .exit, .advance, .advance, .advance, .advance,
    .wait .processEnded]

theorem lost_taken : (Transition.System.execute step create lostLabels).isSome = true := by
  decide +kernel

def lost : OutputCapture :=
  (Transition.System.execute step create lostLabels).get lost_taken

theorem lost_reachable : system.Reachable lost := by
  refine .of_execute ?_ lost_taken
  rfl

theorem last_output_lost : ¬ forall capture, system.Reachable capture -> capture.Drained := by
  intro drained
  have ended : lost.point = .returned .processEnded := by decide +kernel
  have logged := drained lost lost_reachable ended .stderr
  exact absurd logged (by decide +kernel)

end OutputCapture

end EasyProspect
