import QuerySync.Proofs.Poll.Period
import QuerySync.Proofs.Poll.Timer

/-!
# Which deadlines are met

What is on record of a loop follows from its period, from when it began, and from how long its calls
took (`Polling.History`).  It gets to a deadline as soon as that is there and the call before has
ended.  So a tick starts at its deadline, unless a call was running then: that call made it late, by
half a period at most, and it starts when the call ends (`Polling.Reached`).

A deadline that passes during a call is not always skipped, therefore: one that the call outlasts by
half a period or less starts a tick of its own, in the middle of an interval (`tick_starts_late`).
But nothing is ever queued.  Every deadline that a loop gets to lies after the start of the tick
before, so a call makes one tick late at most.

All of this needs that the clock moves no further than to the next time at which a loop is due, as
it does whenever time goes by.
-/

namespace QuerySync

/-- The deadline that a loop gets to. -/
def LoopMark.deadline? : LoopMark → Option Nat
  | skipped deadline | ticked deadline => some deadline
  | began | finished => none

namespace Polling

/-- What a loop did, newest first, and when. -/
def history (polling : Polling) (arming : Nat) : List (LoopMark × Nat) :=
  (polling.record.filter (·.arming == arming)).map fun entry => (entry.mark, entry.time)

/-- Where a loop is: it waits for a deadline, free since some time, or it has been working since,
with a deadline after that. -/
inductive Progress where
  | waits (since deadline : Nat)
  | works (since deadline : Nat)

/-- The next deadline of a loop. -/
def Progress.deadline : Progress → Nat
  | waits _ deadline | works _ deadline => deadline

/-- What a loop that begins at a time does, newest first, and where that leaves it. -/
inductive History (period : Period) (start : Nat) : List (LoopMark × Nat) → Progress → Prop where
  | begin : History period start [(.began, start)] (.waits start (start + period.length))
  | skip {entries : List (LoopMark × Nat)} {since deadline : Nat}
      (before : History period start entries (.waits since deadline))
      (late : period.isLate (max since deadline) deadline = true) :
      History period start ((.skipped deadline, max since deadline) :: entries)
        (.waits since (period.following (max since deadline) deadline))
  | tick {entries : List (LoopMark × Nat)} {since deadline : Nat}
      (before : History period start entries (.waits since deadline))
      (inTime : period.isLate (max since deadline) deadline = false) :
      History period start ((.ticked deadline, max since deadline) :: entries)
        (.works (max since deadline) (period.following (max since deadline) deadline))
  | finish {entries : List (LoopMark × Nat)} {since deadline time : Nat}
      (before : History period start entries (.works since deadline)) (later : since ≤ time) :
      History period start ((.finished, time) :: entries) (.waits time deadline)

/-- A call began at a time and ended at another. -/
def Call (entries : List (LoopMark × Nat)) (begun ended : Nat) : Prop :=
  ∃ deadline, [(.finished, ended), (.ticked deadline, begun)] <:+: entries

/-- A deadline is a number of strides after the first one, and a loop gets to it when it is there,
or when the call ends that was running then. -/
structure Reached (period : Period) (entries : List (LoopMark × Nat)) (deadline time : Nat) :
    Prop where
  grid : ∃ start, (∀ other, (.began, other) ∈ entries ↔ other = start) ∧
    ∃ strides, deadline = start + period.length + strides * period.stride
  reached : time = deadline ∨ ∃ begun, Call entries begun time ∧ begun < deadline ∧ deadline < time

variable {period : Period} {start since deadline time : Nat} {entries : List (LoopMark × Nat)}
  {progress : Progress}

/-! ## Calls -/

/-- A call that ended stays one, whatever happens after it. -/
theorem Call.cons {begun ended : Nat} (call : Call entries begun ended)
    (entry : LoopMark × Nat) : Call (entry :: entries) begun ended := by
  obtain ⟨deadline, inside⟩ := call
  exact ⟨deadline, inside.trans (List.suffix_cons ..).isInfix⟩

/-- A call is one that ended before, unless the last thing was that it ended. -/
theorem Call.of_cons {begun ended : Nat} {entry : LoopMark × Nat}
    (call : Call (entry :: entries) begun ended) :
    Call entries begun ended ∨
      entry = (.finished, ended) ∧
        ∃ deadline older, entries = (.ticked deadline, begun) :: older := by
  obtain ⟨deadline, inside⟩ := call
  rcases List.infix_cons_iff.1 inside with isPrefix | inside
  · obtain ⟨older, same⟩ := isPrefix
    cases same
    exact .inr ⟨rfl, deadline, older, rfl⟩
  · exact .inl ⟨deadline, inside⟩

namespace History

/-- A loop begins once, at its start. -/
theorem began_iff (history : History period start entries progress) (other : Nat) :
    (.began, other) ∈ entries ↔ other = start := by
  induction history with
  | begin => simp
  | skip _ _ induction | tick _ _ induction | finish _ _ induction => simpa using induction

/-- The next deadline lies a whole number of strides after the first one. -/
theorem grid (history : History period start entries progress) :
    ∃ strides, progress.deadline = start + period.length + strides * period.stride := by
  have follows {since deadline : Nat}
      (grid : ∃ strides, deadline = start + period.length + strides * period.stride) :
      ∃ strides, period.following (max since deadline) deadline =
        start + period.length + strides * period.stride := by
    obtain ⟨strides, same⟩ := grid
    obtain ⟨steps, next⟩ := period.following_eq (Nat.le_max_right since deadline)
    exact ⟨strides + steps, by rw [next, same, Nat.add_mul, Nat.add_assoc]⟩
  induction history with
  | begin => exact ⟨0, by rw [Nat.zero_mul]; rfl⟩
  | skip _ _ induction => exact follows induction
  | tick _ _ induction => exact follows induction
  | finish _ _ induction => exact induction

/-- A loop that works has the deadline after that ahead when it starts. -/
theorem works (history : History period start entries (.works since deadline)) :
    (∃ before older, entries = (.ticked before, since) :: older) ∧ since < deadline := by
  cases history with
  | tick before inTime => exact ⟨⟨_, _, rfl⟩, period.lt_following_of_inTime inTime⟩

/-- A deadline that is there already passed during the call before. -/
theorem overran (history : History period start entries (.waits since deadline))
    (passed : deadline < since) : ∃ begun, Call entries begun since ∧ begun < deadline := by
  generalize isProgress : Progress.waits since deadline = progress at history
  induction history generalizing deadline with
  | begin =>
    cases isProgress
    omega
  | @skip entries since deadline before late induction =>
    cases isProgress
    have later := period.lt_following (max since deadline) deadline
    obtain ⟨begun, call, running⟩ := induction (Nat.lt_trans later passed) rfl
    exact ⟨begun, call.cons _, Nat.lt_trans running later⟩
  | tick => cases isProgress
  | finish before later =>
    cases isProgress
    obtain ⟨⟨earlier, older, rfl⟩, ahead⟩ := before.works
    exact ⟨_, ⟨earlier, (List.prefix_append [_, _] older).isInfix⟩, ahead⟩

/-- A loop that waits gets to its deadline when it is there, or when the call ends that made it
late. -/
theorem reached (history : History period start entries (.waits since deadline)) :
    Reached period entries deadline (max since deadline) := by
  refine ⟨⟨start, history.began_iff, history.grid⟩, ?_⟩
  rcases Nat.lt_or_ge deadline since with passed | ahead
  · rw [Nat.max_eq_left (Nat.le_of_lt passed)]
    obtain ⟨begun, call, running⟩ := history.overran passed
    exact .inr ⟨begun, call, running, passed⟩
  · exact .inl (Nat.max_eq_right ahead)

/-- What holds of the start of a tick and the deadline after it, and of that start and all deadlines
later on, holds of the start of every tick and the next deadline. -/
theorem forall_tick (Ahead : Nat → Nat → Prop)
    (later : ∀ {time deadline next}, Ahead time deadline → deadline < next → Ahead time next)
    (starts : ∀ {since deadline}, period.isLate (max since deadline) deadline = false →
      Ahead (max since deadline) (period.following (max since deadline) deadline))
    (history : History period start entries progress) :
    ∀ entry ∈ entries, entry.1.isTick = true → Ahead entry.2 progress.deadline := by
  induction history with
  | begin =>
    intro entry member ticks
    cases List.mem_singleton.1 member
    cases ticks
  | @skip entries since deadline before late induction =>
    intro entry member ticks
    rcases List.mem_cons.1 member with rfl | member
    · cases ticks
    · exact later (induction entry member ticks) (period.lt_following ..)
  | @tick entries since deadline before inTime induction =>
    intro entry member ticks
    rcases List.mem_cons.1 member with rfl | member
    · exact starts inTime
    · exact later (induction entry member ticks) (period.lt_following ..)
  | finish before later induction =>
    intro entry member ticks
    rcases List.mem_cons.1 member with rfl | member
    · cases ticks
    · exact induction entry member ticks

/-- The next deadline lies after the start of every tick before. -/
theorem ahead (history : History period start entries progress) :
    ∀ entry ∈ entries, entry.1.isTick = true → entry.2 < progress.deadline :=
  history.forall_tick (· < ·) Nat.lt_trans period.lt_following_of_inTime

/-- Deadlines come one after the other. -/
theorem deadline_lt (history : History period start entries progress) :
    ∀ entry ∈ entries, ∀ deadline ∈ entry.1.deadline?, deadline < progress.deadline := by
  induction history with
  | begin => exact List.forall_mem_singleton.2 nofun
  | skip _ _ induction | tick _ _ induction =>
    refine List.forall_mem_cons.2 ⟨?_, fun entry member deadline isDeadline => ?_⟩
    · rintro _ ⟨⟩
      exact period.lt_following ..
    · exact Nat.lt_trans (induction entry member deadline isDeadline) (period.lt_following ..)
  | finish _ _ induction => exact List.forall_mem_cons.2 ⟨nofun, induction⟩

/-- While a loop works no deadline after the start of that was got to. -/
theorem deadline_le (history : History period start entries (.works since deadline)) :
    ∀ entry ∈ entries, ∀ earlier ∈ entry.1.deadline?, earlier ≤ since := by
  cases history with
  | @tick entries free deadline before =>
    have due := Nat.le_max_right free deadline
    refine List.forall_mem_cons.2 ⟨?_, fun entry member earlier isDeadline => ?_⟩
    · rintro _ ⟨⟩
      exact due
    · exact Nat.le_trans (Nat.le_of_lt (before.deadline_lt entry member earlier isDeadline)) due

/-- Every call ended before the next deadline, but for one that ended just now. -/
theorem ended_lt (history : History period start entries progress) {begun ended : Nat}
    (call : Call entries begun ended) :
    ended < progress.deadline ∨ ∃ deadline, progress = .waits ended deadline := by
  induction history with
  | begin =>
    obtain ⟨deadline, inside⟩ := call
    have short := inside.length_le
    simp at short
  | @skip entries since deadline before late induction =>
    rcases call.of_cons with call | ⟨different, -⟩
    · rcases induction call with earlier | ⟨_, same⟩
      · exact .inl (Nat.lt_trans earlier (period.lt_following ..))
      · cases same
        exact .inr ⟨_, rfl⟩
    · cases different
  | @tick entries since deadline before inTime induction =>
    rcases call.of_cons with call | ⟨different, -⟩
    · have ahead := period.lt_following_of_inTime inTime
      rcases induction call with earlier | ⟨_, same⟩
      · exact .inl (Nat.lt_trans earlier (period.lt_following ..))
      · cases same
        exact .inl (Nat.lt_of_le_of_lt (Nat.le_max_left ..) ahead)
    · cases different
  | finish before later induction =>
    rcases call.of_cons with call | ⟨same, -⟩
    · rcases induction call with earlier | ⟨_, same⟩
      · exact .inl earlier
      · cases same
    · cases same
      exact .inr ⟨_, rfl⟩

/-- A deadline that passes during a call is got to when the call ends. -/
theorem eq_max_of_call (history : History period start entries (.waits since deadline))
    {begun ended : Nat} (call : Call entries begun ended) (running : deadline < ended) :
    max since deadline = ended := by
  rcases history.ended_lt call with earlier | ⟨_, same⟩
  · exact absurd running (Nat.lt_asymm earlier)
  · cases same
    exact Nat.max_eq_left (Nat.le_of_lt running)

end History

/-! ## The law of deadlines -/

/-- A tick starts at its deadline, or late by half a period at most when the call ends that was
running then, and no other deadline waits behind it. -/
structure Coalesced (period : Period) (entries : List (LoopMark × Nat)) : Prop where
  reached : ∀ entry ∈ entries, ∀ deadline ∈ entry.1.deadline?,
    Reached period entries deadline entry.2
  /-- A deadline is met or skipped by how late it is. -/
  met : ∀ entry ∈ entries, ∀ deadline ∈ entry.1.deadline?,
    (entry.1.isTick = true ↔ 2 * (entry.2 - deadline) ≤ period.length)
  /-- Every deadline lies after the start of the tick before. -/
  unqueued : entries.Pairwise fun newer older =>
    older.1.isTick = true → ∀ deadline ∈ newer.1.deadline?, older.2 < deadline
  /-- A deadline that passes during a call is got to when the call ends. -/
  during : ∀ begun ended, Call entries begun ended → ∀ entry ∈ entries,
    ∀ deadline ∈ entry.1.deadline?, begun < deadline → deadline < ended → entry.2 = ended

/-- Nothing that happens later moves the time at which a loop got to a deadline, unless it is a
second start. -/
theorem Reached.cons (reached : Reached period entries deadline time) {entry : LoopMark × Nat}
    (begun : entry.1 ≠ .began) : Reached period (entry :: entries) deadline time := by
  obtain ⟨⟨start, began, grid⟩, cause⟩ := reached
  refine ⟨⟨start, fun other => ?_, grid⟩, cause.imp_right ?_⟩
  · rw [← began other, List.mem_cons]
    refine or_iff_right ?_
    rintro rfl
    exact begun rfl
  · rintro ⟨begun, call, running⟩
    exact ⟨begun, call.cons entry, running⟩

/-- A deadline that a loop gets to after it waited for it. -/
theorem Coalesced.reach (coalesced : Coalesced period entries)
    (history : History period start entries (.waits since deadline)) {mark : LoopMark}
    (isDeadline : mark.deadline? = some deadline)
    (met : mark.isTick = true ↔ 2 * (max since deadline - deadline) ≤ period.length) :
    Coalesced period ((mark, max since deadline) :: entries) := by
  have only {motive : Nat → Prop} (holds : motive deadline) :
      ∀ other ∈ mark.deadline?, motive other := by
    intro other isOther
    cases isDeadline.symm.trans isOther
    exact holds
  have begun : mark ≠ .began := by
    rintro rfl
    cases isDeadline
  have ended {begun ended : Nat} (call : Call ((mark, max since deadline) :: entries) begun ended) :
      Call entries begun ended := by
    rcases call.of_cons with call | ⟨same, -⟩
    · exact call
    · cases same
      cases isDeadline
  refine ⟨?_, ?_, List.pairwise_cons.2 ⟨fun older member ticks => ?_, coalesced.unqueued⟩, ?_⟩
  · refine List.forall_mem_cons.2 ⟨only (history.reached.cons begun), ?_⟩
    intro other member deadline isOther
    exact (coalesced.reached other member deadline isOther).cons begun
  · exact List.forall_mem_cons.2 ⟨only met, coalesced.met⟩
  · exact only (history.ahead older member ticks)
  · intro begun finished call
    refine List.forall_mem_cons.2 ⟨only fun _ running => ?_, ?_⟩
    · exact history.eq_max_of_call (ended call) running
    · exact coalesced.during begun finished (ended call)

/-- The end of a call breaks no law: no deadline was got to while the call was running. -/
theorem Coalesced.finish (coalesced : Coalesced period entries)
    (history : History period start entries (.works since deadline)) (time : Nat) :
    Coalesced period ((.finished, time) :: entries) := by
  refine ⟨?_, ?_, List.pairwise_cons.2 ⟨fun _ _ _ => nofun, coalesced.unqueued⟩, ?_⟩
  · refine List.forall_mem_cons.2 ⟨nofun, fun other member deadline isDeadline => ?_⟩
    exact (coalesced.reached other member deadline isDeadline).cons nofun
  · exact List.forall_mem_cons.2 ⟨nofun, coalesced.met⟩
  · intro begun ended call
    refine List.forall_mem_cons.2 ⟨nofun, fun other member deadline isDeadline ahead running => ?_⟩
    rcases call.of_cons with call | ⟨-, earlier, older, same⟩
    · exact coalesced.during begun ended call other member deadline isDeadline ahead running
    · -- the loop got to nothing while the call was running
      obtain ⟨⟨_, _, alsoSame⟩, -⟩ := history.works
      cases same.symm.trans alsoSame
      have early := history.deadline_le other member deadline isDeadline
      omega

/-- Every history obeys the law of deadlines, by induction over what the loop did. -/
theorem History.coalesced (history : History period start entries progress) :
    Coalesced period entries := by
  induction history with
  | begin =>
    refine ⟨?_, ?_, List.pairwise_singleton .., fun _ _ _ => ?_⟩
    · exact List.forall_mem_singleton.2 nofun
    · exact List.forall_mem_singleton.2 nofun
    · exact List.forall_mem_singleton.2 nofun
  | skip before late coalesced =>
    refine coalesced.reach before rfl (iff_of_false Bool.false_ne_true ?_)
    exact Nat.not_le_of_lt (by simpa [Period.isLate] using late)
  | tick before inTime coalesced =>
    exact coalesced.reach before rfl (iff_of_true rfl (by simpa [Period.isLate] using inTime))
  | finish before later coalesced => exact coalesced.finish before _

/-- Whether a tick is for a deadline between two times. -/
def isTickBetween (begun ended : Nat) (entry : LoopMark × Nat) : Bool :=
  entry.1.isTick && entry.1.deadline?.any fun deadline => begun < deadline && deadline < ended

theorem isTickBetween_iff {begun ended : Nat} {entry : LoopMark × Nat} :
    isTickBetween begun ended entry = true ↔ entry.1.isTick = true ∧
      ∃ deadline ∈ entry.1.deadline?, begun < deadline ∧ deadline < ended := by
  simp [isTickBetween, Option.any_eq_true]

/-- A call makes one tick late at most. -/
theorem Coalesced.late_le_one (coalesced : Coalesced period entries) {begun ended : Nat}
    (call : Call entries begun ended) : entries.countP (isTickBetween begun ended) ≤ 1 := by
  rw [List.countP_eq_length_filter]
  have alone : (entries.filter (isTickBetween begun ended)).Pairwise fun _ _ => False := by
    refine List.pairwise_filter.2 (coalesced.unqueued.imp_of_mem ?_)
    intro newer older _ member unqueued isNewer isOlder
    obtain ⟨ticks, earlier, isEarlier, ahead, running⟩ := isTickBetween_iff.1 isOlder
    obtain ⟨-, deadline, isDeadline, -, before⟩ := isTickBetween_iff.1 isNewer
    -- the older one started when the call ended, and the deadline of the newer one lies after that
    have time := coalesced.during begun ended call older member earlier isEarlier ahead running
    have after := unqueued ticks deadline isDeadline
    omega
  match entries.filter (isTickBetween begun ended), alone with
  | [], _ => exact Nat.zero_le 1
  | [_], _ => exact Nat.le_refl 1
  | first :: second :: _, alone =>
    exact ((List.pairwise_cons.1 alone).1 second List.mem_cons_self).elim

/-- Every tick starts at its deadline. -/
def Exact (entries : List (LoopMark × Nat)) : Prop :=
  ∀ entry ∈ entries, entry.1.isTick = true → ∀ deadline ∈ entry.1.deadline?, entry.2 = deadline

/-- Ticks are late only for calls that outlast a deadline by half a period or less. -/
theorem Coalesced.exact_iff (coalesced : Coalesced period entries) :
    Exact entries ↔ ∀ begun ended, Call entries begun ended → ∀ entry ∈ entries,
      ∀ deadline ∈ entry.1.deadline?, begun < deadline → deadline < ended →
      period.length < 2 * (ended - deadline) := by
  constructor
  · intro exactly begun ended call entry member deadline isDeadline ahead running
    have time := coalesced.during begun ended call entry member deadline isDeadline ahead running
    refine Nat.lt_of_not_le fun short => ?_
    have ticks := (coalesced.met entry member deadline isDeadline).2 (time ▸ short)
    have onTime := exactly entry member ticks deadline isDeadline
    omega
  · intro outlast entry member ticks deadline isDeadline
    rcases (coalesced.reached entry member deadline isDeadline).reached with
      onTime | ⟨begun, call, ahead, running⟩
    · exact onTime
    · have long := outlast begun entry.2 call entry member deadline isDeadline ahead running
      have short := (coalesced.met entry member deadline isDeadline).1 ticks
      omega

/-! ## What is on record -/

variable {now : Nat} {polling after : Polling} {loop : Task} {stage : Loop.Stage Work}
  {tasks others older newer loops : List Task}

/-- The record of a loop tells its history. -/
inductive Tells (now : Nat) (polling : Polling) (loop : Task) : Prop where
  | unstarted (stage : loop.stage = .unstarted) (silent : polling.history loop.arming = [])
  | waiting {start since deadline : Nat} (stage : loop.stage = .waiting deadline)
      (history : History loop.period start (polling.history loop.arming) (.waits since deadline))
      (past : since ≤ now)
      (prompt : polling.goesOn loop.arming = true → now ≤ max since deadline)
  | working {start since deadline : Nat} {work : Work} (stage : loop.stage = .working deadline work)
      (history : History loop.period start (polling.history loop.arming) (.works since deadline))
      (past : since ≤ now)
  | ended {start : Nat} {progress : Progress} (stage : loop.stage = .ended)
      (history : History loop.period start (polling.history loop.arming) progress)

/-- So the record of a loop obeys the law of deadlines. -/
theorem Tells.coalesced (tells : Tells now polling loop) :
    Coalesced loop.period (polling.history loop.arming) := by
  cases tells with
  | unstarted stage silent =>
    rw [silent]
    exact ⟨nofun, nofun, .nil, fun _ _ _ => nofun⟩
  | waiting stage history => exact history.coalesced
  | working stage history => exact history.coalesced
  | ended stage history => exact history.coalesced

/-- Nobody tells anything else as long as his record stays, and he does not go on again. -/
theorem Tells.of_history (tells : Tells now polling loop)
    (same : after.history loop.arming = polling.history loop.arming)
    (goesOn : after.goesOn loop.arming = true → polling.goesOn loop.arming = true) :
    Tells now after loop := by
  cases tells with
  | unstarted stage silent => exact .unstarted stage (same.trans silent)
  | waiting stage history past prompt =>
    exact .waiting stage (same ▸ history) past (prompt ∘ goesOn)
  | working stage history past => exact .working stage (same ▸ history) past
  | ended stage history => exact .ended stage (same ▸ history)

/-- What a loop does comes first in its history. -/
theorem history_note (polling : Polling) (now : Nat) (loop : Task) (mark : LoopMark) :
    (polling.note now loop mark).history loop.arming =
      (mark, now) :: polling.history loop.arming := by
  unfold history note
  rw [List.filter_cons_of_pos (by simp), List.map_cons]

/-- What a loop does leaves the histories of other loops as they are. -/
theorem history_note_of_ne (polling : Polling) (now : Nat) (mark : LoopMark) {arming : Nat}
    (different : loop.arming ≠ arming) :
    (polling.note now loop mark).history arming = polling.history arming := by
  unfold history note
  rw [List.filter_cons_of_neg (by simpa using different)]

/-- A turn puts nothing on record for another loop. -/
theorem Turn.history_of_ne (turn : Turn now polling loop stage after) {arming : Nat}
    (different : loop.arming ≠ arming) : after.history arming = polling.history arming := by
  cases turn with
  | begin | skip | tick | finish => exact history_note_of_ne _ now _ different
  | work | leave => rfl

/-- The history of a loop that waits says since when it does, and that it let no time pass at its
deadline. -/
theorem Tells.waits (tells : Tells now polling loop) (waits : loop.stage = .waiting deadline) :
    ∃ start since,
      History loop.period start (polling.history loop.arming) (.waits since deadline) ∧
      since ≤ now ∧ (polling.goesOn loop.arming = true → now ≤ max since deadline) := by
  cases tells with
  | waiting stage history past prompt =>
    cases waits.symm.trans stage
    exact ⟨_, _, history, past, prompt⟩
  | unstarted stage | working stage | ended stage => cases waits.symm.trans stage

/-- The history of a loop that works says since when it does. -/
theorem Tells.works (tells : Tells now polling loop) {work : Work}
    (works : loop.stage = .working deadline work) :
    ∃ start since,
      History loop.period start (polling.history loop.arming) (.works since deadline) ∧
      since ≤ now := by
  cases tells with
  | working stage history past =>
    cases works.symm.trans stage
    exact ⟨_, _, history, past⟩
  | unstarted stage | waiting stage | ended stage => cases works.symm.trans stage

/-- A loop that gets to a deadline does so as soon as it can. -/
theorem Tells.meets (tells : Tells now polling loop) (waits : loop.stage = .waiting deadline)
    (goesOn : polling.goesOn loop.arming = true) (due : deadline ≤ now) :
    ∃ start since,
      History loop.period start (polling.history loop.arming) (.waits since deadline) ∧
      since ≤ now ∧ max since deadline = now := by
  obtain ⟨start, since, history, past, prompt⟩ := tells.waits waits
  exact ⟨start, since, history, past, Nat.le_antisymm (Nat.max_le.2 ⟨past, due⟩) (prompt goesOn)⟩

/-- A turn puts nothing on record but for the loop that has it. -/
theorem Turn.mem_record (turn : Turn now polling loop stage after) {entry : LoopEntry}
    (member : entry ∈ after.record) : entry ∈ polling.record ∨ entry.arming = loop.arming := by
  cases turn with
  | begin | skip | tick | finish =>
    rcases List.mem_cons.1 member with rfl | member
    · exact .inr rfl
    · exact .inl member
  | work | leave => exact .inl member

/-- A turn of a loop is the next step of its history. -/
theorem Tells.turn (tells : Tells now polling loop) (turn : Turn now polling loop stage after) :
    Tells now after { loop with stage } := by
  cases turn with
  | begin unstarted =>
    have begins : History loop.period now ((polling.note now loop .began).history loop.arming)
        (.waits now (now + loop.period.length)) := by
      cases tells with
      | unstarted _ silent =>
        rw [history_note, silent]
        exact .begin
      | waiting stage | working stage | ended stage => cases unstarted.symm.trans stage
    exact .waiting rfl begins (Nat.le_refl now) fun _ => Nat.le_max_left ..
  | @skip deadline waits goesOn due late =>
    obtain ⟨start, since, history, past, same⟩ := tells.meets waits goesOn due
    have skips := history.skip (same ▸ late)
    rw [same, ← history_note] at skips
    refine .waiting rfl skips past fun _ => ?_
    have long : loop.period.length < 2 * (now - deadline) := by simpa [Period.isLate] using late
    have freed : now ≤ since := by omega
    exact Nat.le_trans freed (Nat.le_max_left ..)
  | @tick deadline waits goesOn due inTime =>
    obtain ⟨start, since, history, past, same⟩ := tells.meets waits goesOn due
    have ticks := history.tick (same ▸ inTime)
    rw [same, ← history_note] at ticks
    exact .working rfl ticks (Nat.le_refl now)
  | work works =>
    obtain ⟨start, since, history, past⟩ := tells.works works
    exact .working rfl history past
  | finish done =>
    obtain ⟨start, since, history, past⟩ := tells.works done
    have finishes := history.finish past
    rw [← history_note] at finishes
    exact .waiting rfl finishes (Nat.le_refl now) fun _ => Nat.le_max_left ..
  | leave suspended =>
    cases tells with
    | unstarted stage | ended stage => simp [Task.isSuspended, stage] at suspended
    | waiting _ history => exact .ended rfl history
    | working _ history => exact .ended rfl history

/-! ## What is reached -/

/-- The record tells the history of every loop, and of no other. -/
structure Chronicled (now : Nat) (polling : Polling) (tasks : List Task) : Prop where
  owned : polling.Owned tasks
  known : ∀ entry ∈ polling.record, entry.arming ≤ polling.scheduler.arms
  tells : ∀ loop ∈ tasks, Tells now polling loop

namespace Chronicled

/-- Of a turn only the loop that has it needs another history. -/
theorem turn (chronicled : polling.Chronicled now (older ++ loop :: newer))
    (turn : Turn now polling loop stage after) :
    after.Chronicled now (older ++ { loop with stage } :: newer) := by
  obtain ⟨owned, known, tells⟩ := chronicled
  have isThere : loop ∈ older ++ loop :: newer := List.mem_append_cons_self
  obtain ⟨arms, armed, -⟩ := turn.scheduler
  refine ⟨owned.turn turn, fun entry member => ?_, fun other member => ?_⟩
  · rw [arms]
    rcases turn.mem_record member with before | same
    · exact known entry before
    · rw [same]
      exact owned.arming_le isThere
  · rcases mem_turn member with rfl | ⟨before, isOther⟩
    · exact (tells loop isThere).turn turn
    · refine (tells other before).of_history ?_ fun goesOn => ?_
      · exact turn.history_of_ne (owned.ne_of_mem isOther)
      · rwa [goesOn_eq armed] at goesOn

/-- A loop that is new has done nothing, and its number is on record nowhere. -/
theorem switch (chronicled : polling.Chronicled now tasks)
    (switches : polling.Switches after loops) : after.Chronicled now (tasks ++ loops) := by
  obtain ⟨owned, known, tells⟩ := chronicled
  have later := switches.scheduler.later
  have history (arming : Nat) : after.history arming = polling.history arming := by
    rw [Polling.history, switches.record, Polling.history]
  refine ⟨owned.switch switches, fun entry member => ?_, fun loop member => ?_⟩
  · rw [switches.record] at member
    exact Nat.le_trans (known entry member) later.arms
  · rcases List.mem_append.1 member with old | new
    · refine (tells loop old).of_history (history _) fun goesOn => ?_
      refine Bool.of_not_eq_false fun isOver => ?_
      have staysOver := later.isOver (owned.arming_le old) (goesOn_eq_false_iff.1 isOver)
      rw [goesOn_eq_false_iff.2 staysOver] at goesOn
      cases goesOn
    · cases switches.scheduler with
      | keep | off => exact absurd new List.not_mem_nil
      | on period callback arms =>
        cases List.mem_singleton.1 new
        refine .unstarted rfl ?_
        -- nothing is on record yet of a number that was not given out
        have silent : polling.record.filter (·.arming == polling.scheduler.arms + 1) = [] := by
          refine List.filter_eq_nil_iff.2 fun entry isEntry => ?_
          have given := known entry isEntry
          rw [beq_iff_eq]
          omega
        rw [history, Polling.history, silent]
        rfl

theorem change (chronicled : polling.Chronicled now tasks)
    (change : Change now polling tasks after others) : after.Chronicled now others := by
  cases change with
  | turn turn => exact chronicled.turn turn
  | switch switches => exact chronicled.switch switches

end Chronicled

variable {bench last : Bench}

/-- A loop that goes on and waits while nobody can go on has its deadline ahead. -/
theorem Prompt.lt_deadline (prompt : Prompt bench) (settled : bench.ready = [])
    (member : loop ∈ bench.tasks) (waits : loop.stage = .waiting deadline) :
    bench.now < deadline := by
  have unable : canRun bench.now bench.state loop = false :=
    prompt.alert.canRun_eq_false settled member
  simp only [canRun, waits, Bool.or_eq_false_iff, decide_eq_false_iff_not] at unable
  exact Nat.lt_of_not_le unable.2

/-- The clock may go on up to the next deadline. -/
theorem Tells.clock (tells : Tells bench.now bench.state loop) (prompt : Prompt bench)
    (member : loop ∈ bench.tasks) {time : Nat} (punctual : bench.Punctual program time) :
    Tells time bench.state loop := by
  cases tells with
  | unstarted stage silent => exact .unstarted stage silent
  | @waiting _ since deadline stage history past =>
    refine .waiting stage history (Nat.le_trans past punctual.forward) fun _ => ?_
    have isDue : deadline ∈ program.due? loop := by
      show Polling.due? loop = some deadline
      simp only [Polling.due?, stage]
    have early := punctual.due loop member deadline isDue
      (prompt.lt_deadline punctual.settled member stage)
    exact Nat.le_trans early (Nat.le_max_right ..)
  | working stage history past =>
    exact .working stage history (Nat.le_trans past punctual.forward)
  | ended stage history => exact .ended stage history

/-- The record goes on to tell every history as long as the clock stops at deadlines. -/
theorem Chronicled.step (chronicled : bench.state.Chronicled bench.now bench.tasks)
    (prompt : Prompt bench) (timely : Timely bench last) :
    last.state.Chronicled last.now last.tasks := by
  obtain ⟨step, time⟩ := timely
  rcases step.changes with ⟨now, changes⟩ | ⟨-, -, state, tasks⟩
  · rw [← now]
    exact changes.keeps Chronicled.change chronicled
  · rw [state, tasks]
    rcases time with same | punctual
    · rw [same]
      exact chronicled
    · exact ⟨chronicled.owned, chronicled.known, fun loop member =>
        (chronicled.tells loop member).clock prompt member punctual⟩

/-- What can become of a timer that is not set to anything, if the clock does not move past the time
at which a loop is due. -/
def TimelyReachable (bench : Bench) : Prop := Relation.ReflTransGen Timely { state := {} } bench

/-- Wherever a timer is, its record tells the history of each of its loops. -/
theorem TimelyReachable.chronicled (reachable : TimelyReachable bench) :
    Prompt bench ∧ bench.state.Chronicled bench.now bench.tasks := by
  induction reachable with
  | refl =>
    have held : Held { state := {} } := Reachable.held .refl
    exact ⟨held.prompt, held.owned, nofun, nofun⟩
  | tail _ timely both => exact ⟨both.1.step timely.1, both.2.step both.1 timely⟩

/-- Actions move the clock from deadline to deadline, so they lead to such moments only. -/
theorem TimelyReachable.foldl (reachable : TimelyReachable bench) (actions : List Action) :
    TimelyReachable (actions.foldl perform bench) := by
  induction actions generalizing bench with
  | nil => exact reachable
  | cons action actions induction =>
    exact induction (reachable.trans (timely_perform reachable.chronicled.1 action))

/-- Whatever is done to a timer, each of its ticks starts at its deadline, or at the end of the call
that was running then and outlasted it by half a period at most.  A call makes one tick late at
most, and all deadlines before the start of a tick are done with.  So every tick starts at its
deadline exactly if every call outlasts by more than half a period the deadlines that it lets
pass. -/
theorem deadlines_coalesce (reachable : TimelyReachable bench) (member : loop ∈ bench.tasks) :
    let entries := bench.state.history loop.arming
    Coalesced loop.period entries ∧
      (∀ begun ended, Call entries begun ended → entries.countP (isTickBetween begun ended) ≤ 1) ∧
      (Exact entries ↔ ∀ begun ended, Call entries begun ended → ∀ entry ∈ entries,
        ∀ deadline ∈ entry.1.deadline?, begun < deadline → deadline < ended →
        loop.period.length < 2 * (ended - deadline)) := by
  intro entries
  have coalesced : Coalesced loop.period entries :=
    (reachable.chronicled.2.tells loop member).coalesced
  exact ⟨coalesced, fun _ _ => coalesced.late_le_one, coalesced.exact_iff⟩

/-- The first call outlasts the second deadline by a fifth of a period, and the second tick starts
late.  The second call is short, and the third tick starts at its deadline. -/
theorem deadlines_coalesce_overrunning :
    let actions : List Action := [.start 1000 [[.wait 1200], [.wait 100]], .advance 3500]
    let bench := actions.foldl perform { state := {} }
    ∃ loop, TimelyReachable bench ∧ loop ∈ bench.tasks ∧
      Coalesced loop.period (bench.state.history loop.arming) ∧
      bench.state.history loop.arming =
        [(.finished, 3100), (.ticked 3000, 3000), (.finished, 2300), (.ticked 2000, 2200),
          (.finished, 2200), (.ticked 1000, 1000), (.began, 0)] := by
  intro actions bench
  have reachable : TimelyReachable bench := TimelyReachable.foldl .refl actions
  have armings : bench.tasks.map (·.arming) = [1] := by decide
  obtain ⟨loop, single, arming⟩ := List.map_eq_singleton_iff.1 armings
  have member : loop ∈ bench.tasks := single ▸ List.mem_singleton_self loop
  refine ⟨loop, reachable, member, (deadlines_coalesce reachable member).1, ?_⟩
  rw [arming]
  decide

/-- A deadline that passes during a call may start a tick of its own: it does so at the end of the
call, which is no deadline. -/
theorem tick_starts_late :
    let actions : List Action := [.start 1000 [[.wait 1200], [.wait 100]], .advance 3500]
    let entries := (actions.foldl perform { state := {} }).state.history 1
    (.began, 0) ∈ entries ∧ Call entries 1000 2200 ∧ (.ticked 2000, 2200) ∈ entries ∧
      ∀ strides, 2200 ≠ 0 + 1000 + strides * 1000 := by
  intro actions entries
  have same : entries = [(.finished, 3100), (.ticked 3000, 3000), (.finished, 2300),
      (.ticked 2000, 2200), (.finished, 2200), (.ticked 1000, 1000), (.began, 0)] := by decide
  rw [same]
  refine ⟨by decide, ⟨1000, ?_⟩, by decide, fun strides => by omega⟩
  exact ⟨[(.finished, 3100), (.ticked 3000, 3000), (.finished, 2300), (.ticked 2000, 2200)],
    [(.began, 0)], rfl⟩

end Polling

end QuerySync
