import QuerySync.Proofs.Poll.Deadlines

/-!
# The pace of a timer

A timer may be late, but it never hurries to make up for it.  Each tick and each skip takes a
deadline of its own, so there are no more of them than periods have passed, and a tick is late by
half a period at most, so half a period lies between two of them (`Polling.Paced`).

If every call is over within a period, no tick is late and none is left out: there is one at each
deadline (`Polling.ticks_paced`).

The laws follow from the history of a loop, by induction on what it did.  What carries them is where
its next deadline is: a period after the last one at least (`History.pulses_le`), and half a period
after the start of every tick (`History.half_le`).

They are about a timer that goes from one deadline to the next one on the grid of its period, or to
the first on that grid that lies ahead (`Period.Regular`).  A timer does so unless its period has
more than thirty years (`Period.regular_iff`).
-/

namespace QuerySync.Polling

/-- The deadlines that a loop got to, newest first. -/
def deadlines (entries : List (LoopMark × Nat)) : List Nat := entries.filterMap (·.1.deadline?)

/-- The ticks and the skips of a loop, newest first. -/
def pulses (entries : List (LoopMark × Nat)) : List (LoopMark × Nat) :=
  entries.filter (·.1.deadline?.isSome)

/-- The ticks of a loop that begins at a time and is never late, newest first. -/
def ticksOnTime (period : Period) (start : Nat) : Nat → List (LoopMark × Nat)
  | 0 => []
  | count + 1 =>
    (.ticked (start + (count + 1) * period.length), start + (count + 1) * period.length) ::
      ticksOnTime period start count

/-- Deadlines, newest first, are whole periods after a start, each later than the one before. -/
def OnGrid (period : Period) (start : Nat) (deadlines : List Nat) : Prop :=
  ∃ multiples : List Nat,
    deadlines = multiples.map (fun multiple => start + multiple * period.length) ∧
    multiples.Pairwise (· > ·) ∧ ∀ multiple ∈ multiples, 1 ≤ multiple

/-- What a loop that begins at a time may do. -/
structure Paced (period : Period) (start : Nat) (entries : List (LoopMark × Nat)) : Prop where
  /-- Each tick and each skip takes a deadline of its own. -/
  distinct : OnGrid period start (deadlines entries)
  /-- A tick starts at its deadline, or half a period after it at most.  A skip is later. -/
  inTime : ∀ entry ∈ entries, ∀ deadline ∈ entry.1.deadline?, deadline ≤ entry.2 ∧
    (entry.1.isTick = true ↔ 2 * (entry.2 - deadline) ≤ period.length)
  /-- The starts of two ticks are half a period apart at least. -/
  apart : entries.Pairwise fun newer older => newer.1.isTick = true → older.1.isTick = true →
    period.length ≤ 2 * (newer.2 - older.2)
  /-- There are no more ticks and skips than periods. -/
  bounded : ∀ time,
    (pulses entries).countP (·.2 ≤ time) ≤ (time - start) / period.length
  /-- If every call is over within a period, there is a tick at each deadline. -/
  onTime : (∀ begun ended, Call entries begun ended → ended < begun + period.length) →
    ∃ count, pulses entries = ticksOnTime period start count

/-- Every call is over within a period, and so is, so far, one that is running. -/
structure Brief (period : Period) (now : Nat) (entries : List (LoopMark × Nat)) : Prop where
  ended : ∀ begun ended, Call entries begun ended → ended < begun + period.length
  running : ∀ deadline begun, entries.head? = some (.ticked deadline, begun) →
    now < begun + period.length

variable {period : Period} {start since deadline time : Nat} {entries : List (LoopMark × Nat)}
  {progress : Progress}

theorem length_ticksOnTime (count : Nat) : (ticksOnTime period start count).length = count := by
  induction count with
  | zero => rfl
  | succ count induction => rw [ticksOnTime, List.length_cons, induction]

/-! ## Where the next deadline is -/

namespace History

/-- The next deadline is a number of periods after the start. -/
theorem multiple (regular : period.Regular) (history : History period start entries progress) :
    ∃ multiple, 1 ≤ multiple ∧ progress.deadline = start + multiple * period.length := by
  obtain ⟨strides, grid⟩ := history.grid
  refine ⟨strides + 1, Nat.le_add_left 1 strides, ?_⟩
  rw [grid, regular.stride_eq, Nat.succ_mul]
  omega

/-- Every deadline that a loop got to took it a period further. -/
theorem pulses_le (regular : period.Regular) (history : History period start entries progress) :
    start + ((pulses entries).length + 1) * period.length ≤ progress.deadline := by
  have further {entries : List (LoopMark × Nat)} {since deadline : Nat}
      (before : start + ((pulses entries).length + 1) * period.length ≤ deadline) :
      start + ((pulses entries).length + 1 + 1) * period.length ≤
        period.following (max since deadline) deadline := by
    have next := period.add_stride_le_following (Nat.le_max_right since deadline)
    rw [regular.stride_eq] at next
    rw [Nat.succ_mul]
    omega
  induction history with
  | begin =>
    show start + (0 + 1) * period.length ≤ start + period.length
    rw [Nat.zero_add, Nat.one_mul]
  | skip _ _ induction | tick _ _ induction => exact further induction
  | finish _ _ induction => exact induction

/-- The next deadline is half a period after the start of every tick at least. -/
theorem half_le (regular : period.Regular) (history : History period start entries progress) :
    ∀ entry ∈ entries, entry.1.isTick = true →
      2 * entry.2 + period.length ≤ 2 * progress.deadline := by
  refine history.forall_tick (fun time deadline => 2 * time + period.length ≤ 2 * deadline)
    (fun half less => ?_) fun {since deadline} inTime => ?_
  · omega
  · have near : 2 * (max since deadline - deadline) ≤ period.length := by
      simpa [Period.isLate] using inTime
    have next := period.add_stride_le_following (Nat.le_max_right since deadline)
    rw [regular.stride_eq] at next
    omega

/-! ## The laws, one by one -/

/-- A deadline that a loop waits for is later than all those it got to. -/
theorem onGrid_cons (regular : period.Regular)
    (history : History period start entries (.waits since deadline))
    (known : OnGrid period start (deadlines entries)) :
    OnGrid period start (deadline :: deadlines entries) := by
  obtain ⟨multiples, same, sorted, positive⟩ := known
  obtain ⟨multiple, one, grid⟩ := history.multiple regular
  have grid : deadline = start + multiple * period.length := grid
  refine ⟨multiple :: multiples, ?_, List.pairwise_cons.2 ⟨fun older member => ?_, sorted⟩, ?_⟩
  · rw [same, List.map_cons, ← grid]
  · have isThere : start + older * period.length ∈ deadlines entries :=
      same ▸ List.mem_map_of_mem member
    obtain ⟨entry, isEntry, isOlder⟩ := List.mem_filterMap.1 isThere
    have earlier : start + older * period.length < deadline :=
      history.deadline_lt entry isEntry _ isOlder
    rw [grid] at earlier
    exact Nat.lt_of_mul_lt_mul_right (Nat.lt_of_add_lt_add_left earlier)
  · exact List.forall_mem_cons.2 ⟨one, positive⟩

/-- No deadline comes twice, and all of them lie on the grid of the first one. -/
theorem distinct (regular : period.Regular) (history : History period start entries progress) :
    OnGrid period start (deadlines entries) := by
  induction history with
  | begin => exact ⟨[], rfl, .nil, nofun⟩
  | skip before late induction => exact before.onGrid_cons regular induction
  | tick before inTime induction => exact before.onGrid_cons regular induction
  | finish _ _ induction => exact induction

/-- A deadline is not met before its time, and it is met or skipped by how late it is. -/
theorem inTime (history : History period start entries progress) :
    ∀ entry ∈ entries, ∀ deadline ∈ entry.1.deadline?, deadline ≤ entry.2 ∧
      (entry.1.isTick = true ↔ 2 * (entry.2 - deadline) ≤ period.length) := by
  intro entry member deadline isDeadline
  refine ⟨?_, history.coalesced.met entry member deadline isDeadline⟩
  rcases (history.coalesced.reached entry member deadline isDeadline).reached with
    same | ⟨begun, call, ahead, running⟩
  · exact Nat.le_of_eq same.symm
  · exact Nat.le_of_lt running

/-- Two ticks are at least half a period apart. -/
theorem apart (regular : period.Regular) (history : History period start entries progress) :
    entries.Pairwise fun newer older => newer.1.isTick = true → older.1.isTick = true →
      period.length ≤ 2 * (newer.2 - older.2) := by
  induction history with
  | begin => exact List.pairwise_singleton ..
  | skip _ _ induction | finish _ _ induction =>
    exact List.pairwise_cons.2 ⟨fun _ _ => nofun, induction⟩
  | @tick entries since deadline before inTime induction =>
    refine List.pairwise_cons.2 ⟨fun older member _ ticks => ?_, induction⟩
    have half : 2 * older.2 + period.length ≤ 2 * deadline :=
      before.half_le regular older member ticks
    have due := Nat.le_max_right since deadline
    show period.length ≤ 2 * (max since deadline - older.2)
    omega

/-- Up to any time there are no more ticks and skips than whole periods. -/
theorem bounded (regular : period.Regular) (history : History period start entries progress)
    (time : Nat) : (pulses entries).countP (·.2 ≤ time) ≤ (time - start) / period.length := by
  have counts {entries : List (LoopMark × Nat)} {since deadline : Nat} (mark : LoopMark)
      (before : History period start entries (.waits since deadline))
      (known : (pulses entries).countP (·.2 ≤ time) ≤ (time - start) / period.length) :
      ((mark, max since deadline) :: pulses entries).countP (·.2 ≤ time) ≤
        (time - start) / period.length := by
    rw [List.countP_cons]
    split
    next past =>
      -- by the time of the new one there were periods enough for all of them
      have due : max since deadline ≤ time := by simpa using past
      have enough : start + ((pulses entries).length + 1) * period.length ≤ deadline :=
        before.pulses_le regular
      refine Nat.le_trans (Nat.succ_le_succ List.countP_le_length) ?_
      refine (Nat.le_div_iff_mul_le period.positive).2 ?_
      show ((pulses entries).length + 1) * period.length ≤ time - start
      have := Nat.le_max_right since deadline
      omega
    next => exact known
  induction history with
  | begin => exact Nat.zero_le _
  | skip before late induction => exact counts _ before induction
  | tick before inTime induction => exact counts _ before induction
  | finish _ _ induction => exact induction

end History

/-! ## Calls that are over within a period -/

/-- A loop that was never late.  It ticked at every deadline, and waits for the next one since it is
free, or it has been working since the last one. -/
inductive OnTime (period : Period) (start count : Nat) (entries : List (LoopMark × Nat)) :
    Progress → Prop where
  | waits {since : Nat} (pulses : pulses entries = ticksOnTime period start count)
      (freed : start + count * period.length ≤ since)
      (ahead : since < start + (count + 1) * period.length) :
      OnTime period start count entries (.waits since (start + (count + 1) * period.length))
  | works (pulses : pulses entries = ticksOnTime period start count) :
      OnTime period start count entries
        (.works (start + count * period.length) (start + (count + 1) * period.length))

theorem add_succ_mul (start count length : Nat) :
    start + (count + 1) * length = start + count * length + length := by
  rw [Nat.succ_mul, Nat.add_assoc]

/-- A loop that is on time has ticked once a period, and skipped nothing. -/
theorem OnTime.pulses_eq {count : Nat} (onTime : OnTime period start count entries progress) :
    pulses entries = ticksOnTime period start count := by
  cases onTime with
  | waits pulses | works pulses => exact pulses

/-- If every call is over within a period, the loop is on time. -/
theorem History.onTime (regular : period.Regular) (history : History period start entries progress)
    (brief : ∀ begun ended, Call entries begun ended → ended < begun + period.length) :
    ∃ count, OnTime period start count entries progress := by
  induction history with
  | begin =>
    have first : start + period.length = start + (0 + 1) * period.length := by
      rw [Nat.zero_add, Nat.one_mul]
    rw [first]
    refine ⟨0, .waits rfl ?_ ?_⟩
    · rw [Nat.zero_mul, Nat.add_zero]
    · exact first ▸ Nat.lt_add_of_pos_right period.positive
  | skip before late induction =>
    obtain ⟨count, onTime⟩ := induction fun begun ended call => brief begun ended (call.cons _)
    cases onTime with
    | waits _ _ ahead =>
      -- a deadline that is met when it is there is not late
      rw [Nat.max_eq_right (Nat.le_of_lt ahead), Period.isLate, Nat.sub_self] at late
      exact absurd late (by simp)
  | tick before inTime induction =>
    obtain ⟨count, onTime⟩ := induction fun begun ended call => brief begun ended (call.cons _)
    cases onTime with
    | waits pulses freed ahead =>
      rw [Nat.max_eq_right (Nat.le_of_lt ahead), period.following_self, regular.stride_eq,
        ← add_succ_mul]
      exact ⟨count + 1, .works (congrArg (_ :: ·) pulses)⟩
  | @finish entries since deadline time before later induction =>
    obtain ⟨count, onTime⟩ := induction fun begun ended call => brief begun ended (call.cons _)
    obtain ⟨⟨earlier, older, rfl⟩, -⟩ := before.works
    have short : time < since + period.length :=
      brief since time ⟨earlier, (List.prefix_append [_, _] older).isInfix⟩
    cases onTime with
    | works pulses =>
      refine ⟨count, .waits pulses later ?_⟩
      rw [add_succ_mul]
      exact short

/-- All laws of the pace, of every history. -/
theorem History.paced (regular : period.Regular)
    (history : History period start entries progress) : Paced period start entries where
  distinct := history.distinct regular
  inTime := history.inTime
  apart := history.apart regular
  bounded := history.bounded regular
  onTime := fun brief =>
    let ⟨count, onTime⟩ := history.onTime regular brief
    ⟨count, onTime.pulses_eq⟩

/-! ## What is reached -/

variable {bench : Bench} {loop : Task}

/-- What is on record of a loop that has begun is a history. -/
theorem Tells.history {now : Nat} {polling : Polling} (tells : Tells now polling loop)
    (begun : (.began, start) ∈ polling.history loop.arming) :
    ∃ progress, History loop.period start (polling.history loop.arming) progress := by
  have starts {other : Nat} {progress : Progress}
      (history : History loop.period other (polling.history loop.arming) progress) :
      ∃ progress, History loop.period start (polling.history loop.arming) progress := by
    obtain rfl := (history.began_iff start).1 begun
    exact ⟨progress, history⟩
  cases tells with
  | unstarted _ silent =>
    rw [silent] at begun
    exact absurd begun List.not_mem_nil
  | waiting _ history | working _ history | ended _ history => exact starts history

/-- A number of periods that has passed, while the next one has not. -/
theorem eq_div_of_between {length now count : Nat} (passed : start + count * length ≤ now)
    (ahead : now < start + (count + 1) * length) : count = (now - start) / length := by
  refine (Nat.div_eq_of_lt_le ?_ ?_).symm
  · omega
  · show now - start < (count + 1) * length
    omega

/-- A loop that goes on has ticked at every deadline up to now, if every call is over within a
period and nobody can go on. -/
theorem Chronicled.length_pulses (chronicled : bench.state.Chronicled bench.now bench.tasks)
    (prompt : Prompt bench) (settled : bench.ready = []) (member : loop ∈ bench.tasks)
    (regular : loop.period.Regular)
    (begun : (.began, start) ∈ bench.state.history loop.arming)
    (goesOn : bench.state.goesOn loop.arming = true)
    (brief : Brief loop.period bench.now (bench.state.history loop.arming)) :
    (pulses (bench.state.history loop.arming)).length =
      (bench.now - start) / loop.period.length := by
  cases chronicled.tells loop member with
  | unstarted _ silent =>
    rw [silent] at begun
    exact absurd begun List.not_mem_nil
  | @waiting first since deadline stage history past =>
    obtain rfl := (history.began_iff start).1 begun
    have ahead := prompt.lt_deadline settled member stage
    obtain ⟨count, onTime⟩ := history.onTime regular brief.ended
    rw [onTime.pulses_eq, length_ticksOnTime]
    cases onTime with
    | waits _ freed => exact eq_div_of_between (Nat.le_trans freed past) ahead
  | @working first since deadline work stage history past =>
    obtain rfl := (history.began_iff start).1 begun
    obtain ⟨⟨earlier, older, same⟩, -⟩ := history.works
    have young := brief.running earlier since (by rw [same, List.head?_cons])
    obtain ⟨count, onTime⟩ := history.onTime regular brief.ended
    rw [onTime.pulses_eq, length_ticksOnTime]
    cases onTime with
    | works =>
      rw [← add_succ_mul] at young
      exact eq_div_of_between past young
  | ended stage =>
    rw [chronicled.owned.ended loop member stage] at goesOn
    cases goesOn

/-- Whatever is done to a timer, and however long its calls take, each of its loops keeps its pace.
If all calls are over within a period, the loop that goes on has ticked at every deadline up to
now. -/
theorem ticks_paced (reachable : TimelyReachable bench) (member : loop ∈ bench.tasks)
    (regular : loop.period.Regular) :
    let entries := bench.state.history loop.arming
    ∀ start, (.began, start) ∈ entries →
      Paced loop.period start entries ∧
      (bench.ready = [] → bench.state.goesOn loop.arming = true →
        Brief loop.period bench.now entries →
        (pulses entries).length = (bench.now - start) / loop.period.length) := by
  intro entries start begun
  obtain ⟨prompt, chronicled⟩ := reachable.chronicled
  obtain ⟨progress, history⟩ := (chronicled.tells loop member).history begun
  refine ⟨history.paced regular, fun settled goesOn brief => ?_⟩
  exact chronicled.length_pulses prompt settled member regular begun goesOn brief

/-- A call overruns a deadline by less than half a period, and another one by more.  The second
timer has brief calls, the last of which is still running. -/
theorem ticks_paced_overrunning :
    let actions : List Action :=
      [.start 1000 [[.wait 1300], [.wait 1900], []], .advance 6500,
        .start 1000 [[.wait 400]], .advance 2100]
    let bench := actions.foldl perform { state := {} }
    let entries := bench.state.history 1
    let brief := bench.state.history 2
    ∃ first second, TimelyReachable bench ∧ bench.tasks = [first, second] ∧
      first.arming = 1 ∧ second.arming = 2 ∧
      first.period = .ofInterval 1000 ∧ second.period = .ofInterval 1000 ∧
      (Period.ofInterval 1000).Regular ∧
      entries = [(.finished, 6000), (.ticked 6000, 6000), (.finished, 5000), (.ticked 5000, 5000),
        (.skipped 3000, 4200), (.finished, 4200), (.ticked 2000, 2300), (.finished, 2300),
        (.ticked 1000, 1000), (.began, 0)] ∧
      Paced (.ofInterval 1000) 0 entries ∧
      brief = [(.ticked 8500, 8500), (.finished, 7900), (.ticked 7500, 7500), (.began, 6500)] ∧
      Brief (.ofInterval 1000) bench.now brief ∧
      (pulses brief).length = (bench.now - 6500) / 1000 := by
  intro actions bench entries brief
  have reachable : TimelyReachable bench := TimelyReachable.foldl .refl actions
  have regular : (Period.ofInterval 1000).Regular := Period.regular_iff.2 (by decide)
  have loops : bench.tasks.map (fun loop => (loop.arming, loop.period)) =
      [(1, .ofInterval 1000), (2, .ofInterval 1000)] := by decide
  obtain ⟨first, rest, tasks, isFirst, others⟩ := List.map_eq_cons_iff.1 loops
  obtain ⟨second, rfl, isSecond⟩ := List.map_eq_singleton_iff.1 others
  have isEntries : entries = [(.finished, 6000), (.ticked 6000, 6000), (.finished, 5000),
      (.ticked 5000, 5000), (.skipped 3000, 4200), (.finished, 4200), (.ticked 2000, 2300),
      (.finished, 2300), (.ticked 1000, 1000), (.began, 0)] := by decide
  have isBrief : brief = [(.ticked 8500, 8500), (.finished, 7900), (.ticked 7500, 7500),
      (.began, 6500)] := by decide
  obtain ⟨firstArming, firstPeriod⟩ := Prod.mk.inj isFirst
  obtain ⟨secondArming, secondPeriod⟩ := Prod.mk.inj isSecond
  have settled : bench.ready = [] := by decide
  have goesOn : bench.state.goesOn 2 = true := by decide
  have now : bench.now = 8600 := by decide
  have short : Brief (.ofInterval 1000) bench.now brief := by
    rw [isBrief, now]
    refine ⟨fun begun ended call => ?_, fun deadline begun same => ?_⟩
    · rcases call.of_cons with call | ⟨⟨⟩, -⟩
      rcases call.of_cons with call | ⟨⟨⟩, -, older, ⟨⟩⟩
      · rcases call.of_cons with call | ⟨⟨⟩, -⟩
        rcases call.of_cons with ⟨_, inside⟩ | ⟨⟨⟩, -⟩
        exact absurd inside.length_le (by simp)
      · decide
    · cases same
      decide
  have paced := ticks_paced reachable (tasks ▸ List.mem_cons_self : first ∈ bench.tasks)
    (firstPeriod ▸ regular) 0
  have counted := ticks_paced reachable
    (tasks ▸ List.mem_cons_of_mem _ List.mem_cons_self : second ∈ bench.tasks)
    (secondPeriod ▸ regular) 6500
  rw [firstArming, firstPeriod] at paced
  rw [secondArming, secondPeriod] at counted
  refine ⟨first, second, reachable, tasks, firstArming, secondArming, firstPeriod, secondPeriod,
    regular, isEntries, (paced ?_).1, isBrief, short, (counted ?_).2 settled goesOn short⟩
  · rw [show bench.state.history 1 = _ from isEntries]
    decide
  · rw [show bench.state.history 2 = _ from isBrief]
    decide

end QuerySync.Polling
