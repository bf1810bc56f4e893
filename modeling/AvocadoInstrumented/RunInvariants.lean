import AvocadoInstrumented.Run

namespace AvocadoInstrumented

section
variable (s : Session) (pc : Pc) (y : Yield)

@[simp] theorem goto_gen : (s.goto pc).gen = {s.gen with pc := pc} := rfl
@[simp] theorem goto_queue : (s.goto pc).queue = s.queue := rfl
@[simp] theorem goto_received : (s.goto pc).received = s.received := rfl
@[simp] theorem goto_dropped : (s.goto pc).dropped = s.dropped := rfl
@[simp] theorem goto_enqueued : (s.goto pc).enqueued = s.enqueued := rfl
@[simp] theorem goto_polls : (s.goto pc).polls = s.polls := rfl
@[simp] theorem goto_yielded : (s.goto pc).yielded = s.yielded := rfl
@[simp] theorem goto_terminated : (s.goto pc).terminated = s.terminated := rfl
@[simp] theorem goto_process : (s.goto pc).process = s.process := rfl
@[simp] theorem emit_gen : (s.emit y).gen = s.gen := rfl
@[simp] theorem emit_queue : (s.emit y).queue = s.queue := rfl
@[simp] theorem emit_received : (s.emit y).received = s.received := rfl
@[simp] theorem emit_dropped : (s.emit y).dropped = s.dropped := rfl
@[simp] theorem emit_enqueued : (s.emit y).enqueued = s.enqueued := rfl
@[simp] theorem emit_polls : (s.emit y).polls = s.polls := rfl
@[simp] theorem emit_yielded : (s.emit y).yielded = s.yielded ++ [y] := rfl
@[simp] theorem emit_terminated : (s.emit y).terminated = s.terminated := rfl
@[simp] theorem emit_process : (s.emit y).process = s.process := rfl
end

section
variable (host : Host) (s : Session) (now : ℚ)

-- A poll changes nothing but the pc, the heartbeat time and the history of polls.
theorem poll_parts : ∃ g : Gen, s.poll host now =
    {s with gen := g,polls := s.polls ++ [⟨now,s.queue.isEmpty⟩]} ∧ g.runnable = s.gen.runnable ∧
      g.target = s.gen.target ∧ g.timeStarted = s.gen.timeStarted ∧ g.timeout = s.gen.timeout ∧
      g.pc = if s.queue.isEmpty then (if s.gen.due now then .heartbeat now else s.gen.deadline now) else .get := by
  unfold Session.poll
  dsimp only
  split_ifs <;> exact ⟨_,rfl,rfl,rfl,rfl,rfl,by simp [*]⟩

@[simp] theorem poll_queue : (s.poll host now).queue = s.queue := by
  obtain ⟨g,same,-⟩ := poll_parts host s now; rw [same]
@[simp] theorem poll_received : (s.poll host now).received = s.received := by
  obtain ⟨g,same,-⟩ := poll_parts host s now; rw [same]
@[simp] theorem poll_dropped : (s.poll host now).dropped = s.dropped := by
  obtain ⟨g,same,-⟩ := poll_parts host s now; rw [same]
@[simp] theorem poll_enqueued : (s.poll host now).enqueued = s.enqueued := by
  obtain ⟨g,same,-⟩ := poll_parts host s now; rw [same]
@[simp] theorem poll_yielded : (s.poll host now).yielded = s.yielded := by
  obtain ⟨g,same,-⟩ := poll_parts host s now; rw [same]
@[simp] theorem poll_terminated : (s.poll host now).terminated = s.terminated := by
  obtain ⟨g,same,-⟩ := poll_parts host s now; rw [same]
@[simp] theorem poll_process : (s.poll host now).process = s.process := by
  obtain ⟨g,same,-⟩ := poll_parts host s now; rw [same]
@[simp] theorem poll_polls : (s.poll host now).polls = s.polls ++ [⟨now,s.queue.isEmpty⟩] := by
  obtain ⟨g,same,-⟩ := poll_parts host s now; rw [same]
@[simp] theorem poll_timeout : (s.poll host now).gen.timeout = s.gen.timeout := by
  obtain ⟨g,same,-,-,-,timeout,-⟩ := poll_parts host s now; rw [same]; exact timeout
@[simp] theorem poll_timeStarted : (s.poll host now).gen.timeStarted = s.gen.timeStarted := by
  obtain ⟨g,same,-,-,started,-⟩ := poll_parts host s now; rw [same]; exact started
@[simp] theorem poll_runnable : (s.poll host now).gen.runnable = s.gen.runnable := by
  obtain ⟨g,same,runnable,-⟩ := poll_parts host s now; rw [same]; exact runnable
@[simp] theorem poll_target : (s.poll host now).gen.target = s.gen.target := by
  obtain ⟨g,same,-,target,-⟩ := poll_parts host s now; rw [same]; exact target
theorem poll_pc : (s.poll host now).gen.pc =
    if s.queue.isEmpty then (if s.gen.due now then .heartbeat now else s.gen.deadline now) else .get := by
  obtain ⟨g,same,-,-,-,-,pc⟩ := poll_parts host s now; rw [same]; exact pc
end

-- The message `run` holds between `queue.get()` and its `yield`, and the one it has taken.
def Pc.pending : Pc → List Message
  | .forward m => [m]
  | _ => []

def Pc.holding : Pc → Option Message
  | .install m | .forward m => some m
  | _ => none

-- Lines 136-147, before the loop.
def Pc.prelude : Pc → Bool
  | .fresh | .makeQueue | .makeProcess | .start | .clockStart => true
  | _ => false

-- Lines 148-160 up to `queue.get()`.
def Pc.loop : Pc → Bool
  | .sleep | .clock | .empty _ | .heartbeat _ | .terminate | .timedOut | .get => true
  | _ => false

-- Short of the handler and of the end.
def Pc.live : Pc → Bool
  | .stderr _ | .errored _ | .exhausted | .raised _ => false
  | _ => true

-- Each predicate is evaluated by its equations on a constructor, and by the lemmas below on
-- the lines `run` computes its next line from.
attribute [simp] Pc.pending.eq_1 Pc.pending.eq_2 Pc.holding.eq_1 Pc.holding.eq_2 Pc.holding.eq_3
  Pc.prelude.eq_1 Pc.prelude.eq_2 Pc.prelude.eq_3 Pc.prelude.eq_4 Pc.prelude.eq_5 Pc.prelude.eq_6
  Pc.loop.eq_1 Pc.loop.eq_2 Pc.loop.eq_3 Pc.loop.eq_4 Pc.loop.eq_5 Pc.loop.eq_6 Pc.loop.eq_7 Pc.loop.eq_8
  Pc.live.eq_1 Pc.live.eq_2 Pc.live.eq_3 Pc.live.eq_4 Pc.live.eq_5

section
variable (e : PyException) (m : Message) (g : Gen) (now : ℚ)

@[simp] theorem catch_pending : (Pc.catch e).pending = [] := by unfold Pc.catch; split <;> rfl
@[simp] theorem catch_holding : (Pc.catch e).holding = none := by unfold Pc.catch; split <;> rfl
@[simp] theorem catch_prelude : (Pc.catch e).prelude = false := by unfold Pc.catch; split <;> rfl
@[simp] theorem catch_loop : (Pc.catch e).loop = false := by unfold Pc.catch; split <;> rfl
@[simp] theorem catch_live : (Pc.catch e).live = false := by unfold Pc.catch; split <;> rfl
@[simp] theorem catch_ne_exhausted : Pc.catch e ≠ .exhausted := by unfold Pc.catch; split <;> simp

@[simp] theorem completion_pending : (completion m).pending = [] := by unfold completion; split <;> rfl
@[simp] theorem completion_holding : (completion m).holding = none := by unfold completion; split <;> rfl
@[simp] theorem completion_prelude : (completion m).prelude = false := by unfold completion; split <;> rfl
@[simp] theorem completion_loop : (completion m).loop = !m.isFinished := by unfold completion; split <;> simp [*]
@[simp] theorem completion_live : (completion m).live = !m.isFinished := by unfold completion; split <;> simp [*]
@[simp] theorem completion_eq_exhausted : completion m = .exhausted ↔ m.isFinished := by
  unfold completion; split <;> simp [*]

@[simp] theorem deadline_pending : (g.deadline now).pending = [] := by unfold Gen.deadline; split <;> rfl
@[simp] theorem deadline_holding : (g.deadline now).holding = none := by unfold Gen.deadline; split <;> rfl
@[simp] theorem deadline_prelude : (g.deadline now).prelude = false := by unfold Gen.deadline; split <;> rfl
@[simp] theorem deadline_loop : (g.deadline now).loop = true := by unfold Gen.deadline; split <;> rfl
@[simp] theorem deadline_live : (g.deadline now).live = true := by unfold Gen.deadline; split <;> rfl
@[simp] theorem deadline_ne_exhausted : g.deadline now ≠ .exhausted := by unfold Gen.deadline; split <;> simp
end

section
variable (host : Host) (s : Session) (now : ℚ)

@[simp] theorem poll_pending : (s.poll host now).gen.pc.pending = [] := by rw [poll_pc]; split_ifs <;> simp
@[simp] theorem poll_holding : (s.poll host now).gen.pc.holding = none := by rw [poll_pc]; split_ifs <;> simp
@[simp] theorem poll_prelude : (s.poll host now).gen.pc.prelude = false := by rw [poll_pc]; split_ifs <;> simp
@[simp] theorem poll_loop : (s.poll host now).gen.pc.loop = true := by rw [poll_pc]; split_ifs <;> simp
@[simp] theorem poll_live : (s.poll host now).gen.pc.live = true := by rw [poll_pc]; split_ifs <;> simp
@[simp] theorem poll_ne_exhausted : (s.poll host now).gen.pc ≠ .exhausted := by rw [poll_pc]; split_ifs <;> simp
end

-- What the caller has received from the worker, in order.
def forwarded (yielded : List Yield) : List Message := yielded.filterMap Yield.forwarded?

@[simp] theorem forwarded_append (a b : List Yield) : forwarded (a ++ b) = forwarded a ++ forwarded b := by
  simp [forwarded]

@[simp] theorem forwarded_singleton (y : Yield) : forwarded [y] = y.forwarded?.toList := by
  cases y <;> rfl

theorem Pc.pending_of_calls {pc : Pc} (calls : pc.calls) : pc.pending = [] := by
  cases pc with
  | forward => cases calls
  | _ => rfl

theorem Pc.ne_exhausted_of_calls {pc : Pc} (calls : pc.calls) : pc ≠ .exhausted := by
  rintro rfl; contradiction

theorem Pc.ne_fresh_of_calls {pc : Pc} (calls : pc.calls) : pc ≠ .fresh := by
  rintro rfl; contradiction

@[simp] theorem Pc.ne_fresh {pc : Pc} (later : pc.prelude = false) : pc ≠ .fresh := by
  rintro rfl; contradiction

variable {host : Host} {self self' : Option Runnable} {s s' : Session}

-- No line of `run` executes once the generator is exhausted.
theorem Transition.ne_exhausted (t : Transition host self s self' s') : s.gen.pc ≠ .exhausted := by
  cases t with
  | raise calls => exact Pc.ne_exhausted_of_calls calls
  | _ => simp [*]

theorem live_step (t : Transition host self s self' s') (live : s.gen.pc.live → s.dropped = []) :
    s'.gen.pc.live → s'.dropped = [] := by
  cases t with
  | poll here => exact fun _ => (poll_dropped _ _ _).trans (live (here ▸ rfl))
  | timedOut | stderr | errored | strRaises => nofun
  | rejected | raise | drop => exact fun l => absurd ((catch_live _).symm.trans l) Bool.false_ne_true
  -- The other lines leave the dropped messages as they were.
  | _ => exact fun _ => live (by simp [*])

theorem fifo_step (t : Transition host self s self' s') (live : s.gen.pc.live → s.dropped = [])
    (fifo : s.enqueued = s.received ++ s.dropped ++ s.queue) : s'.enqueued = s'.received ++ s'.dropped ++ s'.queue := by
  cases t with
  | get | drop => simp_all
  | poll => simpa using fifo
  -- The other lines neither take nor drop a message.
  | _ => exact fifo

theorem forwards_step (t : Transition host self s self' s')
    (forwards : forwarded s.yielded ++ s.gen.pc.pending = s.received.filter (!·.isEarlyState)) :
    forwarded s'.yielded ++ s'.gen.pc.pending = s'.received.filter (!·.isEarlyState) := by
  cases t with
  | get => split_ifs <;> simp_all
  | raise calls => simp_all [Pc.pending_of_calls calls]
  | _ => simp_all [Yield.forwarded?]

theorem sorted_step (t : Transition host self s self' s') :
    ∀ m, s'.gen.pc.holding = some m → (m.isEarlyState ↔ s'.gen.pc = .install m) := by
  cases t with
  | get => split_ifs <;> simp_all
  | heartbeat | install | forward | rejected | raise | drop | poll => simp
  | _ => nofun

theorem prelude_step (t : Transition host self s self' s') (prelude : s.gen.pc.prelude → s.received = [] ∧ s.polls = []) :
    s'.gen.pc.prelude → s'.received = [] ∧ s'.polls = [] := by
  cases t with
  | started here | makeQueue here | makeProcess here | start here => exact fun _ => prelude (here ▸ rfl)
  | get => split_ifs <;> nofun
  | heartbeat | install | forward | rejected | raise | drop | poll => simp
  | _ => nofun

-- No message without a finished status has been taken while the loop runs.
def Unfinished (ms : List Message) : Prop := ∀ m ∈ ms, m.isFinished = false

@[simp] theorem unfinished_append (a b : List Message) : Unfinished (a ++ b) ↔ Unfinished a ∧ Unfinished b :=
  List.forall_mem_append

@[simp] theorem unfinished_singleton (m : Message) : Unfinished [m] ↔ m.isFinished = false := by
  simp [Unfinished]

@[simp] theorem unfinished_nil : Unfinished [] := by simp [Unfinished]

theorem looping_step (t : Transition host self s self' s') (prelude : s.gen.pc.prelude → s.received = [] ∧ s.polls = [])
    (held : ∀ m, s.gen.pc.holding = some m → ∃ before, s.received = before ++ [m] ∧ Unfinished before)
    (looping : s.gen.pc.loop → Unfinished s.received) : s'.gen.pc.loop → Unfinished s'.received := by
  cases t with
  | install here => obtain ⟨before,same,before⟩ := held _ (by rw [here]; rfl); simp_all
  | forward here => obtain ⟨before,same,before⟩ := held _ (by rw [here]; rfl); simp_all
  | clockStart here => simp_all
  | poll here => simpa using looping (by simp [here])
  | get => split_ifs <;> nofun
  | sleep here | clock here | heartbeat here | terminate here => exact fun _ => looping (by simp [here])
  | _ => simp

theorem held_step (t : Transition host self s self' s') (looping : s.gen.pc.loop → Unfinished s.received) :
    ∀ m, s'.gen.pc.holding = some m → ∃ before, s'.received = before ++ [m] ∧ Unfinished before := by
  cases t with
  | get here => intro m; split_ifs <;> simp_all
  | heartbeat | install | forward | rejected | raise | drop | poll => simp
  | _ => nofun

-- Nothing finished is yielded before the generator is exhausted.
theorem quiet_step (t : Transition host self s self' s')
    (quiet : s.gen.pc ≠ .exhausted → ∀ y ∈ s.yielded, y.message.isFinished = false) :
    s'.gen.pc ≠ .exhausted → ∀ y ∈ s'.yielded, y.message.isFinished = false := by
  have before := quiet t.ne_exhausted
  cases t with
  | started | heartbeat | forward | stderr | poll => simp_all [or_imp,forall_and]
  | timedOut | errored => nofun
  -- The other lines yield nothing.
  | _ => exact fun _ => before

theorem ended_step (t : Transition host self s self' s') (live : s.gen.pc.live → s.dropped = [])
    (held : ∀ m, s.gen.pc.holding = some m → ∃ before, s.received = before ++ [m] ∧ Unfinished before)
    (quiet : s.gen.pc ≠ .exhausted → ∀ y ∈ s.yielded, y.message.isFinished = false)
    (ended : ∀ m, s.yielded.getLast? = some (.forwarded m) → m.isFinished →
      ∃ before, s.received = before ++ [m] ∧ Unfinished before ∧ s.dropped = []) :
    ∀ m, s'.yielded.getLast? = some (.forwarded m) → m.isFinished →
      ∃ before, s'.received = before ++ [m] ∧ Unfinished before ∧ s'.dropped = [] := by
  have before := quiet t.ne_exhausted
  cases t with
  | get | drop =>
      intro m last finished
      have unfinished := before _ (List.mem_of_getLast?_eq_some last)
      simp only [forwarded_message] at unfinished
      simp [unfinished] at finished
  | forward here =>
      rename_i m
      intro m' last _
      obtain rfl : m = m' := by simpa using last
      obtain ⟨before,received,unfinished⟩ := held m (by simp [here])
      exact ⟨before,received,unfinished,live (by simp [here])⟩
  | poll => simpa only [poll_yielded,poll_received,poll_dropped] using ended
  | started | heartbeat | timedOut | stderr | errored =>
      exact fun _ last => nomatch (List.getLast?_concat _).symm.trans last
  -- The other lines neither yield nor take a message.
  | _ => exact ended

-- What the channel and the history of one session keep, from its start and after every step.
structure Channel (s : Session) : Prop where
  live : s.gen.pc.live → s.dropped = []
  fifo : s.enqueued = s.received ++ s.dropped ++ s.queue
  forwards : forwarded s.yielded ++ s.gen.pc.pending = s.received.filter (!·.isEarlyState)
  sorted : ∀ m, s.gen.pc.holding = some m → (m.isEarlyState ↔ s.gen.pc = .install m)
  prelude : s.gen.pc.prelude → s.received = [] ∧ s.polls = []
  looping : s.gen.pc.loop → Unfinished s.received
  held : ∀ m, s.gen.pc.holding = some m → ∃ before, s.received = before ++ [m] ∧ Unfinished before
  quiet : s.gen.pc ≠ .exhausted → ∀ y ∈ s.yielded, y.message.isFinished = false
  ended : ∀ m, s.yielded.getLast? = some (.forwarded m) → m.isFinished →
    ∃ before, s.received = before ++ [m] ∧ Unfinished before ∧ s.dropped = []

theorem channel_init (runnable : Runnable) : Channel (Session.init runnable) := by
  constructor <;> simp [Session.init,forwarded]

theorem Channel.step (channel : Channel s) (t : Transition host self s self' s') : Channel s' where
  live := live_step t channel.live
  fifo := fifo_step t channel.live channel.fifo
  forwards := forwards_step t channel.forwards
  sorted := sorted_step t
  prelude := prelude_step t channel.prelude
  looping := looping_step t channel.prelude channel.held channel.looping
  held := held_step t channel.looping
  quiet := quiet_step t channel.quiet
  ended := ended_step t channel.live channel.held channel.quiet channel.ended

-- The worker changes nothing `run` has read: it appends to the queue, or exits.
theorem Channel.put (channel : Channel s) (m : Message) :
    Channel {s with queue := s.queue ++ [m],enqueued := s.enqueued ++ [m]} := by
  obtain ⟨live,fifo,forwards,sorted,prelude,looping,held,quiet,ended⟩ := channel
  exact ⟨live,by simp [fifo],forwards,sorted,prelude,looping,held,quiet,ended⟩

theorem Channel.exit (channel : Channel s) (r : Runnable) : Channel {s with process := .exited r} := by
  obtain ⟨live,fifo,forwards,sorted,prelude,looping,held,quiet,ended⟩ := channel
  exact ⟨live,fifo,forwards,sorted,prelude,looping,held,quiet,ended⟩

theorem Reachable.channel (reached : Reachable host runnable w) : Channel w.session := by
  induction reached with
  | init => exact channel_init runnable
  | step _ acted ih =>
      cases act_sound acted with
      | run t => exact ih.step t
      | put _ m => exact ih.put m
      | exit _ => exact ih.exit _

end AvocadoInstrumented
