import AvocadoInstrumented.Delivery

namespace AvocadoInstrumented

-- The last early_state among the messages `run` has taken.
def lastEarly (ms : List Message) : Option Message := (ms.filter (·.isEarlyState)).getLast?

@[simp] theorem lastEarly_nil : lastEarly [] = none := rfl

@[simp] theorem lastEarly_append (ms : List Message) (m : Message) :
    lastEarly (ms ++ [m]) = if m.isEarlyState then some m else lastEarly ms := by
  unfold lastEarly
  split_ifs with early <;> simp [early]

theorem lastEarly_mem (last : lastEarly ms = some m) : m ∈ ms ∧ m.isEarlyState := by
  have member := List.mem_of_getLast?_eq_some last
  simp only [List.mem_filter] at member
  exact member

-- Lines 146 and 162: the timeout in force once `run` has taken `ms`.
def Installs (host : Host) (ms : List Message) (timeout : PyFloat) : Prop :=
  match lastEarly ms with
  | none => timeout = .inf
  | some m => (timeoutArg m).toFloat host.parseFloat = .ok timeout

-- A timeout that can be exceeded came from the truthy timeout field of the last early_state.
theorem installs_exceeded (installs : Installs host ms timeout) (exceeded : timeout.exceeded elapsed) :
    ∃ m, lastEarly ms = some m ∧ (m.get "timeout").truthy ∧
      (m.get "timeout").toFloat host.parseFloat = .ok timeout := by
  unfold Installs at installs
  split at installs
  · simp [installs] at exceeded
  · rename_i m last
    by_cases truthy : (m.get "timeout").truthy
    · simp only [timeoutArg,truthy,if_true] at installs
      exact ⟨m,last,truthy,installs⟩
    · simp [timeoutArg,truthy,PyValue.toFloat] at installs
      subst installs
      simp at exceeded

-- The conditions of line 155 at the last poll, with the timeout of the last early_state taken.
def PastDeadline (host : Host) (s : Session) : Prop :=
  ∃ now m, s.polls.getLast? = some ⟨now,true⟩ ∧ lastEarly s.received = some m ∧ (m.get "timeout").truthy ∧
    (m.get "timeout").toFloat host.parseFloat = .ok s.gen.timeout ∧ s.gen.timeout.exceeded (now - s.gen.timeStarted)

section
variable {host : Host} {self self' : Option Runnable} {s s' : Session}

theorem installed_step (t : Transition host self s self' s')
    (prelude : s.gen.pc.prelude → s.received = [] ∧ s.polls = [])
    (held : ∀ m, s.gen.pc.holding = some m → ∃ before, s.received = before ++ [m] ∧ Unfinished before)
    (sorted : ∀ m, s.gen.pc.holding = some m → (m.isEarlyState ↔ s.gen.pc = .install m))
    (installed : s.gen.pc.loop ∨ s.gen.pc.pending ≠ [] → Installs host s.received s.gen.timeout) :
    s'.gen.pc.loop ∨ s'.gen.pc.pending ≠ [] → Installs host s'.received s'.gen.timeout := by
  cases t with
  | clockStart here => simp_all [Installs]
  | get here => split_ifs <;> simp_all [Installs]
  | install here converted =>
      obtain ⟨before,same,-⟩ := held _ (by rw [here]; rfl)
      have early := (sorted _ (by rw [here]; rfl)).mpr here
      simp_all [Installs]
  | poll here => simpa using installed (by simp [here])
  | sleep here | clock here | heartbeat here | terminate here | forward here =>
      exact fun _ => installed (by simp [here])
  | _ => simp

-- Where the last poll sent the loop: a heartbeat, the deadline check, or `queue.get()`.
theorem beat_step (t : Transition host self s self' s') :
    ∀ now, s'.gen.pc = .heartbeat now → s'.polls.getLast? = some ⟨now,true⟩ := by
  cases t with
  | poll here =>
      rw [poll_pc]
      split_ifs with empty
      · rintro _ ⟨⟩
        simp [empty]
      · simp [Gen.deadline,ite_eq_iff]
      · nofun
  | heartbeat | get | install | forward | rejected | raise | drop => simp [completion,Pc.catch,Gen.deadline,ite_eq_iff]
  | _ => nofun

theorem expired_step (t : Transition host self s self' s')
    (beat : ∀ now, s.gen.pc = .heartbeat now → s.polls.getLast? = some ⟨now,true⟩) :
    s'.gen.pc = .terminate →
      ∃ now, s'.polls.getLast? = some ⟨now,true⟩ ∧ s'.gen.timeout.exceeded (now - s'.gen.timeStarted) := by
  cases t with
  | poll here => rw [poll_pc]; split_ifs <;> simp_all [Gen.deadline,ite_eq_iff]
  | heartbeat here => simp_all [Gen.deadline,ite_eq_iff]
  | install | forward => simp [completion,ite_eq_iff]
  | rejected | raise | drop => simp [Pc.catch,ite_eq_iff]
  | get => split_ifs <;> nofun
  | _ => nofun

theorem taking_step (t : Transition host self s self' s')
    (taking : s.gen.pc = .get ∨ s.gen.pc.holding ≠ none → ∃ now, s.polls.getLast? = some ⟨now,false⟩) :
    s'.gen.pc = .get ∨ s'.gen.pc.holding ≠ none → ∃ now, s'.polls.getLast? = some ⟨now,false⟩ := by
  cases t with
  | poll here => rw [poll_pc]; split_ifs <;> simp_all [Gen.deadline,ite_eq_iff]
  | get here => exact fun _ => taking (.inl here)
  | heartbeat | install | forward | rejected | raise | drop => simp [completion,Pc.catch,Gen.deadline,ite_eq_iff]
  | _ => exact fun landed => landed.elim nofun fun held => absurd rfl held

-- The loop sleeps after an empty poll only while the deadline has not passed.
theorem waiting_step (t : Transition host self s self' s')
    (prelude : s.gen.pc.prelude → s.received = [] ∧ s.polls = [])
    (beat : ∀ now, s.gen.pc = .heartbeat now → s.polls.getLast? = some ⟨now,true⟩)
    (taking : s.gen.pc = .get ∨ s.gen.pc.holding ≠ none → ∃ now, s.polls.getLast? = some ⟨now,false⟩) :
    s'.gen.pc = .sleep → ∀ now, s'.polls.getLast? = some ⟨now,true⟩ →
      s'.gen.timeout.exceeded (now - s'.gen.timeStarted) = false := by
  cases t with
  | poll here => rw [poll_pc]; split_ifs <;> simp_all [Gen.deadline,ite_eq_iff]
  | heartbeat here => simp_all [Gen.deadline,ite_eq_iff]
  | install here => obtain ⟨now,last⟩ := taking (by simp [here]); simp_all
  | forward here => obtain ⟨now,last⟩ := taking (by simp [here]); simp_all
  | clockStart here => simp_all
  | rejected | raise | drop => simp [Pc.catch,ite_eq_iff]
  | get => split_ifs <;> nofun
  | _ => nofun

-- After `process.terminate()` (line 156), `run` yields the timeout Finished or leaves by its handler.
theorem reaped_step (t : Transition host self s self' s') (reaped : s.terminated → s.gen.pc = .timedOut ∨ s.gen.pc.live = false) :
    s'.terminated → s'.gen.pc = .timedOut ∨ s'.gen.pc.live = false := by
  cases t with
  | terminate => exact fun _ => .inl rfl
  | timedOut | stderr | errored | strRaises => exact fun _ => .inr rfl
  | rejected | raise | drop => exact fun _ => .inr (catch_live _)
  | _ => simp_all

theorem timedOutAfter_step (t : Transition host self s self' s')
    (quiet : s.gen.pc ≠ .exhausted → ∀ y ∈ s.yielded, y.message.isFinished = false)
    (installed : s.gen.pc.loop ∨ s.gen.pc.pending ≠ [] → Installs host s.received s.gen.timeout)
    (expired : s.gen.pc = .terminate →
      ∃ now, s.polls.getLast? = some ⟨now,true⟩ ∧ s.gen.timeout.exceeded (now - s.gen.timeStarted))
    (timedOutAfter : s.gen.pc = .timedOut ∨ .timedOut ∈ s.yielded → s.terminated ∧ PastDeadline host s) :
    s'.gen.pc = .timedOut ∨ .timedOut ∈ s'.yielded → s'.terminated ∧ PastDeadline host s' := by
  have absent : .timedOut ∉ s.yielded := fun member => by simpa using quiet t.ne_exhausted _ member
  cases t with
  | terminate here =>
      obtain ⟨now,last,exceeded⟩ := expired here
      obtain ⟨m,lastM,truthy,converted⟩ := installs_exceeded (installed (by simp [here])) exceeded
      exact fun _ => ⟨rfl,now,m,last,lastM,truthy,converted,exceeded⟩
  | timedOut here => exact fun _ => timedOutAfter (.inl here)
  | poll here => rw [poll_pc]; split_ifs <;> simp [absent,Gen.deadline,ite_eq_iff]
  | _ => simp [absent,completion,Pc.catch,Gen.deadline,ite_eq_iff]

end

-- What `run` keeps about the clock and its timeout, from its start and after every step.
structure Timing (host : Host) (s : Session) : Prop where
  installed : s.gen.pc.loop ∨ s.gen.pc.pending ≠ [] → Installs host s.received s.gen.timeout
  beat : ∀ now, s.gen.pc = .heartbeat now → s.polls.getLast? = some ⟨now,true⟩
  expired : s.gen.pc = .terminate →
    ∃ now, s.polls.getLast? = some ⟨now,true⟩ ∧ s.gen.timeout.exceeded (now - s.gen.timeStarted)
  taking : s.gen.pc = .get ∨ s.gen.pc.holding ≠ none → ∃ now, s.polls.getLast? = some ⟨now,false⟩
  waiting : s.gen.pc = .sleep → ∀ now, s.polls.getLast? = some ⟨now,true⟩ →
    s.gen.timeout.exceeded (now - s.gen.timeStarted) = false
  reaped : s.terminated → s.gen.pc = .timedOut ∨ s.gen.pc.live = false
  timedOutAfter : s.gen.pc = .timedOut ∨ .timedOut ∈ s.yielded → s.terminated ∧ PastDeadline host s

section
variable {host : Host} {runnable : Runnable} {w : World}

theorem timing_init (runnable : Runnable) : Timing host (Session.init runnable) := by
  constructor <;> simp [Session.init]

theorem Timing.step (timing : Timing host s) (channel : Channel s) (t : Transition host self s self' s') :
    Timing host s' where
  installed := installed_step t channel.prelude channel.held channel.sorted timing.installed
  beat := beat_step t
  expired := expired_step t timing.beat
  taking := taking_step t timing.taking
  waiting := waiting_step t channel.prelude timing.beat timing.taking
  reaped := reaped_step t timing.reaped
  timedOutAfter := timedOutAfter_step t channel.quiet timing.installed timing.expired timing.timedOutAfter

theorem Reachable.timing (reached : Reachable host runnable w) : Timing host w.session := by
  induction reached with
  | init => exact timing_init runnable
  | step prior acted ih =>
      cases act_sound acted with
      | run t => exact ih.step prior.channel t
      | put => exact ⟨ih.1,ih.2,ih.3,ih.4,ih.5,ih.6,ih.7⟩
      | exit => exact ⟨ih.1,ih.2,ih.3,ih.4,ih.5,ih.6,ih.7⟩

end

section
variable {host : Host} {runnable : Runnable} {w : World} {self : Option Runnable} {s : Session} {now : ℚ}

-- An empty poll past the deadline ends the run: a heartbeat at most, `process.terminate()`, the
-- timeout Finished.
theorem empty_poll_past_deadline_times_out (here : s.gen.pc = .empty now) (empty : s.queue = [])
    (exceeded : s.gen.timeout.exceeded (now - s.gen.timeStarted)) :
    ∃ s', (World.mk self s).play host (if s.gen.due now then List.replicate 4 (.run .next) else List.replicate 3 (.run .next)) =
        some ⟨self,s'⟩ ∧ s'.gen.pc = .exhausted ∧ s'.terminated ∧
      s'.yielded = s.yielded ++ (if s.gen.due now then [.running,.timedOut] else [.timedOut]) := by
  by_cases due : s.gen.due now <;>
    simp [due,World.play,World.act,Session.act,Session.step,here,empty,poll_pc,Gen.deadline,exceeded]

def timeoutOne : Message := (Sent.earlyState (Dict.set [("timeout",.int 1)] "type" (.str "early_state"))).message

-- The worker puts that early_state at once; `run` takes it at its poll at 1 and polls again at 5.
def quietRun : List Action :=
  [.run .next,.run .next,.run .next,.run .next,.put timeoutOne,.run (.clock 0),.run .next,.run (.clock 1),
    .run .next,.run .next,.run .next,.run .next,.run (.clock 5)]

def quietWorld : World := ((World.mk none (.init passRunnable)).play checkHost quietRun).getD ⟨none,.init passRunnable⟩

theorem quietWorld_reachable : Reachable checkHost passRunnable quietWorld :=
  (Reachable.init none).play quietRun rfl

theorem quietWorld_past_deadline : quietWorld.session.gen.timeout.exceeded (5 - quietWorld.session.gen.timeStarted) := by
  rw [show quietWorld.session.gen.timeout = .finite 1 from rfl,show quietWorld.session.gen.timeStarted = 0 from rfl]
  simp [PyFloat.exceeded]

-- The timeout Finished comes only after `process.terminate()`, at an empty poll past a timeout
-- that the last early_state taken gave.
theorem run_times_out_only_past_installed_deadline (reached : Reachable host runnable w)
    (timedOut : w.session.gen.pc = .timedOut ∨ .timedOut ∈ w.session.yielded) :
    w.session.terminated ∧ ∃ now m, w.session.polls.getLast? = some ⟨now,true⟩ ∧
      m ∈ w.session.received ∧ m.isEarlyState ∧ lastEarly w.session.received = some m ∧
      (m.get "timeout").truthy ∧ (m.get "timeout").toFloat host.parseFloat = .ok w.session.gen.timeout ∧
      w.session.gen.timeout.exceeded (now - w.session.gen.timeStarted) := by
  obtain ⟨terminated,now,m,last,lastM,truthy,converted,exceeded⟩ := reached.timing.timedOutAfter timedOut
  obtain ⟨member,early⟩ := lastEarly_mem lastM
  exact ⟨terminated,now,m,last,member,early,lastM,truthy,converted,exceeded⟩

theorem silent_test_times_out :
    ∃ w, Reachable checkHost passRunnable w ∧ (w.session.gen.pc = .timedOut ∨ .timedOut ∈ w.session.yielded) ∧
      w.session.terminated ∧ ∃ now m, w.session.polls.getLast? = some ⟨now,true⟩ ∧
        m ∈ w.session.received ∧ m.isEarlyState ∧ lastEarly w.session.received = some m ∧
        (m.get "timeout").truthy ∧ (m.get "timeout").toFloat checkHost.parseFloat = .ok w.session.gen.timeout ∧
        w.session.gen.timeout.exceeded (now - w.session.gen.timeStarted) := by
  obtain ⟨s',played,-,-,yielded⟩ : ∃ s', World.play checkHost ⟨quietWorld.self,quietWorld.session⟩ _ =
      some ⟨quietWorld.self,s'⟩ ∧ _ :=
    empty_poll_past_deadline_times_out (rfl : quietWorld.session.gen.pc = .empty 5) rfl quietWorld_past_deadline
  have reached := quietWorld_reachable.play _ played
  have timedOut : .timedOut ∈ s'.yielded := by rw [yielded]; split <;> simp
  exact ⟨_,reached,.inr timedOut,run_times_out_only_past_installed_deadline reached (.inr timedOut)⟩

-- The loop sleeps again after an empty poll only while the installed deadline has not passed.
theorem run_sleeps_only_before_deadline (reached : Reachable host runnable w) (asleep : w.session.gen.pc = .sleep)
    (last : w.session.polls.getLast? = some ⟨now,true⟩) :
    w.session.gen.timeout.exceeded (now - w.session.gen.timeStarted) = false :=
  reached.timing.waiting asleep now last

def idleRun : List Action :=
  [.run .next,.run .next,.run .next,.run .next,.run (.clock 0),.run .next,.run (.clock 1),.run .next,.run .next]

def idleWorld : World := ((World.mk none (.init passRunnable)).play checkHost idleRun).getD ⟨none,.init passRunnable⟩

theorem idleWorld_reachable : Reachable checkHost passRunnable idleWorld :=
  (Reachable.init none).play idleRun rfl

theorem idle_test_sleeps_before_deadline :
    idleWorld.session.gen.pc = .sleep ∧ idleWorld.session.polls.getLast? = some ⟨1,true⟩ ∧
      idleWorld.session.gen.timeout.exceeded (1 - idleWorld.session.gen.timeStarted) = false :=
  ⟨rfl,rfl,run_sleeps_only_before_deadline idleWorld_reachable rfl rfl⟩

-- Line 151 takes the head of a non-empty queue whatever the time.
theorem poll_forwards_past_deadline (here : s.gen.pc = .empty now) (head : s.queue = m :: rest)
    (late : m.isEarlyState = false) (unfinished : m.isFinished = false) :
    ∃ s', (World.mk self s).play host (List.replicate 3 (.run .next)) = some ⟨self,s'⟩ ∧ s'.gen.pc = .sleep ∧
      s'.queue = rest ∧ s'.yielded = s.yielded ++ [.forwarded m] ∧ s'.terminated = s.terminated ∧
      s'.gen.timeout = s.gen.timeout ∧ s'.process = s.process := by
  simp [World.play,World.act,Session.act,Session.step,Session.poll,here,head,late,unfinished,completion,
    Session.goto,Session.emit]
-- A test that logs again before the poll at 5, past the deadline.
def chattyRun : List Action := quietRun.take 12 ++ [.put (Sent.log "tick").message,.run (.clock 5)]

def chattyWorld : World := ((World.mk none (.init passRunnable)).play checkHost chattyRun).getD ⟨none,.init passRunnable⟩

theorem chatty_test_outruns_timeout :
    ∃ w, Reachable checkHost passRunnable w ∧ w.session.gen.pc = .empty 5 ∧
      w.session.queue = [(Sent.log "tick").message] ∧ (Sent.log "tick").message.isEarlyState = false ∧
      (Sent.log "tick").message.isFinished = false ∧ w.session.gen.timeout.exceeded (5 - w.session.gen.timeStarted) ∧
      w.session.terminated = false ∧
      ∃ s', (World.mk w.self w.session).play checkHost (List.replicate 3 (.run .next)) = some ⟨w.self,s'⟩ ∧
        s'.gen.pc = .sleep ∧ s'.queue = [] ∧ s'.yielded = w.session.yielded ++ [.forwarded (Sent.log "tick").message] ∧
        s'.terminated = w.session.terminated ∧ s'.gen.timeout = w.session.gen.timeout ∧ s'.process = w.session.process := by
  have past : chattyWorld.session.gen.timeout.exceeded (5 - chattyWorld.session.gen.timeStarted) := by
    rw [show chattyWorld.session.gen.timeout = .finite 1 from rfl,show chattyWorld.session.gen.timeStarted = 0 from rfl]
    simp [PyFloat.exceeded]
  exact ⟨chattyWorld,(Reachable.init none).play chattyRun rfl,rfl,rfl,rfl,rfl,past,rfl,
    poll_forwards_past_deadline rfl rfl rfl rfl⟩

-- Line 162 raises when `float()` rejects the timeout field.
theorem rejected_timeout_leaves_worker (reached : Reachable host runnable w) (here : w.session.gen.pc = .install m)
    (rejected : (timeoutArg m).toFloat host.parseFloat = .error e) (caught : e.isException) (str : e.str = some reason) :
    ∃ s', w.play host (List.replicate 3 (.run .next)) = some ⟨w.self,s'⟩ ∧ s'.gen.pc = .exhausted ∧
      s'.yielded = w.session.yielded ++ [.stderr e.traceback,.errored e reason] ∧ s'.terminated = false ∧
      s'.process = w.session.process ∧ ∀ x ∈ s'.received, x.isFinished → x.isEarlyState := by
  have channel := reached.channel
  have running : w.session.terminated = false := by
    cases killed : w.session.terminated
    · rfl
    · rcases reached.timing.reaped killed with stopped | stopped <;> simp [here] at stopped
  obtain ⟨before,same,unfinished⟩ := channel.held m (by simp [here])
  have early := (channel.sorted m (by simp [here])).mpr here
  simp [World.play,World.act,Session.act,Session.step,here,rejected,Pc.catch,caught,PyException.toStr_of_str str,running]
  intro x member finished
  rcases List.mem_append.mp (same ▸ member) with old | new
  · simp [unfinished x old] at finished
  · rw [List.mem_singleton.mp new]; exact early

def badTimeout : Message :=
  (Sent.earlyState (Dict.set [("timeout",.object "list" true none)] "type" (.str "early_state"))).message

def rejectedRun : List Action :=
  [.run .next,.run .next,.run .next,.run .next,.put badTimeout,.run (.clock 0),.run .next,.run (.clock 1),
    .run .next,.run .next]

def rejectedWorld : World := ((World.mk none (.init passRunnable)).play checkHost rejectedRun).getD ⟨none,.init passRunnable⟩

theorem unconvertible_timeout_leaves_worker_running :
    ∃ w e reason, Reachable checkHost passRunnable w ∧ w.session.gen.pc = .install badTimeout ∧
      (timeoutArg badTimeout).toFloat checkHost.parseFloat = .error e ∧ e.isException ∧ e.str = some reason ∧
      w.session.process = .running passRunnable ∧
      ∃ s', w.play checkHost (List.replicate 3 (.run .next)) = some ⟨w.self,s'⟩ ∧ s'.gen.pc = .exhausted ∧
        s'.yielded = w.session.yielded ++ [.stderr e.traceback,.errored e reason] ∧ s'.terminated = false ∧
        s'.process = w.session.process ∧ ∀ x ∈ s'.received, x.isFinished → x.isEarlyState :=
  have reached : Reachable checkHost passRunnable rejectedWorld := (Reachable.init none).play rejectedRun rfl
  ⟨rejectedWorld,_,_,reached,rfl,rfl,rfl,rfl,rfl,rejected_timeout_leaves_worker reached rfl rfl rfl rfl⟩

end

-- Lines 149-155 short of `queue.get()` and of `process.terminate()`.
def Pc.idle : Pc → Bool
  | .sleep | .clock | .empty _ | .heartbeat _ => true
  | _ => false

attribute [simp] Pc.idle.eq_1 Pc.idle.eq_2 Pc.idle.eq_3 Pc.idle.eq_4 Pc.idle.eq_5

-- The worker has exited, the queue is empty and no timeout is in force, between two polls.
def Stalled (s : Session) : Prop :=
  (∃ r, s.process = .exited r) ∧ s.queue = [] ∧ s.gen.timeout = .inf ∧ s.gen.pc.idle

theorem deadline_unbounded (g : Gen) (now : ℚ) (unbounded : g.timeout = .inf) : g.deadline now = .sleep := by
  simp [Gen.deadline,unbounded]

section
variable {host : Host} {self : Option Runnable} {s : Session} {w' : World}

-- Unless one of `run`'s own lines raises, the run yields heartbeats only from there.
theorem Stalled.act (stalled : Stalled s) (calm : ∀ e, a ≠ .run (.raise e))
    (acted : (World.mk self s).act host a = some w') :
    Stalled w'.session ∧ (w'.session.yielded = s.yielded ∨ w'.session.yielded = s.yielded ++ [.running]) := by
  obtain ⟨⟨r,exited⟩,drained,unbounded,idle⟩ := stalled
  obtain ⟨⟨self',s'⟩,stepped,rfl⟩ := Option.map_eq_some'.mp acted
  cases a with
  | put m => simp [Session.act,exited] at stepped
  | exit => simp [Session.act,exited] at stepped
  | run input =>
      cases input with
      | raise e => exact absurd rfl (calm e)
      | _ =>
          cases here : s.gen.pc <;> simp [here] at idle <;>
            simp only [Session.act,Session.step,here,Option.some.injEq,Prod.mk.injEq,reduceCtorEq] at stepped <;>
            obtain ⟨rfl,rfl⟩ := stepped <;>
            simp_all [Stalled,poll_pc,apply_ite Pc.idle,deadline_unbounded]

theorem stalled_run_only_beats (stalled : Stalled s) (calm : ∀ e, Action.run (.raise e) ∉ actions)
    (played : (World.mk self s).play host actions = some w') :
    Stalled w'.session ∧ ∃ beats, w'.session.yielded = s.yielded ++ List.replicate beats .running := by
  induction actions generalizing self s with
  | nil => cases played; exact ⟨stalled,0,by simp⟩
  | cons a rest ih =>
      simp only [World.play,Option.bind_eq_some] at played
      obtain ⟨next,acted,played⟩ := played
      obtain ⟨stalled',yielded⟩ := stalled.act (fun e same => calm e (same ▸ List.mem_cons_self _ _)) acted
      obtain ⟨stalledW,beats,later⟩ := ih stalled' (fun e member => calm e (List.mem_cons_of_mem _ member)) played
      refine ⟨stalledW,?_⟩
      rcases yielded with same | beat
      · exact ⟨beats,by rw [later,same]⟩
      · exact ⟨beats + 1,by rw [later,beat,List.replicate_succ]; simp⟩
end

-- The worker exits before it puts anything, as when its test module calls `os._exit` while it is
-- imported; `run` reads its clock at 0, then polls once at 1.
def exitRun : List Action := [.run .next,.run .next,.run .next,.run .next,.exit,.run (.clock 0)]

def beatCycle : List Action := [.run .next,.run (.clock 1),.run .next,.run .next]

def exitedWorld : World := ((World.mk none (.init passRunnable)).play checkHost exitRun).getD ⟨none,.init passRunnable⟩

def beatWorld : World := (exitedWorld.play checkHost beatCycle).getD exitedWorld

theorem exited_worker_keeps_run_beating :
    Reachable checkHost passRunnable exitedWorld ∧ Stalled exitedWorld.session ∧
      (∀ e, Action.run (.raise e) ∉ beatCycle) ∧ exitedWorld.play checkHost beatCycle = some beatWorld ∧
      (Stalled beatWorld.session ∧
        ∃ beats, beatWorld.session.yielded = exitedWorld.session.yielded ++ List.replicate beats .running) ∧
      beatWorld.session.yielded = [.started,.running] ∧ beatWorld.session.gen.pc = .sleep :=
  have stalled : Stalled exitedWorld.session := ⟨⟨passRunnable,rfl⟩,rfl,rfl,rfl⟩
  ⟨(Reachable.init none).play exitRun rfl,stalled,by simp [beatCycle],rfl,
    stalled_run_only_beats stalled (by simp [beatCycle])
      (show exitedWorld.play checkHost beatCycle = some beatWorld from rfl),rfl,rfl⟩

-- With one call of `run` per runner object, the worker runs that call's runnable.
structure Owned (runnable : Runnable) (w : World) : Prop where
  argument : w.session.gen.runnable = runnable
  owner : w.session.gen.pc ≠ .fresh → w.self = some runnable
  target : ∀ r, w.session.gen.target = some r → r = runnable
  spawned : ∀ r, w.session.process = .running r ∨ w.session.process = .exited r → r = runnable

def failRunnable : Runnable := ⟨"examples/tests/failtest.py:FailTest.test",none,some "/tmp/results",[],none⟩

section
variable {host : Host} {runnable : Runnable} {w : World}

theorem Owned.step (owned : Owned runnable w) (t : Transition host w.self w.session self' s') :
    Owned runnable ⟨self',s'⟩ := by
  obtain ⟨argument,owner,target,spawned⟩ := owned
  cases t with
  | started here => exact ⟨argument,by simp [argument],target,spawned⟩
  | makeProcess here set =>
      have owned := owner (by simp [here])
      refine ⟨argument,fun _ => owned,fun r same => ?_,spawned⟩
      simp only [goto_gen,Option.some.injEq] at same
      simpa [same,set] using owned
  | start here chosen =>
      refine ⟨argument,fun _ => owner (by simp [here]),target,fun r process => ?_⟩
      simp only [goto_process,Process.running.injEq,reduceCtorEq,or_false] at process
      exact target r (process ▸ chosen)
  | raise calls e => exact ⟨argument,fun _ => owner (Pc.ne_fresh_of_calls calls),target,spawned⟩
  | poll here => exact ⟨by simpa using argument,fun _ => owner (by simp [here]),by simpa using target,by simpa using spawned⟩
  | _ => exact ⟨argument,fun _ => owner (by simp [*]),target,spawned⟩

theorem Reachable.owned (reached : Reachable host runnable w) : Owned runnable w := by
  induction reached with
  | init => exact ⟨rfl,fun fresh => absurd rfl fresh,by simp [Session.init],by simp [Session.init]⟩
  | step _ acted ih =>
      cases act_sound acted with
      | run t => exact ih.step t
      | put => exact ⟨ih.1,ih.2,ih.3,ih.4⟩
      | exit running =>
          refine ⟨ih.1,ih.2,ih.3,fun r exited => ih.4 r (.inl ?_)⟩
          simp only [Process.exited.injEq,reduceCtorEq,false_or] at exited
          rw [running,exited]

theorem run_spawns_own_runnable (reached : Reachable host runnable w) (spawned : w.session.process = .running r) :
    r = runnable :=
  reached.owned.spawned r (.inl spawned)

-- A runner object whose earlier call ran the failing test.
def reusedRunnerWorld : World :=
  ((World.mk (some failRunnable) (.init passRunnable)).play checkHost (List.replicate 4 (.run .next))).getD
    ⟨none,.init passRunnable⟩

theorem reused_runner_worker_runs_its_runnable :
    (World.mk (some failRunnable) (.init passRunnable)).play checkHost (List.replicate 4 (.run .next)) =
        some reusedRunnerWorld ∧ reusedRunnerWorld.session.process = .running passRunnable ∧
      passRunnable = passRunnable :=
  have played : (World.mk (some failRunnable) (.init passRunnable)).play checkHost (List.replicate 4 (.run .next)) =
      some reusedRunnerWorld := rfl
  ⟨played,rfl,run_spawns_own_runnable ((Reachable.init (some failRunnable)).play _ played) rfl⟩

end

-- One runner object and two calls of its `run`, advanced in any interleaving (`true`: the second).
structure Pair where
  self : Option Runnable
  first : Session
  second : Session
  deriving DecidableEq, Repr

def Pair.init (r1 r2 : Runnable) : Pair := ⟨none,Session.init r1,Session.init r2⟩

def Pair.act (host : Host) (p : Pair) : Bool × Action → Option Pair
  | (false,a) => (p.first.act host p.self a).map fun (self,s) => {p with self := self,first := s}
  | (true,a) => (p.second.act host p.self a).map fun (self,s) => {p with self := self,second := s}

def Pair.play (host : Host) : Pair → List (Bool × Action) → Option Pair
  | p,[] => some p
  | p,a :: rest => (p.act host a).bind fun next => next.play host rest

-- Line 139 reads `self.runnable`, which a second call's line 134 may have overwritten.
theorem interleaved_call_swaps_worker_runnable {host : Host} {p : Pair} (first : p.first.gen.pc = .makeProcess)
    (second : p.second.gen.pc = .fresh) :
    ∃ p', p.play host [(true,.run .next),(false,.run .next),(false,.run .next)] = some p' ∧
      p'.first.process = .running p.second.gen.runnable := by
  simp [Pair.play,Pair.act,Session.act,Session.step,first,second]

def firstCallAtSpawn : Pair :=
  ((Pair.init passRunnable failRunnable).play checkHost [(false,.run .next),(false,.run .next)]).getD
    (Pair.init passRunnable failRunnable)

theorem second_call_hijacks_first_worker :
    (Pair.init passRunnable failRunnable).play checkHost [(false,.run .next),(false,.run .next)] = some firstCallAtSpawn ∧
      firstCallAtSpawn.first.gen.runnable = passRunnable ∧ firstCallAtSpawn.first.gen.pc = .makeProcess ∧
      firstCallAtSpawn.second.gen.pc = .fresh ∧
      ∃ p', firstCallAtSpawn.play checkHost [(true,.run .next),(false,.run .next),(false,.run .next)] = some p' ∧
        p'.first.process = .running firstCallAtSpawn.second.gen.runnable :=
  ⟨rfl,rfl,rfl,rfl,interleaved_call_swaps_worker_runnable rfl rfl⟩

end AvocadoInstrumented
