import AvocadoInstrumented.WorkerOutput
import AvocadoInstrumented.Delivery

namespace AvocadoInstrumented
open AvocadoInstrumentedTestRunner

theorem eq_of_prefix_last {P : α → Prop} {before pre post : List α} {m fin : α}
    (taken : before ++ [m] <+: pre ++ fin :: post) (without : ∀ x ∈ pre ++ post, ¬P x) (holds : P m) :
    before = pre ∧ m = fin := by
  induction pre generalizing before with
  | nil =>
      cases before with
      | nil => exact ⟨rfl,(List.cons_prefix_cons.mp taken).1⟩
      | cons b before =>
          have inPost := (List.cons_prefix_cons.mp taken).2.subset (List.mem_append_right before (List.mem_singleton_self m))
          exact absurd holds (without m inPost)
  | cons x pre ih =>
      cases before with
      | nil => exact absurd ((List.cons_prefix_cons.mp taken).1 ▸ holds) (without x (List.mem_cons_self x _))
      | cons b before =>
          obtain ⟨rfl,rest⟩ := List.cons_prefix_cons.mp taken
          obtain ⟨rfl,rfl⟩ := ih rest fun y member => without y (List.mem_cons_of_mem b member)
          exact ⟨rfl,rfl⟩

@[simp] theorem forwarded_map (ms : List Message) : forwarded (ms.map .forwarded) = ms := by
  simp [forwarded,List.filterMap_map,Function.comp_def,Yield.forwarded?]

theorem marked_filter (marked : Marked snap out) :
    (out.map Sent.message).filter (!·.isEarlyState) = (out.filter (!·.isEarlyState)).map Sent.message := by
  rw [List.filter_map]
  exact congrArg _ (List.filter_congr fun m member => by simp [(marked m member).1])

theorem Quiet.unfinished (quiet : Quiet out) : Unfinished (out.map Sent.message) := fun m member => by
  obtain ⟨y,inOut,rfl⟩ := List.mem_map.mp member
  rw [Sent.message_isFinished (quiet y inOut).2]; exact (quiet y inOut).1

theorem lateOutput_quiet (runnable : Runnable) (unit : TestUnit) (environ : Bool) :
    Quiet (lateOutput runnable unit environ) := by
  unfold lateOutput; split <;> simp

section
variable {runnable : Runnable} {unit : TestUnit} {environ : Bool} {before : List Message} {m : Message}

-- The body sends nothing after its finished message, and the test's threads log none.
theorem output_of_prefix_finished (taken : before ++ [m] <+: (workerOutput runnable unit environ).map Sent.message)
    (finished : m.isFinished) (late : m.isEarlyState = false) :
    before ++ [m] = (worker runnable unit environ).2.sent.map Sent.message := by
  have marked := worker_marked runnable unit environ
  have settled := worker_finished_last runnable unit environ
  have lateUnfinished := (lateOutput_quiet runnable unit environ).unfinished
  rw [workerOutput,List.map_append] at taken
  rcases List.eq_nil_or_concat (worker runnable unit environ).2.sent with empty | ⟨pre,last,split⟩
  · have inLate : m ∈ (lateOutput runnable unit environ).map Sent.message := by
      simpa [empty] using taken.subset (List.mem_append_right before (List.mem_singleton_self m))
    simp [lateUnfinished m inLate] at finished
  rw [split,List.concat_eq_append] at marked settled ⊢
  rw [split,List.concat_eq_append,List.map_append,List.map_singleton,List.append_assoc,List.singleton_append] at taken
  obtain ⟨rfl,rfl⟩ := @eq_of_prefix_last _ (fun x : Message => x.isFinished ∧ x.isEarlyState = false) _ _ _ _ _ taken
    (fun x member => by
      rcases List.mem_append.mp member with inPre | inLate
      · obtain ⟨y,inPreSent,rfl⟩ := List.mem_map.mp inPre
        have unfinished : y.isFinished = false := settled y (by simpa using inPreSent)
        cases early : y.isEarlyState
        · simp [Sent.message_isFinished early,unfinished]
        · simp [(marked y (by simp [inPreSent])).1,early]
      · simp [lateUnfinished x inLate])
    ⟨finished,late⟩
  simp
end

section
variable {host : Host} {runnable : Runnable} {w : World} {unit : TestUnit} {environ : Bool} {m : Message}

-- Once `run` has forwarded a finished message it has taken exactly the body's messages; what is
-- still queued is what the test's threads logged after the body's last put.
theorem run_forwards_worker_output (reached : Reachable host runnable w)
    (putting : w.session.enqueued <+: (workerOutput runnable unit environ).map Sent.message)
    (last : w.session.yielded.getLast? = some (.forwarded m)) (finished : m.isFinished) :
    w.session.received = (worker runnable unit environ).2.sent.map Sent.message ∧ w.session.dropped = [] ∧
      w.session.queue <+: (lateOutput runnable unit environ).map Sent.message ∧
      forwarded w.session.yielded = ((worker runnable unit environ).2.sent.filter (!·.isEarlyState)).map Sent.message := by
  obtain ⟨-,fifo,forwards,-,-,-,-,quiet,ended⟩ := reached.channel
  have yieldedM := List.mem_of_getLast?_eq_some last
  have done : w.session.gen.pc = .exhausted := by
    by_contra running
    simpa [finished] using quiet running _ yieldedM
  rw [done,Pc.pending.eq_def,List.append_nil] at forwards
  have late : m.isEarlyState = false := by
    have forwardedM : m ∈ forwarded w.session.yielded := List.mem_filterMap.mpr ⟨_,yieldedM,rfl⟩
    simp only [forwards,List.mem_filter,Bool.not_eq_true'] at forwardedM
    exact forwardedM.2
  obtain ⟨before,same,-,dropped⟩ := ended m last finished
  have taken : w.session.received <+: w.session.enqueued := ⟨w.session.dropped ++ w.session.queue,by simp [fifo]⟩
  have whole := output_of_prefix_finished (same ▸ taken.trans putting) finished late
  rw [← same] at whole
  refine ⟨whole,dropped,?_,?_⟩
  · rw [fifo,whole,dropped,List.append_nil,workerOutput,List.map_append] at putting
    exact List.prefix_append_right_inj _ |>.mp putting
  · rw [forwards,whole,marked_filter (worker_marked runnable unit environ)]
end

def passUnit : TestUnit :=
  {runAvocado := {logs := ["PASS"]},earlySnapshot := [("status",.none)],
    finalSnapshot := [("status",.str "PASS"),("whiteboard",.str "")]}

-- A thread of the test logs once more after the worker's finished message.
def lingeringUnit : TestUnit := {passUnit with lateLogs := ["thread done"]}

theorem lingeringUnit_handled : lingeringUnit.Raises Handled := by
  simp [TestUnit.Raises,TestUnit.calls,lingeringUnit,passUnit]

def lingeringWorld : World := (passWorld.play checkHost [.put (logMessage "thread done")]).getD passWorld

theorem lingering_test_forwards_worker_output :
    Reachable checkHost passRunnable lingeringWorld ∧
      lingeringWorld.session.enqueued <+: (workerOutput passRunnable lingeringUnit false).map Sent.message ∧
      lingeringWorld.session.yielded.getLast? = some (.forwarded passFinished) ∧ passFinished.isFinished ∧
      lingeringWorld.session.queue = [logMessage "thread done"] ∧
      (lingeringWorld.session.received = (worker passRunnable lingeringUnit false).2.sent.map Sent.message ∧
        lingeringWorld.session.dropped = [] ∧
        lingeringWorld.session.queue <+: (lateOutput passRunnable lingeringUnit false).map Sent.message ∧
        forwarded lingeringWorld.session.yielded =
          ((worker passRunnable lingeringUnit false).2.sent.filter (!·.isEarlyState)).map Sent.message) :=
  have reached : Reachable checkHost passRunnable lingeringWorld :=
    passWorld_reachable.play [.put (logMessage "thread done")] rfl
  have putting : lingeringWorld.session.enqueued <+: (workerOutput passRunnable lingeringUnit false).map Sent.message :=
    ⟨[],by with_unfolding_all rfl⟩
  ⟨reached,putting,rfl,rfl,rfl,run_forwards_worker_output reached putting rfl rfl⟩

-- `run` starts the worker, which puts all it puts and exits; `run` then polls once a message.
def deliveryRun (sent : List Message) (start : ℚ) (clock : List ℚ) : List Action :=
  List.replicate 4 (.run .next) ++ sent.map .put ++ [.exit,.run (.clock start)] ++ clock.flatMap pollCycle

def queuedSession (runnable : Runnable) (sent : List Message) (start : ℚ) : Session :=
  ⟨⟨runnable,.sleep,some runnable,start,.inf,none⟩,sent,.exited runnable,false,sent,[],[],[],[.started]⟩

section
variable {host : Host} {s : Session} {self : Option Runnable}

theorem play_puts (running : s.process = .running r) (ms : List Message) :
    (World.mk self s).play host (ms.map .put) =
      some ⟨self,{s with queue := s.queue ++ ms,enqueued := s.enqueued ++ ms}⟩ := by
  induction ms generalizing s with
  | nil => simp [World.play]
  | cons m ms ih =>
      have next := @ih {s with queue := s.queue ++ [m],enqueued := s.enqueued ++ [m]} running
      simpa [World.play,World.act,Session.act,running] using next
end

theorem play_queued (host : Host) (self : Option Runnable) (runnable : Runnable) (sent : List Message) (start : ℚ) :
    (World.mk self (.init runnable)).play host (List.replicate 4 (.run .next) ++ sent.map .put ++
      [.exit,.run (.clock start)]) = some ⟨some runnable,queuedSession runnable sent start⟩ := by
  rw [World.play_append,World.play_append,show (World.mk self (.init runnable)).play host (List.replicate 4 (.run .next)) =
    some ⟨some runnable,⟨⟨runnable,.clockStart,some runnable,0,.inf,none⟩,[],.running runnable,false,[],[],[],[],
      [.started]⟩⟩ from rfl]
  simp only [Option.some_bind]
  rw [play_puts rfl]
  rfl

def lingeringQueued : World :=
  ⟨some passRunnable,queuedSession passRunnable ((workerOutput passRunnable lingeringUnit false).map Sent.message) 0⟩

section
variable {host : Host} {runnable : Runnable} {w : World} {unit : TestUnit} {environ : Bool}

-- `run`'s loop drains the body's messages to its finished one; what came after them stays queued.
theorem drains_body_then_rest (reached : Reachable host runnable w) (tame : unit.Raises Handled)
    (unfinished : Message.isFinished (unit.earlySnapshot.set "type" (.str "early_state")) = false)
    (converts : ∃ t, (timeoutArg (unit.earlySnapshot.set "type" (.str "early_state"))).toFloat host.parseFloat = .ok t)
    (extra : List Sent)
    (putAll : w.session.enqueued = ((worker runnable unit environ).2.sent ++ extra).map Sent.message)
    (here : w.session.gen.pc = .sleep) (clock : List ℚ) (enough : clock.length + extra.length = w.session.queue.length) :
    ∃ s', w.play host (clock.flatMap pollCycle) = some ⟨w.self,s'⟩ ∧ s'.gen.pc = .exhausted ∧
      s'.queue = extra.map Sent.message ∧
      (∃ ms, w.session.queue = ms ++ extra.map Sent.message ∧
        s'.yielded = w.session.yielded ++ (ms.filter (!·.isEarlyState)).map .forwarded) ∧
      forwarded s'.yielded = ((worker runnable unit environ).2.sent.filter (!·.isEarlyState)).map Sent.message := by
  obtain ⟨live,fifo,forwards,-,-,looping,-,-,-⟩ := reached.channel
  obtain ⟨-,pre,fin,split,finished,before,-⟩ := run_avocado_ends runnable unit tame (Worker.start environ)
  rw [show (Worker.start environ).sent = [] from rfl,List.nil_append] at split
  have marked := worker_marked runnable unit environ
  change (worker runnable unit environ).2.sent = pre ++ [fin] at split
  rw [split] at marked putAll ⊢
  rw [here] at live forwards looping
  rw [live rfl,List.append_nil,putAll,List.map_append,List.map_append,List.map_singleton,List.append_assoc,
    List.singleton_append] at fifo
  have finishedM : fin.message.isFinished := by
    rw [Sent.message_isFinished (Sent.late_of_finished finished)]; exact finished
  obtain ⟨ms,queued,taken⟩ : ∃ ms, w.session.queue = ms ++ fin.message :: extra.map Sent.message ∧
      w.session.received ++ ms = pre.map Sent.message := by
    rcases List.append_eq_append_iff.mp fifo.symm with ⟨ms,same,queued⟩ | ⟨c,past,rest⟩
    · exact ⟨ms,queued,same.symm⟩
    · cases c with
      | nil => exact ⟨[],by simpa using rest.symm,by simpa using past⟩
      | cons x c =>
          obtain ⟨rfl,-⟩ := List.cons_eq_cons.mp rest
          have read := looping rfl _ (past ▸ List.mem_append_right _ (List.mem_cons_self _ c))
          simp [finishedM] at read
  have early : ∀ y ∈ pre ++ [fin], y.isEarlyState → y.message = unit.earlySnapshot.set "type" (.str "early_state") :=
    fun y member => (marked y member).2
  have unfinishedPre : Unfinished (pre.map Sent.message) := fun m member => by
    obtain ⟨y,inPre,rfl⟩ := List.mem_map.mp member
    cases late : y.isEarlyState
    · rw [Sent.message_isFinished late]; exact before.1 y inPre
    · rw [early y (by simp [inPre]) late]; exact unfinished
  have convertsOut : ∀ m ∈ ms ++ [fin.message], m.isEarlyState → ∃ t, (timeoutArg m).toFloat host.parseFloat = .ok t := by
    intro m member isEarly
    obtain ⟨y,inOut,rfl⟩ : ∃ y ∈ pre ++ [fin], y.message = m := by
      rw [← List.mem_map,List.map_append,List.map_singleton,← taken,List.append_assoc]
      exact List.mem_append_right _ member
    rw [early y inOut ((marked y inOut).1 ▸ isEarly)]; exact converts
  obtain ⟨init,now,rfl⟩ : ∃ init now, clock = init ++ [now] := by
    rcases List.eq_nil_or_concat clock with rfl | ⟨init,now,rfl⟩
    · simp [queued] at enough; omega
    · exact ⟨init,now,List.concat_eq_append init now⟩
  obtain ⟨s',played,back,rest,yielded⟩ := poll_cycles_take here queued
    (fun m member => unfinishedPre m (taken ▸ List.mem_append_right _ member))
    (fun m member => convertsOut m (List.mem_append_left _ member)) init
    (by simp [queued] at enough; omega)
  obtain ⟨s'',played',pc,drained,yielded'⟩ := poll_cycle_takes w.self now back rest (convertsOut _ (by simp))
  have forwardsW : forwarded w.session.yielded = w.session.received.filter (!·.isEarlyState) := by
    simpa using forwards
  have forwardedAll : forwarded s''.yielded = (pre.map Sent.message ++ [fin.message]).filter (!·.isEarlyState) := by
    rw [yielded',yielded,forwarded_append,forwarded_append,forwarded_map,forwardsW,← taken]
    cases early : fin.message.isEarlyState <;> simp [early,forwarded,Yield.forwarded?]
  refine ⟨s'',by rw [List.flatMap_append,World.play_append,played]; simpa using played',by simp [pc,finishedM],
    drained,⟨ms ++ [fin.message],by simp [queued],?_⟩,?_⟩
  · rw [yielded',yielded,List.filter_append,List.map_append,List.append_assoc]
    cases early : fin.message.isEarlyState <;> simp [early]
  · rw [forwardedAll,← List.map_singleton,← List.map_append,marked_filter marked]

-- From any interleaving, once the worker process has put all it puts, `run` ends by its own
-- steps at the body's finished message; the threads' later records stay queued.
theorem run_drains_worker_output (reached : Reachable host runnable w) (tame : unit.Raises Handled)
    (unfinished : Message.isFinished (unit.earlySnapshot.set "type" (.str "early_state")) = false)
    (converts : ∃ t, (timeoutArg (unit.earlySnapshot.set "type" (.str "early_state"))).toFloat host.parseFloat = .ok t)
    (putAll : w.session.enqueued = (workerOutput runnable unit environ).map Sent.message)
    (here : w.session.gen.pc = .sleep) (clock : List ℚ)
    (enough : clock.length + (lateOutput runnable unit environ).length = w.session.queue.length) :
    ∃ s', w.play host (clock.flatMap pollCycle) = some ⟨w.self,s'⟩ ∧ s'.gen.pc = .exhausted ∧
      s'.queue = (lateOutput runnable unit environ).map Sent.message ∧
      (∃ ms, w.session.queue = ms ++ (lateOutput runnable unit environ).map Sent.message ∧
        s'.yielded = w.session.yielded ++ (ms.filter (!·.isEarlyState)).map .forwarded) ∧
      forwarded s'.yielded = ((worker runnable unit environ).2.sent.filter (!·.isEarlyState)).map Sent.message :=
  drains_body_then_rest reached tame unfinished converts _ putAll here clock enough
end

theorem lingering_test_run_drains :
    Reachable checkHost passRunnable lingeringQueued ∧ lingeringUnit.Raises Handled ∧
      Message.isFinished (lingeringUnit.earlySnapshot.set "type" (.str "early_state")) = false ∧
      (∃ t, (timeoutArg (lingeringUnit.earlySnapshot.set "type" (.str "early_state"))).toFloat checkHost.parseFloat =
        .ok t) ∧
      lingeringQueued.session.enqueued = (workerOutput passRunnable lingeringUnit false).map Sent.message ∧
      lingeringQueued.session.gen.pc = .sleep ∧
      [1,2,3,4].length + (lateOutput passRunnable lingeringUnit false).length = lingeringQueued.session.queue.length ∧
      ∃ s', lingeringQueued.play checkHost ([1,2,3,4].flatMap pollCycle) = some ⟨lingeringQueued.self,s'⟩ ∧
        s'.gen.pc = .exhausted ∧ s'.queue = (lateOutput passRunnable lingeringUnit false).map Sent.message ∧
        (∃ ms, lingeringQueued.session.queue = ms ++ (lateOutput passRunnable lingeringUnit false).map Sent.message ∧
          s'.yielded = lingeringQueued.session.yielded ++ (ms.filter (!·.isEarlyState)).map .forwarded) ∧
        forwarded s'.yielded = ((worker passRunnable lingeringUnit false).2.sent.filter (!·.isEarlyState)).map Sent.message :=
  have reached : Reachable checkHost passRunnable lingeringQueued :=
    (Reachable.init none).play _ (play_queued checkHost none passRunnable _ 0)
  have enough : [1,2,3,4].length + (lateOutput passRunnable lingeringUnit false).length =
      lingeringQueued.session.queue.length := by with_unfolding_all rfl
  ⟨reached,lingeringUnit_handled,rfl,⟨_,rfl⟩,rfl,rfl,enough,
    run_drains_worker_output reached lingeringUnit_handled rfl ⟨_,rfl⟩ rfl rfl _ enough⟩

-- When the worker process runs to its end before `run` polls, `run` yields Started and the body's
-- messages other than the early state, and leaves the threads' later records queued.
theorem worker_output_reaches_caller (host : Host) (self : Option Runnable) (runnable : Runnable) (unit : TestUnit)
    (environ : Bool) (tame : unit.Raises Handled)
    (unfinished : Message.isFinished (unit.earlySnapshot.set "type" (.str "early_state")) = false)
    (converts : ∃ t, (timeoutArg (unit.earlySnapshot.set "type" (.str "early_state"))).toFloat host.parseFloat = .ok t)
    (start : ℚ) (clock : List ℚ) (enough : clock.length = (worker runnable unit environ).2.sent.length) :
    ∃ w, (World.mk self (.init runnable)).play host
        (deliveryRun ((workerOutput runnable unit environ).map Sent.message) start clock) = some w ∧
      w.session.gen.pc = .exhausted ∧ w.session.queue = (lateOutput runnable unit environ).map Sent.message ∧
      w.session.yielded =
        .started :: (((worker runnable unit environ).2.sent.filter (!·.isEarlyState)).map Sent.message).map .forwarded := by
  have queued := play_queued host self runnable ((workerOutput runnable unit environ).map Sent.message) start
  obtain ⟨s',played,done,drained,⟨ms,split,yielded⟩,-⟩ := drains_body_then_rest ((Reachable.init self).play _ queued)
    tame unfinished converts _ rfl rfl clock
    (by simp [queuedSession,workerOutput,enough])
  refine ⟨⟨some runnable,s'⟩,by rw [deliveryRun,World.play_append,queued]; exact played,done,drained,?_⟩
  dsimp only [queuedSession] at split yielded
  rw [workerOutput,List.map_append] at split
  rw [yielded,← List.append_cancel_right split,marked_filter (worker_marked runnable unit environ)]
  rfl

theorem lingering_test_reaches_caller :
    lingeringUnit.Raises Handled ∧
      Message.isFinished (lingeringUnit.earlySnapshot.set "type" (.str "early_state")) = false ∧
      (∃ t, (timeoutArg (lingeringUnit.earlySnapshot.set "type" (.str "early_state"))).toFloat checkHost.parseFloat =
        .ok t) ∧ [1,2,3,4].length = (worker passRunnable lingeringUnit false).2.sent.length ∧
      ∃ w, (World.mk none (.init passRunnable)).play checkHost
          (deliveryRun ((workerOutput passRunnable lingeringUnit false).map Sent.message) 0 [1,2,3,4]) = some w ∧
        w.session.gen.pc = .exhausted ∧
        w.session.queue = (lateOutput passRunnable lingeringUnit false).map Sent.message ∧
        w.session.yielded = .started ::
          (((worker passRunnable lingeringUnit false).2.sent.filter (!·.isEarlyState)).map Sent.message).map .forwarded :=
  have unfinished : Message.isFinished (lingeringUnit.earlySnapshot.set "type" (.str "early_state")) = false := rfl
  have converts : ∃ t, (timeoutArg (lingeringUnit.earlySnapshot.set "type" (.str "early_state"))).toFloat
      checkHost.parseFloat = .ok t := ⟨_,rfl⟩
  have enough : [1,2,3,4].length = (worker passRunnable lingeringUnit false).2.sent.length := by with_unfolding_all rfl
  ⟨lingeringUnit_handled,unfinished,converts,enough,
    worker_output_reaches_caller checkHost none passRunnable lingeringUnit false lingeringUnit_handled unfinished
      converts 0 [1,2,3,4] enough⟩

end AvocadoInstrumented
