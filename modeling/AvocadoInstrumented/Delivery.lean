import AvocadoInstrumented.RunInvariants

namespace AvocadoInstrumented

-- The messages of `ms` up to and including its first finished one (all of `ms` if none is).
def upToFinished : List Message → List Message
  | [] => []
  | m :: rest => if m.isFinished then [m] else m :: upToFinished rest

theorem upToFinished_append (unfinished : Unfinished before) (finished : m.isFinished) (rest : List Message) :
    upToFinished (before ++ m :: rest) = before ++ [m] := by
  induction before with
  | nil => simp [upToFinished,finished]
  | cons x before ih =>
      obtain ⟨unfinishedX,unfinished⟩ := List.forall_mem_cons.mp unfinished
      simp [upToFinished,unfinishedX,ih unfinished]

theorem Pc.pending_cases (pc : Pc) : pc.pending = [] ∨ ∃ m, pc = .forward m := by
  cases pc <;> simp

-- A host with a one-second status interval whose `float()` parses no string.
def checkHost : Host := ⟨1,fun _ => none⟩

-- What the worker puts for a passing test: its early_state without a timeout, a log record,
-- the whiteboard and the finished message.
def passEarly : Message := (Sent.earlyState (Dict.set [("status",.none)] "type" (.str "early_state"))).message
def passLog : Message := (Sent.log "PASS").message
def passWhiteboard : Message := (Sent.whiteboard (.str "")).message
def passFinished : Message := (Sent.finished "pass" .none (.str "PassTest") .none .none).message

-- One poll of `run`: sleep, read the clock, poll, take the head, handle it.
def pollCycle (now : ℚ) : List Action := [.run .next,.run (.clock now),.run .next,.run .next,.run .next]

-- The worker puts its four messages before `run` reads its clock; `run` takes one a poll.
def passRun : List Action :=
  [.run .next,.run .next,.run .next,.run .next] ++ [passEarly,passLog,passWhiteboard,passFinished].map .put ++
    .run (.clock 0) :: pollCycle 1 ++ pollCycle 2 ++ pollCycle 3 ++ pollCycle 4

def passWorld : World := ((World.mk none (.init passRunnable)).play checkHost passRun).getD ⟨none,.init passRunnable⟩

theorem passWorld_reachable : Reachable checkHost passRunnable passWorld :=
  (Reachable.init none).play passRun rfl

theorem passWorld_exhausted : passWorld.session.gen.pc = .exhausted := rfl

variable {host : Host} {runnable : Runnable} {w : World}

-- Whatever `run` yields that it does not make itself is a prefix of what the worker put, with
-- the early_state messages taken out; a run that ends by forwarding a finished message has
-- taken the worker's messages up to its first finished one.
theorem run_forwards_enqueued_prefix (reached : Reachable host runnable w) :
    ∃ k, forwarded w.session.yielded = (w.session.enqueued.take k).filter (!·.isEarlyState) ∧
      ∀ m, w.session.yielded.getLast? = some (.forwarded m) → m.isFinished →
        w.session.enqueued.take k = upToFinished w.session.enqueued := by
  have channel := reached.channel
  obtain ⟨-,fifo,forwards,sorted,-,-,held,quiet,ended⟩ := channel
  have taken : w.session.enqueued.take w.session.received.length = w.session.received := by
    rw [fifo,List.append_assoc,List.take_left]
  rcases w.session.gen.pc.pending_cases with idle | ⟨m,here⟩
  · refine ⟨w.session.received.length,?_,fun m last finished => ?_⟩
    · simpa [taken,idle] using forwards
    · obtain ⟨before,same,unfinished,-⟩ := ended m last finished
      rw [taken,fifo,same,List.append_assoc,List.append_assoc,List.singleton_append,
        upToFinished_append unfinished finished]
  · obtain ⟨before,same,-⟩ := held m (by simp [here])
    have late : m.isEarlyState = false := by simpa [here] using sorted m (by simp [here])
    refine ⟨before.length,?_,fun m' last finished => ?_⟩
    · simpa [fifo,same,here,late] using forwards
    · have unfinished := quiet (by simp [here]) _ (List.mem_of_getLast?_eq_some last)
      simp_all

theorem passing_test_forwarded_in_order :
    forwarded passWorld.session.yielded = [passLog,passWhiteboard,passFinished] ∧
      ∃ k, forwarded passWorld.session.yielded = (passWorld.session.enqueued.take k).filter (!·.isEarlyState) ∧
        ∀ m, passWorld.session.yielded.getLast? = some (.forwarded m) → m.isFinished →
          passWorld.session.enqueued.take k = upToFinished passWorld.session.enqueued :=
  ⟨rfl, run_forwards_enqueued_prefix passWorld_reachable⟩

section
variable {host : Host} {self self' : Option Runnable} {s s' : Session}

theorem fresh_step (t : Transition host self s self' s') (fresh : s.gen.pc = .fresh → s.yielded = []) :
    s'.gen.pc = .fresh → s'.yielded = [] := by
  cases t <;> simp_all [ite_eq_iff]

theorem opened_step (t : Transition host self s self' s') (fresh : s.gen.pc = .fresh → s.yielded = [])
    (opened : s.gen.pc ≠ .fresh → s.yielded.head? = some .started ∧ s.yielded.count .started = 1) :
    s'.gen.pc ≠ .fresh → s'.yielded.head? = some .started ∧ s'.yielded.count .started = 1 := by
  cases t with
  | started here | heartbeat here | timedOut here | forward here | stderr here | errored here | poll here => simp_all
  | raise calls => exact fun _ => opened (Pc.ne_fresh_of_calls calls)
  -- The other lines yield nothing.
  | _ => exact fun _ => opened (by simp [*])

theorem settled_step (t : Transition host self s self' s')
    (quiet : s.gen.pc ≠ .exhausted → ∀ y ∈ s.yielded, y.message.isFinished = false)
    (settled : ∀ y ∈ s.yielded.dropLast, y.message.isFinished = false) :
    ∀ y ∈ s'.yielded.dropLast, y.message.isFinished = false := by
  have before := quiet t.ne_exhausted
  cases t with
  | started | heartbeat | timedOut | forward | stderr | errored => simpa using before
  | poll => simpa using settled
  | _ => exact settled

theorem exhausted_step (t : Transition host self s self' s')
    (held : ∀ m, s.gen.pc.holding = some m → ∃ before, s.received = before ++ [m] ∧ Unfinished before)
    (sorted : ∀ m, s.gen.pc.holding = some m → (m.isEarlyState ↔ s.gen.pc = .install m)) :
    s'.gen.pc = .exhausted → (∃ y, s'.yielded.getLast? = some y ∧ y.message.isFinished) ∨
      ∃ m ∈ s'.received, m.isEarlyState ∧ m.isFinished := by
  cases t with
  | install here =>
      obtain ⟨before,same,-⟩ := held _ (by rw [here]; rfl)
      have early := (sorted _ (by rw [here]; rfl)).mpr here
      simp only [goto_gen,goto_received,completion_eq_exhausted]
      exact fun finished => .inr ⟨_,by simp [same],early,finished⟩
  | forward => exact fun finished => .inl ⟨_,List.getLast?_concat _,by simpa using finished⟩
  | timedOut | errored | heartbeat | poll | rejected | raise | drop => simp
  | get => split_ifs <;> nofun
  -- The other lines go elsewhere than the end.
  | _ => nofun
end

-- The order of what `run` yields: Started first and once, nothing after a finished message,
-- and an end that is a finished message or a consumed early_state whose status reads finished.
structure Yields (s : Session) : Prop where
  fresh : s.gen.pc = .fresh → s.yielded = []
  opened : s.gen.pc ≠ .fresh → s.yielded.head? = some .started ∧ s.yielded.count .started = 1
  settled : ∀ y ∈ s.yielded.dropLast, y.message.isFinished = false
  exhausted : s.gen.pc = .exhausted → (∃ y, s.yielded.getLast? = some y ∧ y.message.isFinished) ∨
    ∃ m ∈ s.received, m.isEarlyState ∧ m.isFinished

theorem Reachable.yields (reached : Reachable host runnable w) : Yields w.session := by
  induction reached with
  | init => exact ⟨fun _ => rfl,by simp [Session.init],by simp [Session.init],by simp [Session.init]⟩
  | step prior acted ih =>
      have channel := prior.channel
      cases act_sound acted with
      | run t => exact ⟨fresh_step t ih.fresh,opened_step t ih.fresh ih.opened,
          settled_step t channel.quiet ih.settled,exhausted_step t channel.held channel.sorted⟩
      | put => exact ⟨ih.fresh,ih.opened,ih.settled,ih.exhausted⟩
      | exit => exact ⟨ih.fresh,ih.opened,ih.settled,ih.exhausted⟩

theorem run_yields_started_once (reached : Reachable host runnable w) (begun : w.session.gen.pc ≠ .fresh) :
    ∃ rest, w.session.yielded = .started :: rest ∧ .started ∉ rest := by
  obtain ⟨first,once⟩ := reached.yields.opened begun
  obtain ⟨rest,same⟩ := List.head?_eq_some_iff.mp first
  refine ⟨rest,same,fun member => ?_⟩
  have twice := List.count_pos_iff.mpr member
  simp [same] at once
  omega

theorem passing_test_starts_once :
    passWorld.session.gen.pc ≠ .fresh ∧ ∃ rest, passWorld.session.yielded = .started :: rest ∧ .started ∉ rest :=
  have begun : passWorld.session.gen.pc ≠ .fresh := by simp [passWorld_exhausted]
  ⟨begun,run_yields_started_once passWorld_reachable begun⟩

theorem run_yields_nothing_after_finished (reached : Reachable host runnable w)
    (split : w.session.yielded = before ++ y :: after) (finished : y.message.isFinished) :
    after = [] ∧ ∀ x ∈ before, x.message.isFinished = false := by
  have settled := reached.yields.settled
  rw [split] at settled
  cases after with
  | nil => simpa using settled
  | cons z rest =>
      have kept : y ∈ (before ++ y :: z :: rest).dropLast := by simp [List.dropLast_append_cons,List.dropLast_cons₂]
      simp [settled y kept] at finished

theorem passing_test_finishes_last :
    passWorld.session.yielded = [.started,.forwarded passLog,.forwarded passWhiteboard] ++ [.forwarded passFinished] ∧
      (Yield.forwarded passFinished).message.isFinished ∧
      ([] : List Yield) = [] ∧ ∀ x ∈ [Yield.started,.forwarded passLog,.forwarded passWhiteboard], x.message.isFinished = false :=
  have split : passWorld.session.yielded = [.started,.forwarded passLog,.forwarded passWhiteboard] ++ [.forwarded passFinished] := rfl
  have finished : (Yield.forwarded passFinished).message.isFinished := rfl
  ⟨split,finished,run_yields_nothing_after_finished passWorld_reachable split finished⟩

theorem run_exhausted_finished_or_early (reached : Reachable host runnable w)
    (done : w.session.gen.pc = .exhausted) :
    (∃ y, w.session.yielded.getLast? = some y ∧ y.message.isFinished) ∨
      ∃ m ∈ w.session.received, m.isEarlyState ∧ m.isFinished :=
  reached.yields.exhausted done

theorem passing_test_ends_on_finished :
    passWorld.session.gen.pc = .exhausted ∧ ((∃ y, passWorld.session.yielded.getLast? = some y ∧ y.message.isFinished) ∨
      ∃ m ∈ passWorld.session.received, m.isEarlyState ∧ m.isFinished) :=
  ⟨passWorld_exhausted,run_exhausted_finished_or_early passWorld_reachable passWorld_exhausted⟩

-- A test whose state reads status "finished" when the worker sends its early_state: line 162
-- consumes the message, line 165 ends the loop on it, and the caller has seen only Started.
def finishedEarlyState : Message :=
  (Sent.earlyState (Dict.set [("status",.str "finished")] "type" (.str "early_state"))).message

def consumedFinishedRun : List Action :=
  [.run .next,.run .next,.run .next,.run .next,.put finishedEarlyState,.run (.clock 0),.run .next,
    .run (.clock 1),.run .next,.run .next,.run .next]

theorem early_state_finished_exhausts_unfinished (host : Host) (runnable : Runnable) :
    ((World.mk none (.init runnable)).play host consumedFinishedRun).map
      (fun w => (w.session.gen.pc,w.session.yielded)) = some (.exhausted,[.started]) := rfl

section
variable {s : Session}

-- A poll with messages waiting: whatever the clock reads, line 151 goes on to `queue.get()`.
theorem poll_reaches_get (self : Option Runnable) (now : ℚ) (here : s.gen.pc = .sleep) (head : s.queue = m :: rest) :
    (World.mk self s).play host [.run .next,.run (.clock now),.run .next] =
      some ⟨self,{s with polls := s.polls ++ [Poll.mk now false]}.goto .get⟩ := by
  -- With the pc and the queue known, the three lines run by evaluation.
  obtain ⟨⟨_,pc,_⟩,queue,_⟩ := s
  subst here head
  rfl

-- One poll cycle with messages waiting takes the head of the queue: line 162 installs an
-- early_state's timeout and line 164 forwards anything else.
theorem poll_cycle_takes (self : Option Runnable) (now : ℚ) (here : s.gen.pc = .sleep) (head : s.queue = m :: rest)
    (converts : m.isEarlyState → ∃ t, (timeoutArg m).toFloat host.parseFloat = .ok t) :
    ∃ s', (World.mk self s).play host (pollCycle now) = some ⟨self,s'⟩ ∧ s'.gen.pc = completion m ∧
      s'.queue = rest ∧ s'.yielded = s.yielded ++ (if m.isEarlyState then [] else [.forwarded m]) := by
  rw [show pollCycle now = [.run .next,.run (.clock now),.run .next] ++ [.run .next,.run .next] from rfl,
    World.play_append,poll_reaches_get self now here head]
  by_cases early : m.isEarlyState
  · obtain ⟨t,ok⟩ := converts early
    simp [World.play,World.act,Session.act,Session.step,head,early,ok]
  · simp [World.play,World.act,Session.act,Session.step,head,early]

-- Polls with unfinished messages ahead of `rest`, one cycle a message: `run` takes them all,
-- forwards those that are not early_states, and is back at line 149.
theorem poll_cycles_take {self : Option Runnable} (here : s.gen.pc = .sleep) (queue : s.queue = ms ++ rest)
    (unfinished : Unfinished ms) (converts : ∀ m ∈ ms, m.isEarlyState → ∃ t, (timeoutArg m).toFloat host.parseFloat = .ok t)
    (clock : List ℚ) (enough : clock.length = ms.length) :
    ∃ s', (World.mk self s).play host (clock.flatMap pollCycle) = some ⟨self,s'⟩ ∧ s'.gen.pc = .sleep ∧
      s'.queue = rest ∧ s'.yielded = s.yielded ++ (ms.filter (!·.isEarlyState)).map .forwarded := by
  induction ms generalizing s clock with
  | nil => exact ⟨s,by rw [List.eq_nil_of_length_eq_zero enough]; rfl,here,queue,by simp⟩
  | cons m ms ih =>
      obtain ⟨now,clock,rfl⟩ := List.exists_cons_of_length_eq_add_one enough
      obtain ⟨unfinishedM,unfinished⟩ := List.forall_mem_cons.mp unfinished
      obtain ⟨s',played,pc,taken,yielded⟩ := poll_cycle_takes self now here queue (converts m (by simp))
      obtain ⟨s'',played',back,drained,yielded'⟩ := ih (by simpa [completion,unfinishedM] using pc) taken unfinished
        (fun m' member => converts m' (List.mem_cons_of_mem _ member)) clock (by simpa using enough)
      refine ⟨s'',by rw [List.flatMap_cons,World.play_append,played]; exact played',back,drained,?_⟩
      rw [yielded',yielded]; cases early : m.isEarlyState <;> simp [early]

-- With the worker's finished message on the queue, `run` reaches it by its own steps alone, one
-- poll a message and whatever the clock reads: it forwards every message before it that is not
-- an early_state, in order, then ends. The deadline is never checked while messages wait.
theorem run_takes_through_finished {self : Option Runnable} (here : s.gen.pc = .sleep)
    (queue : s.queue = ms ++ fin :: rest) (unfinished : Unfinished ms) (finished : fin.isFinished)
    (converts : ∀ m ∈ ms ++ [fin], m.isEarlyState → ∃ t, (timeoutArg m).toFloat host.parseFloat = .ok t)
    (clock : List ℚ) (enough : clock.length = ms.length + 1) :
    ∃ s', (World.mk self s).play host (clock.flatMap pollCycle) = some ⟨self,s'⟩ ∧ s'.gen.pc = .exhausted ∧
      s'.queue = rest ∧ s'.yielded = s.yielded ++ ((ms ++ [fin]).filter (!·.isEarlyState)).map .forwarded := by
  obtain ⟨init,now,rfl⟩ : ∃ init now, clock = init ++ [now] := by
    rcases List.eq_nil_or_concat clock with rfl | ⟨init,now,rfl⟩
    · cases enough
    · exact ⟨init,now,List.concat_eq_append init now⟩
  obtain ⟨s',played,back,taken,yielded⟩ := poll_cycles_take here queue unfinished
    (fun m member => converts m (List.mem_append_left _ member)) init (by simpa using enough)
  obtain ⟨s'',played',pc,drained,yielded'⟩ := poll_cycle_takes self now back taken (converts fin (by simp))
  refine ⟨s'',by rw [List.flatMap_append,World.play_append,played]; simpa using played',by simp [pc,finished],
    drained,?_⟩
  rw [yielded',yielded]; cases early : fin.isEarlyState <;> simp [early]

-- The passing test's four messages on the queue when `run` first sleeps.
def passQueued : World :=
  ((World.mk none (.init passRunnable)).play checkHost (passRun.take 9)).getD ⟨none,.init passRunnable⟩

theorem passing_test_run_takes_through_finished :
    passQueued.session.gen.pc = .sleep ∧
      passQueued.session.queue = [passEarly,passLog,passWhiteboard] ++ passFinished :: [] ∧
      Unfinished [passEarly,passLog,passWhiteboard] ∧ passFinished.isFinished ∧
      (∀ m ∈ [passEarly,passLog,passWhiteboard] ++ [passFinished], m.isEarlyState →
        ∃ t, (timeoutArg m).toFloat checkHost.parseFloat = .ok t) ∧
      ∃ s', (World.mk passQueued.self passQueued.session).play checkHost ([1,2,3,4].flatMap pollCycle) =
          some ⟨passQueued.self,s'⟩ ∧ s'.gen.pc = .exhausted ∧ s'.queue = [] ∧
        s'.yielded = passQueued.session.yielded ++
          (([passEarly,passLog,passWhiteboard] ++ [passFinished]).filter (!·.isEarlyState)).map .forwarded :=
  have unfinished : Unfinished [passEarly,passLog,passWhiteboard] := fun m member => by
    simp only [List.mem_cons,List.mem_singleton,List.not_mem_nil,or_false] at member
    rcases member with rfl | rfl | rfl <;> rfl
  have finished : passFinished.isFinished := rfl
  have converts : ∀ m ∈ [passEarly,passLog,passWhiteboard] ++ [passFinished], m.isEarlyState →
      ∃ t, (timeoutArg m).toFloat checkHost.parseFloat = .ok t := by
    intro m member _
    exact ⟨.inf,by simp at member; rcases member with rfl | rfl | rfl | rfl <;> rfl⟩
  have here : passQueued.session.gen.pc = .sleep := rfl
  have queue : passQueued.session.queue = [passEarly,passLog,passWhiteboard] ++ passFinished :: [] := rfl
  ⟨here,queue,unfinished,finished,converts,run_takes_through_finished here queue unfinished finished converts [1,2,3,4] rfl⟩

end

end AvocadoInstrumented
