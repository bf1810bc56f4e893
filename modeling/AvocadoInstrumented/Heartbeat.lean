import AvocadoInstrumented.Timing
import Mathlib.Data.List.Chain

namespace AvocadoInstrumented

-- The clock reading of the poll whose Running heartbeat line 154 is about to yield.
def Pc.beating : Pc → List ℚ
  | .heartbeat now => [now]
  | _ => []

attribute [simp] Pc.beating.eq_1 Pc.beating.eq_2

@[simp] theorem catch_beating : (Pc.catch e).beating = [] := by unfold Pc.catch; split <;> rfl
@[simp] theorem completion_beating : (completion m).beating = [] := by unfold completion; split <;> rfl
@[simp] theorem deadline_beating : (Gen.deadline g now).beating = [] := by unfold Gen.deadline; split <;> rfl

theorem Pc.beating_cases (pc : Pc) : (∃ now, pc = .heartbeat now) ∨ pc.beating = [] := by
  cases pc <;> simp

-- Line 154 with `next`: the heartbeat is yielded and line 155 decides where the loop goes.
theorem step_heartbeat {host : Host} {self : Option Runnable} {s : Session} {now : ℚ} (here : s.gen.pc = .heartbeat now) :
    s.step host self .next = some (self,(s.emit .running).goto (s.gen.deadline now)) := by
  simp [Session.step,here]

-- Line 153 runs only when line 152 finds the queue empty and a heartbeat due.
theorem poll_nextStatusTime (host : Host) (s : Session) (now : ℚ) : (s.poll host now).gen.nextStatusTime =
    if s.queue.isEmpty then (if s.gen.due now then some (now + host.statusInterval) else s.gen.nextStatusTime)
    else s.gen.nextStatusTime := by
  unfold Session.poll
  by_cases empty : s.queue.isEmpty <;> by_cases due : s.gen.due now <;> simp [empty,due]

-- The heartbeat one step yields, by the reading of the poll that decided it: line 154 run to its
-- end. Any other step yields none.
def Action.beat (s : Session) : Action → List ℚ
  | .run .next => s.gen.pc.beating
  | _ => []

-- The clock readings of the Running heartbeats `run` yields along a schedule, as far as it plays.
def World.beats (host : Host) : World → List Action → List ℚ
  | _,[] => []
  | w,a :: rest => match w.act host a with
    | none => []
    | some next => a.beat w.session ++ next.beats host rest

section
variable {host : Host} {self self' : Option Runnable} {s s' : Session} {beats : List ℚ}

theorem Pc.ne_heartbeat_of_beating {pc : Pc} (idle : pc.beating = []) : pc ≠ .heartbeat now := by
  rintro rfl
  cases idle

-- Only line 152 records a poll, and only it lands on line 154.
theorem Transition.polled_or_idle (t : Transition host self s self' s') :
    (∃ now, s.gen.pc = .empty now ∧ s' = s.poll host now) ∨ (s'.polls = s.polls ∧ s'.gen.pc.beating = []) := by
  cases t with
  | poll here => exact .inl ⟨_,here,rfl⟩
  | heartbeat => exact .inr ⟨rfl,deadline_beating⟩
  | get => exact .inr ⟨rfl,by split <;> rfl⟩
  | install | forward => exact .inr ⟨rfl,completion_beating⟩
  | rejected | raise | drop => exact .inr ⟨rfl,catch_beating⟩
  | _ => exact .inr ⟨rfl,rfl⟩

-- A line that moves no heartbeat and leaves `next_status_time` as it was keeps it the last
-- heartbeat plus the interval.
theorem next_kept {pc : Pc} {next : Option ℚ} {b : List ℚ}
    (kept : next = ((beats ++ b).getLast?).map (· + host.statusInterval)) (idle : pc.beating = []) :
    next = ((beats ++ b ++ pc.beating).getLast?).map (· + host.statusInterval) := by
  rw [idle,List.append_nil,kept]

theorem next_step (t : Transition host self s self' s')
    (prelude : s.gen.pc.prelude → beats = [])
    (next : s.gen.pc.live → s.gen.nextStatusTime = ((beats ++ s.gen.pc.beating).getLast?).map (· + host.statusInterval)) :
    s'.gen.pc.live →
      s'.gen.nextStatusTime = ((beats ++ s.gen.pc.beating ++ s'.gen.pc.beating).getLast?).map (· + host.statusInterval) := by
  cases t with
  | poll here =>
      rw [poll_pc,poll_nextStatusTime]
      split_ifs
      · simp [here]
      · exact fun _ => next_kept (next (here ▸ rfl)) deadline_beating
      · exact fun _ => next_kept (next (here ▸ rfl)) rfl
  -- Line 147 sets `next_status_time = None` before any heartbeat.
  | clockStart here => simp [prelude (here ▸ rfl),here]
  | started here | makeQueue here | makeProcess here | start here | sleep here | clock here | terminate here =>
      exact fun _ => next_kept (next (here ▸ rfl)) rfl
  | heartbeat here => exact fun _ => next_kept (next (here ▸ rfl)) deadline_beating
  | get here => exact fun _ => next_kept (next (here ▸ rfl)) (by split <;> rfl)
  | install here | forward here => exact fun _ => next_kept (next (here ▸ rfl)) completion_beating
  | timedOut | stderr | errored | strRaises => nofun
  | rejected | raise | drop => exact fun live => absurd ((catch_live _).symm.trans live) Bool.false_ne_true

theorem due_step (t : Transition host self s self' s')
    (next : s.gen.pc.live → s.gen.nextStatusTime = ((beats ++ s.gen.pc.beating).getLast?).map (· + host.statusInterval)) :
    ∀ now, s'.gen.pc = .heartbeat now → ∀ t ∈ (beats ++ s.gen.pc.beating).getLast?, t + host.statusInterval < now := by
  obtain ⟨now,here,rfl⟩ | ⟨-,idle⟩ := t.polled_or_idle
  · rw [poll_pc]
    split_ifs with empty due
    · rintro now' ⟨⟩ t last
      simp only [here,Pc.beating,List.append_nil,Option.mem_def] at last
      simpa [Gen.due,next (here ▸ rfl),here,last] using due
    · exact fun _ landed => absurd landed (Pc.ne_heartbeat_of_beating deadline_beating)
    · nofun
  · exact fun _ landed => absurd landed (Pc.ne_heartbeat_of_beating idle)

theorem starting_step (t : Transition host self s self' s') (starting : s.gen.pc.prelude → beats = []) :
    s'.gen.pc.prelude → beats ++ s.gen.pc.beating = [] := by
  cases t with
  | started here | makeQueue here | makeProcess here | start here =>
      exact fun _ => by rw [starting (here ▸ rfl),here]; rfl
  | clockStart | sleep | clock | terminate | timedOut | stderr | errored | strRaises => nofun
  -- The other lines compute where they go, never back before the loop.
  | _ => simp [apply_ite Pc.prelude]

theorem polled_step (t : Transition host self s self' s')
    (polled : (beats ++ s.gen.pc.beating).Sublist ((s.polls.filter (·.empty)).map (·.now))) :
    (beats ++ s.gen.pc.beating ++ s'.gen.pc.beating).Sublist ((s'.polls.filter (·.empty)).map (·.now)) := by
  obtain ⟨now,here,rfl⟩ | ⟨polls,idle⟩ := t.polled_or_idle
  · rw [poll_pc]; split_ifs <;> simp_all
  · rw [idle,List.append_nil,polls]
    exact polled

theorem chain_beat (chain : beats.Chain' fun t t' => t + host.statusInterval < t')
    (due : ∀ now, s.gen.pc = .heartbeat now → ∀ t ∈ beats.getLast?, t + host.statusInterval < now) :
    (beats ++ s.gen.pc.beating).Chain' fun t t' => t + host.statusInterval < t' := by
  rw [List.chain'_append]
  refine ⟨chain,by cases s.gen.pc <;> simp,fun t last t' first => ?_⟩
  obtain ⟨now,here⟩ | idle := s.gen.pc.beating_cases
  · simp only [here,Pc.beating,List.head?_cons,Option.mem_def,Option.some.injEq] at first
    exact first ▸ due now here t last
  · simp [idle] at first

end

-- What `run` keeps about its heartbeats, with `beats` the readings of those it has yielded: they
-- are spaced by more than the interval, `next_status_time` is the last one plus the interval
-- (counting the one line 154 is about to yield), and each was read by a poll that found the
-- queue empty.
structure Spaced (host : Host) (beats : List ℚ) (s : Session) : Prop where
  chain : beats.Chain' fun t t' => t + host.statusInterval < t'
  next : s.gen.pc.live → s.gen.nextStatusTime = ((beats ++ s.gen.pc.beating).getLast?).map (· + host.statusInterval)
  due : ∀ now, s.gen.pc = .heartbeat now → ∀ t ∈ beats.getLast?, t + host.statusInterval < now
  starting : s.gen.pc.prelude → beats = []
  polled : (beats ++ s.gen.pc.beating).Sublist ((s.polls.filter (·.empty)).map (·.now))

section
variable {host : Host} {self self' : Option Runnable} {s s' : Session} {beats : List ℚ} {w w' : World}

theorem spaced_init (runnable : Runnable) : Spaced host [] (Session.init runnable) :=
  ⟨List.chain'_nil,fun _ => rfl,nofun,fun _ => rfl,by simp [Session.init]⟩

theorem Spaced.step (spaced : Spaced host beats s) (t : Transition host self s self' s') :
    Spaced host (beats ++ s.gen.pc.beating) s' where
  chain := chain_beat spaced.chain spaced.due
  next := next_step t spaced.starting spaced.next
  due := due_step t spaced.next
  starting := starting_step t spaced.starting
  polled := polled_step t spaced.polled

-- The handler's lines keep nothing of the loop.
theorem Spaced.caught (spaced : Spaced host beats s) (caught : s'.gen.pc = Pc.catch e) (polls : s'.polls = s.polls) :
    Spaced host beats s' where
  chain := spaced.chain
  next := by simp [caught]
  due := fun _ landed => absurd (caught.symm.trans landed) (Pc.ne_heartbeat_of_beating catch_beating)
  starting := by simp [caught]
  polled := by
    rw [caught,polls,catch_beating,List.append_nil]
    exact (List.sublist_append_left _ _).trans spaced.polled

-- The worker's steps leave the generator and the history of polls as they were.
theorem Spaced.frame (spaced : Spaced host beats s) (gen : s'.gen = s.gen) (polls : s'.polls = s.polls) :
    Spaced host beats s' := by
  obtain ⟨chain,next,due,starting,polled⟩ := spaced
  exact ⟨chain,gen ▸ next,gen ▸ due,gen ▸ starting,gen ▸ polls ▸ polled⟩

-- What one action of a schedule does to the heartbeats: line 154 yields the one it stands at, or
-- the action yields none, as the yield raising into the handler, a line away from line 154, or
-- the worker's put or exit.
theorem World.act_cases (acted : w.act host a = some w') :
    (∃ now, w.session.gen.pc = .heartbeat now ∧ a = .run .next ∧
      w' = ⟨w.self,(w.session.emit .running).goto (w.session.gen.deadline now)⟩) ∨
    a.beat w.session = [] ∧
      ((∃ e, w' = ⟨w.self,w.session.goto (Pc.catch e)⟩) ∨
        (w.session.gen.pc.beating = [] ∧ Transition host w.self w.session w'.self w'.session) ∨
        (w'.session.gen = w.session.gen ∧ w'.session.polls = w.session.polls ∧ w'.session.yielded = w.session.yielded)) := by
  obtain ⟨⟨self',s'⟩,stepped,rfl⟩ := Option.map_eq_some'.mp acted
  cases a with
  | put | exit =>
      simp only [Session.act] at stepped
      split at stepped <;> cases stepped
      exact .inr ⟨rfl,.inr (.inr ⟨rfl,rfl,rfl⟩)⟩
  | run input =>
      rcases w.session.gen.pc.beating_cases with ⟨now,here⟩ | idle
      · cases input with
        | next =>
            rw [Session.act,step_heartbeat here] at stepped
            cases stepped
            exact .inl ⟨now,here,rfl,rfl⟩
        | raise e =>
            simp only [Session.act,Session.step,here,Pc.calls,if_true,Option.some.injEq,Prod.mk.injEq] at stepped
            obtain ⟨rfl,rfl⟩ := stepped
            exact .inr ⟨rfl,.inl ⟨e,rfl⟩⟩
        | clock | drop => simp [Session.act,Session.step,here] at stepped
      · have beat : Action.beat w.session (.run input) = [] := by cases input <;> simp [Action.beat,idle]
        exact .inr ⟨beat,.inr (.inl ⟨idle,step_sound stepped⟩)⟩

theorem Spaced.act (spaced : Spaced host beats w.session) (acted : w.act host a = some w') :
    Spaced host (beats ++ a.beat w.session) w'.session := by
  obtain ⟨now,here,rfl,rfl⟩ | ⟨beat,⟨e,rfl⟩ | ⟨idle,t⟩ | ⟨gen,polls,-⟩⟩ := w.act_cases acted
  · exact spaced.step (show Transition host w.self w.session w.self _ from .heartbeat here)
  all_goals rw [beat,List.append_nil]
  · exact spaced.caught rfl rfl
  · have stepped := spaced.step t
    rwa [idle,List.append_nil] at stepped
  · exact spaced.frame gen polls

-- Along any schedule the heartbeats yielded stay spaced, as far as the schedule plays, and the
-- invariant holds where it ends.
theorem Spaced.run (spaced : Spaced host beats w.session) (actions : List Action) :
    (beats ++ w.beats host actions).Chain' (fun t t' => t + host.statusInterval < t') ∧
      ∀ w', w.play host actions = some w' → Spaced host (beats ++ w.beats host actions) w'.session := by
  induction actions generalizing w beats with
  | nil => exact ⟨by simpa [World.beats] using spaced.chain,fun w' played => by cases played; simpa [World.beats] using spaced⟩
  | cons a rest ih =>
      cases acted : w.act host a with
      | none => simp [World.beats,World.play,acted,spaced.chain]
      | some next =>
          simpa [World.beats,World.play,acted] using ih (spaced.act acted)

-- Only line 154 yields a Running heartbeat.
theorem running_step (t : Transition host self s self' s') (idle : s.gen.pc.beating = []) :
    s'.yielded.count .running = s.yielded.count .running := by
  cases t with
  | heartbeat here => simp [here] at idle
  | _ => simp

-- `World.beats` counts the Running heartbeats: one step yields one exactly when it records one.
theorem running_act (acted : w.act host a = some w') :
    w'.session.yielded.count .running = w.session.yielded.count .running + (a.beat w.session).length := by
  obtain ⟨now,here,rfl,rfl⟩ | ⟨beat,⟨e,rfl⟩ | ⟨idle,t⟩ | ⟨-,-,yielded⟩⟩ := w.act_cases acted
  · simp [Action.beat,here]
  all_goals rw [beat,List.length_nil,Nat.add_zero]
  · rfl
  · exact running_step t idle
  · rw [yielded]

theorem running_play (played : w.play host actions = some w') :
    w'.session.yielded.count .running = w.session.yielded.count .running + (w.beats host actions).length := by
  induction actions generalizing w with
  | nil => cases played; rfl
  | cons a rest ih =>
      simp only [World.play,Option.bind_eq_some] at played
      obtain ⟨next,acted,played⟩ := played
      rw [ih played,running_act acted]
      simp [World.beats,acted,Nat.add_assoc]

end

-- Lines 152-154 over a whole run: whatever the worker puts, whatever the clock reads, two
-- Running heartbeats are yielded at polls more than the status interval apart (any two, for an
-- interval that is not negative), and `next_status_time` is the last heartbeat plus the interval.
theorem run_heartbeats_spaced_beyond_interval (host : Host) (self : Option Runnable) (runnable : Runnable)
    (actions : List Action) :
    ((World.mk self (.init runnable)).beats host actions).Chain' (fun t t' => t + host.statusInterval < t') ∧
      (0 ≤ host.statusInterval →
        ((World.mk self (.init runnable)).beats host actions).Pairwise fun t t' => t + host.statusInterval < t') ∧
      ∀ w, (World.mk self (.init runnable)).play host actions = some w →
        w.session.yielded.count .running = ((World.mk self (.init runnable)).beats host actions).length ∧
        ((World.mk self (.init runnable)).beats host actions).Sublist ((w.session.polls.filter (·.empty)).map (·.now)) ∧
        (w.session.gen.pc.live → w.session.gen.nextStatusTime =
          (((World.mk self (.init runnable)).beats host actions ++ w.session.gen.pc.beating).getLast?).map
            (· + host.statusInterval)) := by
  have start : Spaced host [] (World.mk self (.init runnable)).session := spaced_init runnable
  obtain ⟨chain,reached⟩ := start.run actions
  rw [List.nil_append] at chain reached
  refine ⟨chain,fun nonneg => ?_,fun w played => ?_⟩
  · have : IsTrans ℚ fun t t' => t + host.statusInterval < t' :=
      ⟨fun _ b _ first second => first.trans ((le_add_of_nonneg_right nonneg).trans_lt second)⟩
    exact List.chain'_iff_pairwise.mp chain
  · obtain ⟨-,next,-,-,polled⟩ := reached w played
    exact ⟨by simpa [Session.init] using running_play played,(List.sublist_append_left _ _).trans polled,next⟩

-- After the heartbeat at 1 the next is due past 2: the poll at 3/2 yields none, the one at 3 does.
def twoBeatRun : List Action :=
  idleRun ++ [.run .next,.run (.clock (3/2)),.run .next,.run .next,.run (.clock 3),.run .next,.run .next]

def twoBeatWorld : World := ((World.mk none (.init passRunnable)).play checkHost twoBeatRun).getD ⟨none,.init passRunnable⟩

theorem two_beat_run_spaced :
    0 ≤ checkHost.statusInterval ∧ (World.mk none (.init passRunnable)).beats checkHost twoBeatRun = [1,3] ∧
      [(1 : ℚ),3].Pairwise (fun t t' => t + checkHost.statusInterval < t') ∧
      (World.mk none (.init passRunnable)).play checkHost twoBeatRun = some twoBeatWorld ∧
      twoBeatWorld.session.yielded.count .running = 2 := by
  have beats : (World.mk none (.init passRunnable)).beats checkHost twoBeatRun = [1,3] := by with_unfolding_all rfl
  have played : (World.mk none (.init passRunnable)).play checkHost twoBeatRun = some twoBeatWorld := by
    with_unfolding_all rfl
  obtain ⟨-,pairwise,final⟩ := run_heartbeats_spaced_beyond_interval checkHost none passRunnable twoBeatRun
  exact ⟨zero_le_one,beats,beats ▸ pairwise zero_le_one,played,by rw [(final _ played).1,beats]; rfl⟩

end AvocadoInstrumented
