import AvocadoInstrumented.Worker

namespace AvocadoInstrumented

-- What `run` takes from outside this file: `RUNNER_RUN_STATUS_INTERVAL` of
-- `avocado.core.nrunner.runner`, and CPython's parsing of numeric strings by `float()`.
structure Host where
  statusInterval : ℚ
  parseFloat : String → Option PyFloat

-- Where the generator `run` stands: the line it executes next, `now` where a line reads it.
-- A `yield` is a step of its own, so that the caller resumes between yields.
inductive Pc where
  | fresh
  | makeQueue
  | makeProcess
  | start
  | clockStart
  | sleep
  | clock
  | empty (now : ℚ)
  | heartbeat (now : ℚ)
  | terminate
  | timedOut
  | get
  | install (m : Message)
  | forward (m : Message)
  | stderr (e : PyException)
  | errored (e : PyException)
  | exhausted
  | raised (e : PyException)
  deriving DecidableEq, Repr

-- The lines of the `try` block whose call may raise: queue and process creation, `start`,
-- `time.monotonic`, `time.sleep`, `queue.empty`, the message constructors, `terminate`
-- and `queue.get`. `float()` on line 162 raises by its argument alone.
def Pc.calls : Pc → Bool
  | .makeQueue | .makeProcess | .start | .clockStart | .sleep | .clock | .empty _ | .heartbeat _
  | .terminate | .timedOut | .get => true
  | _ => false

-- `except Exception` catches an `Exception` and lets any other exception leave `run`.
def Pc.catch (e : PyException) : Pc := if e.isException then .stderr e else .raised e

-- The locals of `run`: its argument, the process target read on line 139 and lines 144-147.
structure Gen where
  runnable : Runnable
  pc : Pc
  target : Option Runnable
  timeStarted : ℚ
  timeout : PyFloat
  nextStatusTime : Option ℚ
  deriving DecidableEq, Repr

inductive Process where
  | unstarted
  | running (target : Runnable)
  | exited (target : Runnable)
  deriving DecidableEq, Repr

-- What one poll found: the reading of line 150 and whether `queue.empty()` held.
structure Poll where
  now : ℚ
  empty : Bool
  deriving DecidableEq, Repr

-- One call of `run` with the queue and the process it owns. `queue` holds what the worker has
-- put and `run` has not taken; `terminated` records `process.terminate()`. The last five
-- fields are history, kept by no line of the code: every message put, every message
-- `queue.get()` returned, the one it took and failed to unpickle, every poll and every yield.
structure Session where
  gen : Gen
  queue : List Message
  process : Process
  terminated : Bool
  enqueued : List Message
  received : List Message
  dropped : List Message
  polls : List Poll
  yielded : List Yield
  deriving DecidableEq, Repr

def Session.init (runnable : Runnable) : Session :=
  ⟨⟨runnable,.fresh,none,0,.inf,none⟩,[],.unstarted,false,[],[],[],[],[]⟩

def Session.goto (s : Session) (pc : Pc) : Session := {s with gen.pc := pc}
def Session.emit (s : Session) (y : Yield) : Session := {s with yielded := s.yielded ++ [y]}

-- Line 162: `float(message.get("timeout") or float("inf"))`.
def timeoutArg (m : Message) : PyValue :=
  let value := m.get "timeout"
  if value.truthy then value else .float .inf

-- Line 152: no heartbeat yet, or the last one is older than the interval.
def Gen.due (g : Gen) (now : ℚ) : Bool :=
  match g.nextStatusTime with
  | none => true
  | some next => decide (next < now)

-- Line 155: past the installed timeout, `run` terminates the worker; otherwise it polls again.
def Gen.deadline (g : Gen) (now : ℚ) : Pc :=
  if g.timeout.exceeded (now - g.timeStarted) then .terminate else .sleep

-- Lines 151-153 and 160: `queue.empty()`, and where the loop goes with its answer.
def Session.poll (host : Host) (s : Session) (now : ℚ) : Session :=
  let s := {s with polls := s.polls ++ [Poll.mk now s.queue.isEmpty]}
  if s.queue.isEmpty then
    if s.gen.due now then {s with gen.nextStatusTime := some (now + host.statusInterval)}.goto (.heartbeat now)
    else s.goto (s.gen.deadline now)
  else s.goto .get

-- Line 165: a message whose status reads "finished" ends the loop.
def completion (m : Message) : Pc := if m.isFinished then .exhausted else .sleep

-- What the outside world answers at a line of `run`: the line returns, `time.monotonic()`
-- returns `t`, the call raises `e`, or `queue.get()` takes the head and unpickling it raises `e`.
inductive Input where
  | next
  | clock (t : ℚ)
  | raise (e : PyException)
  | drop (e : PyException)
  deriving DecidableEq, Repr

-- One line of `run` with what the outside world answers there: `self` is the runner's
-- `self.runnable`, which line 134 writes and line 139 reads.
def Session.step (host : Host) (self : Option Runnable) (s : Session) :
    Input → Option (Option Runnable × Session)
  | .next => match s.gen.pc with
    | .fresh => some (some s.gen.runnable,(s.emit .started).goto .makeQueue)
    | .makeQueue => some (self,s.goto .makeProcess)
    | .makeProcess => self.map fun r => (self,{s with gen.target := some r}.goto .start)
    | .start => s.gen.target.map fun r => (self,{s with process := .running r}.goto .clockStart)
    | .sleep => some (self,s.goto .clock)
    | .empty now => some (self,s.poll host now)
    | .heartbeat now => some (self,(s.emit .running).goto (s.gen.deadline now))
    | .terminate => some (self,{s with terminated := true}.goto .timedOut)
    | .timedOut => some (self,(s.emit .timedOut).goto .exhausted)
    | .get => match s.queue with
      | m :: rest => some (self,{s with queue := rest,received := s.received ++ [m]}.goto
          (if m.isEarlyState then .install m else .forward m))
      | [] => none
    | .install m => match (timeoutArg m).toFloat host.parseFloat with
      | .ok t => some (self,{s with gen.timeout := t}.goto (completion m))
      | .error e => some (self,s.goto (Pc.catch e))
    | .forward m => some (self,(s.emit (.forwarded m)).goto (completion m))
    | .stderr e => some (self,(s.emit (.stderr e.traceback)).goto (.errored e))
    | .errored e => match e.toStr with
      | .ok reason => some (self,(s.emit (.errored e reason)).goto .exhausted)
      | .error raised => some (self,s.goto (.raised raised))
    | _ => none
  | .clock t => match s.gen.pc with
    | .clockStart => some (self,{s with gen.timeStarted := t,gen.timeout := .inf,gen.nextStatusTime := none}.goto .sleep)
    | .clock => some (self,s.goto (.empty t))
    | _ => none
  | .raise e => if s.gen.pc.calls then some (self,s.goto (Pc.catch e)) else none
  | .drop e => match s.gen.pc,s.queue with
    | .get,m :: rest => some (self,{s with queue := rest,dropped := s.dropped ++ [m]}.goto (Pc.catch e))
    | _,_ => none

-- The lines of `run` one by one, as `Session.step` executes them.
inductive Transition (host : Host) : Option Runnable → Session → Option Runnable → Session → Prop where
  | started (here : s.gen.pc = .fresh) : Transition host self s (some s.gen.runnable) ((s.emit .started).goto .makeQueue)
  | makeQueue (here : s.gen.pc = .makeQueue) : Transition host self s self (s.goto .makeProcess)
  | makeProcess (here : s.gen.pc = .makeProcess) (set : self = some r) :
      Transition host self s self ({s with gen.target := some r}.goto .start)
  | start (here : s.gen.pc = .start) (target : s.gen.target = some r) :
      Transition host self s self ({s with process := .running r}.goto .clockStart)
  | clockStart (here : s.gen.pc = .clockStart) (t : ℚ) :
      Transition host self s self ({s with gen.timeStarted := t,gen.timeout := .inf,gen.nextStatusTime := none}.goto .sleep)
  | sleep (here : s.gen.pc = .sleep) : Transition host self s self (s.goto .clock)
  | clock (here : s.gen.pc = .clock) (t : ℚ) : Transition host self s self (s.goto (.empty t))
  | poll (here : s.gen.pc = .empty now) : Transition host self s self (s.poll host now)
  | heartbeat (here : s.gen.pc = .heartbeat now) :
      Transition host self s self ((s.emit .running).goto (s.gen.deadline now))
  | terminate (here : s.gen.pc = .terminate) : Transition host self s self ({s with terminated := true}.goto .timedOut)
  | timedOut (here : s.gen.pc = .timedOut) : Transition host self s self ((s.emit .timedOut).goto .exhausted)
  | get (here : s.gen.pc = .get) (head : s.queue = m :: rest) :
      Transition host self s self ({s with queue := rest,received := s.received ++ [m]}.goto
        (if m.isEarlyState then .install m else .forward m))
  | install (here : s.gen.pc = .install m) (converted : (timeoutArg m).toFloat host.parseFloat = .ok t) :
      Transition host self s self ({s with gen.timeout := t}.goto (completion m))
  | rejected (here : s.gen.pc = .install m) (converted : (timeoutArg m).toFloat host.parseFloat = .error e) :
      Transition host self s self (s.goto (Pc.catch e))
  | forward (here : s.gen.pc = .forward m) : Transition host self s self ((s.emit (.forwarded m)).goto (completion m))
  | stderr (here : s.gen.pc = .stderr e) : Transition host self s self ((s.emit (.stderr e.traceback)).goto (.errored e))
  | errored (here : s.gen.pc = .errored e) (str : e.toStr = .ok reason) :
      Transition host self s self ((s.emit (.errored e reason)).goto .exhausted)
  | strRaises (here : s.gen.pc = .errored e) (str : e.toStr = .error raised) :
      Transition host self s self (s.goto (.raised raised))
  | raise (calls : s.gen.pc.calls) (e : PyException) : Transition host self s self (s.goto (Pc.catch e))
  | drop (here : s.gen.pc = .get) (head : s.queue = m :: rest) (e : PyException) :
      Transition host self s self ({s with queue := rest,dropped := s.dropped ++ [m]}.goto (Pc.catch e))

theorem step_sound (stepped : s.step host self input = some (self',s')) : Transition host self s self' s' := by
  unfold Session.step at stepped
  split at stepped
  · split at stepped
    next here => cases stepped; exact .started here
    next here => cases stepped; exact .makeQueue here
    next here =>
      obtain ⟨r,set,same⟩ := Option.map_eq_some'.mp stepped
      cases same; exact .makeProcess here set
    next here =>
      obtain ⟨r,target,same⟩ := Option.map_eq_some'.mp stepped
      cases same; exact .start here target
    next here => cases stepped; exact .sleep here
    next here => cases stepped; exact .poll here
    next here => cases stepped; exact .heartbeat here
    next here => cases stepped; exact .terminate here
    next here => cases stepped; exact .timedOut here
    next here =>
      split at stepped
      next head => cases stepped; exact .get here head
      next => cases stepped
    next here =>
      split at stepped
      next converted => cases stepped; exact .install here converted
      next converted => cases stepped; exact .rejected here converted
    next here => cases stepped; exact .forward here
    next here => cases stepped; exact .stderr here
    next here =>
      split at stepped
      next str => cases stepped; exact .errored here str
      next str => cases stepped; exact .strRaises here str
    next => cases stepped
  · split at stepped
    next here => cases stepped; exact .clockStart here _
    next here => cases stepped; exact .clock here _
    next => cases stepped
  · split at stepped
    next calls => cases stepped; exact .raise calls _
    next => cases stepped
  · split at stepped
    next here head => cases stepped; exact .drop here head _
    next => cases stepped

-- A step of the whole system: `run` executes a line, or the worker puts a message or exits.
inductive Action where
  | run (input : Input)
  | put (m : Message)
  | exit
  deriving DecidableEq, Repr

def Session.act (host : Host) (self : Option Runnable) (s : Session) : Action → Option (Option Runnable × Session)
  | .run input => s.step host self input
  | .put m => match s.process with
    | .running _ => some (self,{s with queue := s.queue ++ [m],enqueued := s.enqueued ++ [m]})
    | _ => none
  | .exit => match s.process with
    | .running r => some (self,{s with process := .exited r})
    | _ => none

-- One runner object and one call of its `run`.
structure World where
  self : Option Runnable
  session : Session
  deriving DecidableEq, Repr

def World.act (host : Host) (w : World) (a : Action) : Option World :=
  (w.session.act host w.self a).map fun (self,s) => ⟨self,s⟩

-- `World.act` as a relation: `run` executes a line, or the worker it started puts or exits.
inductive World.Step (host : Host) : World → World → Prop where
  | run (t : Transition host w.self w.session self' s') : World.Step host w ⟨self',s'⟩
  | put (running : w.session.process = .running r) (m : Message) :
      World.Step host w ⟨w.self,{w.session with queue := w.session.queue ++ [m],enqueued := w.session.enqueued ++ [m]}⟩
  | exit (running : w.session.process = .running r) : World.Step host w ⟨w.self,{w.session with process := .exited r}⟩

theorem act_sound (acted : w.act host a = some w') : World.Step host w w' := by
  obtain ⟨⟨self',s'⟩,stepped,rfl⟩ := Option.map_eq_some'.mp acted
  cases a with
  | run input => exact .run (step_sound stepped)
  | put m =>
      simp only [Session.act] at stepped
      split at stepped
      next running => cases stepped; exact .put running m
      next => cases stepped
  | exit =>
      simp only [Session.act] at stepped
      split at stepped
      next running => cases stepped; exact .exit running
      next => cases stepped

-- Every state a call of `run(runnable)` reaches, whatever the runner held before.
inductive Reachable (host : Host) (runnable : Runnable) : World → Prop where
  | init (self : Option Runnable) : Reachable host runnable ⟨self,Session.init runnable⟩
  | step (prior : Reachable host runnable w) (acted : w.act host a = some w') : Reachable host runnable w'

def World.play (host : Host) : World → List Action → Option World
  | w,[] => some w
  | w,a :: rest => (w.act host a).bind fun next => next.play host rest

theorem Reachable.play (reached : Reachable host runnable w) (actions : List Action)
    (played : w.play host actions = some w') :
    Reachable host runnable w' := by
  induction actions generalizing w with
  | nil => cases played; exact reached
  | cons a rest ih =>
      simp only [World.play,Option.bind_eq_some] at played
      obtain ⟨next,acted,played⟩ := played
      exact ih (reached.step acted) played

theorem World.play_append (host : Host) (w : World) (a b : List Action) :
    w.play host (a ++ b) = (w.play host a).bind (·.play host b) := by
  induction a generalizing w with
  | nil => rfl
  | cons x rest ih =>
      show ((w.act host x).bind fun next => next.play host (rest ++ b)) =
        ((w.act host x).bind fun next => next.play host rest).bind _
      simp only [ih,Option.bind_assoc]

end AvocadoInstrumented
