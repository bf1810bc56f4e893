import AvocadoInstrumented.Messages

namespace AvocadoInstrumented

-- The serialized variant, `{"variant": [(path, env)], "paths": [...]}`.
structure Variant where
  variant : List (String × Dict)
  paths : List String
  deriving DecidableEq, Repr

structure Runnable where
  uri : String
  variant : Option Variant
  outputDir : Option String
  config : Dict
  tags : Option (List String)
  deriving DecidableEq, Repr

-- `TreeNodeEnvOnly(path, env)`
structure TreeNode where
  path : String
  environment : Dict
  deriving DecidableEq, Repr

-- `varianter.is_empty_variant` of avocado (not under src/): for rebuilt nodes it holds only
-- when there are none.
def isEmptyVariant (nodes : List TreeNode) : Bool := nodes.isEmpty

abbrev Params := List TreeNode × List String

-- The dict `loader.load_test` is given, its class name first.
structure TestFactory where
  klass : String
  name : Nat × String × Option Variant
  methodName : String
  config : Dict
  modulePath : String
  params : Option Params
  tags : Option (List String)
  resultsDir : String
  deriving DecidableEq, Repr

-- One call out of the worker body, into the test, avocado or the OS: the records it logs,
-- what it leaves `"COVERAGE_RUN" in os.environ` as (none: untouched), and what it raises.
structure Call where
  logs : List String := []
  environ : Option Bool := none
  raises : Option PyException := none
  deriving DecidableEq, Repr

-- How each call of one run of the worker body ends, in the order the body makes them, with
-- the directory `mkdtemp` creates, the two snapshots `get_state()` returns, CPython's
-- `str.lower`, and the records the test's own threads log after the body's last put.
structure TestUnit where
  mkdtemp : Call := {}
  tempDir : String := ""
  testId : Call := {}
  startLogging : Call := {}
  coverageStart : Call := {}
  loadTest : Call := {}
  earlyState : Call := {}
  earlySnapshot : Dict := []
  putEarly : Call := {}
  runAvocado : Call := {}
  coverageSave : Call := {}
  finalState : Call := {}
  finalSnapshot : Dict := []
  putWhiteboard : Call := {}
  putFinished : Call := {}
  lower : String → String := String.toLower
  lateLogs : List String := []

-- The worker process as its body changes it. `coverageStart`/`coverageStop` record that the
-- branch of line 93 / line 105 was taken.
structure Worker where
  sent : List Sent
  environ : Bool
  logging : Bool
  loaded : Option TestFactory
  coverageStart : Bool
  coverageStop : Bool
  deriving Repr

def Worker.start (environ : Bool) : Worker := ⟨[],environ,false,none,false,false⟩

abbrev WorkerM := ExceptT PyException (StateM Worker)

-- How `p` ends from `w`, and the worker it leaves; an exception keeps what was sent before it.
def exec (p : WorkerM α) (w : Worker) : Except PyException α × Worker := p.run.run w

theorem exec_bind (x : WorkerM α) (f : α → WorkerM β) (w : Worker) :
    exec (x >>= f) w = match exec x w with
      | (.ok a,w') => exec (f a) w'
      | (.error e,w') => (.error e,w') := by
  simp only [exec,ExceptT.run_bind,StateT.run_bind]
  rcases x.run.run w with ⟨_ | _,w'⟩ <;> rfl

theorem exec_tryCatch (x : WorkerM α) (handler : PyException → WorkerM α) (w : Worker) :
    exec (ExceptT.tryCatch x handler) w = match exec x w with
      | (.ok a,w') => (.ok a,w')
      | (.error e,w') => exec (handler e) w' := by
  simp only [exec,ExceptT.tryCatch,ExceptT.run_mk,StateT.run_bind]
  show (StateT.run (ExceptT.run x) w >>= _ : Id _) = _
  rcases x.run.run w with ⟨_ | _,w'⟩ <;> rfl

@[simp] theorem exec_pure (a : α) (w : Worker) : exec (pure a : WorkerM α) w = (.ok a,w) := rfl
@[simp] theorem exec_throw (e : PyException) (w : Worker) : exec (throw e : WorkerM α) w = (.error e,w) := rfl
@[simp] theorem exec_get (w : Worker) : exec (get : WorkerM Worker) w = (.ok w,w) := rfl
@[simp] theorem exec_modify (f : Worker → Worker) (w : Worker) :
    exec (modify f : WorkerM Unit) w = (.ok (),f w) := rfl

namespace AvocadoInstrumentedTestRunner

-- The records a call logs reach the queue once `start_logging` has installed its sink.
def call (c : Call) : WorkerM Unit := do
  modify fun w => { w with
    sent := if w.logging then w.sent ++ c.logs.map .log else w.sent
    environ := c.environ.getD w.environ }
  match c.raises with
  | some e => throw e
  | none => pure ()

def send (m : Sent) : WorkerM Unit := modify fun w => {w with sent := w.sent ++ [m]}

-- `queue.put(m)`: when pickling raises, nothing is sent.
def put (c : Call) (m : Sent) : WorkerM Unit := do call c; send m

def lift (x : Except PyException α) : WorkerM α := ExceptT.mk (pure x)

@[simp] theorem exec_lift (x : Except PyException α) (w : Worker) : exec (lift x) w = (x,w) := rfl

@[simp] theorem exec_send (m : Sent) (w : Worker) :
    exec (send m) w = (.ok (),{w with sent := w.sent ++ [m]}) := rfl

theorem exec_call (c : Call) (w : Worker) : exec (call c) w =
    ((match c.raises with | some e => .error e | none => .ok ()),
      {w with sent := if w.logging then w.sent ++ c.logs.map .log else w.sent
              environ := c.environ.getD w.environ}) := by
  cases h : c.raises <;> simp [call,exec_bind,h]

def _create_params (runnable : Runnable) : Option Params :=
  match runnable.variant with
  | none => none
  | some variant =>
    let nodes := variant.variant.map fun (path,env) => ⟨path,env⟩
    if !isEmptyVariant nodes then some (nodes,variant.paths) else none

-- Lines 72-74: `module_path, klass_method = uri.split(":", 1)`, then
-- `klass, method = klass_method.split(".", 1)`.
def splitUri (uri : String) : Except PyException (String × String × String) := do
  let (modulePath,klassMethod) ← unpack2 (pySplit1 uri ':')
  let (klass,method) ← unpack2 (pySplit1 klassMethod '.')
  pure (modulePath,klass,method)

-- Line 77: `runnable.output_dir or tempfile.mkdtemp(prefix=".avocado-task")`.
def resultDir (outputDir : Option String) (unit : TestUnit) : WorkerM String :=
  match outputDir with
  | some dir => if dir.isEmpty then do call unit.mkdtemp; pure unit.tempDir else pure dir
  | none => do call unit.mkdtemp; pure unit.tempDir

-- Lines 72-97: the test factory, the logging sink and, when the flag is set, coverage.
def prepare (runnable : Runnable) (unit : TestUnit) : WorkerM (TestFactory × Bool) := do
  let (modulePath,klass,method) ← lift (splitUri runnable.uri)
  let params := _create_params runnable
  let resultDir ← resultDir runnable.outputDir unit
  call unit.testId
  let factory : TestFactory :=
    ⟨klass,(1,runnable.uri,runnable.variant),method,runnable.config,modulePath,params,runnable.tags,resultDir⟩
  call unit.startLogging
  modify fun w => {w with logging := true}
  if (← get).environ then
    modify fun w => {w with coverageStart := true}
    call unit.coverageStart
    pure (factory,true)
  else pure (factory,false)

-- Lines 99-102: load the test and send its early state.
def loadEarly (factory : TestFactory) (unit : TestUnit) : WorkerM Unit := do
  call unit.loadTest
  modify fun w => {w with loaded := some factory}
  call unit.earlyState
  put unit.putEarly (.earlyState (unit.earlySnapshot.set "type" (.str "early_state")))

-- Lines 103-109: run the test, stop coverage when the flag is set now, take the final state.
-- `coverage` is bound only when line 93 started it; otherwise reading it raises.
def execute (coverage : Bool) (unit : TestUnit) : WorkerM Unit := do
  call unit.runAvocado
  if (← get).environ then
    modify fun w => {w with coverageStop := true}
    if coverage then call unit.coverageSave
    else throw (.builtin "UnboundLocalError"
      "cannot access local variable \x27coverage\x27 where it is not associated with a value")
  call unit.finalState

-- Lines 110-120: the whiteboard, then the finished message with the test's status.
def report (klass : String) (unit : TestUnit) : WorkerM Unit := do
  let state := unit.finalSnapshot
  let failReason := state.get "fail_reason"
  let whiteboard ← lift (state.item "whiteboard")
  put unit.putWhiteboard (.whiteboard whiteboard)
  let status ← lift (state.item "status")
  let result ← lift (pyLower unit.lower status)
  put unit.putFinished
    (.finished result failReason (.str klass) (state.get "fail_class") (state.get "traceback"))

def tryBlock (runnable : Runnable) (unit : TestUnit) : WorkerM Unit := do
  let (factory,coverage) ← prepare runnable unit
  loadEarly factory unit
  execute coverage unit
  report factory.klass unit

-- Lines 121-130. `str(e)` is evaluated after the traceback is sent; what it raises leaves the body.
def handle (e : PyException) : WorkerM Unit := do
  send (.stderr e.traceback)
  let reason ← lift e.toStr
  send (.finished "error" (.str reason) .none (.str e.cls) (.str e.traceback))

def _run_avocado (runnable : Runnable) (unit : TestUnit) : WorkerM Unit :=
  ExceptT.tryCatch (tryBlock runnable unit) fun e => if e.isException then handle e else throw e

end AvocadoInstrumentedTestRunner

-- The worker process from its start with `COVERAGE_RUN` set or not: how its body ends and the
-- state it leaves.
def worker (runnable : Runnable) (unit : TestUnit) (environ : Bool) : Except PyException Unit × Worker :=
  exec (AvocadoInstrumentedTestRunner._run_avocado runnable unit) (Worker.start environ)

-- The records the test's threads log after the body's last put, before `multiprocessing` joins
-- them at the process's exit; they reach the queue once `start_logging` has run.
def lateOutput (runnable : Runnable) (unit : TestUnit) (environ : Bool) : List Sent :=
  if (worker runnable unit environ).2.logging then unit.lateLogs.map .log else []

-- What the worker process puts on the queue.
def workerOutput (runnable : Runnable) (unit : TestUnit) (environ : Bool) : List Sent :=
  (worker runnable unit environ).2.sent ++ lateOutput runnable unit environ

-- The reference the job-api suite of `selftests/check.py` runs.
def passRunnable : Runnable := ⟨"examples/tests/passtest.py:PassTest.test",none,some "/tmp/results",[],none⟩

end AvocadoInstrumented
