import AvocadoInstrumented.Python

namespace AvocadoInstrumented

-- A message on the queue is the dict `run` reads with `message.get(...)`.
abbrev Message := Dict

def Message.isEarlyState (m : Message) : Bool := m.get "type" == .str "early_state"
def Message.isFinished (m : Message) : Bool := m.get "status" == .str "finished"
def Message.isStarted (m : Message) : Bool := m.get "status" == .str "started"

-- `GenericMessage.get` leaves out the keyword arguments that are `None`.
def optionalField (key : String) (value : PyValue) : Dict :=
  if value = .none then [] else [(key,value)]

/-- Modelled from the spec: `messages.StartedMessage.get()`, the message `Started{}`. Its
`time` field is left out: nothing modelled reads it. -/
def startedMessage : Message := [("status",.str "started")]

/-- Modelled from the spec: `messages.RunningMessage.get()`, the heartbeat `Running{}`. -/
def runningMessage : Message := [("status",.str "running")]

/-- Modelled from the spec: `messages.StderrMessage.get(text)`, the message `Stderr{text}`. -/
def stderrMessage (text : String) : Message :=
  [("status",.str "running"),("type",.str "stderr"),("log",.str text)]

/-- Modelled from the spec: the record the logging sink of `messages.start_logging` puts on
the queue for one log record. -/
def logMessage (text : String) : Message :=
  [("status",.str "running"),("type",.str "log"),("log",.str text)]

/-- Modelled from the spec: `messages.WhiteboardMessage.get(whiteboard)`. -/
def whiteboardMessage (whiteboard : PyValue) : Message :=
  [("status",.str "running"),("type",.str "whiteboard"),("log",whiteboard)]

/-- Modelled from the spec: `messages.FinishedMessage.get(result, fail_reason, class_name,
fail_class, traceback)`, the message `Finished{...}`. Its status is "finished", which is what
`run` tests, and the outcome is its `result`. -/
def finishedMessage (result : String) (failReason className failClass traceback : PyValue) : Message :=
  [("status",.str "finished"),("result",.str result)] ++ optionalField "fail_reason" failReason ++
    optionalField "class_name" className ++ optionalField "fail_class" failClass ++
    optionalField "traceback" traceback

@[simp] theorem finishedMessage_isFinished (result : String) (failReason className failClass traceback : PyValue) :
    (finishedMessage result failReason className failClass traceback).isFinished = true := by
  simp [finishedMessage,Message.isFinished,Dict.get]

@[simp] theorem finishedMessage_isStarted (result : String) (failReason className failClass traceback : PyValue) :
    (finishedMessage result failReason className failClass traceback).isStarted = false := by
  simp [finishedMessage,Message.isStarted,Dict.get]

@[simp] theorem finishedMessage_isEarlyState (result : String) (failReason className failClass traceback : PyValue) :
    (finishedMessage result failReason className failClass traceback).isEarlyState = false := by
  simp only [finishedMessage,Message.isEarlyState,Dict.get,optionalField]
  split_ifs <;> simp

-- What the worker body and its logging sink put on the queue, by the line that builds it.
inductive Sent where
  | earlyState (snapshot : Dict)
  | log (text : String)
  | whiteboard (value : PyValue)
  | stderr (traceback : String)
  | finished (result : String) (failReason className failClass traceback : PyValue)
  deriving DecidableEq, Repr

-- The early state is the test's `get_state()` with its `type` set, so it is sent as it is.
def Sent.message : Sent → Message
  | .earlyState snapshot => snapshot
  | .log text => logMessage text
  | .whiteboard value => whiteboardMessage value
  | .stderr traceback => stderrMessage traceback
  | .finished result failReason className failClass traceback =>
      finishedMessage result failReason className failClass traceback

def Sent.isFinished : Sent → Bool
  | .finished .. => true
  | _ => false

def Sent.isEarlyState : Sent → Bool
  | .earlyState _ => true
  | _ => false

theorem Sent.not_finished_of_early {m : Sent} (early : m.isEarlyState) : m.isFinished = false := by
  cases m <;> simp_all [Sent.isEarlyState,Sent.isFinished]

-- What `run` yields, by the line that yields it.
inductive Yield where
  | started
  | running
  | timedOut
  | forwarded (m : Message)
  | stderr (traceback : String)
  | errored (e : PyException) (reason : String)
  deriving DecidableEq, Repr

def Yield.message : Yield → Message
  | .started => startedMessage
  | .running => runningMessage
  | .timedOut => finishedMessage "interrupted" (.str "timeout") .none .none .none
  | .forwarded m => m
  | .stderr traceback => stderrMessage traceback
  | .errored e reason => finishedMessage "error" (.str reason) .none (.str e.cls) (.str e.traceback)

def Yield.forwarded? : Yield → Option Message
  | .forwarded m => some m
  | _ => none

@[simp] theorem started_isFinished : Yield.started.message.isFinished = false := rfl
@[simp] theorem running_isFinished : Yield.running.message.isFinished = false := rfl
@[simp] theorem stderr_isFinished (traceback : String) : (Yield.stderr traceback).message.isFinished = false := rfl
@[simp] theorem timedOut_isFinished : Yield.timedOut.message.isFinished = true := by simp [Yield.message]
@[simp] theorem errored_isFinished (e : PyException) (reason : String) :
    (Yield.errored e reason).message.isFinished = true := by simp [Yield.message]
@[simp] theorem forwarded_message (m : Message) : (Yield.forwarded m).message = m := rfl
@[simp] theorem running_isStarted : Yield.running.message.isStarted = false := rfl
@[simp] theorem stderr_isStarted (traceback : String) : (Yield.stderr traceback).message.isStarted = false := rfl

end AvocadoInstrumented
