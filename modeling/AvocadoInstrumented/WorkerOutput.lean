import AvocadoInstrumented.Worker

namespace AvocadoInstrumented
open AvocadoInstrumentedTestRunner

-- Neither a finished message nor an early state: log records, a traceback, the whiteboard.
def Quiet (out : List Sent) : Prop := ∀ m ∈ out, m.isFinished = false ∧ m.isEarlyState = false

@[simp] theorem quiet_nil : Quiet [] := by simp [Quiet]
@[simp] theorem quiet_append {a b : List Sent} : Quiet (a ++ b) ↔ Quiet a ∧ Quiet b :=
  List.forall_mem_append
@[simp] theorem quiet_logs (texts : List String) : Quiet (texts.map .log) := by
  simp [Quiet,Sent.isFinished,Sent.isEarlyState]

-- What may come before the finished message: no other finished message, one early state at most.
def Before (out : List Sent) : Prop :=
  (∀ m ∈ out, m.isFinished = false) ∧ out.countP Sent.isEarlyState ≤ 1

theorem Quiet.early_count (quiet : Quiet out) : out.countP Sent.isEarlyState = 0 :=
  List.countP_eq_zero.mpr fun m member => by simp [(quiet m member).2]

theorem Quiet.before (quiet : Quiet out) : Before out :=
  ⟨fun m member => (quiet m member).1,by simp [quiet.early_count]⟩

-- Whatever `p` appends to what the worker has sent, and however it ends, satisfy `Q`.
def Sends (p : WorkerM α) (Q : Except PyException α → List Sent → Prop) : Prop :=
  ∀ w, ∃ out, (exec p w).2.sent = w.sent ++ out ∧ Q (exec p w).1 out

section
variable {x : WorkerM α} {f : α → WorkerM β} {Q : Except PyException α → List Sent → Prop}

theorem Sends.mono (sends : Sends x Q) {R : Except PyException α → List Sent → Prop}
    (weaker : ∀ r out, Q r out → R r out) : Sends x R := by
  intro w
  obtain ⟨out,sent,holds⟩ := sends w
  exact ⟨out,sent,weaker _ _ holds⟩

theorem Sends.bind (first : Sends x Q) {R : α → Except PyException β → List Sent → Prop}
    (rest : ∀ a, Sends (f a) (R a)) :
    Sends (x >>= f) fun r out => (∃ e, r = .error e ∧ Q (.error e) out) ∨
      ∃ a before after, out = before ++ after ∧ Q (.ok a) before ∧ R a r after := by
  intro w
  obtain ⟨before,sent,holds⟩ := first w
  rw [exec_bind]
  rcases h : exec x w with ⟨_ | a,w'⟩ <;> rw [h] at sent holds
  · exact ⟨before,sent,.inl ⟨_,rfl,holds⟩⟩
  · obtain ⟨after,sent',holds'⟩ := rest a w'
    exact ⟨before ++ after,by rw [sent',sent,List.append_assoc],.inr ⟨a,before,after,rfl,holds,holds'⟩⟩
end

section
-- `T` bounds the exceptions a program may end with.
variable {T : PyException → Prop}

-- Quiet output, and no exception but those `T` allows.
def Calm (T : PyException → Prop) (r : Except PyException α) (out : List Sent) : Prop :=
  Quiet out ∧ ∀ e, r = .error e → T e

-- Quiet output, then one message with `P` if the program returns.
def PutsLast (T : PyException → Prop) (P : Sent → Prop) (r : Except PyException Unit) (out : List Sent) : Prop :=
  ∃ quiet, Quiet quiet ∧
    (r = .ok () ∧ (∃ last, P last ∧ out = quiet ++ [last]) ∨ ∃ e, r = .error e ∧ T e ∧ out = quiet)

variable {x : WorkerM α} {f : α → WorkerM β}

theorem Sends.calm_bind (first : Sends x (Calm T)) (rest : ∀ a, Sends (f a) (Calm T)) :
    Sends (x >>= f) (Calm T) :=
  (first.bind rest).mono fun _ _ => by
    rintro (⟨e,rfl,quiet,raised⟩ | ⟨_,_,_,rfl,⟨quiet,-⟩,quiet',raised⟩)
    · exact ⟨quiet,fun _ same => by cases same; exact raised e rfl⟩
    · exact ⟨quiet_append.mpr ⟨quiet,quiet'⟩,raised⟩

theorem Sends.calm_then {f : α → WorkerM Unit} {P : Sent → Prop} (first : Sends x (Calm T))
    (rest : ∀ a, Sends (f a) (PutsLast T P)) : Sends (x >>= f) (PutsLast T P) :=
  (first.bind rest).mono fun _ _ => by
    rintro (⟨e,rfl,quiet,raised⟩ | ⟨_,before,_,rfl,⟨quiet,-⟩,q,qq,done⟩)
    · exact ⟨_,quiet,.inr ⟨e,rfl,raised e rfl,rfl⟩⟩
    · refine ⟨before ++ q,quiet_append.mpr ⟨quiet,qq⟩,?_⟩
      rcases done with ⟨ok,last,holds,rfl⟩ | ⟨e,rfl,raised,rfl⟩
      · exact .inl ⟨ok,last,holds,by simp⟩
      · exact .inr ⟨e,rfl,raised,rfl⟩

theorem sends_calm (same : ∀ w, (exec x w).2.sent = w.sent) (raised : ∀ w e, (exec x w).1 = .error e → T e) :
    Sends x (Calm T) :=
  fun w => ⟨[],by simp [same],quiet_nil,raised w⟩

theorem sends_call (c : Call) (raised : ∀ e, c.raises = some e → T e) : Sends (call c) (Calm T) := by
  intro w
  refine ⟨if w.logging then c.logs.map .log else [],?_,?_,?_⟩
  · by_cases h : w.logging <;> simp [exec_call,h]
  · by_cases h : w.logging <;> simp [h]
  · cases h : c.raises <;> simp [exec_call,h,raised]

theorem sends_lift (e : Except PyException α) (raised : ∀ ex, e = .error ex → T ex) : Sends (lift e) (Calm T) :=
  sends_calm (fun _ => rfl) fun _ => raised

theorem sends_pure (a : α) : Sends (pure a : WorkerM α) (Calm T) :=
  sends_calm (fun _ => rfl) fun _ _ h => by cases h

theorem sends_get : Sends (get : WorkerM Worker) (Calm T) :=
  sends_calm (fun _ => rfl) fun _ _ h => by cases h

theorem sends_modify (g : Worker → Worker) (keeps : ∀ w, (g w).sent = w.sent) :
    Sends (modify g : WorkerM Unit) (Calm T) :=
  sends_calm keeps fun _ _ h => by cases h

theorem sends_throw (e : PyException) (raised : T e) : Sends (throw e : WorkerM α) (Calm T) :=
  sends_calm (fun _ => rfl) fun _ _ h => by cases h; exact raised

theorem sends_put (c : Call) (m : Sent) (raised : ∀ e, c.raises = some e → T e) :
    Sends (put c m) (PutsLast T (· = m)) := by
  have sent : ∀ _ : Unit, Sends (send m) fun r out => r = .ok () ∧ out = [m] := fun _ _ => ⟨[m],rfl,rfl,rfl⟩
  refine ((sends_call c raised).bind sent).mono fun _ _ => ?_
  rintro (⟨e,rfl,quiet,raised⟩ | ⟨_,before,_,rfl,⟨quiet,-⟩,rfl,rfl⟩)
  · exact ⟨_,quiet,.inr ⟨e,rfl,raised e rfl,rfl⟩⟩
  · exact ⟨before,quiet,.inl ⟨rfl,m,rfl,rfl⟩⟩

theorem sends_put_quiet (c : Call) (m : Sent) (raised : ∀ e, c.raises = some e → T e)
    (quiet : Quiet [m]) : Sends (put c m) (Calm T) :=
  (sends_put c m raised).mono fun _ _ => by
    rintro ⟨q,qq,⟨rfl,_,rfl,rfl⟩ | ⟨e,rfl,raised,rfl⟩⟩
    · exact ⟨quiet_append.mpr ⟨qq,quiet⟩,fun _ h => by cases h⟩
    · exact ⟨qq,fun _ h => by cases h; exact raised⟩
end

-- The calls of one run of the worker body.
def TestUnit.calls (unit : TestUnit) : List Call :=
  [unit.mkdtemp,unit.testId,unit.startLogging,unit.coverageStart,unit.loadTest,unit.earlyState,unit.putEarly,
    unit.runAvocado,unit.coverageSave,unit.finalState,unit.putWhiteboard,unit.putFinished]

def TestUnit.Raises (T : PyException → Prop) (unit : TestUnit) : Prop :=
  ∀ c ∈ unit.calls, ∀ e, c.raises = some e → T e

theorem Before.append_quiet (before : Before a) (quiet : Quiet b) : Before (a ++ b) := by
  obtain ⟨finished,early⟩ := before
  refine ⟨fun m member => ?_,by simp [quiet.early_count,early]⟩
  rcases List.mem_append.mp member with inA | inB
  · exact finished m inA
  · exact (quiet m inB).1

theorem Quiet.append_before (quiet : Quiet a) (before : Before b) : Before (a ++ b) := by
  obtain ⟨finished,early⟩ := before
  refine ⟨fun m member => ?_,by simp [quiet.early_count,early]⟩
  rcases List.mem_append.mp member with inA | inB
  · exact (quiet m inA).1
  · exact finished m inB

theorem Quiet.before_last (quiet : Quiet a) (notFinished : m.isFinished = false) : Before (a ++ [m]) := by
  refine ⟨fun n member => ?_,by cases m <;> simp [quiet.early_count,Sent.isEarlyState]⟩
  rcases List.mem_append.mp member with inA | inM
  · exact (quiet n inA).1
  · rw [List.mem_singleton.mp inM]; exact notFinished

-- How the try block ends: with the finished message last and only what may precede it
-- before, or with an exception and no finished message.
def Tried (T : PyException → Prop) (r : Except PyException Unit) (out : List Sent) : Prop :=
  (r = .ok () ∧ ∃ pre fin, fin.isFinished ∧ Before pre ∧ out = pre ++ [fin]) ∨
    ∃ e, r = .error e ∧ T e ∧ Before out

section
variable {T : PyException → Prop} (builtin : ∀ cls message, T (.builtin cls message))
include builtin

theorem unpack2_raises (parts : List String) (e : PyException) (raised : unpack2 parts = .error e) : T e := by
  unfold unpack2 at raised
  split at raised
  · cases raised
  · cases raised; exact builtin _ _

theorem splitUri_raises (uri : String) (e : PyException) (raised : splitUri uri = .error e) : T e := by
  simp only [splitUri,bind,Except.bind] at raised
  split at raised
  · cases raised; exact unpack2_raises builtin _ _ ‹_›
  · split at raised
    · cases raised; exact unpack2_raises builtin _ _ ‹_›
    · cases raised

theorem item_raises (d : Dict) (key : String) (e : PyException) (raised : d.item key = .error e) : T e := by
  unfold Dict.item at raised
  split at raised
  · cases raised
  · cases raised; exact builtin _ _

theorem pyLower_raises (lower : String → String) (v : PyValue) (e : PyException) (raised : pyLower lower v = .error e) :
    T e := by
  unfold pyLower at raised
  split at raised
  · cases raised
  · cases raised; exact builtin _ _

end

section
variable {T : PyException → Prop} {unit : TestUnit} (tame : unit.Raises T)
include tame

theorem resultDir_calm (outputDir : Option String) : Sends (resultDir outputDir unit) (Calm T) := by
  have made : Sends (do call unit.mkdtemp; pure unit.tempDir : WorkerM String) (Calm T) :=
    (sends_call _ (tame _ (by simp [TestUnit.calls]))).calm_bind fun _ => sends_pure _
  unfold resultDir
  split
  · split
    · exact made
    · exact sends_pure _
  · exact made

theorem loadEarly_puts (factory : TestFactory) :
    Sends (loadEarly factory unit) (PutsLast T (·.isEarlyState = true)) := by
  refine (sends_call _ (tame _ (by simp [TestUnit.calls]))).calm_then fun _ =>
    (sends_modify _ fun _ => by rfl).calm_then fun _ =>
    (sends_call _ (tame _ (by simp [TestUnit.calls]))).calm_then fun _ => ?_
  exact (sends_put _ _ (tame _ (by simp [TestUnit.calls]))).mono fun _ _ => by
    rintro ⟨q,qq,⟨ok,_,rfl,rfl⟩ | raised⟩
    · exact ⟨q,qq,.inl ⟨ok,_,by rfl,rfl⟩⟩
    · exact ⟨q,qq,.inr raised⟩

variable (builtin : ∀ cls message, T (.builtin cls message))
include builtin

theorem prepare_calm (runnable : Runnable) : Sends (prepare runnable unit) (Calm T) := by
  refine (sends_lift _ (splitUri_raises builtin _)).calm_bind fun ⟨modulePath,klass,method⟩ => ?_
  refine (resultDir_calm tame _).calm_bind fun dir => ?_
  refine (sends_call _ (tame _ (by simp [TestUnit.calls]))).calm_bind fun _ =>
    (sends_call _ (tame _ (by simp [TestUnit.calls]))).calm_bind fun _ =>
    (sends_modify _ fun _ => by rfl).calm_bind fun _ => sends_get.calm_bind fun w => ?_
  split
  · exact (sends_modify _ fun _ => by rfl).calm_bind fun _ =>
      (sends_call _ (tame _ (by simp [TestUnit.calls]))).calm_bind fun _ => sends_pure _
  · exact sends_pure _

theorem execute_calm (coverage : Bool) : Sends (execute coverage unit) (Calm T) := by
  refine (sends_call _ (tame _ (by simp [TestUnit.calls]))).calm_bind fun _ => sends_get.calm_bind fun w => ?_
  split
  · refine (sends_modify _ fun _ => by rfl).calm_bind fun _ => ?_
    split
    · exact (sends_call _ (tame _ (by simp [TestUnit.calls]))).calm_bind fun _ =>
        sends_call _ (tame _ (by simp [TestUnit.calls]))
    · exact (sends_throw _ (builtin _ _)).calm_bind fun _ => sends_call _ (tame _ (by simp [TestUnit.calls]))
  · exact sends_call _ (tame _ (by simp [TestUnit.calls]))

theorem report_puts (klass : String) : Sends (report klass unit) (PutsLast T (·.isFinished = true)) := by
  refine (sends_lift _ (item_raises builtin _ _)).calm_then fun whiteboard =>
    (sends_put_quiet _ _ (tame _ (by simp [TestUnit.calls])) (by simp [Quiet,Sent.isFinished,Sent.isEarlyState])).calm_then fun _ =>
    (sends_lift _ (item_raises builtin _ _)).calm_then fun status =>
    (sends_lift _ (pyLower_raises builtin _ _)).calm_then fun result => ?_
  exact (sends_put _ _ (tame _ (by simp [TestUnit.calls]))).mono fun _ _ => by
    rintro ⟨q,qq,⟨ok,_,rfl,rfl⟩ | raised⟩
    · exact ⟨q,qq,.inl ⟨ok,_,by rfl,rfl⟩⟩
    · exact ⟨q,qq,.inr raised⟩

theorem tryBlock_tried (runnable : Runnable) : Sends (tryBlock runnable unit) (Tried T) := by
  have rest : ∀ factory : TestFactory, ∀ coverage, Sends (loadEarly factory unit >>= fun _ =>
      execute coverage unit >>= fun _ => report factory.klass unit) (Tried T) := by
    intro factory coverage
    have finish : ∀ _ : Unit, Sends (execute coverage unit >>= fun _ => report factory.klass unit)
        (PutsLast T (·.isFinished = true)) :=
      fun _ => (execute_calm tame builtin coverage).calm_then fun _ => report_puts tame builtin _
    refine ((loadEarly_puts tame factory).bind finish).mono fun _ _ => ?_
    rintro (⟨e,rfl,q,qq,⟨⟨⟩,-⟩ | ⟨_,⟨⟩,raised,rfl⟩⟩ | ⟨_,_,_,rfl,⟨q,qq,⟨-,early,isEarly,rfl⟩ | ⟨_,⟨⟩,-⟩⟩,q',qq',done⟩)
    · exact .inr ⟨e,rfl,raised,qq.before⟩
    · have opening : Before (q ++ [early]) := qq.before_last (Sent.not_finished_of_early isEarly)
      rcases done with ⟨ok,fin,finished,rfl⟩ | ⟨e,rfl,raised,rfl⟩
      · exact .inl ⟨ok,_,fin,finished,opening.append_quiet qq',by simp⟩
      · exact .inr ⟨e,rfl,raised,opening.append_quiet qq'⟩
  refine ((prepare_calm tame builtin runnable).bind fun p => rest p.1 p.2).mono fun _ _ => ?_
  rintro (⟨e,rfl,quiet,raised⟩ | ⟨_,before,_,rfl,⟨quiet,-⟩,⟨ok,pre,fin,finished,prior,rfl⟩ | ⟨e,rfl,raised,prior⟩⟩)
  · exact .inr ⟨e,rfl,raised e rfl,quiet.before⟩
  · exact .inl ⟨ok,before ++ pre,fin,finished,quiet.append_before prior,by simp⟩
  · exact .inr ⟨e,rfl,raised,quiet.append_before prior⟩
end

-- An exception line 121 turns into a finished message: an `Exception` whose `str()` returns.
def Handled (e : PyException) : Prop := e.isException = true ∧ e.str.isSome = true

theorem builtin_handled (cls message : String) : Handled (.builtin cls message) := ⟨rfl,rfl⟩

theorem handle_exec (e : PyException) (reason : String) (str : e.toStr = .ok reason) (w : Worker) :
    exec (handle e) w = (.ok (),{w with sent := w.sent ++
      [.stderr e.traceback,.finished "error" (.str reason) .none (.str e.cls) (.str e.traceback)]}) := by
  simp [handle,exec_bind,str]

-- How the worker body ends, from any state of the worker, when every exception it meets is handled.
theorem run_avocado_ends (runnable : Runnable) (unit : TestUnit) (tame : unit.Raises Handled) (w : Worker) :
    (exec (_run_avocado runnable unit) w).1 = .ok () ∧
      ∃ pre fin, (exec (_run_avocado runnable unit) w).2.sent = w.sent ++ (pre ++ [fin]) ∧ fin.isFinished ∧
        Before pre ∧ ∀ e, (exec (tryBlock runnable unit) w).1 = .error e →
          ∃ reason, e.str = some reason ∧
            fin = .finished "error" (.str reason) .none (.str e.cls) (.str e.traceback) ∧
            pre.getLast? = some (.stderr e.traceback) := by
  obtain ⟨out,sent,tried⟩ := tryBlock_tried tame builtin_handled runnable w
  rw [_run_avocado,exec_tryCatch]
  rcases h : exec (tryBlock runnable unit) w with ⟨e | _,w'⟩ <;> rw [h] at sent tried <;> dsimp only at sent tried ⊢
  · obtain ⟨⟨⟩,-⟩ | ⟨e',same,⟨isException,str⟩,before⟩ := tried
    simp only [Except.error.injEq] at same
    subst same
    obtain ⟨reason,hreason⟩ := Option.isSome_iff_exists.mp str
    rw [if_pos isException,handle_exec e reason (PyException.toStr_of_str hreason)]
    refine ⟨rfl,out ++ [.stderr e.traceback],.finished "error" (.str reason) .none (.str e.cls) (.str e.traceback),
      by simp [sent],rfl,before.append_quiet (by simp [Quiet,Sent.isFinished,Sent.isEarlyState]),fun e' same => ?_⟩
    cases same
    exact ⟨reason,hreason,rfl,by simp⟩
  · obtain ⟨-,pre,fin,finished,before,rfl⟩ | ⟨_,⟨⟩,-⟩ := tried
    exact ⟨rfl,pre,fin,sent,finished,before,fun _ h => by cases h⟩

-- The try block ends by an `Exception` whose `__str__` raises: line 126 raises what it raises,
-- after the traceback was sent, and the worker sends no finished message at all.
theorem worker_no_finished_when_str_raises (runnable : Runnable) (unit : TestUnit) (environ : Bool)
    (e strRaised : PyException) (raised : (exec (tryBlock runnable unit) (Worker.start environ)).1 = .error e)
    (isException : e.isException = true) (str : e.toStr = .error strRaised) :
    (worker runnable unit environ).1 = .error strRaised ∧
      ∀ m ∈ (worker runnable unit environ).2.sent, m.isFinished = false := by
  obtain ⟨out,sent,tried⟩ := (tryBlock_tried (fun _ _ _ _ => trivial) (fun _ _ => trivial) runnable :
    Sends _ (Tried fun _ => True)) (Worker.start environ)
  rw [worker,_run_avocado,exec_tryCatch]
  rcases h : exec (tryBlock runnable unit) (Worker.start environ) with ⟨e' | _,w⟩ <;> rw [h] at sent tried raised
  · cases raised
    obtain ⟨⟨⟩,-⟩ | ⟨_,-,-,before⟩ := tried
    simp only [isException,if_true,handle,exec_bind,exec_send,exec_lift,str]
    refine ⟨trivial,fun m member => ?_⟩
    simp only [List.mem_append,List.mem_singleton] at member
    rw [sent,Worker.start,List.nil_append] at member
    rcases member with inOut | rfl
    · exact before.1 m inOut
    · rfl
  · cases raised

-- `class BrokenError(Exception)` whose `__str__` raises `RuntimeError()`.
def brokenStr : PyException :=
  .strRaises "BrokenError" (.builtin "RuntimeError" "") "Traceback (most recent call last): BrokenError" true

theorem loading_broken_str_sends_no_finished :
    (exec (tryBlock passRunnable {loadTest := {raises := some brokenStr}}) (Worker.start false)).1 = .error brokenStr ∧
      brokenStr.isException = true ∧ brokenStr.toStr = .error (.builtin "RuntimeError" "") ∧
      ((worker passRunnable {loadTest := {raises := some brokenStr}} false).1 = .error (.builtin "RuntimeError" "") ∧
        ∀ m ∈ (worker passRunnable {loadTest := {raises := some brokenStr}} false).2.sent, m.isFinished = false) :=
  ⟨rfl,rfl,rfl,worker_no_finished_when_str_raises _ _ _ _ _ rfl rfl rfl⟩

-- A passing test whose run sets `COVERAGE_RUN`: line 105 takes the branch line 93 did not, reads
-- the unbound `coverage`, and the worker reports the test as an error.
def addsCoverage : TestUnit :=
  {runAvocado := {environ := some true}, finalSnapshot := [("status",.str "PASS"),("whiteboard",.str "")]}

theorem coverage_added_by_test_reports_error :
    (worker passRunnable addsCoverage false).2.coverageStart = false ∧
      (worker passRunnable addsCoverage false).2.coverageStop = true ∧
      (worker passRunnable addsCoverage false).2.sent.getLast? = some (.finished "error"
        (.str "cannot access local variable \x27coverage\x27 where it is not associated with a value") .none
        (.str "UnboundLocalError")
        (.str "UnboundLocalError: cannot access local variable \x27coverage\x27 where it is not associated with a value")) :=
  ⟨rfl,rfl,rfl⟩

-- The worker's decoding of a uri gives back the module path, class and method it was made of
-- when the path holds no ':' and the class no '.'; a path holding a ':' is cut at its first one.
theorem uri_round_trip :
    (∀ modulePath klass method : String, ':' ∉ modulePath.data → '.' ∉ klass.data →
      splitUri (modulePath ++ ":" ++ klass ++ "." ++ method) = .ok (modulePath,klass,method)) ∧
    ∀ head tail klass method : String, ':' ∉ head.data →
      ∃ rest, splitUri (head ++ ":" ++ tail ++ ":" ++ klass ++ "." ++ method) = .ok (head,rest) := by
  refine ⟨fun modulePath klass method noColon noDot => ?_,fun head tail klass method noColon => ?_⟩
  · have first : pySplit1 (modulePath ++ ":" ++ klass ++ "." ++ method) ':' = [modulePath,klass ++ "." ++ method] :=
      pySplit1_of_data _ _ _ _ (by simp) noColon
    have second : pySplit1 (klass ++ "." ++ method) '.' = [klass,method] := pySplit1_of_data _ _ _ _ (by simp) noDot
    simp [splitUri,first,second,unpack2,bind,Except.bind,pure,Except.pure]
  · have first : pySplit1 (head ++ ":" ++ tail ++ ":" ++ klass ++ "." ++ method) ':' =
        [head,tail ++ ":" ++ klass ++ "." ++ method] := pySplit1_of_data _ _ _ _ (by simp) noColon
    obtain ⟨klass',method',second⟩ := pySplit1_of_mem (tail ++ ":" ++ klass ++ "." ++ method) '.' (by simp)
    exact ⟨(klass',method'),by simp [splitUri,first,second,unpack2,bind,Except.bind,pure,Except.pure]⟩

theorem uri_round_trip_passtest : ':' ∉ "examples/tests/passtest.py".data ∧ '.' ∉ "PassTest".data ∧
    splitUri ("examples/tests/passtest.py" ++ ":" ++ "PassTest" ++ "." ++ "test") =
      .ok ("examples/tests/passtest.py","PassTest","test") ∧ ':' ∉ "tests".data ∧
    ∃ rest, splitUri ("tests" ++ ":" ++ "unit/passtest.py" ++ ":" ++ "PassTest" ++ "." ++ "test") = .ok ("tests",rest) :=
  ⟨by decide,by decide,uri_round_trip.1 _ _ _ (by decide) (by decide),by decide,uri_round_trip.2 _ _ _ _ (by decide)⟩

-- A POSIX path may hold a colon; the uri is cut at the first one.
theorem uri_split_at_path_colon :
    splitUri ("tests:unit/passtest.py" ++ ":" ++ "PassTest" ++ "." ++ "test") ≠
      .ok ("tests:unit/passtest.py","PassTest","test") := by
  rw [show splitUri ("tests:unit/passtest.py" ++ ":" ++ "PassTest" ++ "." ++ "test") =
    .ok ("tests","unit/passtest","py:PassTest.test") from rfl]
  simp

-- What `run` reads of the worker's messages: the `type` of one says early_state exactly when it
-- is the early state, whose type line 101 sets. The messages the worker builds have their own.
def Marked (snap : Message) (out : List Sent) : Prop :=
  ∀ m ∈ out, m.message.isEarlyState = m.isEarlyState ∧ (m.isEarlyState → m.message = snap)

@[simp] theorem marked_append {a b : List Sent} : Marked snap (a ++ b) ↔ Marked snap a ∧ Marked snap b :=
  List.forall_mem_append

theorem Sent.late_of_finished {m : Sent} (finished : m.isFinished) : m.isEarlyState = false := by
  cases m <;> simp_all [Sent.isFinished,Sent.isEarlyState]

theorem Sent.marked_of_late {m : Sent} (late : m.isEarlyState = false) : Marked snap [m] := by
  refine List.forall_mem_singleton.mpr ⟨?_,fun early => absurd early (by simp [late])⟩
  cases m with
  | earlyState => simp [Sent.isEarlyState] at late
  | finished => simp [Sent.message,Sent.isEarlyState]
  | _ => rfl

theorem Quiet.marked (quiet : Quiet out) : Marked snap out := fun m member =>
  Sent.marked_of_late (quiet m member).2 m (List.mem_singleton_self m)

theorem marked_early (d : Dict) :
    Marked (d.set "type" (.str "early_state")) [.earlyState (d.set "type" (.str "early_state"))] := by
  simp [Marked,Sent.message,Sent.isEarlyState,Message.isEarlyState]

section
variable {T : PyException → Prop} {snap : Message} {x : WorkerM α} {f : α → WorkerM β}

theorem Sends.marked_bind (first : Sends x fun _ out => Marked snap out)
    (rest : ∀ a, Sends (f a) fun _ out => Marked snap out) : Sends (x >>= f) fun _ out => Marked snap out :=
  (first.bind rest).mono fun _ _ => by
    rintro (⟨_,_,marked⟩ | ⟨_,_,_,rfl,marked,marked'⟩)
    · exact marked
    · exact marked_append.mpr ⟨marked,marked'⟩

theorem Sends.calm_marked (calm : Sends x (Calm T)) : Sends x fun _ out => Marked snap out :=
  calm.mono fun _ _ calm => calm.1.marked

theorem Sends.last_marked {x : WorkerM Unit} {P : Sent → Prop} (puts : Sends x (PutsLast T P))
    (last : ∀ m, P m → Marked snap [m]) : Sends x fun _ out => Marked snap out :=
  puts.mono fun _ _ => by
    rintro ⟨q,qq,⟨-,m,holds,rfl⟩ | ⟨_,-,-,rfl⟩⟩
    · exact marked_append.mpr ⟨qq.marked,last m holds⟩
    · exact qq.marked

theorem sends_send_marked (m : Sent) (marked : Marked snap [m]) : Sends (send m) fun _ out => Marked snap out :=
  fun _ => ⟨[m],rfl,marked⟩
end

theorem handle_marked (snap : Message) (e : PyException) : Sends (handle e) fun _ out => Marked snap out :=
  (sends_send_marked _ (Sent.marked_of_late (by rfl))).marked_bind fun _ =>
    (sends_lift _ fun _ _ => trivial : Sends _ (Calm fun _ => True)).calm_marked.marked_bind fun _ =>
    sends_send_marked _ (Sent.marked_of_late (by rfl))

section
variable {T : PyException → Prop} {unit : TestUnit} (tame : unit.Raises T)
include tame

theorem loadEarly_marked (factory : TestFactory) :
    Sends (loadEarly factory unit) fun _ out => Marked (unit.earlySnapshot.set "type" (.str "early_state")) out :=
  (sends_call _ (tame _ (by simp [TestUnit.calls]))).calm_marked.marked_bind fun _ =>
    (sends_modify _ (fun _ => by rfl) : Sends _ (Calm T)).calm_marked.marked_bind fun _ =>
    (sends_call _ (tame _ (by simp [TestUnit.calls]))).calm_marked.marked_bind fun _ =>
    (sends_put _ _ (tame _ (by simp [TestUnit.calls]))).last_marked fun _ same => same ▸ marked_early _

theorem tryBlock_marked (builtin : ∀ cls message, T (.builtin cls message)) (runnable : Runnable) :
    Sends (tryBlock runnable unit) fun _ out => Marked (unit.earlySnapshot.set "type" (.str "early_state")) out :=
  (prepare_calm tame builtin runnable).calm_marked.marked_bind fun p =>
    (loadEarly_marked tame p.1).marked_bind fun _ =>
    (execute_calm tame builtin p.2).calm_marked.marked_bind fun _ =>
    (report_puts tame builtin p.1.klass).last_marked fun _ finished => Sent.marked_of_late (Sent.late_of_finished finished)
end

-- Whatever the test does, `run` reads one message of the worker as an early_state exactly when
-- it is the worker's early state, and that message is the test's state with its type set.
theorem worker_marked (runnable : Runnable) (unit : TestUnit) (environ : Bool) :
    Marked (unit.earlySnapshot.set "type" (.str "early_state")) (worker runnable unit environ).2.sent := by
  obtain ⟨out,sent,marked⟩ := tryBlock_marked (show unit.Raises fun _ => True from fun _ _ _ _ => trivial)
    (fun _ _ => trivial) runnable (Worker.start environ)
  rw [worker,_run_avocado,exec_tryCatch]
  rcases h : exec (tryBlock runnable unit) (Worker.start environ) with ⟨e | _,w⟩ <;> rw [h] at sent <;>
    dsimp only at sent ⊢
  · split
    · obtain ⟨out',sent',marked'⟩ := handle_marked _ e w
      rw [sent',sent]
      simpa [Worker.start] using And.intro marked marked'
    · simpa [sent,Worker.start] using marked
  · simpa [sent,Worker.start] using marked

theorem Sent.message_isFinished {m : Sent} (late : m.isEarlyState = false) : m.message.isFinished = m.isFinished := by
  cases m with
  | earlyState => simp [Sent.isEarlyState] at late
  | finished => simp [Sent.message,Sent.isFinished]
  | _ => simp [Sent.message,Sent.isFinished,Message.isFinished,Dict.get,logMessage,whiteboardMessage,stderrMessage]

-- Whatever the test does, even when `str(e)` raises or a `SystemExit` leaves the body, no
-- finished message comes before the last message the worker sends.
theorem worker_finished_last (runnable : Runnable) (unit : TestUnit) (environ : Bool) :
    ∀ m ∈ (worker runnable unit environ).2.sent.dropLast, m.isFinished = false := by
  obtain ⟨out,sent,tried⟩ := (tryBlock_tried (fun _ _ _ _ => trivial) (fun _ _ => trivial) runnable :
    Sends _ (Tried fun _ => True)) (Worker.start environ)
  rw [worker,_run_avocado,exec_tryCatch]
  rcases h : exec (tryBlock runnable unit) (Worker.start environ) with ⟨e | _,w⟩ <;> rw [h] at sent tried <;>
    dsimp only at sent tried ⊢
  · obtain ⟨⟨⟩,-⟩ | ⟨_,⟨⟩,-,before⟩ := tried
    have quiet : ∀ m ∈ w.sent, m.isFinished = false := by rw [sent]; exact before.1
    split
    · cases str : e.toStr with
      | ok reason =>
          intro m member
          rw [handle_exec e reason str] at member
          simp only [List.dropLast_append_cons,List.dropLast_cons₂,List.dropLast_single,List.mem_append,
            List.mem_singleton] at member
          rcases member with inSent | rfl
          · exact quiet m inSent
          · rfl
      | error raised => simpa [handle,exec_bind,str] using quiet
    · exact fun m member => quiet m (List.dropLast_subset _ member)
  · obtain ⟨-,pre,fin,-,before,rfl⟩ | ⟨_,⟨⟩,-⟩ := tried
    rw [sent,show (Worker.start environ).sent = [] from rfl,List.nil_append,List.dropLast_concat]
    exact before.1

end AvocadoInstrumented
