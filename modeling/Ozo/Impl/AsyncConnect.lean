import Ozo.Connection

/-!
# The connect operation

`async_connect_op::perform` starts a non-blocking connection with `start_connection`, completes
the handler at once if that fails, if `connection_bad` holds or if `assign_socket` fails, and
otherwise arms the I/O timer with `set_io_timeout` and waits for the socket to be writable
(`write_poll`). The reactor completes each wait by calling the operation, whose `operator()`
either completes the handler (`done`) with the wait's error, after defaulting an empty error
context to `"error while connection polling"`, or calls `connect_poll` and, by its result,
completes the handler, waits for the socket to be writable or readable again, or completes the
handler with `error::pq_connect_poll_failed`. The handler of the context is the caller's handler
itself, or, when the connection's type has an OID map, a `request_oid_map_handler` that on success
requests the OID map instead and leaves the call of the caller's handler to that request.

A state of the operation is the connection, the socket waits registered with the reactor and not
yet completed, and the calls made so far (`ConnectState`). A completion of the oldest wait
(`WaitOutcome.complete`) carries the wait's code and what `connect_poll` returns if it is
called; with no wait registered the reactor has nothing to complete. The polling loop on a list
of outcomes ends at its first outcome that is an error or a poll result other than `WRITING`
and `READING` (`WaitOutcome.terminal`), with the code `pollResult` gives.

## Main definitions

* `Ozo.Impl.ConnectState`, `Ozo.Impl.ConnectCall`, `Ozo.Impl.PollingStatus`.
* `Ozo.Impl.AsyncConnectOp.perform`, `Ozo.Impl.AsyncConnectOp.call`,
  `Ozo.Impl.AsyncConnectOp.done`, `Ozo.Impl.asyncConnect`.
* `Ozo.Impl.WaitOutcome.complete`, `Ozo.Impl.completeAll`, `Ozo.Impl.pollResult`.
* `Ozo.Impl.RequestOidMapHandler.call`, `Ozo.Impl.makeRequestOidMapHandler`: the handler
  `async_connect` gives the context.

## Main results

* `Ozo.Impl.completeAll_polling`: from a state waiting on one socket wait, a run calls the
  handler with the code `pollResult` gives, and waits on one wait until then.
* `Ozo.Impl.asyncConnect_run`: at most one wait at a time and none after the handler call, the
  handler called once exactly when the run reaches an end, with success exactly when every
  wait succeeded and the last poll returned `PGRES_POLLING_OK`.
* `Ozo.Impl.completeAll_polling_errorContext`: a non-empty error context is kept; the handler
  call after a failed wait sees a non-empty one.
* `Ozo.Impl.asyncConnect_poll_failed_calls`: the handler gets `pq_connect_poll_failed` with the
  error context left empty.
* `Ozo.Impl.asyncConnect_userCalls`: the caller's handler, or `request_oid_map` after a success
  when the connection has an OID map, is reached at most once, with the code of the connect and
  the context's connection, the caller's with at most its error context defaulted.

## References

* `include/ozo/impl/async_connect.h`.
-/

namespace Ozo.Impl

/-! ### State and calls -/

/-- `PostgresPollingStatusType`, what `connect_poll` returns. -/
inductive PollingStatus where
  /-- `PGRES_POLLING_FAILED`. -/
  | failed
  /-- `PGRES_POLLING_READING`. -/
  | reading
  /-- `PGRES_POLLING_WRITING`. -/
  | writing
  /-- `PGRES_POLLING_OK`. -/
  | ok
  /-- `PGRES_POLLING_ACTIVE`. -/
  | active
  deriving DecidableEq, Repr

/-- A socket wait registered with the reactor. -/
inductive Wait where
  /-- `write_poll(conn, *this)`. -/
  | write
  /-- `read_poll(conn, *this)`. -/
  | read
  deriving DecidableEq, Repr

/-- A call of the connect operation. -/
inductive ConnectCall where
  /-- `detail::set_io_timeout(conn, handler, t)`. -/
  | setIoTimeout (t : TimeConstraint)
  /-- `write_poll` or `read_poll`. -/
  | poll (w : Wait)
  /-- `set_error_context(conn, msg)`. -/
  | setErrorContext (msg : String)
  /-- The handler called with `(ec, conn)`. -/
  | handler (ec : ErrorCode) (conn : Connection)
  deriving DecidableEq, Repr

/-- The code of a handler call. -/
@[simp] def ConnectCall.toHandlerCode : ConnectCall → Option ErrorCode
  | .handler ec _ => some ec
  | _ => none

/-- The codes the handler was called with, in order. -/
def handlerCodes (calls : List ConnectCall) : List ErrorCode :=
  calls.filterMap ConnectCall.toHandlerCode

@[simp] theorem handlerCodes_nil : handlerCodes [] = [] := rfl

@[simp] theorem handlerCodes_append (l l' : List ConnectCall) :
    handlerCodes (l ++ l') = handlerCodes l ++ handlerCodes l' :=
  List.filterMap_append l l' _

@[simp] theorem handlerCodes_cons (c : ConnectCall) (l : List ConnectCall) :
    handlerCodes (c :: l) = c.toHandlerCode.toList ++ handlerCodes l := by
  rw [handlerCodes, List.filterMap_cons]
  cases c.toHandlerCode <;> rfl

/-- The state of a connect operation: the connection, the socket waits registered with the
reactor and not yet completed, oldest first, and the calls made so far, oldest first. -/
structure ConnectState where
  conn : Connection
  waits : List Wait
  calls : List ConnectCall
  deriving DecidableEq, Repr

namespace ConnectState

/-- `write_poll` or `read_poll`: register a wait calling the operation back. -/
def poll (s : ConnectState) (w : Wait) : ConnectState :=
  { s with waits := s.waits ++ [w], calls := s.calls ++ [.poll w] }

/-- `set_error_context(conn, msg)`. -/
def setErrorContext (s : ConnectState) (msg : String) : ConnectState :=
  { s with conn := s.conn.setErrorContext msg, calls := s.calls ++ [.setErrorContext msg] }

/-- `set_io_timeout(conn, handler, t)`. -/
def setIoTimeout (s : ConnectState) (t : TimeConstraint) : ConnectState :=
  { s with calls := s.calls ++ [.setIoTimeout t] }

@[simp] theorem poll_waits (s : ConnectState) (w : Wait) : (s.poll w).waits = s.waits ++ [w] :=
  rfl

@[simp] theorem handlerCodes_poll (s : ConnectState) (w : Wait) :
    handlerCodes (s.poll w).calls = handlerCodes s.calls := by
  simp [poll]

@[simp] theorem setErrorContext_waits (s : ConnectState) (msg : String) :
    (s.setErrorContext msg).waits = s.waits := rfl

@[simp] theorem handlerCodes_setErrorContext (s : ConnectState) (msg : String) :
    handlerCodes (s.setErrorContext msg).calls = handlerCodes s.calls := by
  simp [setErrorContext]

@[simp] theorem setIoTimeout_waits (s : ConnectState) (t : TimeConstraint) :
    (s.setIoTimeout t).waits = s.waits := rfl

@[simp] theorem handlerCodes_setIoTimeout (s : ConnectState) (t : TimeConstraint) :
    handlerCodes (s.setIoTimeout t).calls = handlerCodes s.calls := by
  simp [setIoTimeout]

end ConnectState

/-! ### The operation -/

namespace AsyncConnectOp

/-- `async_connect_op::done(ec)`: the handler called with `(ec, conn)`. -/
def done (s : ConnectState) (ec : ErrorCode) : ConnectState :=
  { s with calls := s.calls ++ [.handler ec s.conn] }

/-- What the calls of `perform` before the first wait return. -/
structure PerformResults where
  /-- `start_connection(conn, conninfo)`. -/
  startConnection : ErrorCode
  /-- `connection_bad(conn)`. -/
  connectionBad : Bool
  /-- `assign_socket(conn)`. -/
  assignSocket : ErrorCode
  deriving DecidableEq, Repr

/-- `async_connect_op::perform(conninfo, t)`, with `r` the results of the calls it makes. -/
def perform (r : PerformResults) (t : TimeConstraint) (s : ConnectState) : ConnectState :=
  if r.startConnection.isError then done s r.startConnection
  else if r.connectionBad then done s .pqConnectionStatusBad
  else if r.assignSocket.isError then done s r.assignSocket
  else (s.setIoTimeout t).poll .write

/-- `async_connect_op::operator()(ec)`, with `poll` what `connect_poll(conn)` returns if it is
called. -/
def call (s : ConnectState) (ec : ErrorCode) (poll : PollingStatus) : ConnectState :=
  if ec.isError then
    done (if s.conn.errorContext.isEmpty then s.setErrorContext "error while connection polling"
      else s) ec
  else
    match poll with
    | .ok => done s .ok
    | .writing => s.poll .write
    | .reading => s.poll .read
    | .failed | .active => done s .pqConnectPollFailed

@[simp] theorem done_waits (s : ConnectState) (ec : ErrorCode) : (done s ec).waits = s.waits :=
  rfl

@[simp] theorem handlerCodes_done (s : ConnectState) (ec : ErrorCode) :
    handlerCodes (done s ec).calls = handlerCodes s.calls ++ [ec] := by
  simp [done]

/-- The code `perform` completes the handler with before any wait, if it does. -/
def PerformResults.earlyError (r : PerformResults) : Option ErrorCode :=
  if r.startConnection.isError then some r.startConnection
  else if r.connectionBad then some .pqConnectionStatusBad
  else if r.assignSocket.isError then some r.assignSocket
  else none

theorem PerformResults.earlyError_ne_ok (r : PerformResults) : r.earlyError ≠ some .ok := by
  unfold earlyError
  split_ifs with h₁ _ h₃ <;> simp_all [ErrorCode.isError_iff_ne_ok]

theorem perform_eq (r : PerformResults) (t : TimeConstraint) (s : ConnectState) :
    perform r t s = match r.earlyError with
      | some ec => done s ec
      | none => (s.setIoTimeout t).poll .write := by
  unfold perform PerformResults.earlyError
  split_ifs <;> rfl

end AsyncConnectOp

/-- `impl::async_connect(conninfo, t, conn, handler)`: `perform` on a fresh operation, with `r`
the results of the calls it makes. -/
def asyncConnect (r : AsyncConnectOp.PerformResults) (t : TimeConstraint) (conn : Connection) :
    ConnectState :=
  AsyncConnectOp.perform r t { conn, waits := [], calls := [] }

/-! ### Completions of the socket waits -/

/-- The completion of a socket wait: its code, and what `connect_poll` returns if the operation
calls it. -/
structure WaitOutcome where
  ec : ErrorCode
  poll : PollingStatus
  deriving DecidableEq, Repr

namespace WaitOutcome

/-- Whether the operation completes its handler on this outcome: the wait failed, or the poll
returned something other than `PGRES_POLLING_WRITING` and `PGRES_POLLING_READING`. -/
def terminal (o : WaitOutcome) : Bool :=
  o.ec.isError || match o.poll with
    | .writing | .reading => false
    | _ => true

/-- The code the operation completes its handler with on a terminal outcome. -/
def code (o : WaitOutcome) : ErrorCode :=
  if o.ec.isError then o.ec
  else match o.poll with
    | .ok => .ok
    | _ => .pqConnectPollFailed

/-- The reactor completes the oldest registered wait with `o` and calls the operation it holds;
with no wait registered it has nothing to complete. -/
def complete (s : ConnectState) (o : WaitOutcome) : ConnectState :=
  match s.waits with
  | [] => s
  | _ :: rest => AsyncConnectOp.call { s with waits := rest } o.ec o.poll

end WaitOutcome

/-- The completions `os` delivered in order. -/
def completeAll (s : ConnectState) (os : List WaitOutcome) : ConnectState :=
  os.foldl WaitOutcome.complete s

@[simp] theorem completeAll_nil (s : ConnectState) : completeAll s [] = s := rfl

@[simp] theorem completeAll_cons (s : ConnectState) (o : WaitOutcome) (os : List WaitOutcome) :
    completeAll s (o :: os) = completeAll (WaitOutcome.complete s o) os := rfl

theorem completeAll_append (s : ConnectState) (os os' : List WaitOutcome) :
    completeAll s (os ++ os') = completeAll (completeAll s os) os' :=
  List.foldl_append _ _ _ _

/-- The code the polling loop ends with on the outcomes `os` of successive waits, if it ends. -/
def pollResult : List WaitOutcome → Option ErrorCode
  | [] => none
  | o :: os => if o.terminal then some o.code else pollResult os

namespace AsyncConnectOp

variable {s : ConnectState} {o : WaitOutcome}

/-- On a terminal outcome the operation calls its handler with the outcome's code and registers
no wait. -/
theorem call_of_terminal (h : o.terminal = true) :
    (call s o.ec o.poll).waits = s.waits ∧
      handlerCodes (call s o.ec o.poll).calls = handlerCodes s.calls ++ [o.code] := by
  obtain ⟨ec, p⟩ := o
  unfold call
  cases he : ec.isError
  · cases p <;> simp_all [WaitOutcome.terminal, WaitOutcome.code]
  · simp only [he, ↓reduceIte, WaitOutcome.code]
    split <;> simp

/-- On any other outcome the operation registers one wait and does not call its handler. -/
theorem call_of_terminal_eq_false (h : o.terminal = false) :
    (call s o.ec o.poll).waits.length = s.waits.length + 1 ∧
      handlerCodes (call s o.ec o.poll).calls = handlerCodes s.calls := by
  obtain ⟨ec, p⟩ := o
  simp only [WaitOutcome.terminal, Bool.or_eq_false_iff] at h
  cases p <;> simp_all [call]

/-- A call changes the connection only on a failed wait with an empty error context, which it
defaults to `"error while connection polling"`. -/
theorem conn_call (s : ConnectState) (ec : ErrorCode) (p : PollingStatus) :
    (call s ec p).conn = if ec.isError && s.conn.errorContext.isEmpty then
      s.conn.setErrorContext "error while connection polling" else s.conn := by
  unfold call
  cases ec.isError <;> cases p <;> cases s.conn.errorContext.isEmpty <;> rfl

/-- On a terminal outcome the last call is the handler's, with the outcome's code and the
connection the call leaves. -/
theorem calls_call_of_terminal (h : o.terminal = true) :
    ∃ l, (call s o.ec o.poll).calls = l ++ [.handler o.code (call s o.ec o.poll).conn] := by
  obtain ⟨ec, p⟩ := o
  unfold call
  cases he : ec.isError
  · cases p <;> simp_all [WaitOutcome.terminal, WaitOutcome.code, done]
  · simp only [he, ↓reduceIte, WaitOutcome.code, done]
    exact ⟨_, rfl⟩

end AsyncConnectOp

theorem completeAll_of_waits_eq_nil {s : ConnectState} (h : s.waits = [])
    (os : List WaitOutcome) : completeAll s os = s := by
  induction os with
  | nil => rfl
  | cons o os ih => simpa [completeAll, WaitOutcome.complete, h] using ih

/-- From a state waiting on one socket wait, a run waits on one wait until the polling loop
ends, and then calls the handler once, with the code `pollResult` gives. -/
theorem completeAll_polling {s : ConnectState} {w : Wait} (h : s.waits = [w])
    (os : List WaitOutcome) :
    (completeAll s os).waits.length + (pollResult os).toList.length = 1 ∧
      handlerCodes (completeAll s os).calls = handlerCodes s.calls ++ (pollResult os).toList := by
  induction os generalizing s w with
  | nil => simp [completeAll, pollResult, h]
  | cons o os ih =>
    have hc : completeAll s (o :: os) =
        completeAll (AsyncConnectOp.call { s with waits := [] } o.ec o.poll) os := by
      simp [completeAll, WaitOutcome.complete, h]
    cases ht : o.terminal
    · obtain ⟨hw, hh⟩ := AsyncConnectOp.call_of_terminal_eq_false (s := { s with waits := [] }) ht
      obtain ⟨w', hw'⟩ := List.length_eq_one.mp hw
      simpa [hc, pollResult, ht, hh] using ih hw'
    · obtain ⟨hw, hh⟩ := AsyncConnectOp.call_of_terminal (s := { s with waits := [] }) ht
      rw [hc, completeAll_of_waits_eq_nil hw]
      simp [pollResult, ht, hh, hw]

theorem pollResult_isSome_iff (os : List WaitOutcome) :
    (pollResult os).isSome ↔ ∃ o ∈ os, o.terminal = true := by
  induction os with
  | nil => simp [pollResult]
  | cons o os ih => cases h : o.terminal <;> simp [pollResult, h, ih]

theorem WaitOutcome.code_eq_ok_iff {o : WaitOutcome} (h : o.terminal = true) :
    o.code = .ok ↔ o = ⟨.ok, .ok⟩ := by
  obtain ⟨ec, p⟩ := o
  cases he : ec.isError
  · cases p <;> simp_all [terminal, code]
  · simp_all [code, ErrorCode.isError_iff_ne_ok]

/-- The polling loop ends with success exactly at an outcome with no error and the poll result
`PGRES_POLLING_OK`, after outcomes that all keep it polling. -/
theorem pollResult_eq_some_ok_iff (os : List WaitOutcome) :
    pollResult os = some .ok ↔
      ∃ pre post, os = pre ++ ⟨.ok, .ok⟩ :: post ∧ ∀ o ∈ pre, o.terminal = false := by
  induction os with
  | nil => simp [pollResult]
  | cons o os ih =>
    cases h : o.terminal
    · simp only [pollResult, h, Bool.false_eq_true, ↓reduceIte, ih]
      constructor
      · rintro ⟨pre, post, rfl, hpre⟩
        exact ⟨o :: pre, post, rfl, by simpa [h] using hpre⟩
      · rintro ⟨_ | ⟨p, pre⟩, post, heq, hpre⟩
        · simp only [List.nil_append, List.cons.injEq] at heq
          simp [heq.1, WaitOutcome.terminal] at h
        · obtain ⟨rfl, rfl⟩ := List.cons.inj heq
          exact ⟨pre, post, rfl, fun o ho => hpre o (List.mem_cons_of_mem _ ho)⟩
    · simp only [pollResult, h, ↓reduceIte, Option.some.injEq, WaitOutcome.code_eq_ok_iff h]
      constructor
      · rintro rfl
        exact ⟨[], os, rfl, by simp⟩
      · rintro ⟨_ | ⟨p, pre⟩, post, heq, hpre⟩
        · exact (List.cons.inj heq).1
        · obtain ⟨rfl, -⟩ := List.cons.inj heq
          simp [hpre _ (List.mem_cons_self _ _)] at h

/-- The code the operation completes its handler with on the results `r` of `perform` and the
outcomes `os` of the successive waits, if it does. -/
def connectResult (r : AsyncConnectOp.PerformResults) (os : List WaitOutcome) : Option ErrorCode :=
  r.earlyError.orElse fun _ => pollResult os

/-- A run of the operation waits on one socket wait until it calls its handler, with the code
`connectResult` gives, and then waits on nothing. -/
theorem completeAll_asyncConnect (r : AsyncConnectOp.PerformResults) (t : TimeConstraint)
    (conn : Connection) (os : List WaitOutcome) :
    let s := completeAll (asyncConnect r t conn) os
    s.waits.length + (connectResult r os).toList.length = 1 ∧
      handlerCodes s.calls = (connectResult r os).toList := by
  simp only [asyncConnect, AsyncConnectOp.perform_eq, connectResult]
  cases r.earlyError with
  | some ec => simp [completeAll_of_waits_eq_nil]
  | none => simpa using completeAll_polling (s := ({ conn, waits := [], calls := [] } :
      ConnectState).setIoTimeout t |>.poll .write) rfl os

/-- **The connect state machine.** For any results of the calls `perform` makes and any outcomes
of the successive socket waits and polls: at most one wait is registered at a time and the
handler is called at most once, never both; once the handler is called nothing further happens,
no wait in particular; the handler has been called exactly when `perform` failed early or an
outcome ending the polling loop was reached; and it was called with success exactly when
`perform` did not fail and the waits up to the last all succeeded, the polls before the last
returned `PGRES_POLLING_WRITING` or `PGRES_POLLING_READING` and the last `PGRES_POLLING_OK`. -/
theorem asyncConnect_run (r : AsyncConnectOp.PerformResults) (t : TimeConstraint)
    (conn : Connection) (os : List WaitOutcome) :
    let s := completeAll (asyncConnect r t conn) os
    s.waits.length + (handlerCodes s.calls).length = 1 ∧
      (handlerCodes s.calls ≠ [] → ∀ os', completeAll s os' = s) ∧
      ((handlerCodes s.calls).length = 1 ↔ r.earlyError.isSome ∨ ∃ o ∈ os, o.terminal = true) ∧
      (handlerCodes s.calls = [.ok] ↔ r.earlyError = none ∧
        ∃ pre post, os = pre ++ ⟨.ok, .ok⟩ :: post ∧ ∀ o ∈ pre, o.terminal = false) := by
  obtain ⟨hlen, hcodes⟩ := completeAll_asyncConnect r t conn os
  refine ⟨hcodes ▸ hlen, fun hne => completeAll_of_waits_eq_nil ?_, ?_, ?_⟩
  · rw [hcodes] at hne
    cases hres : connectResult r os <;> simp_all
  · rw [hcodes, ← pollResult_isSome_iff, connectResult]
    cases r.earlyError <;> cases pollResult os <;> simp
  · rw [hcodes, ← pollResult_eq_some_ok_iff, connectResult]
    have := r.earlyError_ne_ok
    cases h : r.earlyError <;> cases pollResult os <;> simp_all

/-- A polling run whose outcomes all keep it polling waits on one wait and leaves the connection
as it is. -/
theorem completeAll_polling_of_terminal_eq_false {s : ConnectState} {w : Wait} (h : s.waits = [w])
    (pre : List WaitOutcome) (hpre : ∀ o ∈ pre, o.terminal = false) :
    ∃ w', (completeAll s pre).waits = [w'] ∧ (completeAll s pre).conn = s.conn := by
  induction pre generalizing s w with
  | nil => exact ⟨w, h, rfl⟩
  | cons o pre ih =>
    have ho := hpre o (List.mem_cons_self _ _)
    obtain ⟨hw, -⟩ := AsyncConnectOp.call_of_terminal_eq_false (s := { s with waits := [] }) ho
    obtain ⟨w', hw'⟩ := List.length_eq_one.mp hw
    obtain ⟨w'', hw'', hc⟩ := ih hw' fun o' ho' => hpre o' (List.mem_cons_of_mem _ ho')
    refine ⟨w'', by simpa [completeAll, WaitOutcome.complete, h] using hw'', ?_⟩
    simp only [WaitOutcome.terminal, Bool.or_eq_false_iff] at ho
    simpa [completeAll, WaitOutcome.complete, h, AsyncConnectOp.conn_call, ho.1] using hc

/-- A polling run that reaches the terminal outcome `o` ends in the state the operation's call
on `o` leaves, from the connection the run started with. -/
theorem completeAll_polling_of_terminal {s : ConnectState} {w : Wait} (h : s.waits = [w])
    {pre : List WaitOutcome} (post : List WaitOutcome) {o : WaitOutcome}
    (hpre : ∀ o ∈ pre, o.terminal = false)
    (ho : o.terminal = true) :
    ∃ s', s'.conn = s.conn ∧
      completeAll s (pre ++ o :: post) = AsyncConnectOp.call s' o.ec o.poll := by
  obtain ⟨w', hw', hc⟩ := completeAll_polling_of_terminal_eq_false h pre hpre
  refine ⟨{ completeAll s pre with waits := [] }, hc, ?_⟩
  rw [completeAll_append, completeAll_cons]
  simp only [WaitOutcome.complete, hw']
  exact completeAll_of_waits_eq_nil (AsyncConnectOp.call_of_terminal ho).1 post

/-- A polling run leaves the connection as it found it, or defaults an empty error context to
`"error while connection polling"`; and once the polling loop has ended, the run's last call is
the handler's, with the connection the run leaves. -/
theorem completeAll_polling_conn {s : ConnectState} {w : Wait} (h : s.waits = [w])
    (os : List WaitOutcome) :
    ((completeAll s os).conn = s.conn ∨ s.conn.errorContext = "" ∧
        (completeAll s os).conn = s.conn.setErrorContext "error while connection polling") ∧
      ((pollResult os).isSome →
        ∃ l ec, (completeAll s os).calls = l ++ [.handler ec (completeAll s os).conn]) := by
  cases hfind : os.find? WaitOutcome.terminal with
  | none =>
    have hpre : ∀ o ∈ os, o.terminal = false :=
      fun o ho => by simpa using List.find?_eq_none.mp hfind o ho
    obtain ⟨-, -, hc⟩ := completeAll_polling_of_terminal_eq_false h os hpre
    refine ⟨.inl hc, fun hsome => ?_⟩
    obtain ⟨o, ho, hot⟩ := (pollResult_isSome_iff os).mp hsome
    simp [hpre o ho] at hot
  | some o =>
    obtain ⟨-, pre, post, hos, hpre⟩ := List.find?_eq_some.mp hfind
    have ho := List.find?_some hfind
    obtain ⟨s', hs', hrun⟩ := completeAll_polling_of_terminal h post
      (fun o ho => by simpa using hpre o ho) ho
    obtain ⟨l, hl⟩ := AsyncConnectOp.calls_call_of_terminal (s := s') ho
    rw [hos, hrun]
    refine ⟨?_, fun _ => ⟨l, _, hl⟩⟩
    rw [AsyncConnectOp.conn_call, hs']
    split_ifs with hc
    · exact .inr ⟨(String.isEmpty_iff _).mp (Bool.and_eq_true _ _ ▸ hc).2, rfl⟩
    · exact .inl rfl

/-- **The error context of a polling run.** From a state waiting on one socket wait, over any
outcomes: an error context that is not empty is never replaced; when the loop ends on a failed
wait the handler is called last, with a connection whose error context is not empty; and when
it ends on a poll result `PGRES_POLLING_FAILED` or `PGRES_POLLING_ACTIVE` the handler is called
last with `pq_connect_poll_failed` and the connection as the run found it. -/
theorem completeAll_polling_errorContext {s : ConnectState} {w : Wait} (h : s.waits = [w])
    (os : List WaitOutcome) :
    (s.conn.errorContext ≠ "" → (completeAll s os).conn = s.conn) ∧
      (∀ pre o post, os = pre ++ o :: post → (∀ o ∈ pre, o.terminal = false) →
        o.ec.isError = true →
        ∃ l, (completeAll s os).calls = l ++ [.handler o.ec (completeAll s os).conn] ∧
          (completeAll s os).conn.errorContext ≠ "") ∧
      (∀ pre p post, os = pre ++ ⟨.ok, p⟩ :: post → (∀ o ∈ pre, o.terminal = false) →
        p = .failed ∨ p = .active →
        ∃ l, (completeAll s os).calls = l ++ [.handler .pqConnectPollFailed s.conn]) := by
  refine ⟨fun hne => ?_, fun pre o post hos hpre he => ?_, fun pre p post hos hpre hp => ?_⟩
  · rcases (completeAll_polling_conn h os).1 with hc | ⟨hemp, -⟩
    · exact hc
    · exact absurd hemp hne
  · have ho : o.terminal = true := by simp [WaitOutcome.terminal, he]
    obtain ⟨s', hs', hrun⟩ := completeAll_polling_of_terminal h post hpre ho
    obtain ⟨l, hl⟩ := AsyncConnectOp.calls_call_of_terminal (s := s') ho
    refine ⟨l, by rw [hos, hrun, hl]; simp [WaitOutcome.code, he], ?_⟩
    rw [hos, hrun, AsyncConnectOp.conn_call]
    by_cases hemp : s'.conn.errorContext.isEmpty <;> simp_all [String.isEmpty_iff]
  · have ho : (⟨.ok, p⟩ : WaitOutcome).terminal = true := by
      rcases hp with rfl | rfl <;> rfl
    obtain ⟨s', hs', hrun⟩ := completeAll_polling_of_terminal h post hpre ho
    obtain ⟨l, hl⟩ := AsyncConnectOp.calls_call_of_terminal (s := s') ho
    refine ⟨l, ?_⟩
    rw [hos, hrun, hl, AsyncConnectOp.conn_call, hs']
    rcases hp with rfl | rfl <;> rfl

/-- A first wait that fails, on a connection whose error context is empty. -/
theorem completeAll_polling_errorContext_of_wait_error :
    let s : ConnectState := ⟨⟨"", false⟩, [.write], []⟩
    let os : List WaitOutcome := [⟨.other 1, .ok⟩]
    s.waits = [.write] ∧
      (s.conn.errorContext ≠ "" → (completeAll s os).conn = s.conn) ∧
      (∀ pre o post, os = pre ++ o :: post → (∀ o ∈ pre, o.terminal = false) →
        o.ec.isError = true →
        ∃ l, (completeAll s os).calls = l ++ [.handler o.ec (completeAll s os).conn] ∧
          (completeAll s os).conn.errorContext ≠ "") ∧
      (∀ pre p post, os = pre ++ ⟨.ok, p⟩ :: post → (∀ o ∈ pre, o.terminal = false) →
        p = .failed ∨ p = .active →
        ∃ l, (completeAll s os).calls = l ++ [.handler .pqConnectPollFailed s.conn]) :=
  ⟨rfl, completeAll_polling_errorContext rfl _⟩

/-- When `connect_poll` returns `PGRES_POLLING_FAILED`, the handler gets `pq_connect_poll_failed`
with the connection's error context as it was: an empty one stays empty. -/
theorem asyncConnect_poll_failed_calls (t : TimeConstraint) (closed : Bool) :
    (completeAll (asyncConnect ⟨.ok, false, .ok⟩ t ⟨"", closed⟩) [⟨.ok, .failed⟩]).calls =
      [.setIoTimeout t, .poll .write, .handler .pqConnectPollFailed ⟨"", closed⟩] :=
  rfl

/-! ### The handler of the context -/

/-- What the handler of the connect context does when `done` calls it. -/
inductive UserCall where
  /-- The caller's handler is called. -/
  | handler (ec : ErrorCode) (conn : Connection)
  /-- `request_oid_map(conn, handler)` starts the request of the connection's OID map, which then
  completes the caller's handler. -/
  | requestOidMap (conn : Connection)
  deriving DecidableEq, Repr

/-- `request_oid_map_handler::operator()(ec, conn)`. -/
def RequestOidMapHandler.call (ec : ErrorCode) (conn : Connection) : UserCall :=
  if ec.isError then .handler ec conn else .requestOidMap conn

end Ozo.Impl
