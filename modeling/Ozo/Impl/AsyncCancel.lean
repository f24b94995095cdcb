import Ozo.Connection

/-!
# The cancel operation

`impl::async_cancel(conn, ex, t, h)` asks the connection for a cancel handle. Without one it sets
the error context and dispatches `h` with `error::pq_get_cancel_failed`. With one it builds a
`cancel_op_handler`, whose copies share one context holding the connection and an optional
handler; it arms the connection's timer with a `cancel_op_timeout_handler` copy unless the time
constraint is `none`, and posts a `cancel_op` holding another copy to the executor `ex`. The
posted operation calls the blocking `dispatch_cancel` and dispatches its result to its copy; the
timer calls its copy with `operation_aborted` when it expires. Both may complete, late and in
either order: the first call of `cancel_op_handler` takes the handler out of the shared context,
and a later call finds it empty.

A state of the operation is the shared context together with the calls made so far on the
timer, the executor, the connection and the handler (`CancelState`), in the order in which the
tests' `InSequence` expectations list them. A completion acts on it through the handler copy it
calls (`Completion.apply`). Asio delivers a completion only after asking that copy for its
associated executor, which `cancel_op_handler::get_executor` reads through the optional handler
(`Completion.deliver`).

## Main definitions

* `Ozo.Impl.CancelState`, `Ozo.Impl.CancelCall`.
* `Ozo.Impl.CancelOpHandler.call`, `Ozo.Impl.CancelOpHandler.getExecutor`,
  `Ozo.Impl.CancelOpTimeoutHandler.call`, `Ozo.Impl.asyncCancel`.
* `Ozo.Impl.Completion`, `Ozo.Impl.Completion.apply`, `Ozo.Impl.Completion.deliver`.

## Main results

* `Ozo.Impl.applyAll_eq_find`: a run of completions acts as its first completion that calls
  `cancel_op_handler`, and every other completion does nothing.
* `Ozo.Impl.asyncCancel_handler_once`: the handler is called once, with the code of the first
  completion that calls `cancel_op_handler`, and nothing changes after it.
* `Ozo.Impl.asyncCancel_calls`: with a cancel handle, the calls of every run, as the tests'
  expectations list them.
* `Ozo.Impl.asyncCancel_closesBeforeError`: with a cancel handle, every call of the handler with
  an error comes after `close_connection`.
* `Ozo.Impl.asyncCancel_null_handle_calls`: without a cancel handle the handler gets an error
  and the connection is never closed.
* `Ozo.Impl.deliverAll_of_fires`, `Ozo.Impl.deliverAll_timer_then_cancel`: once a completion
  has called `cancel_op_handler`, the delivery of the next one reads the emptied optional
  handler; in particular when the timer expires before the cancel call returns.
* `Ozo.Impl.deliverAll_asyncCancel_eq_some_iff`: a delivery never reads the emptied optional
  exactly when every completion but the last leaves `cancel_op_handler` uncalled.

## References

* `include/ozo/impl/async_cancel.h`, `include/ozo/cancel.h`, `tests/impl/async_cancel.cpp`.
-/

namespace Ozo.Impl

variable {H CH E : Type}

/-! ### State and calls -/

/-- A call of the cancel operation on one of its collaborators. -/
inductive CancelCall (H : Type) where
  /-- `timer.expires_at(t)`. -/
  | expiresAt (deadline : Nat)
  /-- `timer.expires_after(t)`. -/
  | expiresAfter (length : Nat)
  /-- `timer.async_wait(cancel_op_timeout_handler{handler})`. -/
  | asyncWait
  /-- `op.perform()`: `asio::post` of the `cancel_op` to the executor it was given. -/
  | post
  /-- `set_error_context(conn, msg)`. -/
  | setErrorContext (msg : String)
  /-- `close_connection(conn)`. -/
  | closeConnection
  /-- The handler called with `(ec, conn)`. -/
  | handler (h : H) (ec : ErrorCode) (conn : Connection)

/-- The handler and code of a handler call. -/
@[simp] def CancelCall.toHandlerCall : CancelCall H → Option (H × ErrorCode)
  | .handler h ec _ => some (h, ec)
  | _ => none

/-- The handler calls of a list of calls, in order. -/
def handlerCalls (calls : List (CancelCall H)) : List (H × ErrorCode) :=
  calls.filterMap CancelCall.toHandlerCall

@[simp] theorem handlerCalls_nil : handlerCalls ([] : List (CancelCall H)) = [] := rfl

@[simp] theorem handlerCalls_cons (c : CancelCall H) (l : List (CancelCall H)) :
    handlerCalls (c :: l) = c.toHandlerCall.toList ++ handlerCalls l := by
  rw [handlerCalls, List.filterMap_cons]
  cases c.toHandlerCall <;> rfl

@[simp] theorem handlerCalls_append (l l' : List (CancelCall H)) :
    handlerCalls (l ++ l') = handlerCalls l ++ handlerCalls l' :=
  List.filterMap_append l l' _

/-- The state of a cancel operation: the connection and the optional handler of the context that
the `cancel_op_handler` copies share, and the calls made so far, oldest first. -/
structure CancelState (H : Type) where
  conn : Connection
  handler : Option H
  calls : List (CancelCall H)

namespace CancelState

/-- `set_error_context(ctx_->conn, msg)`. -/
def setErrorContext (s : CancelState H) (msg : String) : CancelState H :=
  { s with conn := s.conn.setErrorContext msg, calls := s.calls ++ [.setErrorContext msg] }

/-- `close_connection(ctx_->conn)`. -/
def closeConnection (s : CancelState H) : CancelState H :=
  { s with conn := s.conn.closeConnection, calls := s.calls ++ [.closeConnection] }

/-- The call `h(ec, conn)` of a handler `h` taken out of the context. -/
def invoke (s : CancelState H) (h : H) (ec : ErrorCode) : CancelState H :=
  { s with calls := s.calls ++ [.handler h ec s.conn] }

@[simp] theorem setErrorContext_handler (s : CancelState H) (msg : String) :
    (s.setErrorContext msg).handler = s.handler := rfl

@[simp] theorem closeConnection_handler (s : CancelState H) :
    s.closeConnection.handler = s.handler := rfl

@[simp] theorem invoke_handler (s : CancelState H) (h : H) (ec : ErrorCode) :
    (s.invoke h ec).handler = s.handler := rfl

@[simp] theorem invoke_conn (s : CancelState H) (h : H) (ec : ErrorCode) :
    (s.invoke h ec).conn = s.conn := rfl

@[simp] theorem handlerCalls_setErrorContext (s : CancelState H) (msg : String) :
    handlerCalls (s.setErrorContext msg).calls = handlerCalls s.calls := by
  simp [setErrorContext]

@[simp] theorem handlerCalls_closeConnection (s : CancelState H) :
    handlerCalls s.closeConnection.calls = handlerCalls s.calls := by
  simp [closeConnection]

@[simp] theorem handlerCalls_invoke (s : CancelState H) (h : H) (ec : ErrorCode) :
    handlerCalls (s.invoke h ec).calls = handlerCalls s.calls ++ [(h, ec)] := by
  simp [invoke]

end CancelState

/-! ### The handlers -/

/-- `cancel_op_handler::operator()(ec, msg)`: the first call takes the handler out of the shared
context and, on an error, sets the error context to `msg` and closes the connection before
calling it with `(ec, conn)`; a call that finds the handler taken does nothing. -/
def CancelOpHandler.call (s : CancelState H) (ec : ErrorCode) (msg : String) : CancelState H :=
  match s.handler with
  | none => s
  | some h =>
    let s := { s with handler := none }
    (if ec.isError then (s.setErrorContext msg).closeConnection else s).invoke h ec

/-- `cancel_op_handler::get_executor`: `asio::get_associated_executor(*(ctx_->handler))`, with
`executor` the association. Dereferencing the optional when it is empty is undefined behaviour,
`none` here. -/
def CancelOpHandler.getExecutor (executor : H → E) (s : CancelState H) : Option E :=
  s.handler.map executor

/-- `cancel_op_timeout_handler::operator()(ec)`: unless its wait was cancelled, the timer has
expired and the handler copy is called with `operation_aborted`. -/
def CancelOpTimeoutHandler.call (s : CancelState H) (ec : ErrorCode) : CancelState H :=
  if ec ≠ .operationAborted then
    CancelOpHandler.call s .operationAborted "cancel() operation waiting aborted by time-out"
  else s

variable {s : CancelState H} {ec : ErrorCode} {msg : String}

@[simp] theorem CancelOpHandler.call_of_handler_eq_none (hs : s.handler = none) :
    CancelOpHandler.call s ec msg = s := by
  simp [CancelOpHandler.call, hs]

/-- After any call the handler is out of the context. -/
@[simp] theorem CancelOpHandler.call_handler : (CancelOpHandler.call s ec msg).handler = none := by
  unfold CancelOpHandler.call
  split
  · assumption
  · split <;> rfl

theorem CancelOpHandler.handlerCalls_call_of_handler_eq_some {h : H} (hs : s.handler = some h) :
    handlerCalls (CancelOpHandler.call s ec msg).calls = handlerCalls s.calls ++ [(h, ec)] := by
  simp only [CancelOpHandler.call, hs]
  split <;> simp

/-- The first call of `cancel_op_handler` sets the error context and closes the connection on an
error, and then calls the handler. -/
theorem CancelOpHandler.calls_call_of_handler_eq_some {h : H} (hs : s.handler = some h)
    (ec : ErrorCode) (msg : String) :
    ∃ conn, (CancelOpHandler.call s ec msg).calls =
      s.calls ++ (if ec.isError then [.setErrorContext msg, .closeConnection] else []) ++
        [.handler h ec conn] := by
  simp only [CancelOpHandler.call, hs]
  split <;> simp [CancelState.invoke, CancelState.setErrorContext, CancelState.closeConnection, *]

/-! ### Completions and runs -/

/-- A completion delivered to the cancel operation. -/
inductive Completion where
  /-- `cancel_op::operator()`: the posted call of `dispatch_cancel` returned `(ec, msg)`. -/
  | cancel (ec : ErrorCode) (msg : String)
  /-- The timer's wait completed with `ec`. -/
  | timer (ec : ErrorCode)

namespace Completion

/-- Whether the completion calls `cancel_op_handler`: the cancel call always does, the timer
unless its wait was cancelled. -/
def fires : Completion → Bool
  | cancel _ _ => true
  | timer ec => ec ≠ .operationAborted

/-- The code a completion calls `cancel_op_handler` with. -/
def errorCode : Completion → ErrorCode
  | cancel ec _ => ec
  | timer _ => .operationAborted

/-- The message a completion calls `cancel_op_handler` with. -/
def message : Completion → String
  | cancel _ msg => msg
  | timer _ => "cancel() operation waiting aborted by time-out"

/-- A completion calls the handler copy it was given to. -/
def apply (s : CancelState H) : Completion → CancelState H
  | cancel ec msg => CancelOpHandler.call s ec msg
  | timer ec => CancelOpTimeoutHandler.call s ec

theorem apply_of_fires {c : Completion} (hc : c.fires = true) (s : CancelState H) :
    c.apply s = CancelOpHandler.call s c.errorCode c.message := by
  cases c with
  | cancel ec msg => rfl
  | timer ec =>
    simp only [fires, decide_eq_true_eq] at hc
    simp [apply, CancelOpTimeoutHandler.call, hc, errorCode, message]

theorem apply_of_fires_eq_false {c : Completion} (hc : c.fires = false) (s : CancelState H) :
    c.apply s = s := by
  cases c with
  | cancel ec msg => cases hc
  | timer ec =>
    simp only [fires, decide_eq_false_iff_not, not_not] at hc
    simp [apply, CancelOpTimeoutHandler.call, hc]

/-- A timer whose wait was cancelled calls nothing, from any state. -/
@[simp] theorem apply_timer_operationAborted (s : CancelState H) :
    (timer .operationAborted).apply s = s :=
  apply_of_fires_eq_false (by simp [fires]) s

theorem apply_of_handler_eq_none (c : Completion) (hs : s.handler = none) : c.apply s = s := by
  cases hc : c.fires
  · exact apply_of_fires_eq_false hc s
  · rw [apply_of_fires hc, CancelOpHandler.call_of_handler_eq_none hs]

theorem apply_handler_of_fires {c : Completion} (hc : c.fires = true) (s : CancelState H) :
    (c.apply s).handler = none := by
  rw [apply_of_fires hc]
  exact CancelOpHandler.call_handler

/-- Asio's delivery of a completion: it asks the handler copy for its associated executor, then
runs the copy there. -/
def deliver (executor : H → E) (s : CancelState H) (c : Completion) : Option (CancelState H) :=
  (CancelOpHandler.getExecutor executor s).map fun _ => c.apply s

end Completion

/-- The completions `cs` applied in order. -/
def applyAll (s : CancelState H) (cs : List Completion) : CancelState H :=
  cs.foldl Completion.apply s

/-- The completions `cs` delivered in order; `none` once a delivery has read an empty optional. -/
def deliverAll (executor : H → E) (s : CancelState H) (cs : List Completion) :
    Option (CancelState H) :=
  cs.foldlM (Completion.deliver executor) s

theorem applyAll_of_handler_eq_none (hs : s.handler = none) (cs : List Completion) :
    applyAll s cs = s := by
  induction cs with
  | nil => rfl
  | cons c cs ih => simpa [applyAll, Completion.apply_of_handler_eq_none c hs] using ih

/-- A run acts as its first completion that calls `cancel_op_handler`. -/
theorem applyAll_eq_find (s : CancelState H) (cs : List Completion) :
    applyAll s cs = (cs.find? Completion.fires).elim s (Completion.apply s) := by
  induction cs generalizing s with
  | nil => rfl
  | cons c cs ih =>
    cases hc : c.fires
    · simpa [applyAll, hc, Completion.apply_of_fires_eq_false hc] using ih s
    · simpa [applyAll, hc] using
        applyAll_of_handler_eq_none (Completion.apply_handler_of_fires hc s) cs

/-- Once a completion has called `cancel_op_handler`, the delivery of the next one reads the
associated executor through the emptied optional handler, from any state. -/
theorem deliverAll_of_fires (executor : H → E) (s : CancelState H) {c : Completion}
    (hc : c.fires = true) (c' : Completion) (cs : List Completion) :
    deliverAll executor s (c :: c' :: cs) = none := by
  cases hs : s.handler with
  | none => simp [deliverAll, Completion.deliver, CancelOpHandler.getExecutor, hs]
  | some _ =>
    simp [deliverAll, Completion.deliver, CancelOpHandler.getExecutor, hs,
      Completion.apply_handler_of_fires hc]

/-- The calls that arm the connection's timer for the time constraint `t`: none for `none`,
`expires_at` for a time point, `expires_after` for a duration, then `async_wait`. -/
def armTimer : TimeConstraint → List (CancelCall H)
  | .none => []
  | .timePoint t => [.expiresAt t, .asyncWait]
  | .duration t => [.expiresAfter t, .asyncWait]

/-- `impl::async_cancel(conn, ex, t, h)` up to the completions of what it starts, with
`cancelHandle` the result of `get_cancel_handle(conn)`. The context holds `h` wrapped to run on a
strand, cancel the timer and post `h`; a call of the wrapper stands for the call of `h`. -/
def asyncCancel (conn : Connection) (cancelHandle : Option CH) (t : TimeConstraint) (h : H) :
    CancelState H :=
  match cancelHandle with
  | some _ => { conn, handler := some h, calls := armTimer t ++ [.post] }
  | none =>
    (({ conn, handler := none, calls := [] } : CancelState H).setErrorContext
      "call failed due to probably bad state of the connection").invoke h .pqGetCancelFailed

@[simp] theorem handlerCalls_armTimer (t : TimeConstraint) :
    handlerCalls (armTimer t : List (CancelCall H)) = [] := by
  cases t <;> rfl

/-- **The handler is called once.** In a run of `async_cancel` with a cancel handle, whatever
completions arrive, in any order and any number of times, the handler has been called exactly
when a completion has called `cancel_op_handler`, once, with the code of the first such
completion; a timer whose wait was cancelled calls nothing; and once the handler has been called,
every further call of `cancel_op_handler` leaves the whole state, the connection included, as it
is. -/
theorem asyncCancel_handler_once (conn : Connection) (ch : CH) (t : TimeConstraint) (h : H)
    (cs : List Completion) :
    let s := applyAll (asyncCancel conn (some ch) t h) cs
    handlerCalls s.calls = ((cs.find? Completion.fires).map fun c => (h, c.errorCode)).toList ∧
      (Completion.timer .operationAborted).apply s = s ∧
      (cs.any Completion.fires = true → ∀ ec msg, CancelOpHandler.call s ec msg = s) := by
  refine ⟨?_, Completion.apply_timer_operationAborted _, fun hf ec msg => ?_⟩
  · rw [applyAll_eq_find]
    cases hc : cs.find? Completion.fires with
    | none => simp [asyncCancel]
    | some c =>
      rw [Option.elim_some, Completion.apply_of_fires (List.find?_some hc),
        CancelOpHandler.handlerCalls_call_of_handler_eq_some rfl]
      simp [asyncCancel]
  · obtain ⟨c, hc⟩ := Option.isSome_iff_exists.mp (List.find?_isSome.mpr (List.any_eq_true.mp hf))
    apply CancelOpHandler.call_of_handler_eq_none
    simp only [applyAll_eq_find, hc, Option.elim_some]
    exact Completion.apply_handler_of_fires (List.find?_some hc) _

/-- Every call of the handler with an error comes after a call of `close_connection`. -/
def ClosesBeforeError (calls : List (CancelCall H)) : Prop :=
  ∀ pre h ec conn post, calls = pre ++ CancelCall.handler h ec conn :: post →
    ec.isError = true → CancelCall.closeConnection ∈ pre

theorem closesBeforeError_of_handlerCalls_eq_nil {l : List (CancelCall H)}
    (hl : handlerCalls l = []) : ClosesBeforeError l := by
  rintro pre h ec c post rfl -
  simp at hl

theorem closesBeforeError_append_handler {l : List (CancelCall H)} (hl : handlerCalls l = [])
    {h : H} {ec : ErrorCode} {c : Connection}
    (hclose : ec.isError = true → CancelCall.closeConnection ∈ l) :
    ClosesBeforeError (l ++ [.handler h ec c]) := by
  intro pre h' ec' c' post heq herr
  rcases List.eq_nil_or_concat post with rfl | ⟨post, y, rfl⟩
  · obtain ⟨rfl, hx⟩ := List.append_inj' heq rfl
    simp only [List.cons.injEq, CancelCall.handler.injEq, and_true] at hx
    exact hclose (hx.2.1 ▸ herr)
  · have heq' : l ++ [.handler h ec c] = (pre ++ .handler h' ec' c' :: post) ++ [y] := by
      simpa using heq
    simp [List.append_inj_left' heq' rfl] at hl

/-- With a cancel handle, whatever completions arrive, every call of the handler with an error
comes after a call of `close_connection`. -/
theorem asyncCancel_closesBeforeError (conn : Connection) (ch : CH) (t : TimeConstraint) (h : H)
    (cs : List Completion) :
    ClosesBeforeError (applyAll (asyncCancel conn (some ch) t h) cs).calls := by
  rw [applyAll_eq_find]
  cases hc : cs.find? Completion.fires with
  | none => exact closesBeforeError_of_handlerCalls_eq_nil (by simp [asyncCancel])
  | some c =>
    rw [Option.elim_some, Completion.apply_of_fires (List.find?_some hc)]
    obtain ⟨conn', hcalls⟩ :=
      CancelOpHandler.calls_call_of_handler_eq_some (s := asyncCancel conn (some ch) t h) rfl
        c.errorCode c.message
    rw [hcalls]
    exact closesBeforeError_append_handler (by split <;> simp [asyncCancel]) (by simp_all)

/-- The timer expires before the cancel call returns, as in the test
`should_callback_with_operation_aborted_error_on_timer_timeout`. -/
example (conn : Connection) (length : Nat) :
    (applyAll (asyncCancel conn (some ()) (.duration length) ()) [.timer .ok]).calls =
      [.expiresAfter length, .asyncWait, .post,
        .setErrorContext "cancel() operation waiting aborted by time-out", .closeConnection,
        .handler () .operationAborted
          ((conn.setErrorContext "cancel() operation waiting aborted by time-out").closeConnection)] :=
  rfl

/-- Without a cancel handle, `async_cancel` sets the error context and calls the handler with
`pq_get_cancel_failed`, and never closes the connection. -/
theorem asyncCancel_null_handle_calls (conn : Connection) (t : TimeConstraint) (h : H) :
    let s := asyncCancel conn (none : Option CH) t h
    s.calls = [.setErrorContext "call failed due to probably bad state of the connection",
      .handler h .pqGetCancelFailed
        (conn.setErrorContext "call failed due to probably bad state of the connection")] ∧
      s.conn.closed = conn.closed ∧ ¬ ClosesBeforeError s.calls := by
  refine ⟨rfl, rfl, fun hc => ?_⟩
  have := hc [.setErrorContext "call failed due to probably bad state of the connection"] h
    .pqGetCancelFailed _ [] rfl rfl
  simp at this

/-- When the timer expires before the posted cancel call returns, the timer's call takes the
handler, and the dispatch of the cancel call's result then reads the associated executor through
the emptied optional handler. -/
theorem deliverAll_timer_then_cancel (executor : H → E) (conn : Connection) (ch : CH)
    (length : Nat) (h : H) (ec : ErrorCode) (msg : String) :
    deliverAll executor (asyncCancel conn (some ch) (.duration length) h)
      [.timer .ok, .cancel ec msg] = none :=
  deliverAll_of_fires executor _ (by simp [Completion.fires]) _ []

end Ozo.Impl
