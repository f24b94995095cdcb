import Mathlib.Data.String.Basic

/-!
# Error codes, time constraints and the connection state

Every asynchronous operation of `ozo` completes by calling its handler with an `error_code` and
the connection, and keeps a human-readable error context on the connection
(`set_error_context`, `get_error_context`) that the caller reads next to the code. This file
models what the modelled operations read and change of these three things.

An `error_code` converts to `true` exactly when it is not the default-constructed code; the
operations test it with `if (ec)` and compare it with `asio::error::operation_aborted`, so
`ErrorCode` names the codes they raise and keeps every other non-zero code as `other`.

## Main definitions

* `Ozo.ErrorCode`, `Ozo.ErrorCode.isError`: codes and their conversion to `bool`.
* `Ozo.TimeConstraint`: `none`, an absolute time point or a duration.
* `Ozo.Connection`, `Ozo.Connection.setErrorContext`, `Ozo.Connection.closeConnection`.

## References

* `include/ozo/impl/async_cancel.h`, `include/ozo/impl/async_connect.h`.
-/

namespace Ozo

/-- An `error_code` as the operations test it. -/
inductive ErrorCode where
  /-- The default-constructed `error_code {}`. -/
  | ok
  /-- `asio::error::operation_aborted`. -/
  | operationAborted
  /-- `error::pq_get_cancel_failed`. -/
  | pqGetCancelFailed
  /-- `error::pq_connection_status_bad`. -/
  | pqConnectionStatusBad
  /-- `error::pq_connect_poll_failed`. -/
  | pqConnectPollFailed
  /-- Any other non-zero code: a socket, system or server error. -/
  | other (value : Nat)
  deriving DecidableEq, Repr

namespace ErrorCode

/-- The conversion `if (ec)`: every code but the default-constructed one is an error. -/
def isError : ErrorCode → Bool
  | ok => false
  | _ => true

@[simp] theorem isError_ok : ok.isError = false := rfl

@[simp] theorem isError_eq_false_iff {ec : ErrorCode} : ec.isError = false ↔ ec = ok := by
  cases ec <;> simp [isError]

theorem isError_iff_ne_ok {ec : ErrorCode} : ec.isError = true ↔ ec ≠ ok := by
  cases ec <;> simp [isError]

end ErrorCode

/-- A time constraint of an operation: `ozo::none`, a `time_point` or a `duration`. -/
inductive TimeConstraint where
  | none
  | timePoint (deadline : Nat)
  | duration (length : Nat)
  deriving DecidableEq, Repr

/-- The part of a connection that the modelled operations change: the error context, and
whether `close_connection` has closed it. -/
structure Connection where
  errorContext : String
  closed : Bool
  deriving DecidableEq, Repr

namespace Connection

/-- `set_error_context(conn, msg)`. -/
def setErrorContext (c : Connection) (msg : String) : Connection :=
  { c with errorContext := msg }

/-- `close_connection(conn)`. -/
def closeConnection (c : Connection) : Connection :=
  { c with closed := true }

@[simp] theorem setErrorContext_errorContext (c : Connection) (msg : String) :
    (c.setErrorContext msg).errorContext = msg := rfl

@[simp] theorem setErrorContext_closed (c : Connection) (msg : String) :
    (c.setErrorContext msg).closed = c.closed := rfl

@[simp] theorem closeConnection_errorContext (c : Connection) :
    c.closeConnection.errorContext = c.errorContext := rfl

@[simp] theorem closeConnection_closed (c : Connection) : c.closeConnection.closed = true := rfl

end Connection

end Ozo
