import Ozo.Connection

/-!
# The failover framework

`construct_initiator_impl::apply(strategy, op)` builds an `operation_initiator` that runs the
operation `op` under a failover strategy. Called with a handler and the operation's arguments, it
asks the strategy for the first try (`get_first_try`) and initiates the operation with the
unpacked context of the try and a `continuation` holding the try and the handler
(`initiate_operation`). When the operation completes the continuation with `(ec, conn)`, the
continuation asks the try for the next one on an error (`get_next_try`) and initiates it if there
is one; otherwise it calls the handler with `(ec, conn)`.

A state of the composite operation is the try whose operation is running, held by the
continuation that operation will complete, and the calls made so far (`FailoverState`); an
attempt's outcome completes the running operation (`complete`). The strategy interface documents
the loop a failover operation runs: `get_first_try` is called once per execution, and
`get_next_try` gives the next try if the error code and connection may be failovered with it,
and the null state otherwise. That loop, from a try and the outcomes of successive attempts, is
`failoverLoop`: the framework's calls are exactly its calls (`completeAll_initiateOperation`).

## Main definitions

* `Ozo.Failover.Strategy`, `Ozo.Failover.FailoverState`, `Ozo.Failover.FailoverCall`.
* `Ozo.Failover.initiateOperation`, `Ozo.Failover.Continuation.call`,
  `Ozo.Failover.OperationInitiator.call`, `Ozo.Failover.constructInitiator`.
* `Ozo.Failover.complete`, `Ozo.Failover.completeAll`, `Ozo.Failover.failoverLoop`.

## Main results

* `Ozo.Failover.completeAll_initiateOperation`: the framework runs the failover loop.
* `Ozo.Failover.operationInitiator_run`: the composite initiator initiates the tries in order,
  asks for a next try only after an error, and calls the handler once, last, with the outcome of
  the last attempt, exactly when no attempt is still running.

## References

* `include/ozo/failover/strategy.h`.
-/

namespace Ozo.Failover

variable {Op Args Try Ctx Conn : Type}

/-! ### Strategies, states and calls -/

/-- A failover strategy as the framework reads it, through its customisation points. The
allocator `get_first_try` also receives only allocates the try and is left out. -/
structure Strategy (Op Args Try Ctx Conn : Type) where
  /-- `get_first_try(op, strategy, alloc, args...)`. -/
  getFirstTry : Op → Args → Try
  /-- `get_try_context(a_try)`: the arguments the operation is initiated with. -/
  getTryContext : Try → Ctx
  /-- `get_next_try(a_try, ec, conn)`: the next try, or the null state `none`. -/
  getNextTry : Try → ErrorCode → Conn → Option Try

/-- A call of the failover framework. -/
inductive FailoverCall (Try Ctx Conn : Type) where
  /-- `get_operation_initiator(op)(continuation{...}, args...)` with the unpacked context. -/
  | initiate (ctx : Ctx)
  /-- `get_next_try(try_, ec, conn)`. -/
  | getNextTry (t : Try) (ec : ErrorCode) (conn : Conn)
  /-- The caller's handler called with `(ec, conn)`. -/
  | handler (ec : ErrorCode) (conn : Conn)

/-- The code and connection of a call of the caller's handler. -/
@[simp] def FailoverCall.toHandlerCall : FailoverCall Try Ctx Conn → Option (ErrorCode × Conn)
  | .handler ec conn => some (ec, conn)
  | _ => none

/-- The calls of the caller's handler in a list of calls, in order. -/
def handlerCalls (calls : List (FailoverCall Try Ctx Conn)) : List (ErrorCode × Conn) :=
  calls.filterMap FailoverCall.toHandlerCall

@[simp] theorem handlerCalls_nil : handlerCalls ([] : List (FailoverCall Try Ctx Conn)) = [] :=
  rfl

@[simp] theorem handlerCalls_cons (c : FailoverCall Try Ctx Conn) (l : List (FailoverCall Try Ctx Conn)) :
    handlerCalls (c :: l) = c.toHandlerCall.toList ++ handlerCalls l := by
  rw [handlerCalls, List.filterMap_cons]
  cases c.toHandlerCall <;> rfl

@[simp] theorem handlerCalls_append (l l' : List (FailoverCall Try Ctx Conn)) :
    handlerCalls (l ++ l') = handlerCalls l ++ handlerCalls l' :=
  List.filterMap_append l l' _

/-- The state of a failover operation: the try whose operation is running, held by the
continuation that operation will complete, if any, and the calls made so far, oldest first. -/
structure FailoverState (Try Ctx Conn : Type) where
  running : Option Try
  calls : List (FailoverCall Try Ctx Conn)

/-- The caller's handler called with `(ec, conn)`. -/
def FailoverState.handler (st : FailoverState Try Ctx Conn) (ec : ErrorCode) (conn : Conn) :
    FailoverState Try Ctx Conn :=
  { st with calls := st.calls ++ [.handler ec conn] }

/-! ### The framework -/

section Framework

variable (s : Strategy Op Args Try Ctx Conn)

/-- `detail::initiate_operation(op, a_try, handler)`: the operation initiated with the unpacked
context of the try `t` and a continuation holding `t`. -/
def initiateOperation (st : FailoverState Try Ctx Conn) (t : Try) : FailoverState Try Ctx Conn :=
  { running := some t, calls := st.calls ++ [.initiate (s.getTryContext t)] }

/-- `detail::continuation::operator()(ec, conn)` of the continuation holding the try `t`: on an
error it asks for the next try and initiates it if there is one; otherwise, and on success, it
calls the caller's handler with `(ec, conn)`. -/
def Continuation.call (st : FailoverState Try Ctx Conn) (t : Try) (ec : ErrorCode) (conn : Conn) :
    FailoverState Try Ctx Conn :=
  if ec.isError then
    let st := { st with calls := st.calls ++ [.getNextTry t ec conn] }
    match s.getNextTry t ec conn with
    | some next => initiateOperation s st next
    | none => st.handler ec conn
  else st.handler ec conn

/-- `detail::operation_initiator`: a strategy and an operation. -/
structure OperationInitiator (Op Args Try Ctx Conn : Type) where
  strategy : Strategy Op Args Try Ctx Conn
  op : Op

/-- `operation_initiator::operator()(handler, args...)`: the first try, initiated. -/
def OperationInitiator.call (i : OperationInitiator Op Args Try Ctx Conn) (args : Args) :
    FailoverState Try Ctx Conn :=
  initiateOperation i.strategy { running := none, calls := [] } (i.strategy.getFirstTry i.op args)

/-- `construct_initiator_impl::apply(strategy, op)`. -/
def constructInitiator (op : Op) : OperationInitiator Op Args Try Ctx Conn :=
  { strategy := s, op }

/-- The running operation completes with `o = (ec, conn)` and calls its continuation; with no
operation running nothing happens. -/
def complete (st : FailoverState Try Ctx Conn) (o : ErrorCode × Conn) : FailoverState Try Ctx Conn :=
  match st.running with
  | none => st
  | some t => Continuation.call s { st with running := none } t o.1 o.2

/-- The outcomes `os` of successive attempts, delivered in order. -/
def completeAll (st : FailoverState Try Ctx Conn) (os : List (ErrorCode × Conn)) :
    FailoverState Try Ctx Conn :=
  os.foldl (complete s) st

/-- The failover loop the strategy interface documents, from the try `t` and the outcomes of
successive attempts: initiate the operation with the context of `t`; when it completes with
`(ec, conn)`, forward them to the caller on success; on an error ask for the next try, and go on
with it if there is one or forward `(ec, conn)` if there is none. -/
def failoverLoop (t : Try) : List (ErrorCode × Conn) → List (FailoverCall Try Ctx Conn)
  | [] => [.initiate (s.getTryContext t)]
  | (ec, conn) :: os =>
    .initiate (s.getTryContext t) ::
      if ec.isError then
        .getNextTry t ec conn ::
          match s.getNextTry t ec conn with
          | some next => failoverLoop next os
          | none => [.handler ec conn]
      else [.handler ec conn]

end Framework

/-! ### Runs -/

section Run

variable (s : Strategy Op Args Try Ctx Conn)

@[simp] theorem completeAll_nil (st : FailoverState Try Ctx Conn) : completeAll s st [] = st := rfl

@[simp] theorem completeAll_cons (st : FailoverState Try Ctx Conn) (o : ErrorCode × Conn)
    (os : List (ErrorCode × Conn)) : completeAll s st (o :: os) = completeAll s (complete s st o) os :=
  rfl

theorem completeAll_of_running_eq_none {st : FailoverState Try Ctx Conn} (h : st.running = none)
    (os : List (ErrorCode × Conn)) : completeAll s st os = st := by
  induction os with
  | nil => rfl
  | cons o os ih => simpa [complete, h] using ih

/-- **The framework runs the failover loop.** From any state, initiating the try `t` and
delivering the outcomes `os` of the successive attempts adds the calls of `failoverLoop`. -/
theorem completeAll_initiateOperation (st : FailoverState Try Ctx Conn) (t : Try)
    (os : List (ErrorCode × Conn)) :
    (completeAll s (initiateOperation s st t) os).calls = st.calls ++ failoverLoop s t os := by
  induction os generalizing st t with
  | nil => rfl
  | cons o os ih =>
    obtain ⟨ec, conn⟩ := o
    simp only [completeAll_cons, complete, initiateOperation, Continuation.call]
    cases he : ec.isError
    · simp [failoverLoop, he, FailoverState.handler, completeAll_of_running_eq_none]
    · cases hn : s.getNextTry t ec conn with
      | none => simp [failoverLoop, he, hn, FailoverState.handler, completeAll_of_running_eq_none]
      | some next =>
        have key := ih ⟨none, st.calls ++ [.initiate (s.getTryContext t), .getNextTry t ec conn]⟩ next
        simp only [failoverLoop, he, hn, ↓reduceIte]
        simp only [initiateOperation, List.append_assoc, List.cons_append, List.singleton_append,
          List.nil_append] at key ⊢
        exact key

/-- Either the caller's handler has been called once and no operation is running, or an
operation is running and the handler has not been called. -/
def HandlerOrRunning (st : FailoverState Try Ctx Conn) : Prop :=
  (handlerCalls st.calls).length + st.running.toList.length = 1

theorem handlerOrRunning_initiateOperation (st : FailoverState Try Ctx Conn)
    (h : handlerCalls st.calls = []) (t : Try) : HandlerOrRunning (initiateOperation s st t) := by
  simp [HandlerOrRunning, initiateOperation, h]

/-- Completing the running operation keeps `HandlerOrRunning`. -/
theorem handlerOrRunning_complete {st : FailoverState Try Ctx Conn} (h : HandlerOrRunning st)
    (o : ErrorCode × Conn) : HandlerOrRunning (complete s st o) := by
  cases hr : st.running with
  | none => simpa [complete, hr] using h
  | some t =>
    have h₀ : handlerCalls st.calls = [] := by simpa [HandlerOrRunning, hr] using h
    simp only [complete, hr, Continuation.call]
    split
    · split
      · exact handlerOrRunning_initiateOperation s _ (by simp [h₀]) _
      · simp [HandlerOrRunning, FailoverState.handler, h₀]
    · simp [HandlerOrRunning, FailoverState.handler, h₀]

theorem handlerOrRunning_completeAll {st : FailoverState Try Ctx Conn} (h : HandlerOrRunning st)
    (os : List (ErrorCode × Conn)) : HandlerOrRunning (completeAll s st os) := by
  induction os generalizing st with
  | nil => exact h
  | cons o os ih => exact ih (handlerOrRunning_complete s h o)

/-- The failover loop asks for a next try only after an error. -/
theorem isError_of_getNextTry_mem_failoverLoop {t t' : Try} {ec : ErrorCode} {conn : Conn}
    {os : List (ErrorCode × Conn)} (h : FailoverCall.getNextTry t' ec conn ∈ failoverLoop s t os) :
    ec.isError = true := by
  induction os generalizing t with
  | nil => simp [failoverLoop] at h
  | cons o os ih =>
    obtain ⟨ec', conn'⟩ := o
    cases he : ec'.isError
    · simp [failoverLoop, he] at h
    · simp only [failoverLoop, he, ↓reduceIte, List.mem_cons, FailoverCall.getNextTry.injEq,
        reduceCtorEq, false_or] at h
      rcases h with ⟨-, rfl, -⟩ | h
      · exact he
      · split at h
        · exact ih h
        · simp at h

/-- In the failover loop a call of the caller's handler is the last call. -/
theorem eq_append_of_handler_mem_failoverLoop {t : Try} {ec : ErrorCode} {conn : Conn}
    {os : List (ErrorCode × Conn)} (h : FailoverCall.handler ec conn ∈ failoverLoop s t os) :
    ∃ pre, failoverLoop s t os = pre ++ [.handler ec conn] := by
  induction os generalizing t with
  | nil => simp [failoverLoop] at h
  | cons o os ih =>
    obtain ⟨ec', conn'⟩ := o
    cases he : ec'.isError
    · simp only [failoverLoop, he, Bool.false_eq_true, ↓reduceIte, List.mem_cons, reduceCtorEq,
        FailoverCall.handler.injEq, List.not_mem_nil, or_false, false_or] at h ⊢
      obtain ⟨rfl, rfl⟩ := h
      exact ⟨[.initiate (s.getTryContext t)], rfl⟩
    · cases hn : s.getNextTry t ec' conn' with
      | none =>
        simp only [failoverLoop, he, hn, ↓reduceIte, List.mem_cons, reduceCtorEq,
          FailoverCall.handler.injEq, List.not_mem_nil, or_false, false_or] at h ⊢
        obtain ⟨rfl, rfl⟩ := h
        exact ⟨[.initiate (s.getTryContext t), .getNextTry t ec conn], rfl⟩
      | some next =>
        simp only [failoverLoop, he, hn, ↓reduceIte, List.mem_cons, reduceCtorEq,
          false_or] at h ⊢
        obtain ⟨pre, hpre⟩ := ih h
        exact ⟨_ :: _ :: pre, by rw [hpre]; rfl⟩

/-- **The failover contract.** For every strategy, operation, argument list and sequence of
attempt outcomes, the composite initiator makes the calls of the failover loop from the first
try: it initiates the operation with the context of the first try and then of each next try, in
order, asks each failed attempt's try once for the next one, never after a success, and stops at
the first success or null next try. The caller's handler is called at most once, exactly when no
attempt is still running, as the last call, with the outcome of the last attempt. -/
theorem operationInitiator_run (op : Op) (args : Args) (os : List (ErrorCode × Conn)) :
    let st := completeAll s ((constructInitiator s op).call args) os
    st.calls = failoverLoop s (s.getFirstTry op args) os ∧
      (handlerCalls st.calls).length + st.running.toList.length = 1 ∧
      (∀ ec conn, FailoverCall.handler ec conn ∈ st.calls →
        ∃ pre, st.calls = pre ++ [.handler ec conn]) ∧
      (∀ t ec conn, FailoverCall.getNextTry t ec conn ∈ st.calls → ec.isError = true) := by
  have hcalls : (completeAll s ((constructInitiator s op).call args) os).calls =
      failoverLoop s (s.getFirstTry op args) os :=
    completeAll_initiateOperation s ⟨none, []⟩ (s.getFirstTry op args) os
  refine ⟨hcalls, handlerOrRunning_completeAll s
    (handlerOrRunning_initiateOperation s ⟨none, []⟩ rfl _) os,
    ?_, ?_⟩
  · rw [hcalls]
    exact fun ec conn h => eq_append_of_handler_mem_failoverLoop s h
  · rw [hcalls]
    exact fun t ec conn h => isError_of_getNextTry_mem_failoverLoop s h

end Run

end Ozo.Failover
