import Ozo.Benchmarks.Performance

/-!
# The threads of the multi-thread benchmark

`use_connection_pool_mult_threads` starts `params.threads_number` threads, each running an
`io_context` on which it spawns `params.coroutines` coroutines. The `j`-th coroutine of the
`i`-th thread has the token `params.coroutines * i + j`, and the benchmark is built for
`params.threads_number * params.coroutines` tokens. Every coroutine runs the loop whose body is
`threadSafeRequestPass`; when it leaves the loop it increments the atomic `finished_coroutines`
and calls `coroutine_finished.notify_all()`, without taking `mutex`. The main thread holds
`mutex` through `lock` from before the coroutines are spawned and, if there is any coroutine,
calls `coroutine_finished.wait(lock, pred)` with `pred` the test
`finished_coroutines >= threads_number * coroutines`: while `pred` is false it blocks in
`wait(lock)`, which releases the lock, until a notification wakes it to test `pred` again.

A state (`MultThreads`) is what the loop of each coroutine did so far and what it shares
(`Coroutines`), which coroutines have notified, and where the main thread is in its wait
(`MainThread`). A step (`ThreadStep`) is one pass of a coroutine's loop body on the answer of
its request, one coroutine's `notify_all`, or one step of the main thread's wait; the threads
take their steps in any order. A notification wakes the main thread only if it is blocked:
since the coroutines do not take the mutex, one that comes after the main thread has found
`pred` false and before it blocks is lost. Spurious wakeups, which the standard allows but does
not promise, are not steps of the model.

## Main definitions

* `Ozo.Benchmarks.multThreadsTokens`.
* `Ozo.Benchmarks.Coroutines`, `Ozo.Benchmarks.Coroutines.resume`.
* `Ozo.Benchmarks.MainThread`, `Ozo.Benchmarks.ThreadStep`, `Ozo.Benchmarks.MultThreads`,
  `Ozo.Benchmarks.MultThreads.step`, `Ozo.Benchmarks.useConnectionPoolMultThreads`.

## Main results

* `Ozo.Benchmarks.multThreadsTokens_eq_range`: the tokens are `0, 1, …` up to the number the
  benchmark is built for, each once.
* `Ozo.Benchmarks.useConnectionPoolMultThreads_proceeded`: once the main thread's wait has
  returned, every coroutine has left its loop, and no later step changes what they did.
* `Ozo.Benchmarks.useConnectionPoolMultThreads_lostWakeup`: if the main thread tests `pred`
  before the coroutines finish and they all notify before it blocks, it blocks for good,
  every coroutine having finished.

## References

* `benchmarks/performance.cpp`, `use_connection_pool_mult_threads`.
-/

namespace Ozo.Benchmarks

/-! ### Tokens -/

/-- The tokens `use_connection_pool_mult_threads` gives its coroutines, thread by thread:
`coroutines * i + j` for the `j`-th coroutine of the `i`-th thread. -/
def multThreadsTokens (threadsNumber coroutines : Nat) : List Nat :=
  (List.range threadsNumber).flatMap fun i =>
    (List.range coroutines).map fun j => coroutines * i + j

/-- **Tokens of the multi-thread benchmark.** For any numbers of threads and coroutines, the
coroutines get, in the order they are spawned, the tokens `0, 1, …` up to the number of tokens the
benchmark is built for: each token of the benchmark goes to exactly one coroutine. -/
theorem multThreadsTokens_eq_range (threadsNumber coroutines : Nat) :
    multThreadsTokens threadsNumber coroutines = List.range (threadsNumber * coroutines) := by
  induction threadsNumber with
  | zero => simp [multThreadsTokens]
  | succ t ih =>
    rw [multThreadsTokens, List.range_succ, List.flatMap_append, ← multThreadsTokens, ih,
      Nat.succ_mul, List.range_add]
    simp [Nat.mul_comm]

/-! ### The coroutines -/

/-- The coroutines of the benchmark and what they share. -/
structure Coroutines where
  /-- What the loop of each coroutine did so far, by token. -/
  loops : List LoopTrace
  /-- The steps the shared benchmark counted, in order: the token and the rows. -/
  steps : List (Nat × Nat)
  /-- `finished_coroutines`. -/
  finishedCoroutines : Nat
  deriving DecidableEq, Repr

namespace Coroutines

/-- `n` coroutines spawned, none of them run yet. -/
def init (n : Nat) : Coroutines :=
  ⟨List.replicate n .empty, [], 0⟩

variable (pass : Round → LoopTrace)

/-- The coroutine `token` gets the answer `r` of its request and runs its loop body once; when
the body leaves the loop, `++finished_coroutines`. A coroutine that has left its loop, or that
does not exist, is not resumed. -/
def resume (s : Coroutines) (token : Nat) (r : Round) : Coroutines :=
  match s.loops[token]? with
  | some t =>
    if t.ended = .running then
      { loops := s.loops.set token (t.andThen (pass r))
        steps := s.steps ++ (pass r).steps.map ((token, ·))
        finishedCoroutines :=
          if (pass r).ended = .running then s.finishedCoroutines else s.finishedCoroutines + 1 }
    else s
  | none => s

/-- `finished_coroutines` is the number of coroutines that left their loop. -/
def FinishedCounts (s : Coroutines) : Prop :=
  s.finishedCoroutines = s.loops.countP fun t => t.ended ≠ .running

variable {s : Coroutines} {token : Nat} (r : Round)

theorem length_loops_resume : (s.resume pass token r).loops.length = s.loops.length := by
  unfold resume
  split
  · split <;> simp
  · rfl

theorem finishedCoroutines_le_resume :
    s.finishedCoroutines ≤ (s.resume pass token r).finishedCoroutines := by
  unfold resume
  split
  · split
    · dsimp only
      split <;> omega
    · exact le_rfl
  · exact le_rfl

theorem finishedCounts_init (n : Nat) : FinishedCounts (init n) := by
  simp [FinishedCounts, init, LoopTrace.empty, List.countP_replicate]

/-- A resume keeps `finished_coroutines` equal to the number of coroutines that left their
loop: it increments it exactly when the resumed coroutine leaves its loop. -/
theorem finishedCounts_resume (h : FinishedCounts s) : FinishedCounts (s.resume pass token r) := by
  unfold FinishedCounts at h ⊢
  unfold resume
  split
  · rename_i t ht
    obtain ⟨hlt, hget⟩ := List.getElem?_eq_some_iff.mp ht
    split
    · rename_i hrun
      simp only [List.countP_set _ _ _ _ hlt, hget, hrun, LoopTrace.andThen_of_running hrun, ← h]
      by_cases hp : (pass r).ended = .running <;> simp [hp]
    · exact h
  · exact h

/-- When `finished_coroutines` has reached the number of coroutines, every coroutine has left
its loop. -/
theorem forall_ended_of_le (h : FinishedCounts s) (hle : s.loops.length ≤ s.finishedCoroutines) :
    ∀ t ∈ s.loops, t.ended ≠ .running := by
  have hall : (s.loops.countP fun t => t.ended ≠ .running) = s.loops.length :=
    le_antisymm (List.countP_le_length _) (h ▸ hle)
  intro t ht
  simpa using List.countP_eq_length.mp hall t ht

/-- Once every coroutine has left its loop, a resume changes nothing. -/
theorem resume_of_forall_ended (h : ∀ t ∈ s.loops, t.ended ≠ .running) :
    s.resume pass token r = s := by
  unfold resume
  split
  · rename_i t ht
    rw [if_neg (h t (List.getElem?_mem ht))]
  · rfl

end Coroutines

/-- The passes `es` of the coroutines' loop bodies, in order, from `n` coroutines just
spawned. -/
def runCoroutines (pass : Round → LoopTrace) (n : Nat) (es : List (Nat × Round)) : Coroutines :=
  es.foldl (fun s e => s.resume pass e.1 e.2) (Coroutines.init n)

theorem length_loops_runCoroutines (pass : Round → LoopTrace) (n : Nat)
    (es : List (Nat × Round)) : (runCoroutines pass n es).loops.length = n := by
  suffices h : ∀ s : Coroutines,
      (es.foldl (fun s e => s.resume pass e.1 e.2) s).loops.length = s.loops.length by
    simpa [Coroutines.init] using h (Coroutines.init n)
  induction es with
  | nil => exact fun _ => rfl
  | cons e es ih => exact fun s => (ih _).trans (Coroutines.length_loops_resume pass e.2)

/-! ### The threads -/

/-- Where the main thread is in `coroutine_finished.wait(lock, pred)`, that is
`while (!pred()) coroutine_finished.wait(lock);`, with `lock` held except while blocked. -/
inductive MainThread where
  /-- About to test `pred`. -/
  | checking
  /-- `pred` was false: about to block in `wait(lock)`. -/
  | aboutToBlock
  /-- Blocked in `wait(lock)` until a notification. -/
  | blocked
  /-- The wait has returned, or was skipped for want of coroutines. -/
  | proceeded
  deriving DecidableEq, Repr

/-- A step of one of the threads. -/
inductive ThreadStep where
  /-- The coroutine `token` runs its loop body once on the answer `r` of its request; when it
  leaves the loop, `++finished_coroutines`. -/
  | pass (token : Nat) (r : Round)
  /-- The coroutine `token`, having left its loop, calls `coroutine_finished.notify_all()`. -/
  | notify (token : Nat)
  /-- The main thread tests `pred`. -/
  | check
  /-- The main thread blocks in `wait(lock)`. -/
  | block
  deriving DecidableEq, Repr

/-- `use_connection_pool_mult_threads` once its coroutines are spawned. -/
structure MultThreads where
  coroutines : Coroutines
  /-- Whether each coroutine, by token, has called `notify_all`. -/
  notified : List Bool
  main : MainThread
  deriving DecidableEq, Repr

namespace MultThreads

/-- `n` coroutines spawned; the main thread waits if there is one, and skips the wait
otherwise. -/
def init (n : Nat) : MultThreads :=
  ⟨Coroutines.init n, List.replicate n false, if n > 0 then .checking else .proceeded⟩

/-- `coroutine_finished.notify_all()` of the coroutine `token`, once, after it has left its loop:
it wakes the main thread if that thread is blocked in `wait(lock)`, to test `pred` again, and is
lost otherwise. -/
def notify (s : MultThreads) (token : Nat) : MultThreads :=
  match s.coroutines.loops[token]?, s.notified[token]? with
  | some t, some false =>
    if t.ended = .running then s
    else { s with notified := s.notified.set token true
                  main := if s.main = .blocked then .checking else s.main }
  | _, _ => s

/-- One step of the threads, `n` being the number of coroutines; a step that is not possible in
the state changes nothing. -/
def step (n : Nat) (s : MultThreads) : ThreadStep → MultThreads
  | .pass token r => { s with coroutines := s.coroutines.resume threadSafeRequestPass token r }
  | .notify token => s.notify token
  | .check =>
    if s.main = .checking then
      { s with main := if s.coroutines.finishedCoroutines ≥ n then .proceeded else .aboutToBlock }
    else s
  | .block => if s.main = .aboutToBlock then { s with main := .blocked } else s

end MultThreads

/-- `use_connection_pool_mult_threads` over the steps `steps` of its threads, from its coroutines
just spawned. -/
def useConnectionPoolMultThreads (threadsNumber coroutines : Nat) (steps : List ThreadStep) :
    MultThreads :=
  steps.foldl (MultThreads.step (threadsNumber * coroutines))
    (MultThreads.init (threadsNumber * coroutines))

/-! ### One step -/

namespace MultThreads

variable {n : Nat} {s : MultThreads}

theorem coroutines_notify (token : Nat) : (s.notify token).coroutines = s.coroutines := by
  unfold notify
  split
  · split <;> rfl
  · rfl

/-- A notification leaves the main thread where it is, or wakes it to test `pred`. -/
theorem main_notify (token : Nat) :
    (s.notify token).main = s.main ∨ (s.notify token).main = .checking := by
  unfold notify
  split
  · split
    · exact .inl rfl
    · dsimp only
      split <;> simp
  · exact .inl rfl

theorem main_notify_of_ne_blocked (h : s.main ≠ .blocked) (token : Nat) :
    (s.notify token).main = s.main := by
  unfold notify
  split
  · split
    · rfl
    · simp [h]
  · rfl

theorem length_notified_notify (token : Nat) :
    (s.notify token).notified.length = s.notified.length := by
  unfold notify
  split
  · split <;> simp
  · rfl

theorem notified_notify_of_eq_true {k : Nat} (hk : s.notified[k]? = some true) (token : Nat) :
    (s.notify token).notified[k]? = some true := by
  unfold notify
  split
  · split
    · exact hk
    · dsimp only
      rw [List.getElem?_set]
      split_ifs <;> simp_all
  · exact hk

/-- A coroutine that has left its loop has notified once its `notify_all` step is taken. -/
theorem notified_notify_self {token : Nat} {t : LoopTrace}
    (ht : s.coroutines.loops[token]? = some t) (hend : t.ended ≠ .running)
    (hlt : token < s.notified.length) : (s.notify token).notified[token]? = some true := by
  cases hn : s.notified[token]? with
  | none => simp [List.getElem?_eq_none_iff] at hn; omega
  | some b =>
    cases b
    · simp [notify, ht, hn, hend, List.getElem?_set_self hlt]
    · exact notified_notify_of_eq_true hn token

/-- Only a pass of a coroutine's loop body changes the coroutines. -/
theorem coroutines_step (st : ThreadStep) :
    (s.step n st).coroutines = match st with
      | .pass token r => s.coroutines.resume threadSafeRequestPass token r
      | _ => s.coroutines := by
  cases st with
  | pass token r => rfl
  | notify token => exact coroutines_notify token
  | check => simp only [step]; split <;> rfl
  | block => simp only [step]; split <;> rfl

/-- The main thread goes on only at a test of `pred` that finds `finished_coroutines >= n`. -/
theorem main_step_eq_proceeded {st : ThreadStep} (hp : (s.step n st).main = .proceeded) :
    s.main = .proceeded ∨ st = .check ∧ n ≤ s.coroutines.finishedCoroutines := by
  cases st with
  | pass token r => exact .inl hp
  | notify token =>
    rcases main_notify (s := s) token with h | h
    · exact .inl (h ▸ hp)
    · simp [step, h] at hp
  | check =>
    simp only [step] at hp
    split at hp
    · split at hp
      · exact .inr ⟨rfl, ‹_›⟩
      · cases hp
    · exact .inl hp
  | block =>
    simp only [step] at hp
    split at hp
    · cases hp
    · exact .inl hp

/-- What every step keeps: every coroutine is in the state, `finished_coroutines` counts the
coroutines that left their loop, and the main thread has gone on only with `pred` true. -/
structure Inv (n : Nat) (s : MultThreads) : Prop where
  length_loops : s.coroutines.loops.length = n
  finishedCounts : s.coroutines.FinishedCounts
  le_of_proceeded : s.main = .proceeded → n ≤ s.coroutines.finishedCoroutines

theorem inv_init (n : Nat) : Inv n (init n) where
  length_loops := by simp [init, Coroutines.init]
  finishedCounts := Coroutines.finishedCounts_init n
  le_of_proceeded := by
    cases n <;> simp [init, Coroutines.init]

theorem inv_step (h : Inv n s) (st : ThreadStep) : Inv n (s.step n st) := by
  have hcor := coroutines_step (n := n) (s := s) st
  have hle : s.coroutines.finishedCoroutines ≤ (s.step n st).coroutines.finishedCoroutines := by
    rw [hcor]
    split
    · exact Coroutines.finishedCoroutines_le_resume _ _
    · exact le_rfl
  refine ⟨?_, ?_, fun hp => ?_⟩
  · rw [hcor]
    split
    · exact (Coroutines.length_loops_resume _ _).trans h.length_loops
    · exact h.length_loops
  · rw [hcor]
    split
    · exact Coroutines.finishedCounts_resume _ _ h.finishedCounts
    · exact h.finishedCounts
  · rcases main_step_eq_proceeded hp with hp | ⟨-, hn⟩
    · exact (h.le_of_proceeded hp).trans hle
    · exact hn.trans hle

/-- Once every coroutine has left its loop, no step changes the coroutines. -/
theorem coroutines_step_of_forall_ended (h : ∀ t ∈ s.coroutines.loops, t.ended ≠ .running)
    (st : ThreadStep) : (s.step n st).coroutines = s.coroutines := by
  rw [coroutines_step]
  split
  · exact Coroutines.resume_of_forall_ended _ _ h
  · rfl

/-- The main thread is blocked for good: every coroutine has left its loop and notified, so no
notification is left to wake it. -/
def Stuck (s : MultThreads) : Prop :=
  (∀ t ∈ s.coroutines.loops, t.ended ≠ .running) ∧ (∀ b ∈ s.notified, b = true) ∧
    s.main = .blocked

theorem notify_of_forall_notified (h : ∀ b ∈ s.notified, b = true) (token : Nat) :
    s.notify token = s := by
  unfold notify
  split
  · rename_i hf
    simpa using h _ (List.getElem?_mem hf)
  · rfl

/-- In a stuck state no step changes anything. -/
theorem step_of_stuck (h : Stuck s) (st : ThreadStep) : s.step n st = s := by
  obtain ⟨hend, hnot, hmain⟩ := h
  cases st with
  | pass token r => simp only [step, Coroutines.resume_of_forall_ended _ r hend]
  | notify token => exact notify_of_forall_notified hnot token
  | check => simp [step, hmain]
  | block => simp [step, hmain]

end MultThreads

/-! ### Runs -/

section Run

variable {n : Nat}

theorem inv_foldl_step {s : MultThreads} (h : MultThreads.Inv n s) (steps : List ThreadStep) :
    MultThreads.Inv n (steps.foldl (MultThreads.step n) s) := by
  induction steps generalizing s with
  | nil => exact h
  | cons st steps ih => exact ih (MultThreads.inv_step h st)

theorem coroutines_foldl_step_of_forall_ended {s : MultThreads}
    (h : ∀ t ∈ s.coroutines.loops, t.ended ≠ .running) (steps : List ThreadStep) :
    (steps.foldl (MultThreads.step n) s).coroutines = s.coroutines := by
  induction steps generalizing s with
  | nil => rfl
  | cons st steps ih =>
    have hst := MultThreads.coroutines_step_of_forall_ended (n := n) h st
    rw [List.foldl_cons, ih (hst ▸ h), hst]

theorem foldl_step_of_stuck {s : MultThreads} (h : MultThreads.Stuck s)
    (steps : List ThreadStep) : steps.foldl (MultThreads.step n) s = s := by
  induction steps with
  | nil => rfl
  | cons st steps ih => rw [List.foldl_cons, MultThreads.step_of_stuck h, ih]

/-- **The main thread reads a finished benchmark.** In every interleaving of the threads' steps,
once the main thread's wait has returned, every one of the coroutines has left its loop, and no
later step changes what the coroutines did or the steps the benchmark counted: the output the
main thread then reads is final. -/
theorem useConnectionPoolMultThreads_proceeded (threadsNumber coroutines : Nat)
    (steps : List ThreadStep) :
    (useConnectionPoolMultThreads threadsNumber coroutines steps).main = .proceeded →
      (useConnectionPoolMultThreads threadsNumber coroutines steps).coroutines.loops.length =
          threadsNumber * coroutines ∧
        (∀ t ∈ (useConnectionPoolMultThreads threadsNumber coroutines steps).coroutines.loops,
          t.ended ≠ .running) ∧
        ∀ steps', (useConnectionPoolMultThreads threadsNumber coroutines
          (steps ++ steps')).coroutines =
            (useConnectionPoolMultThreads threadsNumber coroutines steps).coroutines := by
  intro hp
  have h := inv_foldl_step (MultThreads.inv_init (threadsNumber * coroutines)) steps
  have hend := Coroutines.forall_ended_of_le h.finishedCounts
    (by rw [h.length_loops]; exact h.le_of_proceeded hp)
  refine ⟨h.length_loops, hend, fun steps' => ?_⟩
  rw [useConnectionPoolMultThreads, List.foldl_append]
  exact coroutines_foldl_step_of_forall_ended hend steps'

/-- One coroutine whose request comes back with `go_on` false: after that pass, the main thread's
wait returns at its first test of `pred`. -/
theorem useConnectionPoolMultThreads_proceeded_after_one_pass :
    let steps := [ThreadStep.pass 0 ⟨.ok, 0, none, false⟩, .check]
    (useConnectionPoolMultThreads 1 1 steps).main = .proceeded ∧
      (useConnectionPoolMultThreads 1 1 steps).coroutines.loops.length = 1 * 1 ∧
        (∀ t ∈ (useConnectionPoolMultThreads 1 1 steps).coroutines.loops,
          t.ended ≠ .running) ∧
        ∀ steps', (useConnectionPoolMultThreads 1 1 (steps ++ steps')).coroutines =
          (useConnectionPoolMultThreads 1 1 steps).coroutines :=
  ⟨by decide, useConnectionPoolMultThreads_proceeded 1 1 _ (by decide)⟩

theorem foldl_notify_frame {s : MultThreads} (ks : List Nat) :
    (ks.foldl MultThreads.notify s).coroutines = s.coroutines ∧
      (ks.foldl MultThreads.notify s).notified.length = s.notified.length := by
  induction ks generalizing s with
  | nil => exact ⟨rfl, rfl⟩
  | cons token ks ih =>
    obtain ⟨h₁, h₂⟩ := ih (s := s.notify token)
    exact ⟨h₁.trans (MultThreads.coroutines_notify token),
      h₂.trans (MultThreads.length_notified_notify token)⟩

theorem main_foldl_notify_of_ne_blocked {s : MultThreads} (hs : s.main ≠ .blocked)
    (ks : List Nat) : (ks.foldl MultThreads.notify s).main = s.main := by
  induction ks generalizing s with
  | nil => rfl
  | cons token ks ih =>
    have hm := MultThreads.main_notify_of_ne_blocked hs token
    exact (ih (hm ▸ hs)).trans hm

theorem foldl_notify_of_eq_true {s : MultThreads} {k : Nat} (hk : s.notified[k]? = some true)
    (ks : List Nat) : (ks.foldl MultThreads.notify s).notified[k]? = some true := by
  induction ks generalizing s with
  | nil => exact hk
  | cons token ks ih => exact ih (MultThreads.notified_notify_of_eq_true hk token)

/-- Once every coroutine has left its loop, each coroutine whose `notify_all` step is taken has
notified. -/
theorem foldl_notify_eq_true {s : MultThreads}
    (hend : ∀ t ∈ s.coroutines.loops, t.ended ≠ .running)
    (hlen : s.coroutines.loops.length = s.notified.length) {ks : List Nat} {k : Nat} (hk : k ∈ ks)
    (hlt : k < s.notified.length) : (ks.foldl MultThreads.notify s).notified[k]? = some true := by
  induction ks generalizing s with
  | nil => cases hk
  | cons token ks ih =>
    rcases List.mem_cons.mp hk with rfl | hk
    · obtain ⟨t, ht⟩ : ∃ t, s.coroutines.loops[k]? = some t :=
        Option.isSome_iff_exists.mp (by simp [hlen, hlt])
      exact foldl_notify_of_eq_true
        (MultThreads.notified_notify_self ht (hend t (List.getElem?_mem ht)) hlt) ks
    · refine ih ?_ ?_ hk ?_ <;>
        simpa only [MultThreads.coroutines_notify, MultThreads.length_notified_notify]

/-- Once every one of the `n` coroutines has left its loop, their `notify_all` steps leave every
coroutine notified. -/
theorem forall_notified_foldl_notify_range {s : MultThreads} {n : Nat}
    (hend : ∀ t ∈ s.coroutines.loops, t.ended ≠ .running)
    (hloops : s.coroutines.loops.length = n) (hnotified : s.notified.length = n) :
    ∀ b ∈ ((List.range n).foldl MultThreads.notify s).notified, b = true := by
  intro b hb
  obtain ⟨k, hk, rfl⟩ := List.getElem_of_mem hb
  have hk' : k < n := hnotified ▸ (foldl_notify_frame _).2 ▸ hk
  have h := foldl_notify_eq_true hend (hloops.trans hnotified.symm) (List.mem_range.mpr hk')
    (hnotified ▸ hk')
  rw [List.getElem?_eq_getElem hk] at h
  exact Option.some.inj h

theorem foldl_pass (es : List (Nat × Round)) (s : MultThreads) :
    (es.map fun e => ThreadStep.pass e.1 e.2).foldl (MultThreads.step n) s =
      { s with coroutines :=
          es.foldl (fun c e => c.resume threadSafeRequestPass e.1 e.2) s.coroutines } := by
  induction es generalizing s with
  | nil => rfl
  | cons e es ih => exact ih _

theorem foldl_notify_step (ks : List Nat) (s : MultThreads) :
    (ks.map ThreadStep.notify).foldl (MultThreads.step n) s = ks.foldl MultThreads.notify s := by
  rw [List.foldl_map]
  rfl

/-- The schedule of a lost wakeup: the main thread tests `pred` before the passes `es`, which take
every coroutine out of its loop, and every coroutine's `notify_all` comes before the main thread
blocks. It ends in a stuck state. -/
theorem stuck_of_notify_before_block (hn : 0 < n) (es : List (Nat × Round))
    (hend : ∀ t ∈ (runCoroutines threadSafeRequestPass n es).loops, t.ended ≠ .running) :
    MultThreads.Stuck (([ThreadStep.check] ++ es.map (fun e => ThreadStep.pass e.1 e.2) ++
      (List.range n).map ThreadStep.notify ++ [ThreadStep.block]).foldl (MultThreads.step n)
        (MultThreads.init n)) := by
  -- The main thread finds `pred` false before any coroutine has run.
  have hcheck : MultThreads.step n (MultThreads.init n) .check =
      ⟨Coroutines.init n, List.replicate n false, .aboutToBlock⟩ := by
    have hn' : ¬ n ≤ 0 := by omega
    simp [MultThreads.step, MultThreads.init, Coroutines.init, hn, hn']
  -- The passes then take every coroutine out of its loop, and the notifications are lost.
  set s₂ : MultThreads :=
    ⟨runCoroutines threadSafeRequestPass n es, List.replicate n false, .aboutToBlock⟩
  have hpass : (es.map fun e => ThreadStep.pass e.1 e.2).foldl (MultThreads.step n)
      ⟨Coroutines.init n, List.replicate n false, .aboutToBlock⟩ = s₂ := foldl_pass es _
  have hmain : ((List.range n).foldl MultThreads.notify s₂).main = .aboutToBlock :=
    main_foldl_notify_of_ne_blocked (by simp [s₂]) _
  simp only [List.foldl_append, List.foldl_cons, List.foldl_nil, hcheck, hpass, foldl_notify_step]
  rw [MultThreads.step, if_pos hmain]
  refine ⟨?_, forall_notified_foldl_notify_range hend (length_loops_runCoroutines _ n es)
    (List.length_replicate n false), rfl⟩
  rw [(foldl_notify_frame _).1]
  exact hend

/-- **A lost wakeup.** The coroutines increment `finished_coroutines` and call `notify_all`
without taking the mutex the main thread holds. So, for any number of coroutines and any passes
that take every coroutine out of its loop: if the main thread tests `pred` before these passes,
and the coroutines all call `notify_all` before the main thread blocks in `wait(lock)`, then
every coroutine has finished, the main thread is blocked, and it stays blocked whatever steps
follow: no notification is left to wake it. -/
theorem useConnectionPoolMultThreads_lostWakeup (threadsNumber coroutines : Nat)
    (hn : 0 < threadsNumber * coroutines) (es : List (Nat × Round))
    (hend : ∀ t ∈ (runCoroutines threadSafeRequestPass (threadsNumber * coroutines) es).loops,
      t.ended ≠ .running) (steps' : List ThreadStep) :
    let steps := [ThreadStep.check] ++ es.map (fun e => ThreadStep.pass e.1 e.2) ++
      (List.range (threadsNumber * coroutines)).map ThreadStep.notify ++ [ThreadStep.block]
    (∀ t ∈ (useConnectionPoolMultThreads threadsNumber coroutines steps).coroutines.loops,
        t.ended ≠ .running) ∧
      (useConnectionPoolMultThreads threadsNumber coroutines (steps ++ steps')).main =
        .blocked := by
  have h := stuck_of_notify_before_block hn es hend
  refine ⟨h.1, ?_⟩
  rw [useConnectionPoolMultThreads, List.foldl_append, foldl_step_of_stuck h]
  exact h.2.2

/-- One coroutine whose request comes back with `go_on` false, the main thread testing `pred`
before that pass and blocking after the coroutine's notification. -/
theorem useConnectionPoolMultThreads_lostWakeup_one :
    let es : List (Nat × Round) := [(0, ⟨.ok, 0, none, false⟩)]
    let steps := [ThreadStep.check] ++ es.map (fun e => ThreadStep.pass e.1 e.2) ++
      (List.range (1 * 1)).map ThreadStep.notify ++ [ThreadStep.block]
    0 < 1 * 1 ∧
      (∀ t ∈ (runCoroutines threadSafeRequestPass (1 * 1) es).loops, t.ended ≠ .running) ∧
      (∀ t ∈ (useConnectionPoolMultThreads 1 1 steps).coroutines.loops,
        t.ended ≠ .running) ∧
        (useConnectionPoolMultThreads 1 1 (steps ++ [])).main = .blocked :=
  have hend : ∀ t ∈ (runCoroutines threadSafeRequestPass (1 * 1)
      [(0, ⟨.ok, 0, none, false⟩)]).loops, t.ended ≠ .running := by decide
  ⟨by decide, hend, useConnectionPoolMultThreads_lostWakeup 1 1 (by decide) _ hend []⟩

end Run

end Ozo.Benchmarks
