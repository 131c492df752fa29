/-!
# Terminating step machines

Scanning, parsing, evaluating and printing are all loops over an explicit state,
so that deeply nested input needs no deep call stack.  A `Machine` is such a
loop: one step either moves on to another state or delivers the result, and a
natural-number rank that falls with every move shows that the loop ends.

Main results:

- `Machine.run_next` and `Machine.run_done`: a run follows its steps.
- `Machine.Reaches.run_eq`: every state of a run has the result of the run.
- `Machine.Reaches.invariant`: what the first state has and every move keeps
  holds at every state of the run.
- `Machine.Reaches.exists_done`: every run comes to a state that delivers its
  result.
- `Machine.run_eq_of_keeps`: a run has the result that its first state stands for,
  if every step keeps what the states stand for.
-/

namespace InfixArithmetic

/-- What one step of a machine does: move to a next state, or stop with a result. -/
inductive Move (State Result : Type) where
  | next (state : State)
  | done (result : Result)

/-- A loop given by its single step, with a rank that falls with every move. -/
structure Machine (State Result : Type) where
  step : State → Move State Result
  rank : State → Nat
  rank_lt : ∀ {s t : State}, step s = .next t → rank t < rank s

namespace Machine

variable {State Result : Type}

/-- Steps from a state until a result is delivered. -/
def run (m : Machine State Result) (s : State) : Result :=
  match _ : m.step s with
  | .next t => m.run t
  | .done r => r
termination_by m.rank s
decreasing_by exact m.rank_lt ‹_›

/-- A move leaves the result of the run as it is. -/
theorem run_next {m : Machine State Result} {s t : State} (h : m.step s = .next t) :
    m.run s = m.run t := by
  rw [run]
  split
  next u hu =>
    rw [h] at hu
    cases hu
    rfl
  next r hr =>
    rw [h] at hr
    cases hr

/-- A run ends with the result that its step delivers. -/
theorem run_done {m : Machine State Result} {s : State} {r : Result}
    (h : m.step s = .done r) : m.run s = r := by
  rw [run]
  split
  next u hu =>
    rw [h] at hu
    cases hu
  next q hq =>
    rw [h] at hq
    cases hq
    rfl

/-- The states that a run from `start` passes through. -/
inductive Reaches (m : Machine State Result) (start : State) : State → Prop where
  | refl : Reaches m start start
  | tail {s t : State} : Reaches m start s → m.step s = .next t → Reaches m start t

/-- Every state of a run has the result of the whole run. -/
theorem Reaches.run_eq {m : Machine State Result} {start s : State}
    (h : m.Reaches start s) : m.run start = m.run s := by
  induction h with
  | refl => rfl
  | tail _ hstep ih => rw [ih, run_next hstep]

/-- What holds at the start and survives every move holds throughout the run. -/
theorem Reaches.invariant {m : Machine State Result} {start s : State}
    {holds : State → Prop} (h : m.Reaches start s) (first : holds start)
    (move : ∀ {t u : State}, holds t → m.step t = .next u → holds u) : holds s := by
  induction h with
  | refl => exact first
  | tail _ hstep ih => exact move ih hstep

/-- From every state of a run the run goes on to a state that delivers its result. -/
theorem Reaches.exists_done {m : Machine State Result} {start s : State}
    (h : m.Reaches start s) :
    ∃ t, m.Reaches start t ∧ m.step t = .done (m.run start) := by
  cases hstep : m.step s with
  | next t => exact (h.tail hstep).exists_done
  | done r => exact ⟨s, h, by rw [h.run_eq, run_done hstep, hstep]⟩
termination_by m.rank s
decreasing_by exact m.rank_lt hstep

/-- A run has the result that its first state stands for, if every move keeps what
the states stand for and every result is what its last state stands for. -/
theorem run_eq_of_keeps {m : Machine State Result} {start : State}
    {holds : State → Prop} {meaning : State → Result} (first : holds start)
    (move : ∀ {t u : State}, holds t → m.step t = .next u → holds u ∧ meaning u = meaning t)
    (stop : ∀ {t : State} {r : Result}, holds t → m.step t = .done r → meaning t = r) :
    m.run start = meaning start := by
  have hstart : m.Reaches start start := .refl
  obtain ⟨t, hreach, hdone⟩ := hstart.exists_done
  have kept : holds t ∧ meaning t = meaning start := by
    apply hreach.invariant
    · exact ⟨first, rfl⟩
    · intro u v hu hstep
      obtain ⟨hv, same⟩ := move hu.1 hstep
      exact ⟨hv, same.trans hu.2⟩
  rw [← kept.2, stop kept.1 hdone]

end Machine

end InfixArithmetic
