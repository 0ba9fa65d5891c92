import Mathlib.Tactic.Common

namespace Transitions

-- A labelled system is one relation. A run lists its labels oldest first and
-- grows at its end, so an induction on a run is an induction on the last step.
inductive Runs (step : State → Label → State → Prop) : State → List Label → State → Prop where
  | nil : Runs step origin [] origin
  | snoc : Runs step origin earlier middle → step middle label after →
      Runs step origin (earlier++[label]) after

variable {State Label : Type} {step : State → Label → State → Prop}

theorem Runs.invariant {holds : State → Prop} (path : Runs step origin labels after)
    (start : holds origin)
    (preserved : ∀ before label next, holds before → step before label next → holds next) :
    holds after := by
  induction path with
  | nil => exact start
  | snoc _ last ih => exact preserved _ _ _ ih last

-- The same rule when every step of the run is known to satisfy a condition on
-- the state before it and on its label.
theorem Runs.weaken {wider : State → Label → State → Prop} (path : Runs step origin labels after)
    (sub : ∀ before label next, step before label next → wider before label next) :
    Runs wider origin labels after := by
  induction path with
  | nil => exact .nil
  | snoc _ last ih => exact .snoc ih (sub _ _ _ last)

theorem Runs.append (left : Runs step before earlier middle) (right : Runs step middle later after) :
    Runs step before (earlier++later) after := by
  induction right with
  | nil => simpa using left
  | snoc _ last ih => simpa only [List.append_assoc] using Runs.snoc ih last

theorem Runs.cons (first : step before label middle) (rest : Runs step middle labels after) :
    Runs step before (label::labels) after := by
  simpa only [List.nil_append,List.singleton_append] using (Runs.snoc Runs.nil first).append rest

theorem Runs.simulate {Abstract Move : Type} {move : Abstract → Move → Abstract → Prop}
    {related : State → Abstract → Prop} {image : Abstract} (path : Runs step origin labels after)
    (start : related origin image)
    (forward : ∀ before label next here, related before here → step before label next →
      ∃ moves there, Runs move here moves there ∧ related next there) :
    ∃ moves there, Runs move image moves there ∧ related after there := by
  induction path with
  | nil => exact ⟨[],image,.nil,start⟩
  | snoc _ last ih =>
      obtain ⟨moves,here,reached,held⟩ := ih
      obtain ⟨more,there,continued,final⟩ := forward _ _ _ _ held last
      exact ⟨moves++more,there,reached.append continued,final⟩

def exec (next : State → Label → Option State) : State → List Label → Option State
  | origin,[] => some origin
  | origin,label::rest => (next origin label).bind (exec next · rest)

theorem exec_runs {next : State → Label → Option State} (ran : exec next origin labels = some after) :
    Runs (fun before label middle => next before label = some middle) origin labels after := by
  induction labels generalizing origin with
  | nil => cases ran; exact .nil
  | cons label rest ih =>
      obtain ⟨middle,first,remaining⟩ := Option.bind_eq_some_iff.mp ran
      exact .cons first (ih remaining)

end Transitions
