import Socks5d.Foundations.Transitions

namespace Transitions

variable {State Label View Move : Type} {next : State → Label → Option State} {origin middle last : State}
  {label : Label} {labels earlier later : List Label}

theorem exec_append : exec next origin (earlier++later) = (exec next origin earlier).bind (exec next · later) := by
  induction earlier generalizing origin with
  | nil => rfl
  | cons label rest ih =>
      change (next origin label).bind (exec next · (rest++later)) =
        ((next origin label).bind (exec next · rest)).bind (exec next · later)
      rw [Option.bind_assoc]
      exact Option.bind_congr fun _ _ => ih

theorem exec_one : exec next origin [label] = next origin label := by
  change (next origin label).bind some = next origin label
  rw [Option.bind_fun_some]

def ownCalls {Party Call : Type} [DecidableEq Party] (party : Party) (log : List (Party × Call)) : List Call :=
  (log.filter fun call => decide (call.1 = party)).map Prod.snd

section
variable {Party Call : Type} [DecidableEq Party] {party other : Party}

theorem ownCalls_same (party : Party) (log : List (Party × Call)) (calls : List Call) :
    ownCalls party (log ++ calls.map fun call => (party,call)) = ownCalls party log ++ calls := by
  unfold ownCalls
  rw [List.filter_append,List.map_append]
  congr 1
  rw [List.filter_eq_self.mpr (by simp),List.map_map]
  exact List.map_id calls

theorem ownCalls_other (differs : other ≠ party) (log : List (Party × Call)) (calls : List Call) :
    ownCalls party (log ++ calls.map fun call => (other,call)) = ownCalls party log := by
  unfold ownCalls
  rw [List.filter_append,List.map_append]
  have none_ : ((calls.map fun call => (other,call)).filter fun call => decide (call.1 = party)) = [] := by
    rw [List.filter_eq_nil_iff]
    intro call member
    obtain ⟨_,_,rfl⟩ := List.mem_map.mp member
    simpa using differs
  rw [none_,List.map_nil,List.append_nil]

theorem ownCalls_silent {log : List (Party × Call)} (silent : ∀ call ∈ log, call.1 ≠ party) : ownCalls party log = [] := by
  unfold ownCalls
  rw [List.map_eq_nil_iff,List.filter_eq_nil_iff]
  exact fun call member same => silent call member (of_decide_eq_true same)

end

-- A part of the system that is looked at on its own. `moves` says what a step means to it,
-- and its lane in a run is what all the steps mean to it.
def lane (next : State → Label → Option State) (moves : State → Label → List Move) : State → List Label → List Move
  | _,[] => []
  | before,label::rest => match next before label with
    | some after => moves before label ++ lane next moves after rest
    | none => []

theorem mem_lane {moves : State → Label → List Move} {move : Move} (member : move ∈ lane next moves origin labels) :
    ∃ before label, label ∈ labels ∧ move ∈ moves before label := by
  induction labels generalizing origin with
  | nil => cases member
  | cons label rest ih =>
      rw [lane] at member
      cases stepped : next origin label with
      | none =>
          rw [stepped] at member
          cases member
      | some after =>
          rw [stepped] at member
          rcases List.mem_append.mp member with here | there
          · exact ⟨origin,label,List.mem_cons_self,here⟩
          · obtain ⟨before,other,inside,moved⟩ := ih there
            exact ⟨before,other,List.mem_cons_of_mem _ inside,moved⟩

theorem lane_append {moves : State → Label → List Move} (ran : exec next origin earlier = some middle) :
    lane next moves origin (earlier++later) = lane next moves origin earlier ++ lane next moves middle later := by
  induction earlier generalizing origin with
  | nil =>
      cases ran
      rfl
  | cons label rest ih =>
      obtain ⟨after,first,remaining⟩ := Option.bind_eq_some_iff.mp ran
      rw [List.cons_append,lane,lane,first]
      change moves origin label ++ lane next moves after (rest++later) = _
      rw [ih remaining,List.append_assoc]

-- One step of the whole is followed by the part. `alive` is known of the state after a
-- step and of all the states before it, so it is enough that the last one has it.
theorem exec_lane {view : State → View} {part : View → Move → Option View} {moves : State → Label → List Move}
    {holds alive : State → Prop} (aged : ∀ before label after, next before label = some after → alive before)
    (follows : ∀ before label after, holds before → alive after → next before label = some after →
      holds after ∧ exec part (view before) (moves before label) = some (view after))
    (start : holds origin) (ran : exec next origin labels = some last) (stays : alive last) :
    holds last ∧ exec part (view origin) (lane next moves origin labels) = some (view last) := by
  induction labels generalizing origin with
  | nil =>
      cases ran
      exact ⟨start,rfl⟩
  | cons label rest ih =>
      obtain ⟨after,first,remaining⟩ := Option.bind_eq_some_iff.mp ran
      have living : alive after := by
        cases rest with
        | nil =>
            cases remaining
            exact stays
        | cons second _ =>
            obtain ⟨_,step,_⟩ := Option.bind_eq_some_iff.mp remaining
            exact aged _ _ _ step
      obtain ⟨held,moved⟩ := follows _ _ _ start living first
      obtain ⟨final,rested⟩ := ih held remaining
      refine ⟨final,?_⟩
      rw [lane,first,exec_append,moved,Option.bind_some]
      exact rested

end Transitions
