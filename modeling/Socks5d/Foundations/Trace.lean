import Mathlib.Tactic.Common

namespace Trace

def Each (holds : List ε → ε → Prop) : List ε → List ε → Prop
  | _,[] => True
  | past,event::rest => holds past event ∧ Each holds (past++[event]) rest

variable {ε : Type} {holds : List ε → ε → Prop} {past earlier later events trace : List ε} {event : ε}

@[simp] theorem each_nil : Each holds past [] ↔ True := Iff.rfl

@[simp] theorem each_cons :
    Each holds past (event::events) ↔ holds past event ∧ Each holds (past++[event]) events := Iff.rfl

theorem each_append :
    Each holds past (earlier++later) ↔ Each holds past earlier ∧ Each holds (past++earlier) later := by
  induction earlier generalizing past with
  | nil => simp
  | cons event rest ih =>
      rw [List.cons_append,each_cons,each_cons,ih,List.append_assoc,List.singleton_append,and_assoc]

theorem each_at (each : Each holds [] trace) (split : trace = earlier ++ event :: later) :
    holds earlier event := by
  subst split
  simpa using (each_append.mp each).2.1

theorem each_exact : Each holds [] trace ↔
    ∀ earlier event later, trace = earlier ++ event :: later → holds earlier event := by
  refine ⟨fun each earlier event later split => each_at each split,?_⟩
  intro all
  have upTo : ∀ later past, trace = past ++ later → Each holds past later := by
    intro later
    induction later with
    | nil => intro _ _; trivial
    | cons event rest ih =>
        intro past split
        exact ⟨all past event rest split,ih (past++[event]) (by rw [split,List.append_assoc]; rfl)⟩
  exact upTo trace [] rfl

theorem each_silent (silent : ∀ event ∈ events, ∀ past, holds past event) :
    Each holds past events := by
  induction events generalizing past with
  | nil => trivial
  | cons event rest ih =>
      refine ⟨silent event List.mem_cons_self past,ih ?_⟩
      intro other member
      exact silent other (List.mem_cons_of_mem event member)

theorem each_extend (each : Each holds [] trace) (fresh : Each holds trace events) :
    Each holds [] (trace++events) :=
  each_append.mpr ⟨each,fresh⟩

end Trace
