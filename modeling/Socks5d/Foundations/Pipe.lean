import Socks5d.Foundations.Transitions

namespace Pipes

-- One direction of a relay: what went in, what came out, and what is still
-- inside. `balanced` says that nothing is lost, repeated or reordered.
structure Pipe (α : Type) where
  accepted : List α
  delivered : List α
  queued : List α
  balanced : delivered ++ queued = accepted

variable {α ι : Type}

def Pipe.empty : Pipe α := ⟨[],[],[],rfl⟩

def Pipe.accept (pipe : Pipe α) (items : List α) : Pipe α where
  accepted := pipe.accepted ++ items
  delivered := pipe.delivered
  queued := pipe.queued ++ items
  balanced := by rw [← List.append_assoc,pipe.balanced]

def Pipe.deliver (pipe : Pipe α) (count : Nat) : Pipe α where
  accepted := pipe.accepted
  delivered := pipe.delivered ++ pipe.queued.take count
  queued := pipe.queued.drop count
  balanced := by rw [List.append_assoc,List.take_append_drop,pipe.balanced]

inductive Move (α : Type) where
  | accept (items : List α)
  | deliver (count : Nat)

def Pipe.after (pipe : Pipe α) : Move α → Pipe α
  | .accept items => pipe.accept items
  | .deliver count => pipe.deliver count

inductive Moves [DecidableEq ι] (pipes : ι → Pipe α) : ι × Move α → (ι → Pipe α) → Prop where
  | move : Moves pipes (side,move) (Function.update pipes side ((pipes side).after move))

theorem Pipe.drained (pipe : Pipe α) : pipe.queued = [] ↔ pipe.delivered = pipe.accepted := by
  constructor
  · intro empty
    rw [← pipe.balanced,empty,List.append_nil]
  · intro whole
    have balanced := pipe.balanced
    rw [whole] at balanced
    exact List.append_right_eq_self.mp balanced

end Pipes
