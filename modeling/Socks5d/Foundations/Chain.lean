import Mathlib.Data.List.Nodup
import Mathlib.Logic.Function.Basic
import Mathlib.Tactic.Common

namespace Chains

variable {κ : Type} {link other : κ → Option κ} {head : Option κ} {node : κ} {nodes : List κ}

def Chain (link : κ → Option κ) : Option κ → List κ → Prop
  | head,[] => head = none
  | head,node::rest => head = some node ∧ Chain link (link node) rest

theorem chain_frame (chain : Chain link head nodes) (same : ∀ node ∈ nodes, other node = link node) :
    Chain other head nodes := by
  induction nodes generalizing head with
  | nil => exact chain
  | cons node rest ih =>
      obtain ⟨first,others⟩ := chain
      refine ⟨first,?_⟩
      rw [same node List.mem_cons_self]
      apply ih others
      intro later member
      exact same later (List.mem_cons_of_mem node member)

theorem chain_none (chain : Chain link none nodes) : nodes = [] := by
  cases nodes with
  | nil => rfl
  | cons node rest =>
      obtain ⟨first,_⟩ := chain
      cases first

theorem chain_some (chain : Chain link (some node) nodes) : ∃ rest, nodes = node::rest ∧ Chain link (link node) rest := by
  cases nodes with
  | nil => cases chain
  | cons first rest =>
      obtain ⟨same,others⟩ := chain
      cases same
      exact ⟨rest,rfl,others⟩

theorem chain_push (chain : Chain link head nodes) (fresh : node ∉ nodes) (set : other node = head)
    (kept : ∀ later, later ≠ node → other later = link later) : Chain other (some node) (node::nodes) := by
  refine ⟨rfl,?_⟩
  rw [set]
  apply chain_frame chain
  intro later member
  apply kept
  rintro rfl
  exact fresh member

theorem chain_pop (chain : Chain link (some node) (node::nodes)) (once : (node::nodes).Nodup)
    (kept : ∀ later, later ≠ node → other later = link later) : Chain other (link node) nodes := by
  apply chain_frame chain.2
  intro later member
  apply kept
  rintro rfl
  exact (List.nodup_cons.mp once).1 member

end Chains
