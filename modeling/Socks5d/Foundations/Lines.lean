import Mathlib.Tactic.Common
import Mathlib.Data.List.Induction

namespace Lines

theorem cut_lines {β : Type} {sep : β} {lines : List (List β)} {taken rest : List β} (inside : ∀ line ∈ lines, sep ∉ line)
    (cut : taken ++ rest = lines.flatMap (· ++ [sep])) : ∃ whole left part, lines = whole ++ left ∧
      taken = whole.flatMap (· ++ [sep]) ++ part ∧ sep ∉ part ∧ part ++ rest = left.flatMap (· ++ [sep]) := by
  induction lines generalizing taken with
  | nil =>
      obtain ⟨rfl,rfl⟩ := List.append_eq_nil_iff.mp cut
      exact ⟨[],[],[],rfl,rfl,List.not_mem_nil,rfl⟩
  | cons line lines ih =>
      rw [List.flatMap_cons] at cut
      rcases List.append_eq_append_iff.mp cut with ⟨more,split,same⟩ | ⟨more,split,same⟩
      · rcases List.eq_nil_or_concat more with rfl | ⟨front,last,rfl⟩
        · rw [List.append_nil] at split
          rw [List.nil_append] at same
          refine ⟨[line],lines,[],rfl,?_,List.not_mem_nil,same⟩
          rw [← split,List.flatMap_cons,List.flatMap_nil,List.append_nil,List.append_nil]
        · have parts : line = taken ++ front := by
            rw [List.concat_eq_append,← List.append_assoc] at split
            exact List.append_inj_left' split rfl
          refine ⟨[],line::lines,taken,rfl,rfl,?_,cut⟩
          intro member
          exact inside line List.mem_cons_self (by rw [parts]; exact List.mem_append_left _ member)
      · obtain ⟨whole,left,part,rfl,rfl,clear,rest_⟩ :=
          ih (fun other member => inside other (List.mem_cons_of_mem _ member)) same.symm
        refine ⟨line::whole,left,part,rfl,?_,clear,rest_⟩
        rw [split,List.flatMap_cons,← List.append_assoc]

variable {β : Type} [DecidableEq β] {sep item : β} {stream : List β}

def current (sep : β) (stream : List β) : List β :=
  stream.foldl (fun line item => if item = sep then [] else line ++ [item]) []

def Starts (sep : β) (before : List β) : Prop := before = [] ∨ ∃ front, before = front ++ [sep]

theorem current_snoc (sep : β) (stream : List β) (item : β) :
    current sep (stream ++ [item]) = if item = sep then [] else current sep stream ++ [item] := by
  rw [current,List.foldl_append]
  rfl

theorem current_more (other : item ≠ sep) : current sep (stream ++ [item]) = current sep stream ++ [item] :=
  (current_snoc sep stream item).trans (if_neg other)

theorem current_parts (sep : β) (stream : List β) :
    ∃ before, stream = before ++ current sep stream ∧ Starts sep before ∧ sep ∉ current sep stream := by
  induction stream using List.reverseRecOn with
  | nil => exact ⟨[],rfl,.inl rfl,List.not_mem_nil⟩
  | append_singleton stream item ih =>
      obtain ⟨before,split,starts,inside⟩ := ih
      rw [current_snoc]
      by_cases ends : item = sep
      · rw [if_pos ends,ends]
        exact ⟨_,(List.append_nil _).symm,.inr ⟨stream,rfl⟩,List.not_mem_nil⟩
      · rw [if_neg ends]
        refine ⟨before,?_,starts,?_⟩
        · rw [← List.append_assoc,← split]
        · rw [List.mem_append,List.mem_singleton,not_or]
          exact ⟨inside,fun same => ends same.symm⟩

theorem current_behind (front rest : List β) : current sep (front ++ [sep] ++ rest) = current sep rest := by
  induction rest using List.reverseRecOn with
  | nil => rw [List.append_nil,current_snoc,if_pos rfl]; rfl
  | append_singleton rest item ih => rw [← List.append_assoc,current_snoc,current_snoc,ih]

end Lines
