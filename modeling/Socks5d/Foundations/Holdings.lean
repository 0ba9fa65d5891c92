import Mathlib.Tactic.Common
import Mathlib.Logic.Function.Basic

namespace Holdings

-- A table of keys, each free or held by one party.
abbrev Table (κ ι : Type) := κ → Option ι

inductive Act (κ : Type) where
  | take (key : κ)
  | drop (key : κ)
  deriving DecidableEq

variable {κ ι : Type} [DecidableEq κ] {i j : ι} {t : Table κ ι} {acts earlier later : List (Act κ)} {key : κ}

def act (i : ι) (t : Table κ ι) : Act κ → Table κ ι
  | .take key => Function.update t key (some i)
  | .drop key => Function.update t key none

def perform (i : ι) (t : Table κ ι) (acts : List (Act κ)) : Table κ ι := acts.foldl (act i) t

def allows (i : ι) : Table κ ι → List (Act κ) → Bool
  | _,[] => true
  | t,.take key::rest => (t key).isNone && allows i (act i t (.take key)) rest
  | t,.drop key::rest => allows i (act i t (.drop key)) rest

def Tidy (i : ι) : Table κ ι → List (Act κ) → Prop
  | _,[] => True
  | t,.take key::rest => t key = none ∧ Tidy i (act i t (.take key)) rest
  | t,.drop key::rest => t key = some i ∧ Tidy i (act i t (.drop key)) rest

@[simp] theorem perform_nil : perform i t [] = t := rfl
@[simp] theorem perform_cons (first : Act κ) (rest : List (Act κ)) :
    perform i t (first::rest) = perform i (act i t first) rest := rfl

theorem perform_append : perform i t (earlier++later) = perform i (perform i t earlier) later := List.foldl_append

theorem allows_append :
    allows i t (earlier++later) = (allows i t earlier && allows i (perform i t earlier) later) := by
  induction earlier generalizing t with
  | nil => rfl
  | cons first rest ih =>
      cases first with
      | take key => simp [allows,ih,Bool.and_assoc]
      | drop key => simp [allows,ih]

theorem tidy_others (tidy : Tidy i t acts) (other : j ≠ i) : perform i t acts key = some j ↔ t key = some j := by
  induction acts generalizing t with
  | nil => exact Iff.rfl
  | cons first rest ih =>
      cases first with
      | take taken =>
          obtain ⟨free,tidy⟩ := tidy
          refine (ih tidy).trans ?_
          by_cases same : key = taken
          · subst same
            simp [act,free,other.symm]
          · simp [act,same]
      | drop dropped =>
          obtain ⟨held,tidy⟩ := tidy
          refine (ih tidy).trans ?_
          by_cases same : key = dropped
          · subst same
            simp [act,held,other.symm]
          · simp [act,same]

theorem perform_gains (other : j ≠ i) (held : perform i t acts key = some j) : t key = some j := by
  induction acts generalizing t with
  | nil => exact held
  | cons first rest ih =>
      have before := ih held
      cases first with
      | take taken =>
          rw [act,Function.update_apply] at before
          split at before
          · exact absurd (Option.some.inj before).symm other
          · exact before
      | drop dropped =>
          rw [act,Function.update_apply] at before
          split at before
          · cases before
          · exact before

theorem perform_untaken (untaken : .take key ∉ acts) :
    perform i t acts key = if .drop key ∈ acts then none else t key := by
  induction acts generalizing t with
  | nil => rfl
  | cons first rest ih =>
      rw [perform_cons,ih fun later => untaken (List.mem_cons_of_mem _ later)]
      cases first with
      | take taken =>
          have apart : key ≠ taken := fun same => untaken (by rw [same]; exact List.mem_cons_self)
          simp [act,apart]
      | drop dropped =>
          by_cases same : key = dropped
          · simp [act,same]
          · simp [act,same]

theorem perform_elsewhere (away : ∀ move ∈ acts, move ≠ .take key ∧ move ≠ .drop key) :
    perform i t acts key = t key := by
  induction acts generalizing t with
  | nil => rfl
  | cons first rest ih =>
      obtain ⟨notTaken,notDropped⟩ := away first List.mem_cons_self
      rw [perform_cons,ih (fun move member => away move (List.mem_cons_of_mem _ member))]
      cases first with
      | take taken =>
          have apart : key ≠ taken := fun same => notTaken (by rw [same])
          simp [act,apart]
      | drop dropped =>
          have apart : key ≠ dropped := fun same => notDropped (by rw [same])
          simp [act,apart]

end Holdings
