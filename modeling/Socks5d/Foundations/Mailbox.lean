import Mathlib.Data.List.Induction
import Mathlib.Data.List.Nodup
import Mathlib.Data.List.Perm.Basic
import Socks5d.Foundations.Transitions

namespace Mailboxes

-- A box that anybody may put things into, and that is emptied as a whole.
inductive Act (α : Type) where
  | put (thing : α)
  | start
  | take (thing : α)
  | stop
  deriving DecidableEq, Repr

def Act.putting {α : Type} : Act α → Option α
  | .put thing => some thing
  | _ => none

def Act.taking {α : Type} : Act α → Option α
  | .take thing => some thing
  | _ => none

def puts {α : Type} (trace : List (Act α)) : List α := trace.filterMap Act.putting
def takes {α : Type} (trace : List (Act α)) : List α := trace.filterMap Act.taking

def Act.onWaiting {α : Type} (things : List α) : Act α → List α
  | .put thing => thing::things
  | .stop => []
  | .start | .take _ => things

def waiting {α : Type} (trace : List (Act α)) : List α := trace.foldl Act.onWaiting []

structure Emptied {α : Type} (trace : List (Act α)) : Prop where
  whole : ∀ before round after, trace = before ++ .start :: (round ++ .stop :: after) → .start ∉ round → .stop ∉ round →
    (takes round).Perm (waiting before)
  once : (takes trace).Nodup

-- `left` is what is still to be taken while the box is being emptied.
structure Box (α : Type) where
  waiting : List α
  left : Option (List α)
  trace : List (Act α)

inductive Moves {α : Type} : Box α → Act α → Box α → Prop where
  | put {things trace thing} : thing ∉ puts trace →
      Moves ⟨things,none,trace⟩ (.put thing) ⟨thing::things,none,trace ++ [.put thing]⟩
  | start {things trace} : Moves ⟨things,none,trace⟩ .start ⟨things,some things,trace ++ [.start]⟩
  | take {things trace thing rest} :
      Moves ⟨things,some (thing::rest),trace⟩ (.take thing) ⟨things,some rest,trace ++ [.take thing]⟩
  | stop {things trace} : Moves ⟨things,some [],trace⟩ .stop ⟨[],none,trace ++ [.stop]⟩

variable {α : Type} {b next : Box α} {act event : Act α} {trace before round acts : List (Act α)}

-- While the box is being emptied, what was taken since the last start and what is left
-- make up what waited then.
structure Box.Sound (b : Box α) : Prop where
  current : b.waiting = Mailboxes.waiting b.trace
  distinct : (puts b.trace).Nodup
  account : (puts b.trace).Perm (takes b.trace ++ b.left.getD b.waiting)
  round : ∀ rest, b.left = some rest → ∀ before round, b.trace = before ++ .start :: round → .start ∉ round →
    Mailboxes.waiting before = b.waiting ∧ takes round ++ rest = b.waiting
  whole : ∀ before round after, b.trace = before ++ .start :: (round ++ .stop :: after) → .start ∉ round →
    .stop ∉ round → (takes round).Perm (Mailboxes.waiting before)

theorem waiting_snoc (trace : List (Act α)) (act : Act α) : waiting (trace ++ [act]) = act.onWaiting (waiting trace) := by
  rw [waiting,List.foldl_append]
  rfl

theorem puts_snoc (trace : List (Act α)) (act : Act α) : puts (trace ++ [act]) = puts trace ++ act.putting.toList := by
  rw [puts,List.filterMap_append]
  cases act <;> rfl

theorem takes_snoc (trace : List (Act α)) (act : Act α) : takes (trace ++ [act]) = takes trace ++ act.taking.toList := by
  rw [takes,List.filterMap_append]
  cases act <;> rfl

theorem puts_quiet (quiet : act.putting = none) : puts (trace ++ [act]) = puts trace := by
  rw [puts_snoc,quiet]
  exact List.append_nil _

theorem takes_quiet (quiet : act.taking = none) : takes (trace ++ [act]) = takes trace := by
  rw [takes_snoc,quiet]
  exact List.append_nil _

theorem snoc_split (split : trace ++ [act] = before ++ event :: round) :
    (round = [] ∧ before = trace ∧ act = event) ∨ ∃ rest, round = rest ++ [act] ∧ trace = before ++ event :: rest := by
  induction round using List.reverseRecOn with
  | nil =>
      obtain ⟨same,last⟩ := List.append_inj' split rfl
      cases last
      exact .inl ⟨rfl,same.symm,rfl⟩
  | append_singleton rest last =>
      have grown : trace ++ [act] = (before ++ event :: rest) ++ [last] := by
        rw [split,List.append_assoc]
        rfl
      obtain ⟨same,new⟩ := List.append_inj' grown rfl
      cases new
      exact .inr ⟨rest,rfl,same⟩

theorem whole_snoc (whole : ∀ before round after, trace = before ++ .start :: (round ++ .stop :: after) →
      .start ∉ round → .stop ∉ round → (takes round).Perm (waiting before))
    (last : act = .stop → ∀ before round, trace = before ++ .start :: round → .start ∉ round →
      (takes round).Perm (waiting before)) :
    ∀ before round after, trace ++ [act] = before ++ .start :: (round ++ .stop :: after) → .start ∉ round →
      .stop ∉ round → (takes round).Perm (waiting before) := by
  intro before round after split unstarted unstopped
  rcases snoc_split split with ⟨empty,_⟩ | ⟨rest,grown,split⟩
  · exact absurd empty (by simp)
  · rcases snoc_split grown.symm with ⟨_,same,stops⟩ | ⟨later,_,old⟩
    · rw [same] at unstarted ⊢
      exact last stops before rest split unstarted
    · rw [old] at split
      exact whole before round later split unstarted unstopped

theorem moves_sound (sound : b.Sound) (moves : Moves b act next) : next.Sound := by
  obtain ⟨current,distinct,account,rounds,whole⟩ := sound
  cases moves with
  | @put things trace thing fresh =>
      refine ⟨?_,?_,?_,fun _ left => (by cases left),whole_snoc whole (fun stops => by cases stops)⟩
      · rw [waiting_snoc,← current]
        rfl
      · rw [puts_snoc]
        apply distinct.append (List.nodup_singleton thing)
        intro other old new
        rw [List.mem_singleton.mp new] at old
        exact fresh old
      · rw [puts_snoc,takes_quiet rfl]
        calc (puts trace ++ [thing]).Perm ((takes trace ++ things) ++ [thing]) := account.append_right [thing]
          _ = takes trace ++ (things ++ [thing]) := List.append_assoc _ _ _
          (takes trace ++ (things ++ [thing])).Perm (takes trace ++ thing::things) :=
            List.Perm.append_left _ List.perm_append_comm
  | @start things trace =>
      refine ⟨?_,?_,?_,?_,whole_snoc whole (fun stops => by cases stops)⟩
      · rw [waiting_snoc,← current]
        rfl
      · rw [puts_quiet rfl]
        exact distinct
      · rw [puts_quiet rfl,takes_quiet rfl]
        exact account
      · intro rest left before round split unstarted
        cases left
        rcases snoc_split split with ⟨rfl,rfl,_⟩ | ⟨earlier,rfl,_⟩
        · exact ⟨current.symm,rfl⟩
        · exact absurd List.mem_concat_self unstarted
  | @take things trace thing rest =>
      refine ⟨?_,?_,?_,?_,whole_snoc whole (fun stops => by cases stops)⟩
      · rw [waiting_snoc,← current]
        rfl
      · rw [puts_quiet rfl]
        exact distinct
      · rw [puts_quiet rfl,takes_snoc,List.append_assoc]
        exact account
      · intro remaining left before round split unstarted
        cases left
        rcases snoc_split split with ⟨_,_,starts⟩ | ⟨earlier,rfl,old⟩
        · cases starts
        · have inside : .start ∉ earlier := fun member => unstarted (List.mem_append_left _ member)
          obtain ⟨waited,taken⟩ := rounds _ rfl before earlier old inside
          refine ⟨waited,?_⟩
          rw [takes_snoc,List.append_assoc]
          exact taken
  | @stop things trace =>
      refine ⟨?_,?_,?_,fun _ left => (by cases left),whole_snoc whole ?_⟩
      · rw [waiting_snoc]
        rfl
      · rw [puts_quiet rfl]
        exact distinct
      · rw [puts_quiet rfl,takes_quiet rfl]
        exact account
      · intro _ before round split unstarted
        obtain ⟨waited,taken⟩ := rounds [] rfl before round split unstarted
        rw [List.append_nil] at taken
        rw [waited,taken]

theorem box_start : (⟨[],none,[]⟩ : Box α).Sound :=
  ⟨rfl,List.nodup_nil,.nil,fun _ left => (by cases left),fun before _ _ split => absurd split (by simp)⟩

theorem box_runs (path : Transitions.Runs Moves ⟨[],none,[]⟩ acts b) : b.Sound :=
  path.invariant box_start (fun _ _ _ sound moves => moves_sound sound moves)

theorem box_emptied (sound : b.Sound) : Emptied b.trace :=
  ⟨sound.whole,(sound.account.nodup_iff.mp sound.distinct).of_append_left⟩

end Mailboxes
