import Socks5d.Foundations.Scan

namespace Scan

variable {β : Type} {format : Framing β} {messages : List (List β)} {bytes : List β}

-- The receiver that cuts a stream by what each message says of its own length.
def Framing.splitUpTo (format : Framing β) : Nat → List β → Option (List (List β))
  | _,[] => some []
  | 0,_::_ => none
  | turns+1,byte::rest =>
    match format.length (byte::rest) with
    | none => none
    | some n =>
      if 0 < n ∧ n ≤ (byte::rest).length then
        (format.splitUpTo turns ((byte::rest).drop n)).map ((byte::rest).take n :: ·)
      else none

def Framing.split (format : Framing β) (bytes : List β) : Option (List (List β)) := format.splitUpTo bytes.length bytes

def Framing.Exact (format : Framing β) (message : List β) : Prop :=
  message ≠ [] ∧ format.length message = some message.length

-- A length is told by the message alone, not by what follows it.
def Framing.Local (format : Framing β) : Prop :=
  ∀ bytes n, format.length bytes = some n → n ≤ bytes.length → format.length (bytes.take n) = some n

theorem splitUpTo_cons (format : Framing β) (turns : Nat) (some_ : bytes ≠ []) :
    format.splitUpTo (turns+1) bytes = (format.length bytes).bind fun n =>
      if 0 < n ∧ n ≤ bytes.length then (format.splitUpTo turns (bytes.drop n)).map (bytes.take n :: ·) else none := by
  cases bytes with
  | nil => exact absurd rfl some_
  | cons byte rest =>
      rw [Framing.splitUpTo]
      cases format.length (byte::rest) with
      | none => rfl
      | some n => rfl

theorem splitUpTo_flatten (turns : Nat) (enough : messages.length ≤ turns) (exact_ : ∀ m ∈ messages, format.Exact m) :
    format.splitUpTo turns messages.flatten = some messages := by
  induction messages generalizing turns with
  | nil => cases turns <;> rfl
  | cons message rest ih =>
      obtain ⟨some_,length⟩ := exact_ message List.mem_cons_self
      have positive := List.length_pos_iff.mpr some_
      cases turns with
      | zero => cases enough
      | succ turns =>
          have others := ih turns (by simpa using enough) (fun m member => exact_ m (List.mem_cons_of_mem _ member))
          have told := format.length_append message rest.flatten _ length
          rw [List.flatten_cons,splitUpTo_cons _ _ (by simp [some_]),told]
          simp [positive,others]

theorem splitUpTo_exact (closed : format.Local) (turns : Nat)
    (cut : format.splitUpTo turns messages.flatten = some messages) : ∀ m ∈ messages, format.Exact m := by
  induction messages generalizing turns with
  | nil => simp
  | cons message rest ih =>
      by_cases empty : (message::rest).flatten = []
      · rw [empty] at cut
        cases turns <;> cases cut
      · cases turns with
        | zero =>
            cases whole : (message::rest).flatten with
            | nil => exact absurd whole empty
            | cons byte more =>
                rw [whole] at cut
                cases cut
        | succ turns =>
            rw [splitUpTo_cons _ _ empty] at cut
            obtain ⟨n,length,cut⟩ := Option.bind_eq_some_iff.mp cut
            split at cut
            · rename_i bounds
              obtain ⟨others,left,same⟩ := Option.map_eq_some_iff.mp cut
              obtain ⟨first,rfl⟩ := List.cons.inj same
              have size : message.length = n := by
                rw [← first,List.length_take]
                omega
              have tail : (message::others).flatten.drop n = others.flatten := by
                rw [List.flatten_cons,← size,List.drop_left]
              have alone := closed _ _ length bounds.2
              rw [first] at alone
              rw [tail] at left
              intro m member
              rcases List.mem_cons.mp member with rfl | later
              · exact ⟨List.length_pos_iff.mp (by omega),by rw [size]; exact alone⟩
              · exact ih turns left m later
            · cases cut

theorem flatten_enough (some_ : ∀ m ∈ messages, m ≠ []) : messages.length ≤ messages.flatten.length := by
  induction messages with
  | nil => simp
  | cons message rest ih =>
      have positive := List.length_pos_iff.mpr (some_ message List.mem_cons_self)
      have others := ih (fun m member => some_ m (List.mem_cons_of_mem _ member))
      simp only [List.length_cons,List.flatten_cons,List.length_append]
      omega

theorem split_exact (closed : format.Local) :
    format.split messages.flatten = some messages ↔ ∀ m ∈ messages, format.Exact m := by
  refine ⟨splitUpTo_exact closed _,fun exact_ => ?_⟩
  exact splitUpTo_flatten _ (flatten_enough fun m member => (exact_ m member).1) exact_

end Scan
