import Mathlib.Data.List.Chain
import Mathlib.Data.List.Nodup

namespace Feeds

-- What one reader takes out of several streams: an item with the stream and the place
-- that it has there, or a cut, where the reader starts anew.
inductive Mark (ι α : Type) where
  | item (source : ι) (place : Nat) (value : α)
  | cut
  deriving DecidableEq

def stretch (source : ι) : Nat → List α → List (Mark ι α)
  | _,[] => []
  | first,value::rest => .item source first value :: stretch source (first+1) rest

def Mark.place : Mark ι α → Option Nat
  | .item _ place _ => some place
  | .cut => none

def Mark.isCut : Mark ι α → Bool
  | .item _ _ _ => false
  | .cut => true

def places (marks : List (Mark ι α)) : List Nat := marks.filterMap Mark.place

-- A reader of the stream `own`: nothing of another stream, no item twice, and between two
-- cuts one piece of the stream.
structure Clean (own : ι) (marks : List (Mark ι α)) : Prop where
  own : ∀ source place value, .item source place value ∈ marks → source = own
  once : (places marks).Nodup
  pieces : ∀ before piece after, marks = before ++ piece ++ after → .cut ∉ piece →
    ∃ first, places piece = List.range' first piece.length

def Mark.Follows : Mark ι α → Mark ι α → Prop
  | .item _ place _,.item _ next _ => next = place+1
  | _,_ => True

variable {ι α : Type} {own source : ι} {marks more : List (Mark ι α)} {first place sent total : Nat} {value : α}
  {items : List α}

@[simp] theorem places_append : places (marks ++ more) = places marks ++ places more := List.filterMap_append

@[simp] theorem places_cut : places ([.cut] : List (Mark ι α)) = [] := rfl

theorem places_stretch : places (stretch source first items) = List.range' first items.length := by
  induction items generalizing first with
  | nil => rfl
  | cons value rest ih =>
      change first :: places (stretch source (first+1) rest) = _
      rw [ih]
      rfl

theorem stretch_member (member : .item source place value ∈ stretch own first items) :
    source = own ∧ first ≤ place ∧ items[place - first]? = some value := by
  induction items generalizing first with
  | nil => cases member
  | cons head rest ih =>
      rcases List.mem_cons.mp member with here | later
      · cases here
        refine ⟨rfl,Nat.le_refl _,?_⟩
        rw [Nat.sub_self]
        rfl
      · obtain ⟨same,from_,found⟩ := ih later
        refine ⟨same,by omega,?_⟩
        rw [show place - first = place - (first+1) + 1 by omega]
        exact found

theorem stretch_cuts : (stretch own first items).countP Mark.isCut = 0 := by
  induction items generalizing first with
  | nil => rfl
  | cons value rest ih =>
      rw [stretch,List.countP_cons_of_neg (by simp [Mark.isCut])]
      exact ih

theorem stretch_chain : (stretch own first items).IsChain Mark.Follows := by
  induction items generalizing first with
  | nil => exact .nil
  | cons head rest ih =>
      cases rest with
      | nil => exact .singleton _
      | cons next rest => exact .cons_cons rfl ih

theorem stretch_last (last : (stretch own first items).getLast? = some (.item source place value)) :
    place+1 = first + items.length := by
  induction items generalizing first with
  | nil => cases last
  | cons head rest ih =>
      cases rest with
      | nil => cases last; rfl
      | cons next rest =>
          have reached := @ih (first+1) last
          rw [List.length_cons]
          omega

theorem chain_piece (chain : marks.IsChain Mark.Follows) (whole : .cut ∉ marks) :
    ∃ first, places marks = List.range' first marks.length := by
  induction marks with
  | nil => exact ⟨0,rfl⟩
  | cons head rest ih =>
      rw [List.mem_cons,not_or] at whole
      obtain ⟨first,run⟩ := ih chain.tail whole.2
      cases head with
      | cut => exact absurd rfl whole.1
      | item source place value =>
          refine ⟨place,?_⟩
          cases rest with
          | nil => rfl
          | cons next rest =>
              cases next with
              | cut => exact absurd List.mem_cons_self whole.2
              | item source' place' value' =>
                  have follows : place' = place+1 := chain.rel
                  have start : place' = first := by
                    change place' :: places rest = first :: _ at run
                    exact (List.cons.inj run).1
                  change place :: places (.item source' place' value' :: rest) = _
                  rw [run,← start,follows]
                  rfl

theorem chain_pieces (chain : marks.IsChain Mark.Follows) {before piece after : List (Mark ι α)}
    (split : marks = before ++ piece ++ after) (whole : .cut ∉ piece) :
    ∃ first, places piece = List.range' first piece.length := by
  subst split
  exact chain_piece (List.isChain_append.mp (List.isChain_append.mp chain).1).2.1 whole

theorem clean_earlier (clean : Clean own (marks ++ more)) : Clean own marks := by
  refine ⟨?_,?_,?_⟩
  · intro source place value member
    exact clean.own source place value (List.mem_append_left more member)
  · have once := clean.once
    rw [places_append] at once
    exact (List.nodup_append.mp once).1
  · intro before piece after split whole
    exact clean.pieces before piece (after ++ more) (by rw [split,List.append_assoc]) whole

-- A reader that is `sent` items behind nothing: whatever it took from there on it took
-- without a gap, and while its piece is open it has taken all there is.
structure Kept (own : ι) (sent total : Nat) (marks : List (Mark ι α)) : Prop where
  own : ∀ source place value, .item source place value ∈ marks → source = own
  once : (places marks).Nodup
  chain : marks.IsChain Mark.Follows
  filled : ∀ last ∈ places marks, ∀ place, sent ≤ place → place ≤ last → place ∈ places marks
  joined : ∀ source place value, marks.getLast? = some (.item source place value) → place+1 = total

theorem kept_nil : Kept own sent total ([] : List (Mark ι α)) :=
  ⟨by simp,List.nodup_nil,.nil,by simp [places],by simp⟩

theorem kept_clean (kept : Kept own sent total marks) : Clean own marks :=
  ⟨kept.own,kept.once,fun _ _ _ split whole => chain_pieces kept.chain split whole⟩

theorem kept_sent {later : Nat} (kept : Kept own sent total marks) (more : sent ≤ later) : Kept own later total marks :=
  ⟨kept.own,kept.once,kept.chain,fun last member place reached => kept.filled last member place (by omega),kept.joined⟩

theorem kept_fed {ended : Bool} {later : Nat} (kept : Kept own sent total marks)
    (behind : ∀ place ∈ places marks, place < sent) (within : sent ≤ total) (some_ : items ≠ [])
    (all : ended = false → sent + items.length = later) :
    Kept own sent later (marks ++ (stretch own sent items ++ if ended then [.cut] else [])) := by
  have fresh : places (marks ++ (stretch own sent items ++ if ended then [.cut] else [])) =
      places marks ++ List.range' sent items.length := by
    rw [places_append,places_append,places_stretch]
    cases ended with
    | true => simp
    | false => simp [places]
  refine ⟨?_,?_,?_,?_,?_⟩
  · intro source place value member
    rcases List.mem_append.mp member with before | new
    · exact kept.own source place value before
    · rcases List.mem_append.mp new with taken | last
      · exact (stretch_member taken).1
      · cases ended with
        | true => cases List.mem_singleton.mp last
        | false => cases last
  · rw [fresh]
    refine List.nodup_append.mpr ⟨kept.once,List.nodup_range',?_⟩
    rintro place old other new rfl
    have less := behind place old
    have from_ := (List.mem_range'_1.mp new).1
    omega
  · refine List.isChain_append.mpr ⟨kept.chain,?_,?_⟩
    · refine List.isChain_append.mpr ⟨stretch_chain,?_,?_⟩
      · cases ended with
        | true => exact .singleton _
        | false => exact .nil
      · intro left _ right head
        cases ended with
        | true =>
            cases head
            cases left <;> trivial
        | false => cases head
    · intro left last right head
      cases left with
      | cut => trivial
      | item source place value =>
          have total_ := kept.joined source place value last
          have old : place ∈ places marks :=
            List.mem_filterMap.mpr ⟨_,List.mem_of_getLast? last,rfl⟩
          have less := behind place old
          cases right with
          | cut => trivial
          | item source' place' value' =>
              cases items with
              | nil => exact absurd rfl some_
              | cons next rest =>
                  cases head
                  change sent = place+1
                  omega
  · intro last member place from_ to_
    rw [fresh] at member ⊢
    rcases List.mem_append.mp member with old | new
    · have less := behind last old
      omega
    · have bounds := List.mem_range'_1.mp new
      exact List.mem_append_right _ (List.mem_range'_1.mpr ⟨from_,by omega⟩)
  · intro source place value last
    cases ended with
    | true =>
        rw [if_pos rfl,← List.append_assoc,List.getLast?_concat] at last
        cases last
    | false =>
        rw [if_neg (by simp),List.append_nil,List.getLast?_append] at last
        have reached := all rfl
        cases tail : (stretch own sent items).getLast? with
        | none =>
            cases items with
            | nil => exact absurd rfl some_
            | cons head rest => exact absurd (List.getLast?_eq_none_iff.mp tail) (by simp [stretch])
        | some mark =>
            rw [tail] at last
            cases last
            have end_ := stretch_last tail
            omega

theorem fed_again (kept : Kept own sent total marks) (ahead : ∃ place ∈ places marks, sent ≤ place) (some_ : items ≠ []) :
    ¬ Clean own (marks ++ (stretch own sent items ++ more)) := by
  intro clean
  obtain ⟨last,member,reached⟩ := ahead
  have taken := kept.filled last member sent (Nat.le_refl _) reached
  have once := clean.once
  rw [places_append,places_append,places_stretch] at once
  refine (List.nodup_append.mp once).2.2 sent taken sent ?_ rfl
  cases items with
  | nil => exact absurd rfl some_
  | cons head rest => simp

theorem fed_other (apart : source ≠ own) (some_ : items ≠ []) :
    ¬ Clean own (marks ++ (stretch source first items ++ more)) := by
  intro clean
  cases items with
  | nil => exact some_ rfl
  | cons head rest => exact apart (clean.own source first head (by simp [stretch]))

end Feeds
