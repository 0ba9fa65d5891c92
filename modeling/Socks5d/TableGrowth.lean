import Socks5d.Selector
import Socks5d.Foundations.Transitions

namespace Socks5d
open Transitions

structure RegisterCall where
  fd : Int
  handler : Option FdHandler
  interest : FdInterest
  data : Option Nat
  deriving DecidableEq, Repr

variable {s t origin : Selector} {n i : Nat} {call : RegisterCall} {calls : List RegisterCall}

def Selector.register (s : Selector) (call : RegisterCall) : SelectorStatus × Selector :=
  selectorRegister s call.fd call.handler call.interest call.data

-- The first half of selector_register, and the table that its second half indexes.
def Selector.makeRoom (s : Selector) (fd : Int) : SelectorStatus × Selector :=
  if fd.toNat > s.fds.length then ensureCapacity s fd.toNat else (.success,s)

def Selector.indexed (s : Selector) (call : RegisterCall) : Option Nat :=
  if invalidFd call.fd || call.handler.isNone || decide ((s.makeRoom call.fd).1 ≠ .success) then none
  else some call.fd.toNat

def StaysInside (s : Selector) (call : RegisterCall) : Prop :=
  ∀ i, s.indexed call = some i → i < (s.makeRoom call.fd).2.fds.length

structure Grown (s t : Selector) : Prop where
  kept : ∀ i, i < s.fds.length → t.fds[i]? = s.fds[i]?
  unused : ∀ i item, s.fds.length ≤ i → t.fds[i]? = some item → item.used = false
  bounded : t.fds.length ≤ itemsMaxSize+1

def ValidCall (call : RegisterCall) : Prop := 0 ≤ call.fd ∧ call.fd < itemsMaxSize

def Registers (meets : Selector → RegisterCall → Prop) (s : Selector) (call : RegisterCall) (next : Selector) : Prop :=
  ValidCall call ∧ meets s call ∧ (s.register call).2 = next

def Avoids (s : Selector) (call : RegisterCall) : Prop := call.handler = none ∨ call.fd ≠ s.fds.length

theorem validCall_parts (valid : ValidCall call) : invalidFd call.fd = false ∧ call.fd.toNat < itemsMaxSize := by
  obtain ⟨nonneg,low⟩ := valid
  refine ⟨?_,by omega⟩
  rw [invalidFd,decide_eq_false (by omega),decide_eq_false (by omega)]
  rfl

theorem nextCapacity_room (fits : n ≤ itemsMaxSize) : n < nextCapacity n ∧ nextCapacity n ≤ itemsMaxSize+1 := by
  have above : n < 1 <<< n.size := by
    rw [Nat.one_shiftLeft]
    exact Nat.lt_size_self n
  unfold nextCapacity
  dsimp only
  split
  · exact ⟨by omega,Nat.le_refl _⟩
  · exact ⟨by omega,by omega⟩

theorem ensureCapacity_parts (s : Selector) (n : Nat) :
    (n < s.fds.length ∧ ensureCapacity s n = (.success,s)) ∨
    (s.fds.length ≤ n ∧ itemsMaxSize < n ∧ ensureCapacity s n = (.maxfd,s)) ∨
    (s.fds.length ≤ n ∧ n ≤ itemsMaxSize ∧ ensureCapacity s n =
      (.success,{s with fds:=s.fds ++ List.replicate (nextCapacity n - s.fds.length) Item.blank})) := by
  unfold ensureCapacity
  by_cases inside : n < s.fds.length
  · rw [if_pos inside]
    exact .inl ⟨inside,rfl⟩
  · rw [if_neg inside]
    by_cases large : n > itemsMaxSize
    · rw [if_pos large]
      exact .inr (.inl ⟨by omega,large,rfl⟩)
    · rw [if_neg large]
      exact .inr (.inr ⟨by omega,by omega,rfl⟩)

theorem grown_refl (bounded : s.fds.length ≤ itemsMaxSize+1) : Grown s s := by
  refine ⟨fun _ _ => rfl,?_,bounded⟩
  intro i item outside found
  rw [List.getElem?_eq_none outside] at found
  cases found

theorem ensureCapacity_grown (bounded : s.fds.length ≤ itemsMaxSize+1) (n : Nat) :
    Grown s (ensureCapacity s n).2 := by
  rcases ensureCapacity_parts s n with ⟨_,same⟩ | ⟨_,_,same⟩ | ⟨least,fits,grown⟩
  · rw [same]
    exact grown_refl bounded
  · rw [same]
    exact grown_refl bounded
  · rw [grown]
    obtain ⟨above,capped⟩ := nextCapacity_room fits
    refine ⟨?_,?_,?_⟩
    · intro i inside
      exact List.getElem?_append_left inside
    · intro i item outside found
      rw [List.getElem?_append_right outside] at found
      rw [List.eq_of_mem_replicate (List.mem_of_getElem? found)]
      rfl
    · rw [List.length_append,List.length_replicate]
      omega

theorem makeRoom_grown (bounded : s.fds.length ≤ itemsMaxSize+1) (fd : Int) : Grown s (s.makeRoom fd).2 := by
  unfold Selector.makeRoom
  split
  · exact ensureCapacity_grown bounded fd.toNat
  · exact grown_refl bounded

theorem makeRoom_room (valid : ValidCall call) : (s.makeRoom call.fd).1 = .success ∧
    (call.fd.toNat < (s.makeRoom call.fd).2.fds.length ↔ call.fd ≠ s.fds.length) := by
  obtain ⟨_,low⟩ := validCall_parts valid
  have nonneg := valid.1
  unfold Selector.makeRoom
  by_cases past : call.fd.toNat > s.fds.length
  · rw [if_pos past]
    rcases ensureCapacity_parts s call.fd.toNat with ⟨inside,_⟩ | ⟨_,large,_⟩ | ⟨_,fits,grown⟩
    · omega
    · omega
    · rw [grown]
      have above := (nextCapacity_room fits).1
      refine ⟨rfl,iff_of_true ?_ (by omega)⟩
      rw [List.length_append,List.length_replicate]
      omega
  · rw [if_neg past]
    refine ⟨rfl,?_⟩
    dsimp only
    omega

theorem inside_exact (valid : ValidCall call) : StaysInside s call ↔ Avoids s call := by
  obtain ⟨accepted,_⟩ := validCall_parts valid
  obtain ⟨made,room⟩ := @makeRoom_room s call valid
  unfold StaysInside Selector.indexed Avoids
  rw [accepted,made,Bool.false_or,decide_eq_false (by simp),Bool.or_false]
  cases given : call.handler with
  | none => simp
  | some handler =>
      rw [Option.isNone_some,if_neg Bool.false_ne_true]
      constructor
      · intro inside
        exact .inr (room.mp (inside _ rfl))
      · rintro (missing | other) i same
        · cases missing
        · cases same
          exact room.mpr other

theorem register_size (valid : ValidCall call) : (s.register call).2.fds.length = s.fds.length ∨
    (s.register call).2.fds.length = (s.makeRoom call.fd).2.fds.length := by
  obtain ⟨accepted,_⟩ := validCall_parts valid
  have made := (@makeRoom_room s call valid).1
  unfold Selector.makeRoom at made ⊢
  unfold Selector.register selectorRegister
  rw [accepted,Bool.false_or]
  split
  · exact .inl rfl
  · right
    generalize (if call.fd.toNat > s.fds.length then ensureCapacity s call.fd.toNat else (.success,s)) = room at made ⊢
    dsimp only
    rw [if_neg (by simp [made])]
    split
    · rfl
    · exact List.length_set

theorem register_bounded (valid : ValidCall call) (bounded : s.fds.length ≤ itemsMaxSize+1) :
    (s.register call).2.fds.length ≤ itemsMaxSize+1 := by
  rcases @register_size s call valid with same | same
  · rw [same]
    exact bounded
  · rw [same]
    exact (makeRoom_grown bounded call.fd).bounded

theorem selectorNew_size (created : selectorNew n = some s) : n ≤ itemsMaxSize ∧ s.fds.length = nextCapacity n := by
  unfold selectorNew at created
  rcases ensureCapacity_parts ⟨[],0,fun _ => false,fun _ => false⟩ n with ⟨inside,_⟩ | ⟨_,_,same⟩ | ⟨_,fits,grown⟩
  · cases inside
  · rw [same] at created
    cases created
  · rw [grown] at created
    cases created
    exact ⟨fits,by simp⟩

theorem runs_bounded {meets : Selector → RegisterCall → Prop} (created : selectorNew n = some origin)
    (path : Runs (Registers meets) origin calls s) : s.fds.length ≤ itemsMaxSize+1 := by
  apply path.invariant
  · obtain ⟨fits,size⟩ := selectorNew_size created
    rw [size]
    exact (nextCapacity_room fits).2
  · rintro before call next bounded ⟨valid,_,rfl⟩
    exact register_bounded valid bounded

theorem registers_inside_exact (created : selectorNew n = some origin) (path : Runs (Registers Avoids) origin calls s)
    (valid : ValidCall call) : s.fds.length ≤ itemsMaxSize+1 ∧ Grown s (s.makeRoom call.fd).2 ∧
      (StaysInside s call ↔ Avoids s call) := by
  have bounded := runs_bounded created path
  exact ⟨bounded,makeRoom_grown bounded call.fd,inside_exact valid⟩

def fourthCall : RegisterCall := ⟨3,some .connActions,opRead,none⟩

theorem registers_inside : ∃ origin s, selectorNew 0 = some origin ∧ s.fds.length = 5 ∧
    StaysInside s ⟨4,some .connActions,opRead,none⟩ := by
  have sizes : ((selectorNew 0).map fun origin => (origin.fds.length,(origin.register fourthCall).2.fds.length)) =
      some (2,5) := by decide +kernel
  obtain ⟨origin,created,same⟩ := Option.map_eq_some_iff.mp sizes
  obtain ⟨two,five⟩ := Prod.mk.inj same
  have avoids : Avoids origin fourthCall := .inr (by rw [two]; decide)
  have path : Runs (Registers Avoids) origin [fourthCall] (origin.register fourthCall).2 :=
    .snoc .nil ⟨⟨by decide,by decide⟩,avoids,rfl⟩
  exact ⟨origin,_,created,five,(registers_inside_exact created path ⟨by decide,by decide⟩).2.2.mpr
    (.inr (by rw [five]; decide))⟩

-- selector_new(0) makes two entries, and the third descriptor is written behind them.
theorem third_outside : ∃ origin, selectorNew 0 = some origin ∧ ValidCall ⟨2,some .connActions,opRead,none⟩ ∧
    ¬ StaysInside origin ⟨2,some .connActions,opRead,none⟩ := by
  have size : (selectorNew 0).map (·.fds.length) = some 2 := by decide
  obtain ⟨origin,created,two⟩ := Option.map_eq_some_iff.mp size
  have valid : ValidCall ⟨2,some .connActions,opRead,none⟩ := ⟨by decide,by decide⟩
  refine ⟨origin,created,valid,fun inside => ?_⟩
  rcases (inside_exact valid).mp inside with missing | other
  · cases missing
  · exact other (by rw [two]; rfl)

-- From 512 elements on, main's among them, the first table already has its largest size,
-- and no call has to avoid anything.
theorem whole_inside (large : 512 ≤ n) (created : selectorNew n = some origin)
    (path : Runs (Registers fun _ _ => True) origin calls s) (valid : ValidCall call) : StaysInside s call := by
  have whole : s.fds.length = itemsMaxSize+1 := by
    apply path.invariant
    · obtain ⟨_,size⟩ := selectorNew_size created
      have power : 2^10 ≤ 1 <<< n.size := by
        rw [Nat.one_shiftLeft]
        exact Nat.pow_le_pow_right (by decide) (Nat.lt_size.mpr large)
      rw [size,nextCapacity,itemsMaxSize]
      split
      · rfl
      · omega
    · rintro before call next size ⟨valid,_,rfl⟩
      have low := (validCall_parts valid).2
      rcases @register_size before call valid with same | same
      · rw [same,size]
      · rw [same,Selector.makeRoom,if_neg (by omega)]
        exact size
  have low := valid.2
  exact (inside_exact valid).mpr (.inr (by omega))

end Socks5d
