import Mathlib.Tactic.Common
import Mathlib.Data.Nat.Size

namespace Socks5d

inductive SelectorStatus where
  | success
  | enomem
  | maxfd
  | iargs
  | fdinuse
  | io
  deriving DecidableEq, Repr

-- fd_interest is a mask; only the bits OP_READ and OP_WRITE are ever set or tested.
structure FdInterest where
  read : Bool
  write : Bool
  deriving DecidableEq, Repr

def opNoop : FdInterest := ⟨false,false⟩
def opRead : FdInterest := ⟨true,false⟩
def opWrite : FdInterest := ⟨false,true⟩

instance : OrOp FdInterest := ⟨fun x y => ⟨x.read || y.read,x.write || y.write⟩⟩
instance : AndOp FdInterest := ⟨fun x y => ⟨x.read && y.read,x.write && y.write⟩⟩
instance : Complement FdInterest := ⟨fun x => ⟨!x.read,!x.write⟩⟩

@[simp] theorem or_read (x y : FdInterest) : (x ||| y).read = (x.read || y.read) := rfl
@[simp] theorem or_write (x y : FdInterest) : (x ||| y).write = (x.write || y.write) := rfl
@[simp] theorem and_read (x y : FdInterest) : (x &&& y).read = (x.read && y.read) := rfl
@[simp] theorem and_write (x y : FdInterest) : (x &&& y).write = (x.write && y.write) := rfl
@[simp] theorem not_read (x : FdInterest) : (~~~x).read = !x.read := rfl
@[simp] theorem not_write (x : FdInterest) : (~~~x).write = !x.write := rfl
@[simp] theorem opNoop_read : opNoop.read = false := rfl
@[simp] theorem opNoop_write : opNoop.write = false := rfl
@[simp] theorem opRead_read : opRead.read = true := rfl
@[simp] theorem opRead_write : opRead.write = false := rfl
@[simp] theorem opWrite_read : opWrite.read = false := rfl
@[simp] theorem opWrite_write : opWrite.write = true := rfl

theorem interest_noop (x : FdInterest) : x = opNoop ↔ x.read = false ∧ x.write = false := by
  cases x; simp [opNoop]

inductive FdHandler where
  | passiveSocketFd
  | passiveSocketFdMng
  | connActions
  | cpFd
  deriving DecidableEq, Repr

-- `data` names the object that the void pointer leads to.
structure Item where
  fd : Int
  interest : FdInterest
  handler : Option FdHandler
  data : Option Nat
  deriving DecidableEq, Repr

def fdUnused : Int := -1
def Item.blank : Item := ⟨fdUnused,opNoop,none,none⟩
def Item.used (item : Item) : Bool := decide (fdUnused ≠ item.fd)

def itemsMaxSize : Nat := 1024
def invalidFd (fd : Int) : Bool := decide (fd < 0) || decide ((itemsMaxSize : Int) ≤ fd)

structure Selector where
  fds : List Item
  maxFd : Nat
  masterR : Nat → Bool
  masterW : Nat → Bool

-- Entries past the table are read as unused. The table that main asks for has
-- more entries than there are valid descriptors.
def Selector.item (s : Selector) (fd : Nat) : Item := s.fds.getD fd Item.blank

def fdAssign (set : Nat → Bool) (fd : Nat) (bit : Bool) : Nat → Bool :=
  fun other => if other = fd then bit else set other

def itemsUpdateFdsetForFd (s : Selector) (item : Item) : Selector :=
  {s with
    masterR:=fdAssign s.masterR item.fd.toNat (item.used && item.interest.read)
    masterW:=fdAssign s.masterW item.fd.toNat (item.used && item.interest.write)}

def nextCapacity (n : Nat) : Nat :=
  let tmp := 1 <<< n.size
  (if tmp > itemsMaxSize then itemsMaxSize else tmp) + 1

def ensureCapacity (s : Selector) (n : Nat) : SelectorStatus × Selector :=
  if n < s.fds.length then (.success,s)
  else if n > itemsMaxSize then (.maxfd,s)
  else (.success,{s with fds:=s.fds ++ List.replicate (nextCapacity n - s.fds.length) Item.blank})

def selectorNew (initialElements : Nat) : Option Selector :=
  match ensureCapacity ⟨[],0,fun _ => false,fun _ => false⟩ initialElements with
  | (.success,s) => some s
  | _ => none

def selectorRegister (s : Selector) (fd : Int) (handler : Option FdHandler)
    (interest : FdInterest) (data : Option Nat) : SelectorStatus × Selector :=
  if invalidFd fd || handler.isNone then (.iargs,s)
  else
    let (ret,s) := if fd.toNat > s.fds.length then ensureCapacity s fd.toNat else (.success,s)
    if ret ≠ .success then (ret,s)
    else if (s.item fd.toNat).used then (.fdinuse,s)
    else
      let item : Item := ⟨fd,interest,handler,data⟩
      (.success,itemsUpdateFdsetForFd
        {s with fds:=s.fds.set fd.toNat item,maxFd:=max s.maxFd fd.toNat} item)

def itemsMaxFd (s : Selector) : Nat :=
  (List.range (s.maxFd+1)).foldl (fun top i =>
    if (s.item i).used then max top (s.item i).fd.toNat else top) 0

-- Every caller but selector_destroy passes use_close = false.
def selectorUnregisterFd (s : Selector) (fd : Int) : SelectorStatus × Selector :=
  if invalidFd fd then (.iargs,s)
  else if !(s.item fd.toNat).used then (.iargs,s)
  else
    let cleared := itemsUpdateFdsetForFd s {s.item fd.toNat with interest:=opNoop}
    let table := {cleared with fds:=s.fds.set fd.toNat Item.blank}
    (.success,{table with maxFd:=itemsMaxFd table})

def selectorSetInterest (s : Selector) (fd : Int) (i : FdInterest) : SelectorStatus × Selector :=
  if invalidFd fd then (.iargs,s)
  else if !(s.item fd.toNat).used then (.iargs,s)
  else
    let item := {s.item fd.toNat with interest:=i}
    (.success,itemsUpdateFdsetForFd {s with fds:=s.fds.set fd.toNat item} item)

-- A key that is not NULL holds a number and this selector, or NULL when `given` is false.
structure KeyPointer where
  given : Bool
  fd : Int
  deriving DecidableEq, Repr

def selectorSetInterestKey (s : Selector) (key : Option KeyPointer) (i : FdInterest) : SelectorStatus × Selector :=
  match key with
  | none => (.iargs,s)
  | some key => if !key.given || invalidFd key.fd then (.iargs,s) else selectorSetInterest s key.fd i

def Selector.registered (s : Selector) (fd : Int) : Option Item :=
  if invalidFd fd then none
  else if (s.item fd.toNat).used then some (s.item fd.toNat) else none

theorem registered_parts {s : Selector} (found : s.registered fd = some item) :
    invalidFd fd = false ∧ item.used = true ∧ s.item fd.toNat = item ∧ fd.toNat < s.fds.length := by
  unfold Selector.registered at found
  split at found
  · cases found
  · rename_i valid
    split at found
    · rename_i used
      cases Option.some.inj found
      refine ⟨by simpa using valid,used,rfl,?_⟩
      by_contra outside
      rw [Selector.item,List.getD_eq_getElem?_getD,List.getElem?_eq_none (by omega)] at used
      cases used
    · cases found

theorem registered_none {s : Selector} (absent : s.registered fd = none) :
    invalidFd fd = true ∨ (s.item fd.toNat).used = false := by
  unfold Selector.registered at absent
  split at absent
  · rename_i wrong; exact .inl wrong
  · split at absent
    · cases absent
    · rename_i unused; exact .inr (by simpa using unused)

theorem invalidFd_inj (left : invalidFd fd = false) (right : invalidFd other = false)
    (same : other.toNat = fd.toNat) : other = fd := by
  simp only [invalidFd,Bool.or_eq_false_iff,decide_eq_false_iff_not] at left right
  omega

theorem registered_set {s t : Selector} {fd : Int} (entry : Item)
    (table : t.fds = s.fds.set fd.toNat entry)
    (valid : invalidFd fd = false) (inside : fd.toNat < s.fds.length) (other : Int) :
    t.registered other = if other = fd then (if entry.used then some entry else none)
      else s.registered other := by
  unfold Selector.registered Selector.item
  rw [table]
  by_cases equal : other = fd
  · subst other
    simp [valid,List.getElem?_set_self inside]
  · rw [if_neg equal]
    cases otherValid : invalidFd other with
    | true => rfl
    | false =>
        have distinct : fd.toNat ≠ other.toNat := fun same =>
          equal (invalidFd_inj valid otherValid same.symm)
        simp [List.getElem?_set_ne distinct]

theorem setInterest_found {s : Selector} (found : s.registered fd = some item) (i : FdInterest) :
    (selectorSetInterest s fd i).1 = .success ∧
    ∀ other, (selectorSetInterest s fd i).2.registered other =
      if other = fd then some {item with interest:=i} else s.registered other := by
  obtain ⟨valid,used,entry,inside⟩ := registered_parts found
  rw [selectorSetInterest,valid,entry,used]
  refine ⟨rfl,fun other => ?_⟩
  have entries := @registered_set s (itemsUpdateFdsetForFd {s with
    fds:=s.fds.set fd.toNat {item with interest:=i}} {item with interest:=i}) fd _ rfl valid inside other
  rwa [if_pos (show ({item with interest:=i} : Item).used = true from used)] at entries

theorem setInterest_absent {s : Selector} (absent : s.registered fd = none) (i : FdInterest) :
    selectorSetInterest s fd i = (.iargs,s) := by
  unfold selectorSetInterest
  rcases registered_none absent with wrong | unused
  · rw [if_pos wrong]
  · split
    · rfl
    · rw [unused]; rfl

theorem unregister_found {s : Selector} (found : s.registered fd = some item) :
    (selectorUnregisterFd s fd).1 = .success ∧
    ∀ other, (selectorUnregisterFd s fd).2.registered other =
      if other = fd then none else s.registered other := by
  obtain ⟨valid,used,entry,inside⟩ := registered_parts found
  rw [selectorUnregisterFd,valid,entry,used]
  refine ⟨rfl,fun other => ?_⟩
  exact registered_set Item.blank rfl valid inside other

theorem unregister_absent {s : Selector} (absent : s.registered fd = none) :
    selectorUnregisterFd s fd = (.iargs,s) := by
  unfold selectorUnregisterFd
  rcases registered_none absent with wrong | unused
  · rw [if_pos wrong]
  · split
    · rfl
    · rw [unused]; rfl

theorem register_fresh {s : Selector} (roomy : itemsMaxSize ≤ s.fds.length)
    (valid : invalidFd fd = false) (absent : s.registered fd = none) (handler : FdHandler)
    (interest : FdInterest) (data : Option Nat) :
    (selectorRegister s fd (some handler) interest data).1 = .success ∧
    ∀ other, (selectorRegister s fd (some handler) interest data).2.registered other =
      if other = fd then some ⟨fd,interest,some handler,data⟩ else s.registered other := by
  have bounds : 0 ≤ fd ∧ fd < itemsMaxSize := by
    simpa [invalidFd] using valid
  have inside : fd.toNat < s.fds.length := by omega
  have unused : (s.item fd.toNat).used = false := by
    rcases registered_none absent with wrong | unused
    · rw [valid] at wrong; cases wrong
    · exact unused
  have used : (⟨fd,interest,some handler,data⟩ : Item).used = true := by
    have nonneg := bounds.1
    rw [Item.used,fdUnused,decide_eq_true_eq]
    dsimp only; omega
  have fits : ¬ fd.toNat > s.fds.length := by omega
  simp only [selectorRegister,valid,Option.isNone_some,Bool.or_self,Bool.false_eq_true,if_false,
    if_neg fits,unused]
  refine ⟨by simp,fun other => ?_⟩
  have entries := @registered_set s (itemsUpdateFdsetForFd {s with
    fds:=s.fds.set fd.toNat ⟨fd,interest,some handler,data⟩,maxFd:=max s.maxFd fd.toNat}
    ⟨fd,interest,some handler,data⟩) fd _ rfl valid inside other
  rw [if_pos used] at entries
  simpa using entries

theorem unregister_registered (s : Selector) (fd other : Int) :
    (selectorUnregisterFd s fd).2.registered other = if other = fd then none else s.registered other := by
  cases found : s.registered fd with
  | some item => exact (unregister_found found).2 other
  | none =>
      rw [unregister_absent found]
      split
      · rename_i equal; rw [equal]; exact found
      · rfl

theorem setInterest_registered (s : Selector) (fd other : Int) (i : FdInterest) :
    (selectorSetInterest s fd i).2.registered other =
      if other = fd then (s.registered fd).map fun item => {item with interest:=i}
      else s.registered other := by
  cases found : s.registered fd with
  | some item => exact (setInterest_found found i).2 other
  | none =>
      rw [setInterest_absent found]
      split
      · rename_i equal; rw [equal]; exact found
      · rfl

theorem ensureCapacity_registered (s : Selector) (n : Nat) (other : Int) :
    (ensureCapacity s n).2.registered other = s.registered other := by
  unfold ensureCapacity
  split
  · rfl
  · split
    · rfl
    · have grown : ∀ fd, (s.fds ++ List.replicate (nextCapacity n - s.fds.length) Item.blank).getD fd Item.blank =
          s.fds.getD fd Item.blank := by
        intro fd
        rw [List.getD_eq_getElem?_getD,List.getD_eq_getElem?_getD,List.getElem?_append]
        split
        · rfl
        · rename_i outside
          rw [List.getElem?_eq_none (l := s.fds) (by omega),List.getElem?_replicate]
          split
          · rfl
          · rfl
      unfold Selector.registered Selector.item
      dsimp only
      rw [grown]

theorem selectorNew_registered {s : Selector} {n : Nat} (created : selectorNew n = some s) (fd : Int) :
    s.registered fd = none := by
  have entries := ensureCapacity_registered ⟨[],0,fun _ => false,fun _ => false⟩ n fd
  have empty : (⟨[],0,fun _ => false,fun _ => false⟩ : Selector).registered fd = none := by
    unfold Selector.registered
    split
    · rfl
    · rfl
  unfold selectorNew at created
  split at created
  · rename_i table grown
    cases created
    rw [grown] at entries
    exact entries.trans empty
  · cases created

theorem register_registered {s : Selector} {fd other : Int} {handler : Option FdHandler} {i : FdInterest}
    {data : Option Nat} (found : (selectorRegister s fd handler i data).2.registered other = some item) :
    s.registered other = some item ∨ (other = fd ∧ item = ⟨fd,i,handler,data⟩) := by
  have same : (if fd.toNat > s.fds.length then ensureCapacity s fd.toNat else (.success,s)).2.registered other =
      s.registered other := by
    split
    · exact ensureCapacity_registered s fd.toNat other
    · rfl
  unfold selectorRegister at found
  split at found
  · exact .inl found
  · rename_i valid
    rw [Bool.or_eq_true,not_or] at valid
    have valid : invalidFd fd = false := by simpa using valid.1
    generalize (if fd.toNat > s.fds.length then ensureCapacity s fd.toNat else (.success,s)) = table at same found
    dsimp only at found
    split at found
    · exact .inl (same.symm.trans found)
    · split at found
      · exact .inl (same.symm.trans found)
      · by_cases inside : fd.toNat < table.2.fds.length
        · have entries := @registered_set table.2 (itemsUpdateFdsetForFd {table.2 with
            fds:=table.2.fds.set fd.toNat ⟨fd,i,handler,data⟩,maxFd:=max table.2.maxFd fd.toNat}
            ⟨fd,i,handler,data⟩) fd _ rfl valid inside other
          rw [entries] at found
          split at found
          · rename_i equal
            split at found
            · cases found
              exact .inr ⟨equal,rfl⟩
            · cases found
          · exact .inl (same.symm.trans found)
        · have unchanged : table.2.fds.set fd.toNat ⟨fd,i,handler,data⟩ = table.2.fds :=
            List.set_eq_of_length_le (by omega)
          rw [unchanged] at found
          exact .inl (same.symm.trans found)

theorem register_absent {s : Selector} {fd : Int} {handler : FdHandler} {i : FdInterest} {data : Option Nat}
    (taken : (selectorRegister s fd (some handler) i data).1 = .success) : s.registered fd = none := by
  cases found : s.registered fd with
  | none => rfl
  | some item =>
      obtain ⟨valid,used,entry,inside⟩ := registered_parts found
      have fits : ¬ fd.toNat > s.fds.length := by omega
      simp only [selectorRegister,Option.isNone_some,valid,Bool.or_self,Bool.false_eq_true,if_false,if_neg fits,entry,
        used,if_true] at taken
      cases taken

theorem setInterest_length (s : Selector) (fd : Int) (i : FdInterest) :
    (selectorSetInterest s fd i).2.fds.length = s.fds.length := by
  unfold selectorSetInterest
  split
  · rfl
  · split
    · rfl
    · exact List.length_set

theorem unregister_length (s : Selector) (fd : Int) : (selectorUnregisterFd s fd).2.fds.length = s.fds.length := by
  unfold selectorUnregisterFd
  split
  · rfl
  · split
    · rfl
    · exact List.length_set

theorem ensureCapacity_length (s : Selector) (n : Nat) : s.fds.length ≤ (ensureCapacity s n).2.fds.length := by
  unfold ensureCapacity
  split
  · exact Nat.le_refl _
  · split
    · exact Nat.le_refl _
    · simp

theorem register_length (s : Selector) (fd : Int) (handler : Option FdHandler) (i : FdInterest) (data : Option Nat) :
    s.fds.length ≤ (selectorRegister s fd handler i data).2.fds.length := by
  have grown : s.fds.length ≤ (if fd.toNat > s.fds.length then ensureCapacity s fd.toNat else (.success,s)).2.fds.length := by
    split
    · exact ensureCapacity_length _ _
    · exact Nat.le_refl _
  unfold selectorRegister
  split
  · exact Nat.le_refl _
  · generalize (if fd.toNat > s.fds.length then ensureCapacity s fd.toNat else (.success,s)) = table at grown ⊢
    dsimp only
    split
    · exact grown
    · split
      · exact grown
      · exact Nat.le_trans grown (Nat.le_of_eq List.length_set.symm)

end Socks5d
