import Socks5d.UserMgmt
import Socks5d.Foundations.Slots
import Socks5d.Foundations.Trace

namespace Socks5d
open Slots Trace

-- The three operations that change the table. `behind` is what stands in memory behind
-- the new password's terminator.
inductive TableOp where
  | addUser (name pass : List UInt8)
  | removeUser (username : List UInt8)
  | changePassword (username newPassword behind : List UInt8)
  deriving DecidableEq, Repr

-- The first part is whether the operation reports success, ADD_OK or 0.
def TableOp.apply (t : UserTable) : TableOp → Bool × UserTable
  | .addUser name pass => let (result,t) := Socks5d.addUser t name pass; (decide (result = .addOk),t)
  | .removeUser username => let (ret,t) := Socks5d.removeUser t username; (decide (ret = 0),t)
  | .changePassword username newPassword behind =>
    let (ret,t) := Socks5d.changePassword t username newPassword behind; (decide (ret = 0),t)

def runTable (ops : List TableOp) : UserTable := ops.foldl (fun t op => (op.apply t).2) .empty

abbrev UserMap := Finmap fun _ : List UInt8 => List UInt8

def TableOp.applyMap (m : UserMap) : TableOp → Bool × UserMap
  | .addUser name pass => if name ∉ m ∧ m.keys.card < maxUsers then (true,m.insert name pass) else (false,m)
  | .removeUser username => if username ∈ m then (true,m.erase username) else (false,m)
  | .changePassword username newPassword _ =>
    if username ∈ m then (true,m.insert username newPassword) else (false,m)

def runMap (ops : List TableOp) : UserMap := ops.foldl (fun m op => (op.applyMap m).2) ∅

def UserTable.map (t : UserTable) : UserMap := contents User.name User.pass t.users

structure UserTable.Refines (t : UserTable) (m : UserMap) : Prop where
  distinct : (t.users.map User.name).Nodup
  bounded : t.users.length ≤ maxUsers
  asked : t.requireAuth = true ↔ 0 < t.users.length
  same : t.map = m

variable {t : UserTable} {m : UserMap} {name pass username newPassword behind : List UInt8} {pos : Nat}
  {front rest : List User} {u : User}

theorem UserTable.Refines.member (refines : t.Refines m) : username ∈ m ↔ username ∈ t.users.map User.name := by
  rw [← refines.same]
  exact mem_contents

theorem UserTable.Refines.card (refines : t.Refines m) : m.keys.card = t.users.length := by
  rw [← refines.same]
  exact card_contents refines.distinct

theorem exists_parts (found : userExistsByUsername t username = some pos) :
    ∃ front u rest, t.users = front ++ u::rest ∧ front.length = pos ∧ u.name = username := by
  obtain ⟨front,u,rest,split,place,same⟩ := found_parts found
  exact ⟨front,u,rest,split,place,(of_decide_eq_true same).symm⟩

theorem exists_exact : (userExistsByUsername t username).isSome = true ↔ username ∈ t.users.map User.name := by
  rw [userExistsByUsername,List.findIdx?_isSome,List.any_eq_true,List.mem_map]
  constructor
  · rintro ⟨u,member,same⟩
    exact ⟨u,member,(of_decide_eq_true same).symm⟩
  · rintro ⟨u,member,same⟩
    exact ⟨u,member,decide_eq_true same.symm⟩

theorem absent_exact : userExistsByUsername t username = none ↔ username ∉ t.users.map User.name := by
  rw [← exists_exact,Option.not_isSome_iff_eq_none]

theorem empty_refines : UserTable.empty.Refines ∅ :=
  ⟨List.nodup_nil,Nat.zero_le _,by simp [UserTable.empty],rfl⟩

theorem addUser_cases :
    (t.users.length = maxUsers ∧ addUser t name pass = (.addMaxUsers,t)) ∨
    (name ∈ t.users.map User.name ∧ addUser t name pass = (.addUserExists,t)) ∨
    (t.users.length ≠ maxUsers ∧ name ∉ t.users.map User.name ∧
      addUser t name pass = (.addOk,⟨t.users ++ [⟨name,pass,name.length+1,pass.length+1⟩],true⟩)) := by
  unfold addUser
  by_cases full : t.users.length = maxUsers
  · rw [if_pos full]
    exact .inl ⟨full,rfl⟩
  · rw [if_neg full]
    by_cases taken : (userExistsByUsername t name).isSome = true
    · rw [if_pos taken]
      exact .inr (.inl ⟨exists_exact.mp taken,rfl⟩)
    · rw [if_neg taken]
      exact .inr (.inr ⟨full,fun member => taken (exists_exact.mpr member),rfl⟩)

theorem removeUser_cases :
    (username ∉ t.users.map User.name ∧ removeUser t username = (-1,t)) ∨
    ∃ front u rest, t.users = front ++ u::rest ∧ u.name = username ∧ removeUser t username =
      (0,⟨fillHole (front ++ u::rest) front.length,
        if (fillHole (front ++ u::rest) front.length).length = 0 then false else t.requireAuth⟩) := by
  unfold removeUser
  cases found : userExistsByUsername t username with
  | none => exact .inl ⟨absent_exact.mp found,rfl⟩
  | some pos =>
      obtain ⟨front,u,rest,split,rfl,same⟩ := exists_parts found
      refine .inr ⟨front,u,rest,split,same,?_⟩
      rw [← split,fillHole]
      cases t.users.getLast? with
      | none => rfl
      | some last => rfl

theorem changePassword_cases :
    (username ∉ t.users.map User.name ∧ changePassword t username newPassword behind = (-1,t)) ∨
    ∃ front u rest, t.users = front ++ u::rest ∧ u.name = username ∧ changePassword t username newPassword behind =
      (0,{t with users:=front ++ {u with
        pass:=newPassword,passBlock:=strlenPastFirst newPassword behind}::rest}) := by
  unfold changePassword
  cases found : userExistsByUsername t username with
  | none => exact .inl ⟨absent_exact.mp found,rfl⟩
  | some pos =>
      obtain ⟨front,u,rest,split,rfl,same⟩ := exists_parts found
      refine .inr ⟨front,u,rest,split,same,?_⟩
      dsimp only
      rw [split,modify_middle]

theorem listed (split : t.users = front ++ u::rest) : u.name ∈ t.users.map User.name := by
  rw [split]
  simp

theorem addUser_refines (refines : t.Refines m) :
    ((TableOp.addUser name pass).apply t).1 = ((TableOp.addUser name pass).applyMap m).1 ∧
    ((TableOp.addUser name pass).apply t).2.Refines ((TableOp.addUser name pass).applyMap m).2 := by
  rw [TableOp.apply,TableOp.applyMap]
  rcases @addUser_cases t name pass with ⟨full,made⟩ | ⟨taken,made⟩ | ⟨room,fresh,made⟩
  · rw [made,if_neg (by rw [refines.card]; omega)]
    exact ⟨rfl,refines⟩
  · rw [made,if_neg (fun free => free.1 (refines.member.mpr taken))]
    exact ⟨rfl,refines⟩
  · have bounded := refines.bounded
    rw [made,if_pos ⟨fun member => fresh (refines.member.mp member),by rw [refines.card]; omega⟩]
    have distinct : ((t.users ++ [(⟨name,pass,name.length+1,pass.length+1⟩ : User)]).map User.name).Nodup := by
      rw [List.map_append,List.nodup_append_comm]
      exact List.nodup_cons.mpr ⟨fresh,refines.distinct⟩
    refine ⟨rfl,distinct,?_,?_,?_⟩
    · dsimp only
      rw [List.length_append,List.length_singleton]
      omega
    · simp
    · rw [← refines.same,UserTable.map,contents_perm distinct (List.perm_append_singleton _ _),contents_cons]
      rfl

theorem removeUser_refines (refines : t.Refines m) :
    ((TableOp.removeUser username).apply t).1 = ((TableOp.removeUser username).applyMap m).1 ∧
    ((TableOp.removeUser username).apply t).2.Refines ((TableOp.removeUser username).applyMap m).2 := by
  rw [TableOp.apply,TableOp.applyMap]
  rcases @removeUser_cases t username with ⟨absent,made⟩ | ⟨front,u,rest,split,rfl,made⟩
  · rw [made,if_neg (fun member => absent (refines.member.mp member))]
    exact ⟨rfl,refines⟩
  · rw [made,if_pos (refines.member.mpr (listed split))]
    have distinct := refines.distinct
    have bounded := refines.bounded
    rw [split] at distinct bounded
    have filled : (fillHole (front ++ u::rest) front.length).Perm (front ++ rest) := fillHole_perm
    refine ⟨rfl,(filled.map User.name).nodup_iff.mpr (apart distinct).2,?_,?_,?_⟩
    · dsimp only
      rw [filled.length_eq]
      simp only [List.length_append,List.length_cons] at bounded ⊢
      omega
    · have required : t.requireAuth = true := refines.asked.mpr (by
        rw [split,List.length_append,List.length_cons]
        omega)
      dsimp only
      split
      · rename_i zero
        simp [zero]
      · rename_i some
        simp [required,Nat.pos_of_ne_zero some]
    · rw [← refines.same,UserTable.map,UserTable.map,split]
      exact contents_filled distinct

theorem changePassword_refines (refines : t.Refines m) :
    ((TableOp.changePassword username newPassword behind).apply t).1 =
      ((TableOp.changePassword username newPassword behind).applyMap m).1 ∧
    ((TableOp.changePassword username newPassword behind).apply t).2.Refines
      ((TableOp.changePassword username newPassword behind).applyMap m).2 := by
  rw [TableOp.apply,TableOp.applyMap]
  rcases @changePassword_cases t username newPassword behind with ⟨absent,made⟩ | ⟨front,u,rest,split,rfl,made⟩
  · rw [made,if_neg (fun member => absent (refines.member.mp member))]
    exact ⟨rfl,refines⟩
  · rw [made,if_pos (refines.member.mpr (listed split))]
    have distinct := refines.distinct
    have bounded := refines.bounded
    have asked := refines.asked
    rw [split] at distinct bounded asked
    refine ⟨rfl,by simpa using distinct,by simpa using bounded,by simpa using asked,?_⟩
    rw [← refines.same,UserTable.map,UserTable.map,split]
    exact contents_put distinct rfl

theorem apply_refines (refines : t.Refines m) (op : TableOp) :
    (op.apply t).1 = (op.applyMap m).1 ∧ (op.apply t).2.Refines (op.applyMap m).2 := by
  cases op with
  | addUser => exact addUser_refines refines
  | removeUser => exact removeUser_refines refines
  | changePassword => exact changePassword_refines refines

theorem runs_refines (ops : List TableOp) : (runTable ops).Refines (runMap ops) := by
  have from_ : ∀ (t : UserTable) m, t.Refines m → (ops.foldl (fun t (op : TableOp) => (op.apply t).2) t).Refines
      (ops.foldl (fun m (op : TableOp) => (op.applyMap m).2) m) := by
    induction ops with
    | nil => exact fun _ _ refines => refines
    | cons op rest ih => exact fun t m refines => ih _ _ (apply_refines refines op).2
  exact from_ _ _ empty_refines

theorem apply_failed (op : TableOp) (failed : (op.apply t).1 = false) : (op.apply t).2 = t := by
  cases op with
  | addUser name pass =>
      rw [TableOp.apply] at failed ⊢
      rcases @addUser_cases t name pass with ⟨_,made⟩ | ⟨_,made⟩ | ⟨_,_,made⟩
      · rw [made]
      · rw [made]
      · rw [made] at failed
        cases failed
  | removeUser username =>
      rw [TableOp.apply] at failed ⊢
      rcases @removeUser_cases t username with ⟨_,made⟩ | ⟨_,_,_,_,_,made⟩
      · rw [made]
      · rw [made] at failed
        cases failed
  | changePassword username newPassword behind =>
      rw [TableOp.apply] at failed ⊢
      rcases @changePassword_cases t username newPassword behind with ⟨_,made⟩ | ⟨_,_,_,_,_,made⟩
      · rw [made]
      · rw [made] at failed
        cases failed

theorem authentication_exact (refines : t.Refines m) (name pass : List UInt8) :
    processAuthenticationRequest t name pass = 0 ↔ m = ∅ ∨ m.lookup name = some pass := by
  have blank : m = ∅ ↔ t.requireAuth = false := by
    rw [← Bool.not_eq_true,refines.asked,← refines.card,Finset.card_pos]
    rw [Finset.not_nonempty_iff_eq_empty]
    constructor
    · intro none
      rw [none,Finmap.keys_empty]
    · intro none
      refine Finmap.ext_lookup fun k => ?_
      rw [Finmap.lookup_empty,Finmap.lookup_eq_none,← Finmap.mem_keys,none]
      simp
  have listed : m.lookup name = some pass ↔
      t.users.any (fun u => validCredentials name pass u.name u.pass) = true := by
    rw [← refines.same,UserTable.map,lookup_contents refines.distinct,List.any_eq_true]
    simp only [validCredentials,Bool.and_eq_true,decide_eq_true_eq]
    refine exists_congr fun u => and_congr_right fun _ => ?_
    rw [eq_comm,@eq_comm _ u.pass]
  rw [blank,listed]
  unfold processAuthenticationRequest
  cases required : t.requireAuth with
  | false => simp
  | true =>
      rw [Bool.not_true,if_neg Bool.false_ne_true]
      split
      · rename_i valid
        simp [valid]
      · rename_i invalid
        simp [invalid]

theorem table_refines_map (ops : List TableOp) :
    ((runTable ops).users.map User.name).Nodup ∧ (runTable ops).users.length ≤ maxUsers ∧
    ((runTable ops).requireAuth = true ↔ 0 < (runTable ops).users.length) ∧ (runTable ops).map = runMap ops ∧
    (∀ op : TableOp, (op.apply (runTable ops)).1 = (op.applyMap (runMap ops)).1 ∧
      ((op.apply (runTable ops)).1 = false → (op.apply (runTable ops)).2 = runTable ops)) ∧
    ∀ name pass, processAuthenticationRequest (runTable ops) name pass = 0 ↔
      runMap ops = ∅ ∨ (runMap ops).lookup name = some pass := by
  have refines := runs_refines ops
  refine ⟨refines.distinct,refines.bounded,refines.asked,refines.same,?_,authentication_exact refines⟩
  intro op
  exact ⟨(apply_refines refines op).1,apply_failed op⟩

structure Strcpy where
  block : Nat
  source : List UInt8
  deriving DecidableEq, Repr

def Strcpy.fits (copy : Strcpy) : Prop := copy.source.length + 1 ≤ copy.block

def TableOp.copies (t : UserTable) (op : TableOp) : List Strcpy :=
  if (op.apply t).1 then
    match op with
    | .addUser name pass => [⟨name.length+1,name⟩,⟨pass.length+1,pass⟩]
    | .removeUser _ => []
    | .changePassword _ newPassword behind => [⟨strlenPastFirst newPassword behind,newPassword⟩]
  else []

def User.Fits (u : User) : Prop := u.name.length + 1 ≤ u.nameBlock ∧ u.pass.length + 1 ≤ u.passBlock

structure TableOp.Stores (t : UserTable) (op : TableOp) : Prop where
  within : ∀ copy ∈ op.copies t, copy.fits
  fits : ∀ u ∈ (op.apply t).2.users, u.Fits

-- change_password finds the user, and the new password is not an empty string with
-- something else behind it.
def TableOp.shrinks (t : UserTable) : TableOp → Bool
  | .changePassword username newPassword behind => (userExistsByUsername t username).isSome &&
      !(decide (newPassword = []) && decide (cString behind ≠ []))
  | _ => false

theorem past_first (newPassword behind : List UInt8) :
    newPassword.length + 1 ≤ strlenPastFirst newPassword behind ↔ newPassword = [] ∧ cString behind ≠ [] := by
  cases newPassword with
  | nil => simp [strlenPastFirst,Nat.succ_le_iff,List.length_pos_iff]
  | cons first rest =>
      simp only [strlenPastFirst,List.length_cons,reduceCtorEq,false_and,iff_false]
      omega

theorem stores_exact (op : TableOp) (fits : ∀ u ∈ t.users, u.Fits) : op.Stores t ↔ op.shrinks t = false := by
  cases op with
  | addUser name pass =>
      refine ⟨fun _ => rfl,fun _ => ?_⟩
      rcases @addUser_cases t name pass with ⟨_,made⟩ | ⟨_,made⟩ | ⟨_,_,made⟩
      · exact ⟨by simp [TableOp.copies,TableOp.apply,made],by rwa [TableOp.apply,made]⟩
      · exact ⟨by simp [TableOp.copies,TableOp.apply,made],by rwa [TableOp.apply,made]⟩
      · refine ⟨by simp [TableOp.copies,TableOp.apply,made,Strcpy.fits],?_⟩
        rw [TableOp.apply,made]
        intro u member
        rcases List.mem_append.mp member with old | new
        · exact fits u old
        · rw [List.mem_singleton.mp new]
          exact ⟨Nat.le_refl _,Nat.le_refl _⟩
  | removeUser username =>
      refine ⟨fun _ => rfl,fun _ => ?_⟩
      rcases @removeUser_cases t username with ⟨_,made⟩ | ⟨front,u,rest,split,_,made⟩
      · exact ⟨by simp [TableOp.copies],by rwa [TableOp.apply,made]⟩
      · refine ⟨by simp [TableOp.copies],?_⟩
        rw [TableOp.apply,made]
        intro other member
        refine fits other ?_
        rw [split]
        rcases List.mem_append.mp (fillHole_perm.subset member) with left | right
        · exact List.mem_append_left _ left
        · exact List.mem_append_right _ (List.mem_cons_of_mem _ right)
  | changePassword username newPassword behind =>
      rcases @changePassword_cases t username newPassword behind with ⟨absent,made⟩ | ⟨front,u,rest,split,same,made⟩
      · have unknown : (userExistsByUsername t username).isSome = false := by
          rw [absent_exact.mpr absent]
          rfl
        refine ⟨fun _ => by rw [TableOp.shrinks,unknown]; rfl,fun _ => ?_⟩
        exact ⟨by simp [TableOp.copies,TableOp.apply,made],by rwa [TableOp.apply,made]⟩
      · have known : (userExistsByUsername t username).isSome = true := exists_exact.mpr (same ▸ listed split)
        have copies : (TableOp.changePassword username newPassword behind).copies t =
            [⟨strlenPastFirst newPassword behind,newPassword⟩] := by simp [TableOp.copies,TableOp.apply,made]
        have shrinks : (TableOp.changePassword username newPassword behind).shrinks t = false ↔
            newPassword = [] ∧ cString behind ≠ [] := by simp [TableOp.shrinks,known]
        rw [shrinks,← past_first]
        constructor
        · intro stores
          exact stores.within _ (by rw [copies]; exact List.mem_singleton_self _)
        · intro room
          refine ⟨?_,?_⟩
          · rw [copies]
            intro copy member
            rw [List.mem_singleton.mp member]
            exact room
          · rw [TableOp.apply,made]
            rw [split] at fits
            intro other member
            rcases List.mem_append.mp member with left | right
            · exact fits other (List.mem_append_left _ left)
            · rcases List.mem_cons.mp right with rfl | right
              · exact ⟨(fits u (by simp)).1,room⟩
              · exact fits other (List.mem_append_right _ (List.mem_cons_of_mem _ right))

theorem runTable_append (ops : List TableOp) (op : TableOp) :
    runTable (ops ++ [op]) = (op.apply (runTable ops)).2 := by
  rw [runTable,List.foldl_append]
  rfl

theorem each_stores (ops earlier : List TableOp) (fits : ∀ u ∈ (runTable earlier).users, u.Fits) :
    Each (fun past op => TableOp.Stores (runTable past) op) earlier ops ↔
      Each (fun past op => TableOp.shrinks (runTable past) op = false) earlier ops := by
  induction ops generalizing earlier with
  | nil => rfl
  | cons op rest ih =>
      rw [each_cons,each_cons,stores_exact op fits]
      refine and_congr_right fun careful => ih (earlier ++ [op]) ?_
      rw [runTable_append]
      exact ((stores_exact op fits).mpr careful).fits

theorem credentials_fit_exact (ops : List TableOp) :
    (∀ earlier op later, ops = earlier ++ op::later → op.Stores (runTable earlier)) ↔
      ∀ earlier op later, ops = earlier ++ op::later → op.shrinks (runTable earlier) = false := by
  rw [← @each_exact _ (fun past op => TableOp.Stores (runTable past) op),
    ← @each_exact _ (fun past op => TableOp.shrinks (runTable past) op = false)]
  exact each_stores ops [] (by simp [runTable,UserTable.empty])

-- User al with password se, which then becomes x1.
theorem changed_password_overflows :
    ¬ (TableOp.changePassword [0x61,0x6c] [0x78,0x31] []).Stores (runTable [.addUser [0x61,0x6c] [0x73,0x65]]) := by
  intro stores
  have fits := stores.within ⟨1,[0x78,0x31]⟩ (by decide)
  exact absurd (show 3 ≤ 1 from fits) (by decide)

end Socks5d
