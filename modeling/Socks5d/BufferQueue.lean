import Socks5d.Buffer
import Socks5d.Foundations.Pipe

namespace Socks5d
open Pipes Transitions

-- What the users of a buffer call. `put` stores bytes through the write pointer and then
-- advances it by k, `take` advances the read pointer by k.
inductive BufferCall where
  | write (c : UInt8)
  | read
  | compact
  | put (bytes : List UInt8) (k : Int)
  | take (k : Int)
  deriving DecidableEq, Repr

def Buffer.after (b : Buffer) : BufferCall → Option Buffer
  | .write c => bufferWrite b c
  | .read => (bufferRead b).map Prod.snd
  | .compact => some (bufferCompact b)
  | .put bytes k => (bufferWritePtr b).bind fun _ => bufferWriteAdv (b.store bytes) k
  | .take k => (bufferReadPtr b).bind fun _ => bufferReadAdv b k

-- Nobody stores or advances past what the pointer's function reported.
def Buffer.Allows (b : Buffer) : BufferCall → Prop
  | .put bytes k => ∀ ptr space, bufferWritePtr b = some (ptr,space) → k ≤ space ∧ bytes.length = k.toNat
  | .take k => ∀ ptr count, bufferReadPtr b = some (ptr,count) → k ≤ count
  | _ => True

def Buffer.gains (b : Buffer) : BufferCall → List UInt8
  | .write c => if bufferCanWrite b then [c] else []
  | .put bytes _ => bytes
  | _ => []

def Buffer.yields (b : Buffer) : BufferCall → List UInt8
  | .read => if bufferCanRead b then ((bufferRead b).map Prod.fst).toList else []
  | .take k => (b.mem.drop b.read).take k.toNat
  | _ => []

structure BufferUse where
  raw : Buffer
  given : List UInt8
  taken : List UInt8

def BufferCalls (s : BufferUse) (call : BufferCall) (next : BufferUse) : Prop :=
  s.raw.Allows call ∧ ∃ raw, s.raw.after call = some raw ∧
    next = ⟨raw,s.given ++ s.raw.gains call,s.taken ++ s.raw.yields call⟩

variable {b : Buffer} {s next : BufferUse} {call : BufferCall} {calls : List BufferCall} {bytes data : List UInt8}
  {n m : Nat} {c : UInt8}

structure CallServed (b : Buffer) (call : BufferCall) (next : Buffer) : Prop where
  answered : b.after call = some next
  valid : next.Valid
  limit : next.limit = b.limit
  queued : b.yields call ++ next.unread = b.unread ++ b.gains call

theorem writePtr_valid (valid : b.Valid) : bufferWritePtr b = some (b.write,b.limit - b.write) := if_pos valid.bounded

theorem readPtr_valid (valid : b.Valid) : bufferReadPtr b = some (b.read,b.unread.length) := by
  rw [unread_length valid]
  exact if_pos valid.ordered

theorem stored_valid (valid : b.Valid) (fits : bytes.length ≤ b.limit - b.write) : ∃ next,
    bufferWriteAdv (b.store bytes) bytes.length = some next ∧ next.Valid ∧ next.limit = b.limit ∧
      next.unread = b.unread ++ bytes := by
  have stored := store_valid valid fits
  exact ⟨_,@writeAdv_fits (b.store bytes) _ fits stored,advance_valid stored fits,rfl,store_unread valid⟩

theorem taken_valid (valid : b.Valid) (fits : m ≤ b.write - b.read) : ∃ next,
    bufferReadAdv b m = some next ∧ next.Valid ∧ next.limit = b.limit ∧
      (b.mem.drop b.read).take m ++ next.unread = b.unread := by
  refine ⟨_,readAdv_fits valid fits,readAdv_valid valid fits,?_,?_⟩
  · split
    · rfl
    · rfl
  · have front : (b.mem.drop b.read).take m = b.unread.take m := by
      rw [Buffer.unread,List.drop_take,List.take_take,Nat.min_eq_left fits]
    rw [readAdv_unread valid,front,List.take_append_drop]

theorem compact_valid (valid : b.Valid) : (bufferCompact b).Valid ∧ (bufferCompact b).limit = b.limit ∧
    (bufferCompact b).unread = b.unread ∧ (bufferCompact b).write = b.unread.length := by
  have size := unread_length valid
  have sized := valid.sized
  have ordered := valid.ordered
  have bounded := valid.bounded
  unfold bufferCompact
  by_cases first : b.read = 0
  · rw [if_pos first]
    exact ⟨valid,rfl,rfl,by omega⟩
  · have some_ : b.read ≠ b.write := fun same => first (valid.drained same)
    rw [if_neg first,if_neg some_]
    refine ⟨⟨?_,Nat.zero_le _,?_,?_⟩,rfl,?_,size.symm⟩
    · simp only [List.length_append,List.length_drop,size]
      omega
    · dsimp only
      omega
    · intro _
      rfl
    · rw [← size]
      simp only [Buffer.unread,List.drop_zero]
      exact List.take_left

theorem write_served (valid : b.Valid) (c : UInt8) : ∃ next, CallServed b (.write c) next := by
  by_cases room : bufferCanWrite b = true
  · have fits : [c].length ≤ b.limit - b.write := of_decide_eq_true room
    obtain ⟨next,made,kept,limit,unread⟩ := stored_valid valid fits
    refine ⟨next,?_,kept,limit,?_⟩
    · rw [Buffer.after,bufferWrite,if_pos room]
      exact made
    · rw [Buffer.gains,if_pos room]
      exact unread
  · refine ⟨b,?_,valid,rfl,?_⟩
    · rw [Buffer.after,bufferWrite,if_neg room]
    · rw [Buffer.gains,if_neg room,List.append_nil]
      rfl

theorem read_served (valid : b.Valid) : ∃ next, CallServed b .read next := by
  by_cases some_ : bufferCanRead b = true
  · have fits : 1 ≤ b.write - b.read := of_decide_eq_true some_
    obtain ⟨next,made,kept,limit,unread⟩ := taken_valid valid fits
    have read : bufferRead b = some (b.mem.getD b.read 0,next) := by
      rw [bufferRead,if_pos some_]
      exact congrArg (Option.map _) made
    refine ⟨next,?_,kept,limit,?_⟩
    · rw [Buffer.after,read]
      rfl
    · have sized := valid.sized
      have bounded := valid.bounded
      have inside : b.read < b.mem.length := by omega
      have front : (b.mem.drop b.read).take 1 = [b.mem.getD b.read 0] := by
        rw [List.drop_eq_getElem_cons inside,List.getD_eq_getElem?_getD,List.getElem?_eq_getElem inside]
        rfl
      rw [Buffer.yields,if_pos some_,read]
      rw [front] at unread
      exact unread.trans (List.append_nil _).symm
  · refine ⟨b,?_,valid,rfl,?_⟩
    · rw [Buffer.after,bufferRead,if_neg some_]
      rfl
    · rw [Buffer.yields,if_neg some_]
      exact (List.append_nil _).symm

theorem put_served (valid : b.Valid) {k : Int} (allowed : b.Allows (.put bytes k)) :
    ∃ next, CallServed b (.put bytes k) next := by
  obtain ⟨fits,size⟩ := allowed _ _ (writePtr_valid valid)
  by_cases stores : k > -1
  · have count : k = bytes.length := by omega
    obtain ⟨next,made,kept,limit,unread⟩ := @stored_valid b bytes valid (by omega)
    refine ⟨next,?_,kept,limit,unread⟩
    rw [Buffer.after,writePtr_valid valid,count]
    exact made
  · have none_ : bytes = [] := List.eq_nil_of_length_eq_zero (by omega)
    subst none_
    refine ⟨b,?_,valid,rfl,(List.append_nil _).symm⟩
    have same : b.store [] = b := by
      rw [Buffer.store,List.append_nil,List.length_nil,Nat.add_zero,List.take_append_drop]
    rw [Buffer.after,writePtr_valid valid,same]
    exact if_neg stores

theorem take_served (valid : b.Valid) {k : Int} (allowed : b.Allows (.take k)) : ∃ next, CallServed b (.take k) next := by
  have fits := allowed _ _ (readPtr_valid valid)
  rw [unread_length valid] at fits
  by_cases takes : k > -1
  · have count : k = k.toNat := by omega
    obtain ⟨next,made,kept,limit,unread⟩ := @taken_valid b k.toNat valid (by omega)
    refine ⟨next,?_,kept,limit,unread.trans (List.append_nil _).symm⟩
    rw [Buffer.after,readPtr_valid valid,count]
    exact made
  · have none_ : k.toNat = 0 := by omega
    refine ⟨b,?_,valid,rfl,?_⟩
    · rw [Buffer.after,readPtr_valid valid]
      exact if_neg takes
    · rw [Buffer.yields,none_]
      exact (List.append_nil _).symm

theorem call_served (valid : b.Valid) (allowed : b.Allows call) : ∃ next, CallServed b call next := by
  cases call with
  | write c => exact write_served valid c
  | read => exact read_served valid
  | put bytes k => exact put_served valid allowed
  | take k => exact take_served valid allowed
  | compact =>
      obtain ⟨kept,limit,unread,_⟩ := compact_valid valid
      exact ⟨bufferCompact b,rfl,kept,limit,unread.trans (List.append_nil _).symm⟩

-- The buffer as a queue: the pipe that the same bytes went through.
structure BufferUse.Shows (n : Nat) (s : BufferUse) (pipe : Pipe UInt8) : Prop where
  valid : s.raw.Valid
  capacity : s.raw.limit = n
  accepted : pipe.accepted = s.given
  delivered : pipe.delivered = s.taken
  queued : pipe.queued = s.raw.unread

abbrev PipeRuns := Runs fun (pipe : Pipe UInt8) move next => pipe.after move = next

theorem init_shows (sized : data.length = n) : (⟨bufferInit n data,[],[]⟩ : BufferUse).Shows n .empty :=
  ⟨init_valid sized,rfl,rfl,rfl,by simp [bufferInit,bufferReset,Buffer.unread,Pipe.empty]⟩

theorem call_shows {pipe : Pipe UInt8} (shows_ : s.Shows n pipe) (ran : BufferCalls s call next) :
    next.Shows n ((pipe.accept (s.raw.gains call)).deliver (s.raw.yields call).length) := by
  obtain ⟨allowed,raw,answered,rfl⟩ := ran
  obtain ⟨made,served⟩ := call_served shows_.valid allowed
  obtain rfl : made = raw := Option.some.inj (served.answered.symm.trans answered)
  have queue : pipe.queued ++ s.raw.gains call = s.raw.yields call ++ made.unread := by
    rw [shows_.queued]
    exact served.queued.symm
  refine ⟨served.valid,served.limit.trans shows_.capacity,?_,?_,?_⟩
  · exact congrArg (· ++ s.raw.gains call) shows_.accepted
  · change pipe.delivered ++ (pipe.queued ++ s.raw.gains call).take _ = _
    rw [queue,List.take_left,shows_.delivered]
  · change (pipe.queued ++ s.raw.gains call).drop _ = _
    rw [queue,List.drop_left]

theorem runs_shows (sized : data.length = n) (path : Runs BufferCalls ⟨bufferInit n data,[],[]⟩ calls s) :
    ∃ moves pipe, PipeRuns .empty moves pipe ∧ s.Shows n pipe := by
  refine path.simulate (init_shows sized) ?_
  intro before call next pipe shows_ ran
  exact ⟨[.accept (before.raw.gains call),.deliver (before.raw.yields call).length],_,.cons rfl (.cons rfl .nil),
    call_shows shows_ ran⟩

structure BufferUse.Queues (n : Nat) (s : BufferUse) : Prop where
  ordered : s.raw.read ≤ s.raw.write
  bounded : s.raw.write ≤ s.raw.limit
  capacity : s.raw.limit = n
  fifo : s.taken ++ s.raw.unread = s.given
  answers : ∀ call, s.raw.Allows call → ∃ next, s.raw.after call = some next
  writable : bufferWritePtr s.raw = some (s.raw.write,n - s.raw.write)
  readable : bufferReadPtr s.raw = some (s.raw.read,s.raw.unread.length)
  full : s.raw.write = n → ∀ c, s.raw.after (.write c) = some s.raw ∧ s.raw.gains (.write c) = []
  empty : s.raw.unread = [] → s.raw.after .read = some s.raw ∧ s.raw.yields .read = []
  drained : s.raw.unread = [] → bufferWritePtr s.raw = some (0,n)
  compacted : bufferWritePtr (bufferCompact s.raw) = some (s.raw.unread.length,n - s.raw.unread.length)

theorem shows_queues {pipe : Pipe UInt8} (shows_ : s.Shows n pipe) : s.Queues n := by
  have valid := shows_.valid
  have ordered := valid.ordered
  have bounded := valid.bounded
  have capacity := shows_.capacity
  have size := unread_length valid
  refine ⟨ordered,bounded,capacity,?_,?_,?_,readPtr_valid valid,?_,?_,?_,?_⟩
  · rw [← shows_.delivered,← shows_.queued,← shows_.accepted]
    exact pipe.balanced
  · intro call allowed
    obtain ⟨next,served⟩ := call_served valid allowed
    exact ⟨next,served.answered⟩
  · rw [← capacity]
    exact writePtr_valid valid
  · intro full c
    have none_ : ¬bufferCanWrite s.raw = true := by
      rw [bufferCanWrite,decide_eq_true_eq]
      omega
    rw [Buffer.after,bufferWrite,if_neg none_,Buffer.gains,if_neg none_]
    exact ⟨rfl,rfl⟩
  · intro empty
    have none_ : ¬bufferCanRead s.raw = true := fun some_ => (canRead_exact valid).mp some_ empty
    rw [Buffer.after,bufferRead,if_neg none_,Buffer.yields,if_neg none_]
    exact ⟨rfl,rfl⟩
  · intro empty
    rw [empty] at size
    have first := valid.drained (by rw [List.length_nil] at size; omega)
    have start : s.raw.write = 0 := by
      rw [List.length_nil] at size
      omega
    rw [writePtr_valid valid,start,capacity,Nat.sub_zero]
  · obtain ⟨kept,limit,_,start⟩ := compact_valid valid
    rw [writePtr_valid kept,start,limit,capacity]

theorem buffer_fifo (sized : data.length = n) (path : Runs BufferCalls ⟨bufferInit n data,[],[]⟩ calls s) :
    s.Queues n := by
  obtain ⟨_,pipe,_,shows_⟩ := runs_shows sized path
  exact shows_queues shows_

-- A full buffer whose first byte is read, so that it has to be compacted for one more.
theorem three_queued : ∃ s, Runs BufferCalls ⟨bufferInit 3 [0,0,0],[],[]⟩ [.put [1,2,3] 3,.read,.compact,.write 4] s ∧
    s.taken = [1] ∧ s.raw.unread = [2,3,4] ∧ s.Queues 3 := by
  have stored : BufferCalls ⟨bufferInit 3 [0,0,0],[],[]⟩ (.put [1,2,3] 3) ⟨⟨[1,2,3],3,0,3⟩,[1,2,3],[]⟩ := by
    refine ⟨?_,_,rfl,rfl⟩
    intro ptr space told
    cases told
    decide
  have read : BufferCalls ⟨⟨[1,2,3],3,0,3⟩,[1,2,3],[]⟩ .read ⟨⟨[1,2,3],3,1,3⟩,[1,2,3],[1]⟩ :=
    ⟨trivial,_,rfl,rfl⟩
  have compacted : BufferCalls ⟨⟨[1,2,3],3,1,3⟩,[1,2,3],[1]⟩ .compact ⟨⟨[2,3,3],3,0,2⟩,[1,2,3],[1]⟩ :=
    ⟨trivial,_,rfl,rfl⟩
  have written : BufferCalls ⟨⟨[2,3,3],3,0,2⟩,[1,2,3],[1]⟩ (.write 4) ⟨⟨[2,3,4],3,0,3⟩,[1,2,3,4],[1]⟩ :=
    ⟨trivial,_,rfl,rfl⟩
  have path := Runs.snoc (Runs.snoc (Runs.snoc (Runs.snoc Runs.nil stored) read) compacted) written
  exact ⟨_,path,rfl,rfl,buffer_fifo rfl path⟩

end Socks5d
