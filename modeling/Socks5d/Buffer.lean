import Mathlib.Tactic.Common

namespace Socks5d

-- Pointers are offsets from `data`; `mem` is the block they point into.
structure Buffer where
  mem : List UInt8
  limit : Nat
  read : Nat
  write : Nat
  deriving DecidableEq, Repr

def bufferReset (b : Buffer) : Buffer := {b with read:=0,write:=0}

def bufferInit (n : Nat) (data : List UInt8) : Buffer := bufferReset ⟨data,n,0,0⟩

def bufferCanWrite (b : Buffer) : Bool := decide (0 < b.limit - b.write)
def bufferCanRead (b : Buffer) : Bool := decide (0 < b.write - b.read)

-- The functions that assert return `none` where the assertion fails.
def bufferWritePtr (b : Buffer) : Option (Nat × Nat) :=
  if b.write ≤ b.limit then some (b.write,b.limit - b.write) else none

def bufferReadPtr (b : Buffer) : Option (Nat × Nat) :=
  if b.read ≤ b.write then some (b.read,b.write - b.read) else none

def bufferWriteAdv (b : Buffer) (bytes : Int) : Option Buffer :=
  if bytes > -1 then
    let next := {b with write:=b.write + bytes.toNat}
    if next.write ≤ next.limit then some next else none
  else some b

def Buffer.unread (b : Buffer) : List UInt8 := (b.mem.take b.write).drop b.read

def bufferCompact (b : Buffer) : Buffer :=
  if b.read = 0 then b
  else if b.read = b.write then {b with read:=0,write:=0}
  else
    let n := b.write - b.read
    {b with mem:=b.unread ++ b.mem.drop n,read:=0,write:=n}

def bufferReadAdv (b : Buffer) (bytes : Int) : Option Buffer :=
  if bytes > -1 then
    let next := {b with read:=b.read + bytes.toNat}
    if next.read ≤ next.write then
      some (if next.read = next.write then bufferCompact next else next)
    else none
  else some b

def bufferRead (b : Buffer) : Option (UInt8 × Buffer) :=
  if bufferCanRead b then (bufferReadAdv b 1).map fun next => (b.mem.getD b.read 0,next)
  else some (0,b)

def Buffer.store (b : Buffer) (bytes : List UInt8) : Buffer :=
  {b with mem:=b.mem.take b.write ++ bytes ++ b.mem.drop (b.write + bytes.length)}

def bufferWrite (b : Buffer) (c : UInt8) : Option Buffer :=
  if bufferCanWrite b then bufferWriteAdv (b.store [c]) 1 else some b

-- `drained` is the automatic compaction of buffer_read_adv seen as an invariant:
-- a buffer with nothing to read has its whole capacity free again.
structure Buffer.Valid (b : Buffer) : Prop where
  sized : b.mem.length = b.limit
  ordered : b.read ≤ b.write
  bounded : b.write ≤ b.limit
  drained : b.read = b.write → b.read = 0

variable {b : Buffer} {bytes : List UInt8} {n : Nat}

theorem init_valid {data : List UInt8} (sized : data.length = n) : (bufferInit n data).Valid :=
  ⟨sized,Nat.le_refl _,Nat.zero_le _,fun _ => rfl⟩

theorem reset_valid (valid : b.Valid) : (bufferReset b).Valid :=
  ⟨valid.sized,Nat.le_refl _,Nat.zero_le _,fun _ => rfl⟩

theorem unread_length (valid : b.Valid) : b.unread.length = b.write - b.read := by
  have sized := valid.sized
  have bounded := valid.bounded
  rw [Buffer.unread,List.length_drop,List.length_take,Nat.min_eq_left (by omega)]

theorem canRead_exact (valid : b.Valid) : bufferCanRead b = true ↔ b.unread ≠ [] := by
  rw [← List.length_pos_iff,unread_length valid,bufferCanRead,decide_eq_true_iff]

theorem writeAdv_fits (fits : n ≤ b.limit - b.write) (valid : b.Valid) :
    bufferWriteAdv b n = some {b with write:=b.write + n} := by
  have bounded := valid.bounded
  have positive : (n : Int) > -1 := by omega
  have inside : b.write + n ≤ b.limit := by omega
  simp [bufferWriteAdv,positive,inside]

theorem store_valid (valid : b.Valid) (fits : bytes.length ≤ b.limit - b.write) :
    (b.store bytes).Valid := by
  have sized := valid.sized
  have bounded := valid.bounded
  refine ⟨?_,valid.ordered,bounded,valid.drained⟩
  simp only [Buffer.store,List.length_append,List.length_take,List.length_drop]
  omega

theorem advance_valid (valid : b.Valid) (fits : n ≤ b.limit - b.write) :
    ({b with write:=b.write + n} : Buffer).Valid := by
  have ordered := valid.ordered
  have bounded := valid.bounded
  have drained := valid.drained
  exact ⟨valid.sized,by dsimp only; omega,by dsimp only; omega,by dsimp only; omega⟩

theorem store_unread (valid : b.Valid) :
    ({b.store bytes with write:=b.write + bytes.length} : Buffer).unread = b.unread ++ bytes := by
  have sized := valid.sized
  have ordered := valid.ordered
  have bounded := valid.bounded
  have head : (b.mem.take b.write).length = b.write := by rw [List.length_take]; omega
  have whole : (b.mem.take b.write ++ bytes).length = b.write + bytes.length := by
    rw [List.length_append,head]
  simp only [Buffer.unread,Buffer.store]
  rw [← whole,List.take_left,List.drop_append_of_le_length (by omega)]

theorem readAdv_fits (valid : b.Valid) (fits : n ≤ b.write - b.read) :
    bufferReadAdv b n = some (if b.read + n = b.write then {b with read:=0,write:=0}
      else {b with read:=b.read + n}) := by
  have ordered := valid.ordered
  have drained := valid.drained
  have positive : (n : Int) > -1 := by omega
  have inside : b.read + n ≤ b.write := by omega
  simp only [bufferReadAdv,positive,if_true,Int.toNat_natCast,inside,Option.some.injEq]
  by_cases empty : b.read + n = b.write
  · rw [if_pos empty,if_pos empty]
    unfold bufferCompact
    by_cases base : b.read + n = 0
    · rw [if_pos base]
      have writeZero : b.write = 0 := by omega
      simp only [base,writeZero]
    · rw [if_neg base,if_pos empty]
  · rw [if_neg empty,if_neg empty]

theorem readAdv_valid (valid : b.Valid) (fits : n ≤ b.write - b.read) :
    (if b.read + n = b.write then ({b with read:=0,write:=0} : Buffer)
      else {b with read:=b.read + n}).Valid := by
  have ordered := valid.ordered
  split
  · exact reset_valid valid
  · exact ⟨valid.sized,by dsimp only; omega,valid.bounded,by dsimp only; omega⟩

theorem readAdv_unread (valid : b.Valid) :
    (if b.read + n = b.write then ({b with read:=0,write:=0} : Buffer)
      else {b with read:=b.read + n}).unread = b.unread.drop n := by
  split
  · rename_i empty
    have short : b.unread.length ≤ n := by rw [unread_length valid]; omega
    rw [List.drop_eq_nil_of_le short]
    simp [Buffer.unread]
  · simp [Buffer.unread,List.drop_drop]

-- Every buffer of a live connection is one that the functions above have kept
-- valid. The two operations below are the only ways the handlers use it.
structure CertifiedBuffer where
  raw : Buffer
  valid : raw.Valid
  deriving DecidableEq

namespace CertifiedBuffer

def init (n : Nat) : CertifiedBuffer :=
  ⟨bufferInit n (List.replicate n 0),init_valid List.length_replicate⟩

def reset (q : CertifiedBuffer) : CertifiedBuffer := ⟨bufferReset q.raw,reset_valid q.valid⟩

def unread (q : CertifiedBuffer) : List UInt8 := q.raw.unread
def available (q : CertifiedBuffer) : Nat := q.raw.write - q.raw.read
def space (q : CertifiedBuffer) : Nat := q.raw.limit - q.raw.write
def capacity (q : CertifiedBuffer) : Nat := q.raw.limit

theorem clip_fits (q : CertifiedBuffer) (bytes : List UInt8) :
    (bytes.take q.space).length ≤ q.raw.limit - q.raw.write := by
  rw [List.length_take]; exact Nat.min_le_left _ _

theorem fill_succeeds (q : CertifiedBuffer) (bytes : List UInt8) :
    bufferWriteAdv (q.raw.store (bytes.take q.space)) (bytes.take q.space).length =
      some {q.raw.store (bytes.take q.space) with
        write:=q.raw.write + (bytes.take q.space).length} :=
  @writeAdv_fits (q.raw.store (bytes.take q.space)) _ (q.clip_fits bytes)
    (store_valid q.valid (q.clip_fits bytes))

theorem consume_succeeds (q : CertifiedBuffer) (n : Nat) :
    bufferReadAdv q.raw (min n q.available : Nat) =
      some (if q.raw.read + min n q.available = q.raw.write then {q.raw with read:=0,write:=0}
        else {q.raw with read:=q.raw.read + min n q.available}) :=
  readAdv_fits q.valid (Nat.min_le_right n q.available)

-- Bytes stored through buffer_write_ptr and then confirmed with buffer_write_adv.
-- No caller stores more than the space it was told of.
def fill (q : CertifiedBuffer) (bytes : List UInt8) : CertifiedBuffer :=
  ⟨(bufferWriteAdv (q.raw.store (bytes.take q.space)) (bytes.take q.space).length).get
      (by rw [fill_succeeds]; rfl),by
    simp only [fill_succeeds,Option.get_some]
    exact advance_valid (store_valid q.valid (q.clip_fits bytes)) (q.clip_fits bytes)⟩

def consume (q : CertifiedBuffer) (n : Nat) : CertifiedBuffer :=
  ⟨(bufferReadAdv q.raw (min n q.available : Nat)).get (by rw [consume_succeeds]; rfl),by
    simp only [consume_succeeds,Option.get_some]
    exact readAdv_valid q.valid (Nat.min_le_right n q.available)⟩

theorem fill_raw (q : CertifiedBuffer) (bytes : List UInt8) :
    (q.fill bytes).raw = {q.raw.store (bytes.take q.space) with
      write:=q.raw.write + (bytes.take q.space).length} := by
  simp only [fill,fill_succeeds,Option.get_some]

theorem consume_raw (q : CertifiedBuffer) (n : Nat) :
    (q.consume n).raw = if q.raw.read + min n q.available = q.raw.write then
      {q.raw with read:=0,write:=0} else {q.raw with read:=q.raw.read + min n q.available} := by
  simp only [consume,consume_succeeds,Option.get_some]

theorem available_unread (q : CertifiedBuffer) : q.available = q.unread.length :=
  (unread_length q.valid).symm

@[simp] theorem init_unread (n : Nat) : (init n).unread = [] := by
  simp [init,unread,bufferInit,bufferReset,Buffer.unread]

@[simp] theorem init_capacity (n : Nat) : (init n).capacity = n := rfl

@[simp] theorem fill_unread (q : CertifiedBuffer) (bytes : List UInt8) :
    (q.fill bytes).unread = q.unread ++ bytes.take q.space := by
  rw [unread,fill_raw]; exact store_unread q.valid

@[simp] theorem consume_unread (q : CertifiedBuffer) (n : Nat) :
    (q.consume n).unread = q.unread.drop n := by
  rw [unread,consume_raw]
  refine (readAdv_unread q.valid).trans ?_
  change q.unread.drop (min n q.available) = q.unread.drop n
  rw [available_unread]
  rcases Nat.le_total n q.unread.length with short | long
  · rw [Nat.min_eq_left short]
  · rw [Nat.min_eq_right long,List.drop_of_length_le (Nat.le_refl _),List.drop_of_length_le long]

@[simp] theorem fill_capacity (q : CertifiedBuffer) (bytes : List UInt8) :
    (q.fill bytes).capacity = q.capacity := by
  rw [capacity,fill_raw]; rfl

@[simp] theorem consume_capacity (q : CertifiedBuffer) (n : Nat) :
    (q.consume n).capacity = q.capacity := by
  rw [capacity,consume_raw]; split <;> rfl

-- The invariant behind the relay's flow control: no space means something to read.
theorem full_unread (q : CertifiedBuffer) (full : q.space = 0) (room : 0 < q.capacity) :
    q.unread ≠ [] := by
  intro empty
  have ordered := q.valid.ordered
  have drained := q.valid.drained
  have none : q.available = 0 := by rw [available_unread,empty]; rfl
  unfold space at full; unfold capacity at room; unfold available at none
  omega

theorem empty_space (q : CertifiedBuffer) (empty : q.unread = []) : q.space = q.capacity := by
  have ordered := q.valid.ordered
  have drained := q.valid.drained
  have none : q.available = 0 := by rw [available_unread,empty]; rfl
  unfold space capacity; unfold available at none
  omega

theorem canRead_unread (q : CertifiedBuffer) : bufferCanRead q.raw = true ↔ q.unread ≠ [] :=
  canRead_exact q.valid

theorem canRead_false (q : CertifiedBuffer) : bufferCanRead q.raw = false ↔ q.unread = [] := by
  rw [← Bool.not_eq_true,canRead_unread,not_not]

theorem canWrite_space (q : CertifiedBuffer) : bufferCanWrite q.raw = true ↔ 0 < q.space := by
  simp [bufferCanWrite,space]

end CertifiedBuffer
end Socks5d
