import Socks5d.Buffer
import Socks5d.Foundations.Scan

namespace Socks5d
open Scan

def CertifiedBuffer.readByte (q : CertifiedBuffer) : UInt8 × CertifiedBuffer :=
  if bufferCanRead q.raw then (q.raw.mem.getD q.raw.read 0,q.consume 1) else (0,q)

theorem readByte_exact (q : CertifiedBuffer) :
    bufferRead q.raw = some (q.readByte.1,q.readByte.2.raw) := by
  unfold bufferRead CertifiedBuffer.readByte
  split
  · rename_i readable
    have one : min 1 q.available = 1 := by
      have positive := List.length_pos_iff.mpr (q.canRead_unread.mp readable)
      rw [← q.available_unread] at positive
      omega
    have ran := q.consume_succeeds 1
    rw [one] at ran
    have closed : bufferReadAdv q.raw 1 = some (q.consume 1).raw := by
      rw [q.consume_raw,one]; exact ran
    rw [closed]; rfl
  · rfl

theorem readByte_cons {q : CertifiedBuffer} (front : q.unread = byte::rest) :
    q.readByte = (byte,q.consume 1) := by
  have readable : bufferCanRead q.raw = true := q.canRead_unread.mpr (by rw [front]; simp)
  have head : q.raw.mem.getD q.raw.read 0 = byte := by
    have at0 : q.unread[0]? = some byte := by rw [front]; rfl
    have some0 : q.raw.mem[q.raw.read]? = some byte := by
      unfold CertifiedBuffer.unread Buffer.unread at at0
      rw [List.getElem?_drop,List.getElem?_take] at at0
      split at at0
      · simpa using at0
      · cases at0
    rw [List.getD_eq_getElem?_getD,some0]; rfl
  rw [CertifiedBuffer.readByte,if_pos readable,head]

-- The loop `while(buffer_can_read(buff))` of every parser: one byte is taken and
-- parsed, and the loop is left when the parser halts. It turns at most once for
-- each unread byte, which is the fuel.
def parseWhile (advance : σ → UInt8 → σ) (halted : σ → Bool) : Nat → σ → CertifiedBuffer → σ × CertifiedBuffer
  | 0,parser,buff => (parser,buff)
  | fuel+1,parser,buff =>
    if bufferCanRead buff.raw then
      let (byte,rest) := buff.readByte
      if halted (advance parser byte) then (advance parser byte,rest)
      else parseWhile advance halted fuel (advance parser byte) rest
    else (parser,buff)

def parseFull (advance : σ → UInt8 → σ) (halted : σ → Bool) (parser : σ) (buff : CertifiedBuffer) :
    σ × CertifiedBuffer :=
  parseWhile advance halted buff.unread.length parser buff

def parseCalls (full : σ → CertifiedBuffer → σ × CertifiedBuffer) :
    σ → List CertifiedBuffer → σ × List CertifiedBuffer
  | parser,[] => (parser,[])
  | parser,buff::later =>
    let called := full parser buff
    let last := parseCalls full called.1 later
    (last.1,called.2::last.2)

def unreadBytes (buffs : List CertifiedBuffer) : List UInt8 := buffs.flatMap CertifiedBuffer.unread

variable {σ : Type} {advance : σ → UInt8 → σ} {halted : σ → Bool}

theorem parseWhile_scan (parser : σ) (buff : CertifiedBuffer) (bytes : List UInt8)
    (same : buff.unread = bytes) :
    (parseWhile advance halted bytes.length parser buff).1 = (scan advance halted parser bytes).1 ∧
    (parseWhile advance halted bytes.length parser buff).2.unread = (scan advance halted parser bytes).2 ∧
    (parseWhile advance halted bytes.length parser buff).2.capacity = buff.capacity := by
  induction bytes generalizing parser buff with
  | nil => exact ⟨rfl,same,rfl⟩
  | cons byte rest ih =>
      have readable : bufferCanRead buff.raw = true := buff.canRead_unread.mpr (by rw [same]; simp)
      have tail : (buff.consume 1).unread = rest := by rw [CertifiedBuffer.consume_unread,same]; rfl
      rw [List.length_cons,parseWhile,if_pos readable,readByte_cons same]
      unfold scan
      dsimp only
      split
      · exact ⟨rfl,tail,buff.consume_capacity 1⟩
      · obtain ⟨state,left,room⟩ := ih (advance parser byte) (buff.consume 1) tail
        exact ⟨state,left,room.trans (buff.consume_capacity 1)⟩

theorem consume_mem (q : CertifiedBuffer) (n : Nat) : (q.consume n).raw.mem = q.raw.mem := by
  rw [q.consume_raw]; split <;> rfl

theorem parseWhile_mem (fuel : Nat) (parser : σ) (buff : CertifiedBuffer) :
    (parseWhile advance halted fuel parser buff).2.raw.mem = buff.raw.mem := by
  induction fuel generalizing parser buff with
  | zero => rfl
  | succ fuel ih =>
      have byteMem : buff.readByte.2.raw.mem = buff.raw.mem := by
        unfold CertifiedBuffer.readByte
        split
        · exact consume_mem buff 1
        · rfl
      unfold parseWhile
      split
      · dsimp only
        split
        · exact byteMem
        · exact (ih _ _).trans byteMem
      · rfl

theorem parseFull_mem (parser : σ) (buff : CertifiedBuffer) :
    (parseFull advance halted parser buff).2.raw.mem = buff.raw.mem :=
  parseWhile_mem _ _ _

@[simp] theorem parseFull_state (parser : σ) (buff : CertifiedBuffer) :
    (parseFull advance halted parser buff).1 = (scan advance halted parser buff.unread).1 :=
  (parseWhile_scan parser buff buff.unread rfl).1

@[simp] theorem parseFull_unread (parser : σ) (buff : CertifiedBuffer) :
    (parseFull advance halted parser buff).2.unread = (scan advance halted parser buff.unread).2 :=
  (parseWhile_scan parser buff buff.unread rfl).2.1

@[simp] theorem parseFull_capacity (parser : σ) (buff : CertifiedBuffer) :
    (parseFull advance halted parser buff).2.capacity = buff.capacity :=
  (parseWhile_scan parser buff buff.unread rfl).2.2

theorem parseCalls_scans (parser : σ) (buffs : List CertifiedBuffer) :
    (parseCalls (parseFull advance halted) parser buffs).1 =
      (scans advance halted parser (buffs.map CertifiedBuffer.unread)).1 ∧
    (parseCalls (parseFull advance halted) parser buffs).2.map CertifiedBuffer.unread =
      (scans advance halted parser (buffs.map CertifiedBuffer.unread)).2 := by
  induction buffs generalizing parser with
  | nil => exact ⟨rfl,rfl⟩
  | cons buff later ih =>
      obtain ⟨last,rests⟩ := ih (parseFull advance halted parser buff).1
      rw [parseFull_state] at last rests
      simp only [parseCalls,List.map_cons,scans,parseFull_state,parseFull_unread]
      exact ⟨last,congrArg _ rests⟩

theorem unreadBytes_flatten (buffs : List CertifiedBuffer) :
    unreadBytes buffs = (buffs.map CertifiedBuffer.unread).flatten := List.flatMap_def

theorem calls_end {format : Framing UInt8} {failed finished : σ → Bool} {reading : List UInt8 → σ → Prop} {parser : σ}
    {message front extra : List UInt8} (reads : Reads format advance failed finished reading)
    (stops : ∀ state, halted state = (failed state || finished state)) (awake : halted parser = false)
    (start : reading [] parser) (known : format.length message = some message.length)
    (earlier : List CertifiedBuffer) (last : CertifiedBuffer) (cut : message = unreadBytes earlier ++ front)
    (more : front ≠ []) (unread : last.unread = front ++ extra) :
    let begun := parseCalls (parseFull advance halted) parser earlier
    let ended := parseFull advance halted begun.1 last
    halted begun.1 = false ∧ unreadBytes begun.2 = [] ∧
    ended.1 = message.foldl advance parser ∧ ended.2.unread = extra := by
  obtain ⟨state,rests⟩ := @parseCalls_scans _ advance halted parser earlier
  rw [cut,unreadBytes_flatten] at known
  have open_ := format.prefix_open known more
  obtain ⟨running,knows,folded,cleared⟩ := @scans_waiting _ _ advance halted _ _ _ _ parser []
    (earlier.map CertifiedBuffer.unread) reads stops awake start open_
  obtain ⟨_,ends⟩ := @scan_ends _ _ advance halted _ _ _ _ _ _ front extra reads stops running knows known
  dsimp only
  rw [state,parseFull_state,parseFull_unread,unread,ends,folded,unreadBytes_flatten,rests]
  refine ⟨by rw [← folded]; exact running,cleared,?_,rfl⟩
  rw [cut,List.foldl_append,unreadBytes_flatten]

end Socks5d
