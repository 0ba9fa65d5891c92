import Socks5d.SessionInput
import Socks5d.RelayFifo

namespace Socks5d
open Scan

def segmentsFrom (fd : Int) (trace : List Effect) : List (List UInt8) :=
  trace.filterMap fun
    | .recv source got => if source = fd ∧ got.bytes ≠ [] then some got.bytes else none
    | _ => none

-- The segments so far and what of them is still in read_buff.
abbrev Intake := List (List UInt8) → List UInt8 → Prop

-- A read handler at work. Every event starts its parser anew, so a beginning that a segment
-- does not complete is given up with all that was unread.
inductive Gathering (start : Intake) (format : Framing UInt8) : Intake where
  | start (before : start segments unread) : Gathering start format segments unread
  | again (earlier : Gathering start format segments unread) (open_ : format.decides (unread ++ arrived) = false) :
      Gathering start format (segments ++ [arrived]) []

inductive Gathered (start : Intake) (format : Framing UInt8) : Intake where
  | whole (earlier : Gathering start format segments unread) (split : unread ++ arrived = message ++ behind)
      (exact : format.length message = some message.length) : Gathered start format (segments ++ [arrived]) behind

def Unheard : Intake := fun segments unread => segments = [] ∧ unread = []
def HelloHeard : Intake := Gathered Unheard helloFormat
def LoginHeard : Intake := Gathered HelloHeard authFormat

-- What was taken by the time that the client was told `prior`: a login only with the method
-- that asks for one.
inductive EntryHeard : List UInt8 → Intake where
  | anonymous (hello : HelloHeard segments unread) : EntryHeard [socksVersion,noAuth] segments unread
  | login (status : UInt8) (login : LoginHeard segments unread) :
      EntryHeard [socksVersion,userPass,authVersion,status] segments unread

def RequestHeard (prior : List UInt8) : Intake := Gathered (EntryHeard prior) requestFormat

variable {fd : Int} {trace more : List Effect} {π : Type} {r : Reader π} {format : Framing UInt8}
  {reading : List UInt8 → π → Prop} {start : Intake} {segments : List (List UInt8)} {unread bytes rest : List UInt8}
  {needsAuth : Bool} {parser : π}

theorem segmentsFrom_append (later : List Effect) :
    segmentsFrom fd (trace ++ later) = segmentsFrom fd trace ++ segmentsFrom fd later := List.filterMap_append

theorem segmentsFrom_data (some_ : bytes ≠ []) : segmentsFrom fd [.recv fd (.data bytes)] = [bytes] := by
  simp [segmentsFrom,Recv.bytes,some_]

theorem segmentsFrom_none (nothing : receivedFrom fd trace = []) : segmentsFrom fd trace = [] := by
  refine List.filterMap_eq_nil_iff.mpr ?_
  intro effect member
  have none_ := List.flatMap_eq_nil_iff.mp nothing effect member
  cases effect with
  | recv source got =>
      dsimp only at none_ ⊢
      split
      · rename_i held
        rw [if_pos held.1] at none_
        exact absurd none_ held.2
      · rfl
  | _ => rfl

theorem clip_some {got : Recv} {room : Nat} (clipped : got.clip room = .data bytes) : bytes ≠ [] := by
  cases got with
  | data segment =>
      rw [Recv.clip] at clipped
      split at clipped
      · cases clipped
      · rename_i some_
        cases clipped
        exact some_
  | closed => cases clipped
  | failed code => cases clipped

theorem read_gathers (parses : r.Parses format reading) (gathering : Gathering start format segments unread)
    (scanned : scan (r.advance needsAuth) r.halted (r.init (r.get parsers)) (unread ++ bytes) = (parser,rest)) :
    (r.finished parser = true → Gathered start format (segments ++ [bytes]) rest) ∧
    (r.failed parser = false → r.finished parser = false → Gathering start format (segments ++ [bytes]) rest) := by
  obtain ⟨awake,fresh⟩ := parses.fresh (r.get parsers)
  obtain ⟨whole,waits⟩ := @scan_taken _ _ _ r.halted format _ _ _ _ (unread ++ bytes)
    (parses.reads needsAuth) (fun _ => rfl) awake fresh
  rw [scanned] at whole waits
  refine ⟨fun finished => ?_,fun sound unfinished => ?_⟩
  · obtain ⟨message,split,exact_⟩ := whole finished
    exact .whole gathering split exact_
  · obtain ⟨empty,open_⟩ := waits (by rw [Reader.halted,sound,unfinished]; rfl)
    rw [show rest = [] from empty]
    exact .again gathering open_

end Socks5d
