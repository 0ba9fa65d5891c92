import Socks5d.SessionInput

namespace Socks5d
open Scan

structure Cut where
  first : List UInt8
  later : List (List UInt8)
  nonempty : ∀ segment ∈ first::later, segment ≠ []

def Cut.segments (cut : Cut) : List (List UInt8) := cut.first::cut.later
def Cut.message (cut : Cut) : List UInt8 := cut.first ++ cut.later.flatten

-- The read events that bring in the segments, for as long as the connection waits in
-- `state`; what it does not take stays in the kernel.
def deliver (key : SelectorKey) (env : Env) (state : SocksState) :
    List (List UInt8) → Outcome → Outcome × List (List UInt8)
  | [],out => (out,[])
  | segment::rest,out =>
    if out.next = state then
      match stmHandler .read {env with recv:=.data segment} key out.sel out.socks with
      | some served => deliver key env state rest served
      | none => (out,segment::rest)
    else (out,segment::rest)

def flush (key : SelectorKey) (state : SocksState) : List Env → Outcome → Outcome
  | [],out => out
  | env::rest,out =>
    if out.next = state then
      match stmHandler .write env key out.sel out.socks with
      | some served => flush key state rest served
      | none => out
    else out

inductive Fields where
  | method (auth : UInt8)
  | credentials (username password : List UInt8)
  | request (cmd type : UInt8) (dest port : List UInt8)
  deriving DecidableEq

def helloFields (parsers : Parsers) : Fields := .method parsers.connectParser.auth
def authFields (parsers : Parsers) : Fields := .credentials parsers.authParser.username parsers.authParser.password
def requestFields (parsers : Parsers) : Fields :=
  .request parsers.reqParser.cmd parsers.reqParser.type parsers.reqParser.dest parsers.reqParser.port

structure Passage where
  left : SocksState
  entered : SocksState
  fields : Fields
  reply : List UInt8
  deriving DecidableEq

def passage (state : SocksState) (fields : Parsers → Fields) (out : Outcome) : Option Passage :=
  if out.next = state then none
  else some ⟨state,out.next,fields out.socks.parsers,out.socks.writeBuff.unread⟩

structure World where
  key : SelectorKey
  hello : Env
  helloSends : List Env
  auth : Env
  authSends : List Env
  request : Env

def handshakeAuth (world : World) (out : Outcome) (auth request : List (List UInt8)) : List Passage :=
  let (authed,rest) := deliver world.key world.auth .authRead auth out
  (passage .authRead authFields authed).toList ++
  (let flushed := flush world.key .authWrite world.authSends authed
    if flushed.next = .reqRead then
      (passage .reqRead requestFields (deliver world.key world.request .reqRead (rest ++ request) flushed).1).toList
    else [])

def handshake (world : World) (sel : Selector) (socks : SocksConnModel)
    (hello auth request : List (List UInt8)) : List Passage :=
  let (greeted,rest) := deliver world.key world.hello .helloRead hello ⟨sel,handleFirst socks,[],.helloRead⟩
  (passage .helloRead helloFields greeted).toList ++
  (let flushed := flush world.key .helloWrite world.helloSends greeted
    if flushed.next = .authRead then handshakeAuth world flushed (rest ++ auth) request
    else if flushed.next = .reqRead then
      (passage .reqRead requestFields (deliver world.key world.request .reqRead (rest ++ request) flushed).1).toList
    else [])

variable {π : Type} {r : Reader π} {format : Framing UInt8} {reading : List UInt8 → π → Prop} {env : Env}
  {key : SelectorKey} {sel : Selector} {socks : SocksConnModel} {out : Outcome} {fields : Parsers → Fields}
  {finish : Env → SelectorKey → Selector → SocksConnModel → List Effect → Outcome} {segment : List UInt8}

structure Listening (state : SocksState) (out : Outcome) : Prop where
  next : out.next = state
  stm : out.socks.stm = some state
  clear : out.socks.readBuff.unread = []
  room : out.socks.readBuff.capacity = buffSize

def Outcome.Alike (one two : Outcome) : Prop :=
  two.next = one.next ∧ two.socks.parsers = one.socks.parsers ∧ two.socks.writeBuff = one.socks.writeBuff

-- How a read handler goes on when its parser is done: it leaves the reading state, and
-- neither the call that brought the message in nor what is left unread matters.
structure Continues (stay : SocksState)
    (finish : Env → SelectorKey → Selector → SocksConnModel → List Effect → Outcome) : Prop where
  open_ : stay ≠ .error
  leaves : ∀ env key sel socks called, (finish env key sel socks called).next ≠ stay
  blind : ∀ env recv key sel socks buff called other, (finish env key sel socks called).Alike
    (finish {env with recv:=recv} key sel {socks with readBuff:=buff} other)
  input : ∀ env key sel socks called, (finish env key sel socks called).socks.readBuff = socks.readBuff

theorem format_bound (parses : r.Parses format reading) {bytes : List UInt8} (parser : π)
    (open_ : format.decides bytes = false) : bytes.length < messageBound := by
  obtain ⟨awake,start⟩ := parses.fresh parser
  obtain ⟨running,knows⟩ := @scan_waits _ _ _ r.halted _ _ _ _ _ bytes (parses.reads true) (fun _ => rfl) awake start open_
  exact parses.bounded _ _ running knows

theorem replyTwo_blind (next : SocksState) (reply : List UInt8) (buff : CertifiedBuffer) (called other : List Effect) :
    (replyTwo next reply key sel socks called).Alike (replyTwo next reply key sel {socks with readBuff:=buff} other) := by
  unfold replyTwo
  dsimp only
  split
  · exact ⟨rfl,rfl,rfl⟩
  · split
    · exact ⟨rfl,rfl,rfl⟩
    · exact ⟨rfl,rfl,rfl⟩

theorem manageReqError_blind (state : UInt8) (buff : CertifiedBuffer) (called other : List Effect) :
    (manageReqError state sel socks called).Alike (manageReqError state sel {socks with readBuff:=buff} other) := by
  unfold manageReqError
  dsimp only
  split
  · exact ⟨rfl,rfl,rfl⟩
  · exact ⟨rfl,rfl,rfl⟩

theorem initConnection_blind (recv : Recv) (buff : CertifiedBuffer) (called other : List Effect) :
    (initConnection env key sel socks called).Alike
      (initConnection {env with recv:=recv} key sel {socks with readBuff:=buff} other) := by
  unfold initConnection
  dsimp only
  split
  · exact ⟨rfl,rfl,rfl⟩
  · split
    · split
      · exact ⟨rfl,rfl,rfl⟩
      · split
        · exact ⟨rfl,rfl,rfl⟩
        · exact ⟨rfl,rfl,rfl⟩
    · exact @manageReqError_blind sel {socks with srcConn.socket:=env.socket} _ buff _ _

theorem setConnection_blind (recv : Recv) (buff : CertifiedBuffer) (called other : List Effect) :
    (setConnection env key sel socks called).Alike
      (setConnection {env with recv:=recv} key sel {socks with readBuff:=buff} other) := by
  unfold setConnection
  dsimp only
  split
  · exact initConnection_blind recv buff called other
  · split
    · exact initConnection_blind recv buff called other
    · split
      · split
        · exact manageReqError_blind _ buff called other
        · split
          · exact manageReqError_blind _ buff called other
          · exact ⟨rfl,rfl,rfl⟩
      · exact ⟨rfl,rfl,rfl⟩

theorem helloFinish_continues : Continues .helloRead helloFinish where
  open_ := by decide
  leaves := by
    intro env key sel socks called
    rcases (@replyTwo_inert key sel socks called .helloWrite _).2.1 with next | next
    · exact fun stays => by cases next.symm.trans stays
    · exact fun stays => by cases next.symm.trans stays
  blind := fun _ _ _ _ _ buff called other => replyTwo_blind .helloWrite _ buff called other
  input := fun _ _ _ _ _ => (replyTwo_inert .helloWrite _).1.input

theorem authFinish_continues : Continues .authRead authFinish where
  open_ := by decide
  leaves := by
    intro env key sel socks called
    rcases (@authFinish_inert env key sel socks called).2.2 with next | next
    · exact fun stays => by cases next.symm.trans stays
    · exact fun stays => by cases next.symm.trans stays
  blind := fun _ _ _ _ _ buff called other => replyTwo_blind .authWrite _ buff _ _
  input := fun _ _ _ _ _ => authFinish_inert.1.input

theorem reqFinish_continues : Continues .reqRead reqFinish where
  open_ := by decide
  leaves := by
    intro env key sel socks called
    rcases @reqFinish_cases env key sel socks called with ⟨_,next | next | next | next⟩ | ⟨_,_,dials⟩
    · exact fun stays => by cases next.symm.trans stays
    · exact fun stays => by cases next.symm.trans stays
    · exact fun stays => by cases next.symm.trans stays
    · exact fun stays => by cases next.symm.trans stays
    · rcases dials.next with next | next | next
      · exact fun stays => by cases next.symm.trans stays
      · exact fun stays => by cases next.symm.trans stays
      · exact fun stays => by cases next.symm.trans stays
  blind := by
    intro env recv key sel socks buff called other
    unfold reqFinish
    dsimp only
    split
    · exact setConnection_blind recv buff called other
    · split
      · exact manageReqError_blind _ buff called other
      · split
        · exact ⟨rfl,rfl,rfl⟩
        · exact ⟨rfl,rfl,rfl⟩
  input := fun _ _ _ _ called => reqFinish_input called

def Reader.parsed (r : Reader π) (env : Env) (parsers : Parsers) (segment : List UInt8) : π :=
  (scan (r.advance env.users.requireAuth) r.halted (r.init (r.get parsers)) (segment.take buffSize)).1

theorem clip_listening {state : SocksState} (listening : Listening state out) (some : segment ≠ []) :
    (Recv.data segment).clip out.socks.readBuff.space = .data (segment.take buffSize) := by
  have space := (out.socks.readBuff.empty_space listening.clear).trans listening.room
  have taken : segment.take buffSize ≠ [] := by
    intro none
    rcases List.take_eq_nil_iff.mp none with zero | empty
    · cases zero
    · exact some empty
  rw [Recv.clip,space,if_neg taken]

theorem read_step (parses : r.Parses format reading) (continues : Continues r.stay finish)
    (serves : stateHandler .read r.stay = some (readMessage r finish))
    (listening : Listening r.stay out) (some_ : segment ≠ []) :
    ∃ served, stmHandler .read {env with recv:=.data segment} key out.sel out.socks = some served ∧
      ((format.refused (segment.take buffSize) = true ∧ served.next = .error ∧
          served.socks.parsers = r.put out.socks.parsers (r.parsed env out.socks.parsers segment) ∧
          served.socks.writeBuff = out.socks.writeBuff) ∨
        (format.refused (segment.take buffSize) = false ∧ format.whole (segment.take buffSize) = true ∧
          served.socks.stm = some served.next ∧
          (pastEnd format.length (segment.take buffSize) = false →
            served.socks.readBuff.unread = [] ∧ served.socks.readBuff.capacity = buffSize) ∧
          ∃ buff called, (finish {env with recv:=.data segment} key out.sel {out.socks with
            parsers:=r.put out.socks.parsers (r.parsed env out.socks.parsers segment),readBuff:=buff} called).Alike served) ∨
        (format.decides (segment.take buffSize) = false ∧ Listening r.stay served)) := by
  have first : handleFirst out.socks = out.socks := by
    rw [handleFirst,listening.stm]
    exact congrArg (fun stm => {out.socks with stm:=stm}) listening.stm.symm
  have ran : stmHandler .read {env with recv:=.data segment} key out.sel out.socks = some (jump {env with
      recv:=.data segment} (readMessage r finish {env with recv:=.data segment} key out.sel out.socks)) := by
    rw [stmHandler,listening.stm,Option.getD_some,serves,Option.map_some,first]
  refine ⟨_,ran,?_⟩
  obtain ⟨awake,start⟩ := parses.fresh (r.get out.socks.parsers)
  obtain ⟨fails,finishes,ends⟩ := @scan_reads _ _ _ r.halted _ _ _ _ _ (segment.take buffSize)
    (parses.reads env.users.requireAuth) (fun _ => rfl) awake start
  have clipped := clip_listening listening some_
  rcases readMessage_cases r finish {env with recv:=.data segment} key out.sel out.socks with
    ⟨nothing,_⟩ | ⟨bytes,buff,got,unread,room,after⟩
  · exact absurd clipped (nothing _)
  · rw [clipped] at got
    cases got
    rw [listening.clear,List.nil_append] at unread after
    change r.failed (r.parsed env out.socks.parsers segment) = _ at fails
    change r.finished (r.parsed env out.socks.parsers segment) = _ at finishes
    change buff.unread = (scan (r.advance env.users.requireAuth) r.halted (r.init (r.get out.socks.parsers))
      (segment.take buffSize)).2 at unread
    change readMessage r finish _ _ _ _ = (if r.failed (r.parsed env out.socks.parsers segment) then _
      else if r.finished (r.parsed env out.socks.parsers segment) then _ else _) at after
    rw [fails,finishes] at after
    obtain ⟨_,_,next,stm,parsers,readBuff,writeBuff,_⟩ := jump_parts {env with recv:=.data segment}
      (readMessage r finish {env with recv:=.data segment} key out.sel out.socks)
    cases refused : format.refused (segment.take buffSize) with
    | true =>
        rw [refused,if_pos rfl] at after
        refine .inl ⟨rfl,?_,?_,?_⟩
        · rw [next,after]
        · rw [parsers,after]
          rfl
        · rw [writeBuff,after]
    | false =>
        rw [refused,if_neg Bool.false_ne_true] at after
        cases whole : format.whole (segment.take buffSize) with
        | true =>
            rw [whole,if_pos rfl] at after
            refine .inr (.inl ⟨rfl,rfl,stm.trans (congrArg some next.symm),?_,buff,
              [.recv out.socks.cliConn.socket (.data (segment.take buffSize))],?_⟩)
            · intro fits
              have input := readBuff.trans (congrArg (·.socks.readBuff) after)
              dsimp only at input
              rw [continues.input] at input
              rw [input]
              exact ⟨unread.trans (pastEnd_rest fits (ends whole)),room.trans listening.room⟩
            exact ⟨next.trans (congrArg Outcome.next after),parsers.trans (congrArg (·.socks.parsers) after),
              writeBuff.trans (congrArg (·.socks.writeBuff) after)⟩
        | false =>
            rw [whole,if_neg Bool.false_ne_true] at after
            refine .inr (.inr ⟨by rw [Framing.decides,refused,whole]; rfl,?_⟩)
            have running : r.halted (r.parsed env out.socks.parsers segment) = false := by
              rw [Reader.halted,fails,finishes,refused,whole]
              rfl
            rw [after,jump,if_pos listening.stm]
            exact ⟨rfl,listening.stm,unread.trans (scan_running running),room.trans listening.room⟩

theorem deliver_left {state : SocksState} (left : out.next ≠ state) (segments : List (List UInt8)) :
    deliver key env state segments out = (out,segments) := by
  cases segments with
  | nil => rfl
  | cons segment rest => exact if_neg left

theorem deliver_cons {state : SocksState} {served : Outcome} (waits : out.next = state)
    (ran : stmHandler .read {env with recv:=.data segment} key out.sel out.socks = some served)
    (rest : List (List UInt8)) :
    deliver key env state (segment::rest) out = deliver key env state rest served := by
  rw [deliver,if_pos waits,ran]

-- The handlers start over with every segment, so segments that decide nothing by
-- themselves leave the connection waiting however many there are.
theorem deliver_waits (parses : r.Parses format reading) (continues : Continues r.stay finish)
    (serves : stateHandler .read r.stay = some (readMessage r finish)) (segments : List (List UInt8))
    (undecided : ∀ segment ∈ segments, segment ≠ [] ∧ format.decides (segment.take buffSize) = false)
    (listening : Listening r.stay out) : Listening r.stay (deliver key env r.stay segments out).1 := by
  induction segments generalizing out with
  | nil => exact listening
  | cons segment rest ih =>
      obtain ⟨some_,open_⟩ := undecided segment List.mem_cons_self
      obtain ⟨served,ran,refused | whole | ⟨_,again⟩⟩ := @read_step _ r format reading env key out finish segment
        parses continues serves listening some_
      · rw [Framing.decides,refused.1] at open_
        cases open_
      · rw [Framing.decides,whole.2.1,Bool.or_true] at open_
        cases open_
      · rw [deliver_cons listening.next ran]
        exact ih (fun other member => undecided other (List.mem_cons_of_mem _ member)) again

theorem decides_clip (parses : r.Parses format reading) (parser : π) {bytes : List UInt8}
    (decided : format.decides bytes = true) : format.decides (bytes.take buffSize) = true := by
  by_contra open_
  have bound := format_bound parses parser (by simpa using open_)
  rw [List.length_take] at bound
  have short : bytes.length ≤ buffSize := by
    unfold messageBound at bound
    unfold buffSize at bound ⊢
    omega
  rw [List.take_of_length_le short] at open_
  exact open_ decided

theorem parsed_append (parses : r.Parses format reading) (parsers : Parsers)
    (decided : format.decides (segment.take buffSize) = true) (more : List UInt8) :
    r.parsed env parsers (segment++more) = r.parsed env parsers segment := by
  obtain ⟨awake,start⟩ := parses.fresh (r.get parsers)
  obtain ⟨fails,finishes,_⟩ := @scan_reads _ _ _ r.halted _ _ _ _ _ (segment.take buffSize)
    (parses.reads env.users.requireAuth) (fun _ => rfl) awake start
  have stopped : r.halted (r.parsed env parsers segment) = true := by
    rw [Reader.halted,Reader.parsed,fails,finishes]
    exact decided
  rw [Reader.parsed,List.take_append,scan_append_halted _ awake stopped]
  rfl

theorem alike_trans {one two three : Outcome} (first : one.Alike two) (second : two.Alike three) :
    one.Alike three :=
  ⟨second.1.trans first.1,second.2.1.trans first.2.1,second.2.2.trans first.2.2⟩

theorem alike_symm {one two : Outcome} (alike : one.Alike two) : two.Alike one :=
  ⟨alike.1.symm,alike.2.1.symm,alike.2.2.symm⟩

theorem passage_alike {one two : Outcome} (alike : one.Alike two) (state : SocksState) (fields : Parsers → Fields) :
    passage state fields two = passage state fields one := by
  unfold passage
  rw [alike.1,alike.2.1,alike.2.2]

theorem decided_alike (parses : r.Parses format reading) (continues : Continues r.stay finish)
    (serves : stateHandler .read r.stay = some (readMessage r finish)) (listening : Listening r.stay out)
    (some_ : segment ≠ []) (decided : format.decides segment = true) (later : List (List UInt8)) :
    ∃ served, deliver key env r.stay (segment::later) out = (served,later) ∧ served.next ≠ r.stay ∧
      ∃ whole, deliver key env r.stay [segment ++ later.flatten] out = (whole,[]) ∧ served.Alike whole ∧
        (format.refused (segment.take buffSize) = true → served.next = .error) := by
  have clipped := decides_clip parses (r.init (r.get out.socks.parsers)) decided
  have same := @parsed_append _ r format reading env segment parses out.socks.parsers clipped later.flatten
  obtain ⟨served,ran,cases_⟩ := @read_step _ r format reading env key out finish segment parses continues serves
    listening some_
  obtain ⟨whole,ranWhole,casesWhole⟩ := @read_step _ r format reading env key out finish (segment ++ later.flatten)
    parses continues serves listening (by simp [some_])
  rw [same] at casesWhole
  have split_ : (segment ++ later.flatten).take buffSize = segment.take buffSize ++
      later.flatten.take (buffSize - segment.length) := List.take_append
  rw [split_] at casesWhole
  have alike : served.next ≠ r.stay ∧ served.Alike whole ∧
      (format.refused (segment.take buffSize) = true → served.next = .error) := by
    rcases cases_ with ⟨refused,next,parsers,writeBuff⟩ | ⟨allowed,complete,_,_,buff,called,after⟩ | ⟨open_,_⟩
    · rcases casesWhole with ⟨_,nextWhole,parsersWhole,writeBuffWhole⟩ | ⟨allowed,_⟩ | ⟨open_,_⟩
      · exact ⟨fun stays => continues.open_ (stays.symm.trans next),⟨nextWhole.trans next.symm,
          parsersWhole.trans parsers.symm,writeBuffWhole.trans writeBuff.symm⟩,fun _ => next⟩
      · rw [format.refused_append _ _ refused] at allowed
        cases allowed
      · rw [format.decides_append clipped] at open_
        cases open_
    · rcases casesWhole with ⟨refused,_⟩ | ⟨_,_,_,_,buffWhole,calledWhole,afterWhole⟩ | ⟨open_,_⟩
      · obtain ⟨n,known,_⟩ := whole_exact.mp complete
        rw [format.length_refused _ _ (format.length_append _ _ _ known)] at refused
        cases refused
      · have blind := continues.blind {env with recv:=.data segment} (.data (segment ++ later.flatten)) key out.sel
          {out.socks with parsers:=r.put out.socks.parsers (r.parsed env out.socks.parsers segment),readBuff:=buff}
          buffWhole called calledWhole
        refine ⟨?_,alike_trans (alike_symm after) (alike_trans blind afterWhole),?_⟩
        · rw [after.1]
          exact continues.leaves _ _ _ _ _
        · intro refused
          rw [allowed] at refused
          cases refused
      · rw [format.decides_append clipped] at open_
        cases open_
    · rw [clipped] at open_
      cases open_
  refine ⟨served,?_,alike.1,whole,?_,alike.2⟩
  · rw [deliver_cons listening.next ran,deliver_left alike.1]
  · rw [deliver_cons listening.next ranWhole]
    rfl

theorem segment_exact (parses : r.Parses format reading) (continues : Continues r.stay finish)
    (serves : stateHandler .read r.stay = some (readMessage r finish)) (listening : Listening r.stay out)
    (some_ : segment ≠ []) {byte : UInt8} (patient : format.decides [byte] = false) :
    (∀ later : List (List UInt8), (∀ other ∈ later, other ≠ []) →
      passage r.stay fields (deliver key env r.stay (segment::later) out).1 =
        passage r.stay fields (deliver key env r.stay [segment ++ later.flatten] out).1) ↔
      format.decides segment = true := by
  constructor
  · intro same
    by_contra open_
    have undecided : format.decides segment = false := by simpa using open_
    have clipped : format.decides (segment.take buffSize) = false := by
      by_contra decided
      have longer := format.decides_append (by simpa using decided) (segment.drop buffSize)
      rw [List.take_append_drop,undecided] at longer
      cases longer
    -- Single bytes that start a message over and over: together they end it.
    have crumbs : ∀ other ∈ segment::List.replicate messageBound [byte],
        other ≠ [] ∧ format.decides (other.take buffSize) = false := by
      intro other member
      rcases List.mem_cons.mp member with rfl | later
      · exact ⟨some_,clipped⟩
      · rw [List.eq_of_mem_replicate later]
        exact ⟨by simp,patient⟩
    have waits := @deliver_waits _ r format reading env key out finish parses continues serves _ crumbs listening
    have whole : format.decides (segment ++ (List.replicate messageBound [byte]).flatten) = true := by
      by_contra open_
      have bound := format_bound parses (r.init (r.get out.socks.parsers)) (by simpa using open_)
      rw [List.length_append,List.length_replicate] at bound
      omega
    obtain ⟨served,ran,left_,_⟩ := @decided_alike _ r format reading env key out finish
      (segment ++ (List.replicate messageBound [byte]).flatten) parses continues serves listening
      (by simp [some_]) whole []
    have equal := same (List.replicate messageBound [byte]) fun other member => by
      rw [List.eq_of_mem_replicate member]
      simp
    rw [ran] at equal
    unfold passage at equal
    rw [if_pos waits.next,if_neg left_] at equal
    cases equal
  · intro decided later _
    obtain ⟨served,ran,_,whole,ranWhole,alike,_⟩ := @decided_alike _ r format reading env key out finish segment
      parses continues serves listening some_ decided later
    rw [ran,ranWhole]
    exact (passage_alike alike r.stay fields).symm

theorem flush_left {state : SocksState} (left : out.next ≠ state) (envs : List Env) :
    flush key state envs out = out := by
  cases envs with
  | nil => rfl
  | cons env rest => exact if_neg left

theorem flush_kept {state : SocksState} {handler : StateHandler} (serves : stateHandler .write state = some handler)
    (input : ∀ env key sel socks, (handler env key sel socks).socks.readBuff = socks.readBuff)
    (stm : out.socks.stm = some out.next) (envs : List Env) :
    (flush key state envs out).socks.stm = some (flush key state envs out).next ∧
    (flush key state envs out).socks.readBuff = out.socks.readBuff := by
  induction envs generalizing out with
  | nil => exact ⟨stm,rfl⟩
  | cons env rest ih =>
      unfold flush
      split
      · rename_i waits
        rw [waits] at stm
        rw [stmHandler,stm,Option.getD_some,serves,Option.map_some]
        dsimp only
        obtain ⟨_,_,next,after,_,readBuff,_⟩ := jump_parts env (handler env key out.sel (handleFirst out.socks))
        obtain ⟨steady,kept⟩ := @ih (jump env (handler env key out.sel (handleFirst out.socks)))
          (after.trans (congrArg some next.symm))
        exact ⟨steady,kept.trans (readBuff.trans (input _ _ _ _))⟩
      · exact ⟨stm,rfl⟩

theorem next_listening (parses : r.Parses format reading) (continues : Continues r.stay finish)
    (serves : stateHandler .read r.stay = some (readMessage r finish)) (listening : Listening r.stay out)
    (some_ : segment ≠ []) (ends : pastEnd format.length segment = false) {state next : SocksState}
    {handler : StateHandler} (writes : stateHandler .write state = some handler)
    (input : ∀ env key sel socks, (handler env key sel socks).socks.readBuff = socks.readBuff)
    (apart : state ≠ r.stay ∧ state ≠ .error) (further : next ≠ r.stay ∧ next ≠ .error) (envs : List Env)
    (reached : (flush key state envs (deliver key env r.stay [segment] out).1).next = next) :
    Listening next (flush key state envs (deliver key env r.stay [segment] out).1) := by
  obtain ⟨served,ran,cases_⟩ := @read_step _ r format reading env key out finish segment parses continues serves
    listening some_
  rw [deliver_cons listening.next ran] at reached ⊢
  rcases cases_ with ⟨_,error,_⟩ | ⟨_,_,stm,drained,_⟩ | ⟨_,waits⟩
  · rw [deliver,flush_left (by rw [error]; exact apart.2.symm),error] at reached
    exact absurd reached.symm further.2
  · obtain ⟨steady,kept⟩ := @flush_kept key served state handler writes input stm envs
    have within : pastEnd format.length (segment.take buffSize) = false := by
      by_contra past
      obtain ⟨n,known,less⟩ := (Option.any_eq_true _ _).mp (by simpa using past : pastEnd format.length _ = true)
      have full := format.length_append _ (segment.drop buffSize) _ known
      rw [List.take_append_drop] at full
      have lengths := List.length_take_le' buffSize segment
      rw [pastEnd,full] at ends
      simp at ends less
      omega
    obtain ⟨clear,room⟩ := drained within
    exact ⟨reached,steady.trans (congrArg some reached),(congrArg CertifiedBuffer.unread kept).trans clear,
      (congrArg CertifiedBuffer.capacity kept).trans room⟩
  · rw [deliver,flush_left (by rw [waits.next]; exact apart.1.symm),waits.next] at reached
    exact absurd reached.symm further.1

def Cut.Refused (cut : Cut) (format : Framing UInt8) : Prop := cut.later ≠ [] → format.refused cut.first = true

def Cut.Ends (cut : Cut) (format : Framing UInt8) : Prop := pastEnd format.length cut.message = false

structure Undisturbed (hello auth request : Cut) : Prop where
  helloCut : hello.Refused helloFormat
  authCut : auth.Refused authFormat
  requestCut : request.Refused requestFormat
  greets : auth.later ≠ [] ∨ request.later ≠ [] → hello.Ends helloFormat
  logs : request.later ≠ [] → auth.Ends authFormat

theorem deliver_taken {state : SocksState} {handler : StateHandler} (serves : stateHandler .read state = some handler)
    (waits : out.next = state) (stm : out.socks.stm = some state) (segment : List UInt8) :
    ∃ served, deliver key env state [segment] out = (served,[]) ∧ served.socks.stm = some served.next := by
  have ran : stmHandler .read {env with recv:=.data segment} key out.sel out.socks = some (jump {env with
      recv:=.data segment} (handler {env with recv:=.data segment} key out.sel (handleFirst out.socks))) := by
    rw [stmHandler,stm,Option.getD_some,serves,Option.map_some]
  obtain ⟨_,_,next,after,_⟩ := jump_parts {env with recv:=.data segment}
    (handler {env with recv:=.data segment} key out.sel (handleFirst out.socks))
  exact ⟨_,by rw [deliver_cons waits ran]; rfl,after.trans (congrArg some next.symm)⟩

theorem cut_cases (parses : r.Parses format reading) (continues : Continues r.stay finish)
    (serves : stateHandler .read r.stay = some (readMessage r finish)) {cut : Cut} (refused : cut.Refused format)
    (listening : cut.later ≠ [] → Listening r.stay out) :
    deliver key env r.stay cut.segments out = deliver key env r.stay [cut.message] out ∨
    (∃ served whole later, deliver key env r.stay cut.segments out = (served,later) ∧
      deliver key env r.stay [cut.message] out = (whole,[]) ∧ served.Alike whole ∧ served.next = .error) := by
  by_cases single : cut.later = []
  · left
    rw [Cut.segments,Cut.message,single]
    simp
  · right
    have first := refused single
    have decided : format.decides cut.first = true := by rw [Framing.decides,first]; rfl
    have some_ : cut.first ≠ [] := cut.nonempty _ List.mem_cons_self
    obtain ⟨served,ran,_,whole,ranWhole,alike,fails⟩ := @decided_alike _ r format reading env key out finish cut.first
      parses continues serves (listening single) some_ decided cut.later
    have clipped : format.refused (cut.first.take buffSize) = true := by
      rcases Bool.or_eq_true_iff.mp (decides_clip parses (r.init (r.get out.socks.parsers)) decided) with yes | whole
      · exact yes
      · obtain ⟨n,known,_⟩ := whole_exact.mp whole
        have full := format.length_append _ (cut.first.drop buffSize) _ known
        rw [List.take_append_drop] at full
        rw [format.length_refused _ _ full] at first
        cases first
    exact ⟨served,whole,cut.later,ran,ranWhole,alike,fails clipped⟩

theorem Cut.message_some (cut : Cut) : cut.message ≠ [] := by
  have some_ := cut.nonempty cut.first List.mem_cons_self
  simp [Cut.message,some_]

theorem helloWrite_input (env : Env) (key : SelectorKey) (sel : Selector) (socks : SocksConnModel) :
    (helloWrite env key sel socks).socks.readBuff = socks.readBuff :=
  writeReply_input .helloWrite _ helloSent fun _ _ => helloSent_inert.1.input

theorem authWrite_input (env : Env) (key : SelectorKey) (sel : Selector) (socks : SocksConnModel) :
    (authWrite env key sel socks).socks.readBuff = socks.readBuff :=
  writeReply_input .authWrite _ authSent fun _ _ => authSent_inert.1.input

theorem request_settled {world : World} {request : Cut} (refused : request.Refused requestFormat)
    (listening : request.later ≠ [] → Listening .reqRead out) :
    (passage .reqRead requestFields (deliver world.key world.request .reqRead request.segments out).1).toList =
    (passage .reqRead requestFields (deliver world.key world.request .reqRead [request.message] out).1).toList := by
  rcases @cut_cases _ reqReader requestFormat RequestReads world.request world.key out reqFinish reqReader_parses
    reqFinish_continues rfl request refused listening with same | ⟨served,whole,_,ran,ranWhole,alike,_⟩
  · exact congrArg (fun delivered => (passage .reqRead requestFields delivered.1).toList) same
  · change deliver _ _ .reqRead _ _ = _ at ran
    change deliver _ _ .reqRead _ _ = _ at ranWhole
    rw [ran,ranWhole,passage_alike alike]

theorem auth_settled {world : World} {auth request : Cut} (waits : out.next = .authRead)
    (stm : out.socks.stm = some .authRead) (authCut : auth.Refused authFormat)
    (requestCut : request.Refused requestFormat) (ends : request.later ≠ [] → auth.Ends authFormat)
    (listening : auth.later ≠ [] ∨ request.later ≠ [] → Listening .authRead out) :
    handshakeAuth world out auth.segments request.segments =
      handshakeAuth world out [auth.message] [request.message] := by
  unfold handshakeAuth
  rcases @cut_cases _ authReader authFormat AuthReads world.auth world.key out authFinish authReader_parses
    authFinish_continues rfl auth authCut (fun cut => listening (.inl cut)) with
    same | ⟨served,whole,later,ran,ranWhole,alike,error⟩
  · change deliver _ _ .authRead _ _ = deliver _ _ .authRead _ _ at same
    obtain ⟨served,taken,steady⟩ := @deliver_taken world.auth world.key out .authRead authRead rfl waits stm auth.message
    rw [same,taken]
    dsimp only
    rw [List.nil_append,List.nil_append]
    congr 1
    split
    · rename_i reading
      refine request_settled requestCut fun cut => ?_
      have hears := listening (.inr cut)
      have next := @next_listening _ authReader authFormat AuthReads world.auth world.key out authFinish auth.message
        authReader_parses authFinish_continues rfl hears auth.message_some (ends cut) .authWrite .reqRead authWrite
        rfl authWrite_input (by decide) (by decide) world.authSends
      change (flush _ _ _ (deliver _ _ .authRead _ _).1).next = _ →
        Listening _ (flush _ _ _ (deliver _ _ .authRead _ _).1) at next
      rw [taken] at next
      exact next reading
    · rfl
  · change deliver _ _ .authRead _ _ = _ at ran
    change deliver _ _ .authRead _ _ = _ at ranWhole
    rw [ran,ranWhole]
    dsimp only
    have errorWhole : whole.next = .error := alike.1.trans error
    rw [flush_left (by rw [error]; decide),flush_left (by rw [errorWhole]; decide),error,errorWhole,
      passage_alike alike]
    rfl

theorem accepted_listening {fd : Int} :
    Listening .helloRead ⟨sel,handleFirst (acceptedConn fd),[],.helloRead⟩ :=
  ⟨rfl,rfl,CertifiedBuffer.init_unread _,rfl⟩

theorem handshake_settled {world : World} {hello auth request : Cut} (calm : Undisturbed hello auth request)
    (listening : Listening .helloRead ⟨sel,handleFirst socks,[],.helloRead⟩) :
    handshake world sel socks hello.segments auth.segments request.segments =
      handshake world sel socks [hello.message] [auth.message] [request.message] := by
  unfold handshake
  rcases @cut_cases _ helloReader helloFormat HelloReads world.hello world.key _ helloFinish helloReader_parses
    helloFinish_continues rfl hello calm.helloCut (fun _ => listening) with
    same | ⟨served,whole,later,ran,ranWhole,alike,error⟩
  · change deliver _ _ .helloRead _ _ = deliver _ _ .helloRead _ _ at same
    obtain ⟨served,taken,steady⟩ := @deliver_taken world.hello world.key ⟨sel,handleFirst socks,[],.helloRead⟩ .helloRead helloRead
      rfl rfl listening.stm hello.message
    have hears : ∀ next, auth.later ≠ [] ∨ request.later ≠ [] → next ≠ .helloRead ∧ next ≠ .error →
        (flush world.key .helloWrite world.helloSends served).next = next →
        Listening next (flush world.key .helloWrite world.helloSends served) := by
      intro next cut further
      have clean := @next_listening _ helloReader helloFormat HelloReads world.hello world.key _ helloFinish
        hello.message helloReader_parses helloFinish_continues rfl listening hello.message_some (calm.greets cut)
        .helloWrite next helloWrite rfl helloWrite_input (by decide) further world.helloSends
      change (flush _ _ _ (deliver _ _ .helloRead _ _).1).next = _ →
        Listening _ (flush _ _ _ (deliver _ _ .helloRead _ _).1) at clean
      rwa [taken] at clean
    obtain ⟨stm,_⟩ := @flush_kept world.key served .helloWrite helloWrite rfl helloWrite_input steady world.helloSends
    rw [same,taken]
    dsimp only
    rw [List.nil_append,List.nil_append,List.nil_append,List.nil_append]
    congr 1
    split
    · rename_i authenticates
      rw [authenticates] at stm
      exact auth_settled authenticates stm calm.authCut calm.requestCut calm.logs
        fun cut => hears _ cut (by decide) authenticates
    · split
      · rename_i reading
        exact request_settled calm.requestCut fun cut => hears _ (.inr cut) (by decide) reading
      · rfl
  · change deliver _ _ .helloRead _ _ = _ at ran
    change deliver _ _ .helloRead _ _ = _ at ranWhole
    rw [ran,ranWhole]
    dsimp only
    have errorWhole : whole.next = .error := alike.1.trans error
    rw [flush_left (by rw [error]; decide),flush_left (by rw [errorWhole]; decide),error,errorWhole,
      passage_alike alike]
    rfl

inductive Phase : SocksState → (Parsers → Fields) → Framing UInt8 → Prop where
  | hello : Phase .helloRead helloFields helloFormat
  | auth : Phase .authRead authFields authFormat
  | request : Phase .reqRead requestFields requestFormat

theorem phase_exact {state : SocksState} (phase : Phase state fields format) (listening : Listening state out)
    (some_ : segment ≠ []) :
    (∀ later : List (List UInt8), (∀ other ∈ later, other ≠ []) →
      passage state fields (deliver key env state (segment::later) out).1 =
        passage state fields (deliver key env state [segment ++ later.flatten] out).1) ↔
      format.decides segment = true := by
  cases phase with
  | hello =>
      exact @segment_exact _ helloReader _ _ env key out _ helloFinish segment helloReader_parses
        helloFinish_continues rfl listening some_ socksVersion rfl
  | auth =>
      exact @segment_exact _ authReader _ _ env key out _ authFinish segment authReader_parses
        authFinish_continues rfl listening some_ authVersion rfl
  | request =>
      exact @segment_exact _ reqReader _ _ env key out _ reqFinish segment reqReader_parses
        reqFinish_continues rfl listening some_ socksVersion rfl

theorem handshake_cut_exact (world : World) (sel : Selector) (fd : Int) (hello auth request : Cut) :
    (Undisturbed hello auth request →
      handshake world sel (acceptedConn fd) hello.segments auth.segments request.segments =
        handshake world sel (acceptedConn fd) [hello.message] [auth.message] [request.message]) ∧
    (∀ state fields format, Phase state fields format → ∀ key env out first, Listening state out → first ≠ [] →
      ((∀ later : List (List UInt8), (∀ segment ∈ later, segment ≠ []) →
        passage state fields (deliver key env state (first::later) out).1 =
          passage state fields (deliver key env state [first ++ later.flatten] out).1) ↔
        format.decides first = true)) := by
  refine ⟨?_,?_⟩
  · intro calm
    exact handshake_settled calm accepted_listening
  · intro state fields format phase key env out first listening some_
    exact phase_exact phase listening some_

def sampleWorld : World where
  key := ⟨5,1⟩
  hello := {quiet with users:=oneUser}
  helloSends := [{quiet with send:=.sent 2}]
  auth := {quiet with users:=oneUser}
  authSends := [{quiet with send:=.sent 2}]
  request := {quiet with socket:=6,connect:=.failed einprogress}

def sampleHello : Cut := ⟨[0x05,0x01,0x02],[],by decide⟩
def sampleAuth : Cut := ⟨[0x01,0x02,0x61,0x6c,0x02,0x73,0x65],[],by decide⟩
def refusedRequest : Cut := ⟨[0x05,0x09],[[0x00]],by decide⟩

theorem sample_cut_exact :
    handshake sampleWorld acceptedSelector (acceptedConn 5) sampleHello.segments sampleAuth.segments
        refusedRequest.segments =
      handshake sampleWorld acceptedSelector (acceptedConn 5) [sampleHello.message] [sampleAuth.message]
        [refusedRequest.message] ∧
    ¬ ∀ later : List (List UInt8), (∀ segment ∈ later, segment ≠ []) →
      passage .helloRead helloFields (deliver ⟨5,1⟩ quiet .helloRead ([0x05]::later)
          ⟨acceptedSelector,handleFirst (acceptedConn 5),[],.helloRead⟩).1 =
        passage .helloRead helloFields (deliver ⟨5,1⟩ quiet .helloRead [[0x05] ++ later.flatten]
          ⟨acceptedSelector,handleFirst (acceptedConn 5),[],.helloRead⟩).1 := by
  obtain ⟨settled,exact_⟩ := handshake_cut_exact sampleWorld acceptedSelector 5 sampleHello sampleAuth refusedRequest
  refine ⟨settled ⟨?_,?_,?_,?_,?_⟩,?_⟩
  · exact fun cut => absurd rfl cut
  · exact fun cut => absurd rfl cut
  · exact fun _ => rfl
  · exact fun _ => rfl
  · exact fun _ => rfl
  · intro same
    have decided := (exact_ _ _ _ .hello _ _ _ _ accepted_listening (by decide)).mp same
    cases decided

-- The version byte in a segment of its own: the rest is taken for a new hello.
theorem hello_cut_refused :
    handshake sampleWorld acceptedSelector (acceptedConn 5) [[0x05],[0x01,0x02]]
        [sampleAuth.message] [[0x05,0x01,0x00,0x01,10,0,0,1,0,80]] =
      [⟨.helloRead,.error,.method noMethods,[]⟩] ∧
    handshake sampleWorld acceptedSelector (acceptedConn 5) [[0x05,0x01,0x02]]
        [sampleAuth.message] [[0x05,0x01,0x00,0x01,10,0,0,1,0,80]] =
      [⟨.helloRead,.helloWrite,.method userPass,[0x05,0x02]⟩,
        ⟨.authRead,.authWrite,.credentials [0x61,0x6c] [0x73,0x65],[0x01,0x00]⟩,
        ⟨.reqRead,.reqConnect,.request reqCmdConnect ipv4 [10,0,0,1] [0,80],[]⟩] := by
  decide +kernel

end Socks5d
