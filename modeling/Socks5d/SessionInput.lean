import Socks5d.Session
import Socks5d.Messages

namespace Socks5d
open Scan

variable {π : Type} {data : Nat} {s next : Session} {socks after : SocksConnModel} {env : Env} {key : SelectorKey}
  {sel : Selector} {fd : Int} {kind : EventKind} {e : SessionEvent} {length : List UInt8 → Option Nat}

def pastEnd (length : List UInt8 → Option Nat) (segment : List UInt8) : Bool :=
  (length segment).any fun n => decide (n < segment.length)

def SocksState.messageLength : SocksState → List UInt8 → Option Nat
  | .helloRead => helloLength
  | .authRead => authLength
  | .reqRead => requestLength
  | _ => fun _ => none

def Session.overruns (s : Session) : SessionEvent → Bool
  | .event .read _ env => s.conn.any fun socks =>
    pastEnd socks.current.messageLength (env.recv.clip socks.readBuff.space).bytes
  | _ => false

theorem pastEnd_rest {bytes : List UInt8} {rest : List β} (fits : pastEnd length bytes = false)
    (ends : ∃ n, length bytes = some n ∧ n + rest.length = bytes.length) : rest = [] := by
  obtain ⟨n,known,size⟩ := ends
  rw [pastEnd,known] at fits
  have short : ¬ n < bytes.length := by simpa using fits
  exact List.length_eq_zero_iff.mp (by omega)

-- The parser of a read handler against the format that it reads, from wherever the
-- last message left it.
structure Reader.Parses (r : Reader π) (format : Framing UInt8) (reading : List UInt8 → π → Prop) : Prop where
  reads : ∀ needsAuth, Reads format (r.advance needsAuth) r.failed r.finished reading
  fresh : ∀ parser, r.halted (r.init parser) = false ∧ reading [] (r.init parser)
  bounded : ∀ taken parser, r.halted parser = false → reading taken parser → taken.length < messageBound

theorem helloReader_parses : helloReader.Parses helloFormat HelloReads where
  reads := fun needsAuth => {
    advances := fun _ parser _ running reads => hello_reads parser running reads
    fails := by
      intro taken parser reads failed
      rwa [HelloReads,of_decide_eq_true failed] at reads
    ends := by
      intro taken parser reads finished
      rwa [HelloReads,of_decide_eq_true finished] at reads
    waits := fun _ parser reads running => (hello_waits parser running reads).1 }
  fresh := fun _ => ⟨rfl,rfl⟩
  bounded := fun _ parser running reads => (hello_waits parser running reads).2

theorem authReader_parses : authReader.Parses authFormat AuthReads where
  reads := fun needsAuth => {
    advances := fun _ parser _ running reads => auth_reads parser running reads
    fails := by
      intro taken parser reads failed
      rwa [AuthReads,of_decide_eq_true failed] at reads
    ends := by
      intro taken parser reads finished
      rwa [AuthReads,of_decide_eq_true finished] at reads
    waits := fun _ parser reads running => (auth_waits parser running reads).1 }
  fresh := fun _ => ⟨rfl,rfl⟩
  bounded := fun _ parser running reads => (auth_waits parser running reads).2

theorem reqReader_parses : reqReader.Parses requestFormat RequestReads where
  reads := fun needsAuth => {
    advances := fun _ parser _ running reads => request_reads parser running reads
    fails := by
      intro taken parser reads failed
      rwa [RequestReads,of_decide_eq_true failed] at reads
    ends := by
      intro taken parser reads finished
      rwa [RequestReads,of_decide_eq_true finished] at reads
    waits := fun _ parser reads running => (request_waits parser running reads).1 }
  fresh := fun _ => ⟨rfl,rfl⟩
  bounded := fun _ parser running reads => (request_waits parser running reads).2

theorem readMessage_drained {r : Reader π} {format : Framing UInt8} {reading : List UInt8 → π → Prop}
    (parses : r.Parses format reading)
    {finish : Env → SelectorKey → Selector → SocksConnModel → List Effect → Outcome}
    (kept : ∀ parsed called, (finish env key sel parsed called).socks.readBuff = parsed.readBuff)
    (clear : socks.readBuff.unread = [])
    (fits : pastEnd format.length (env.recv.clip socks.readBuff.space).bytes = false)
    (open_ : (readMessage r finish env key sel socks).next ≠ .error) :
    (readMessage r finish env key sel socks).socks.readBuff.unread = [] := by
  rcases readMessage_cases r finish env key sel socks with ⟨_,none⟩ | ⟨bytes,buff,got,unread,_,out⟩
  · rw [none] at open_
    exact absurd rfl open_
  · rw [clear,List.nil_append] at unread out
    rw [got] at fits
    rw [out] at open_ ⊢
    obtain ⟨awake,start⟩ := parses.fresh (r.get socks.parsers)
    obtain ⟨_,finishes,ends⟩ := @scan_reads _ _ _ r.halted _ _ _ _ _ bytes
      (parses.reads env.users.requireAuth) (fun _ => rfl) awake start
    split
    · rename_i failed
      rw [if_pos failed] at open_
      exact absurd rfl open_
    · rename_i sound
      split
      · rename_i finished
        rw [kept]
        exact unread.trans (pastEnd_rest fits (ends (finishes.symm.trans finished)))
      · rename_i unfinished
        refine unread.trans (scan_running ?_)
        simp [Reader.halted,sound,unfinished]

theorem writeReply_input (stay : SocksState) (logged : Env → SocksConnModel → List Effect)
    (finish : SelectorKey → Selector → SocksConnModel → List Effect → Outcome)
    (kept : ∀ sent called, (finish key sel sent called).socks.readBuff = sent.readBuff) :
    (writeReply stay logged finish env key sel socks).socks.readBuff = socks.readBuff := by
  rcases writeReply_cases stay logged finish env key sel socks with none | ⟨count,_,out⟩
  · rw [none]
  · rw [out]
    split
    · rfl
    · rw [kept]

theorem reqFinish_input (called : List Effect) :
    (reqFinish env key sel socks called).socks.readBuff = socks.readBuff := by
  rcases @reqFinish_cases env key sel socks called with ⟨inert,_⟩ | ⟨_,_,dials⟩
  · exact inert.input
  · exact dials.input

theorem reqDns_input (called : List Effect) :
    (reqDns env key sel socks called).socks.readBuff = socks.readBuff := by
  rcases @reqDns_cases env key sel socks called with ⟨_,inert,_⟩ | ⟨_,_,_,dials⟩
  · exact inert.input
  · exact dials.input

theorem reqConnect_input : (reqConnect env key sel socks).socks.readBuff = socks.readBuff := by
  rcases @reqConnect_cases env key sel socks with ⟨_,_,_,_,out⟩ | ⟨inert,_⟩
  · rw [out]
    exact reqDns_input _
  · exact inert.input

theorem handler_drained {handler : StateHandler} (found : stateHandler kind socks.current = some handler)
    (outside : socks.current ≠ .copy) (clear : socks.readBuff.unread = [])
    (fits : kind = .read → pastEnd socks.current.messageLength (env.recv.clip socks.readBuff.space).bytes = false)
    (open_ : (handler env key sel socks).next ≠ .error) :
    (handler env key sel socks).socks.readBuff.unread = [] := by
  rcases stateHandler_cases found with ⟨was,read,rfl⟩ | ⟨_,_,rfl⟩ | ⟨was,read,rfl⟩ | ⟨_,_,rfl⟩ | ⟨was,read,rfl⟩ |
    ⟨_,_,rfl⟩ | ⟨_,_,rfl⟩ | ⟨_,_,rfl⟩ | ⟨was,_⟩
  · have within := fits read
    rw [was] at within
    refine readMessage_drained helloReader_parses ?_ clear within open_
    intro parsed called
    exact (replyTwo_inert .helloWrite _).1.input
  · rw [helloWrite,writeReply_input .helloWrite _ helloSent]
    · exact clear
    · intro sent called
      exact helloSent_inert.1.input
  · have within := fits read
    rw [was] at within
    refine readMessage_drained authReader_parses ?_ clear within open_
    intro parsed called
    exact authFinish_inert.1.input
  · rw [authWrite,writeReply_input .authWrite _ authSent]
    · exact clear
    · intro sent called
      exact authSent_inert.1.input
  · have within := fits read
    rw [was] at within
    refine readMessage_drained reqReader_parses ?_ clear within open_
    intro parsed called
    exact reqFinish_input called
  · rw [reqWrite,writeReply_input .reqWrite _ reqSent]
    · exact clear
    · intro sent called
      exact reqSent_inert.1.input
  · rw [reqDns_input]
    exact clear
  · rw [reqConnect_input]
    exact clear
  · exact absurd was outside

def Session.Drained (s : Session) : Prop :=
  ∀ socks, s.conn = some socks → socks.current ≠ .copy → socks.readBuff.unread = []

theorem event_drained (drained : s.Drained) (ran : sessionStep data s (.event kind fd env) = some next)
    (within : s.overruns (.event kind fd env) = false) (live : s.conn = some socks) (going : next.conn = some after)
    (outside : socks.current ≠ .copy) : after.readBuff.unread = [] := by
  obtain ⟨handler,found,same,_,_,_,open_,_⟩ := event_parts ran live going
  have input : after.readBuff = (handler env ⟨fd,data⟩ s.sel (handleFirst socks)).socks.readBuff := by
    rw [same]
    exact (jump_parts env _).2.2.2.2.2.1
  rw [input]
  refine @handler_drained (handleFirst socks) env _ _ kind _ found outside (drained socks live outside) ?_ open_
  rintro rfl
  rw [Session.overruns,live] at within
  exact within

theorem leaves_outside (drained : s.Drained) (ran : sessionStep data s e = some next)
    (within : s.overruns e = false) (live : s.conn = some socks) (going : next.conn = some after)
    (outside : socks.current ≠ .copy) : after.readBuff.unread = [] := by
  cases e with
  | event kind fd env => exact event_drained drained ran within live going outside
  | resolved addrs =>
      obtain ⟨conn,found,stored⟩ := Option.bind_eq_some_iff.mp ran
      rw [live] at found
      cases found
      split at stored
      · cases stored
        cases going
        exact drained socks live outside
      · cases stored
  | elsewhere other =>
      cases ran
      rw [live] at going
      cases going
      exact drained socks live outside

theorem step_origin (ran : sessionStep data s e = some next) (going : next.conn = some after) :
    ∃ socks, s.conn = some socks := by
  cases live : s.conn with
  | some socks => exact ⟨socks,rfl⟩
  | none =>
      cases e with
      | event kind fd env =>
          rw [sessionStep,live] at ran
          cases ran
      | resolved addrs =>
          rw [sessionStep,live] at ran
          cases ran
      | elsewhere other =>
          cases ran
          rw [live] at going
          cases going

theorem copy_stays (ran : sessionStep data s e = some next) (live : s.conn = some socks)
    (going : next.conn = some after) (copy : socks.current = .copy) : after.current = .copy := by
  cases e with
  | event kind fd env =>
      obtain ⟨handler,found,_,stm,_,_,open_,finished⟩ := event_parts ran live going
      have stays : (handler env ⟨fd,data⟩ s.sel (handleFirst socks)).next = .copy := by
        rw [copy] at found
        rcases stateHandler_cases found with ⟨was,_⟩ | ⟨was,_⟩ | ⟨was,_⟩ | ⟨was,_⟩ | ⟨was,_⟩ | ⟨was,_⟩ | ⟨was,_⟩ |
          ⟨was,_⟩ | ⟨_,⟨_,rfl⟩ | ⟨_,rfl⟩⟩
        · cases was
        · cases was
        · cases was
        · cases was
        · cases was
        · cases was
        · cases was
        · cases was
        · exact copyRead_next.resolve_right fun closing => closing.elim finished open_
        · exact copyWrite_next.resolve_right fun closing => closing.elim finished open_
      rw [SocksConnModel.current,stm,stays]
      rfl
  | resolved addrs =>
      obtain ⟨conn,found,stored⟩ := Option.bind_eq_some_iff.mp ran
      rw [live] at found
      cases found
      split at stored
      · rename_i dns
        rw [SocksConnModel.current,dns] at copy
        cases copy
      · cases stored
  | elsewhere other =>
      cases ran
      rw [live] at going
      cases going
      exact copy

theorem preserves_drained (drained : s.Drained) (ran : sessionStep data s e = some next)
    (within : s.overruns e = false) : next.Drained := by
  intro after going outside
  obtain ⟨socks,live⟩ := step_origin ran going
  by_cases copy : socks.current = .copy
  · exact absurd (copy_stays ran live going copy) outside
  · exact leaves_outside drained ran within live going copy

def withinStep (data : Nat) (s : Session) (e : SessionEvent) : Option Session :=
  if s.overruns e then none else sessionStep data s e

abbrev WithinRuns (data : Nat) := Transitions.Runs fun s e next => withinStep data s e = some next

theorem withinStep_parts (ran : withinStep data s e = some next) :
    s.overruns e = false ∧ sessionStep data s e = some next := by
  unfold withinStep at ran
  split at ran
  · cases ran
  · rename_i within
    exact ⟨by simpa using within,ran⟩

theorem runs_drained (path : WithinRuns data (newSession sel fd) events s) : s.Drained := by
  refine path.invariant ?_ ?_
  · intro socks live _
    cases live
    exact CertifiedBuffer.init_unread _
  · intro before label next drained ran
    obtain ⟨within,stepped⟩ := withinStep_parts ran
    exact preserves_drained drained stepped within

theorem entry_drained (path : WithinRuns data (newSession sel fd) events s)
    (ran : withinStep data s e = some next) (live : s.conn = some socks) (going : next.conn = some after)
    (enters : after.current ≠ socks.current) : after.readBuff.unread = [] := by
  obtain ⟨within,stepped⟩ := withinStep_parts ran
  refine leaves_outside (runs_drained path) stepped within live going ?_
  intro copy
  exact enters ((copy_stays stepped live going copy).trans copy.symm)

theorem opening_drained :
    ∃ s next socks after,
      Transitions.exec (withinStep 1) (newSession acceptedSelector 5) (opening [] ++ [originConnects]) = some s ∧
      withinStep 1 s (clientTakes .empty 10) = some next ∧ s.conn = some socks ∧ next.conn = some after ∧
      after.current = .copy ∧ after.readBuff.unread = [] := by
  have facts : ((Transitions.exec (withinStep 1) (newSession acceptedSelector 5) (opening [] ++ [originConnects])).bind
      fun s => (withinStep 1 s (clientTakes .empty 10)).map fun next =>
        (s.conn.map SocksConnModel.current,next.conn.map SocksConnModel.current)) =
          some (some .reqWrite,some .copy) := by decide +kernel
  obtain ⟨s,ran,rest⟩ := Option.bind_eq_some_iff.mp facts
  obtain ⟨next,stepped,states⟩ := Option.map_eq_some_iff.mp rest
  obtain ⟨before,later⟩ := Prod.mk.inj states
  obtain ⟨socks,live,writing⟩ := Option.map_eq_some_iff.mp before
  obtain ⟨after,going,copying⟩ := Option.map_eq_some_iff.mp later
  refine ⟨s,next,socks,after,ran,stepped,live,going,copying,?_⟩
  exact entry_drained (Transitions.exec_runs ran) stepped live going (by rw [writing,copying]; decide)

def Effect.spares (target : Int) : Effect → Bool
  | .send fd _ => decide (fd ≠ target)
  | _ => true

-- A byte for the origin right behind the request: COPY starts with it in read_buff and
-- sends it back to the client, before the first byte of the origin.
theorem byte_behind_request :
    ∃ s after, Transitions.exec (servedStep 1) (newSession acceptedSelector 5)
        (opening [0x41] ++ [originConnects,clientTakes .empty 10]) = some s ∧
      s.conn = some after ∧ after.current = .copy ∧ after.readBuff.unread = [0x41] ∧
      ∃ later, Transitions.exec (servedStep 1) s [originSends [0x42],clientTakes .empty 2] = some later ∧
        .send 5 [0x41,0x42] ∈ later.trace ∧ ∀ bytes, .send 6 bytes ∉ later.trace := by
  have facts : ((Transitions.exec (servedStep 1) (newSession acceptedSelector 5)
      (opening [0x41] ++ [originConnects,clientTakes .empty 10])).map fun s =>
        (s.conn.map (fun after => (after.current,after.readBuff.unread)),
        (Transitions.exec (servedStep 1) s [originSends [0x42],clientTakes .empty 2]).map fun later =>
          (decide (.send 5 [0x41,0x42] ∈ later.trace),later.trace.all (Effect.spares 6)))) =
      some (some (.copy,[0x41]),some (true,true)) := by decide +kernel
  obtain ⟨s,ran,found⟩ := Option.map_eq_some_iff.mp facts
  obtain ⟨entry,relayed⟩ := Prod.mk.inj found
  obtain ⟨after,going,left_⟩ := Option.map_eq_some_iff.mp entry
  obtain ⟨later,stepped,sent⟩ := Option.map_eq_some_iff.mp relayed
  obtain ⟨echoed,nothing⟩ := Prod.mk.inj sent
  refine ⟨s,after,ran,going,(Prod.mk.inj left_).1,(Prod.mk.inj left_).2,later,stepped,of_decide_eq_true echoed,?_⟩
  intro bytes member
  have other := List.all_eq_true.mp nothing _ member
  simp [Effect.spares] at other

end Socks5d
