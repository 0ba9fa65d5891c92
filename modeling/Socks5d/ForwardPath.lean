import Mathlib.Logic.Relation
import Socks5d.SessionAuth
import Socks5d.Server
import Socks5d.Isolation
import Socks5d.Fallback
import Socks5d.Deliveries

namespace Socks5d
open Holdings Scan Transitions

-- The states that the handlers of a state lead on to. ERROR and DONE may follow any.
def SocksState.leads : SocksState → List SocksState
  | .helloRead => [.helloWrite]
  | .helloWrite => [.authRead,.reqRead]
  | .authRead => [.authWrite]
  | .authWrite => [.reqRead]
  | .reqRead => [.reqDns,.reqConnect,.reqWrite]
  | .reqDns => [.reqConnect,.reqWrite]
  | .reqConnect => [.reqConnect,.reqWrite]
  | .reqWrite => [.copy]
  | _ => []

def SocksState.early : SocksState → Bool
  | .helloRead => true
  | .helloWrite => true
  | .authRead => true
  | .authWrite => true
  | .reqRead => true
  | _ => false

def SocksState.follows (state next : SocksState) : Prop := next = state ∨ next ∈ state.leads ∨ next.closing = true

structure Idles (socks : SocksConnModel) (out : Outcome) : Prop where
  keeps : Keeps socks out
  spare : out.socks.currAddr = socks.currAddr

structure Tries (env : Env) (socks : SocksConnModel) (dropped : List (Act Int)) (spare : List AddrInfo)
    (out : Outcome) : Prop where
  opens : Opens env socks dropped out
  spare : out.socks.currAddr = spare
  next : out.next = .reqConnect ∨ out.next = .reqWrite ∨ out.next = .error

inductive Advances (env : Env) (socks : SocksConnModel) (out : Outcome) : Prop where
  | idles : Idles socks out → out.next ≠ .reqConnect → socks.current.follows out.next → Advances env socks out
  | first : socks.current = .reqRead → Tries env socks [] socks.currAddr out → Advances env socks out
  | named (addr : AddrInfo) (spare : List AddrInfo) : socks.current = .reqDns → socks.currAddr = addr::spare →
      Tries env socks [] spare out → Advances env socks out
  | again (addr : AddrInfo) (spare : List AddrInfo) : socks.current = .reqConnect → socks.currAddr = addr::spare →
      Tries env socks [.drop socks.srcConn.socket] spare out → Advances env socks out
  -- every address failed: the last socket is closed and no other opened
  | exhausted : socks.current = .reqConnect → socks.currAddr = [] → out.socks.currAddr = [] →
      out.socks.cliConn = socks.cliConn → out.socks.srcConn.socket = socks.srcConn.socket →
      acts out.effects = [.drop socks.srcConn.socket] → out.next = .reqWrite ∨ out.next = .error → Advances env socks out

variable {env : Env} {key : SelectorKey} {sel : Selector} {socks first : SocksConnModel} {called : List Effect}
  {out : Outcome} {kind : EventKind} {π : Type} {dropped : List (Act Int)} {spare : List AddrInfo}

theorem manageReqError_spare (state : UInt8) : (manageReqError state sel socks called).socks.currAddr = socks.currAddr := by
  unfold manageReqError
  dsimp only
  split <;> rfl

theorem replyTwo_spare (next : SocksState) (reply : List UInt8) :
    (replyTwo next reply key sel socks called).socks.currAddr = socks.currAddr := by
  unfold replyTwo
  dsimp only
  split
  · rfl
  · split <;> rfl

theorem initConnection_spare : (initConnection env key sel socks called).socks.currAddr = socks.currAddr := by
  unfold initConnection
  dsimp only
  split
  · rfl
  · split
    · split
      · rfl
      · split <;> rfl
    · exact manageReqError_spare _

theorem setConnection_spare : (setConnection env key sel socks called).socks.currAddr = socks.currAddr := by
  unfold setConnection
  dsimp only
  split
  · exact initConnection_spare
  · split
    · exact initConnection_spare
    · split
      · split
        · exact manageReqError_spare _
        · split
          · exact manageReqError_spare _
          · rfl
      · rfl

theorem reqFinish_spare : (reqFinish env key sel socks called).socks.currAddr = socks.currAddr := by
  unfold reqFinish
  dsimp only
  split
  · exact setConnection_spare
  · split
    · exact manageReqError_spare _
    · split <;> rfl

theorem helloSent_spare : (helloSent key sel socks called).socks.currAddr = socks.currAddr :=
  congrArg SocksConnModel.currAddr (@helloSent_inert key sel socks called).2.2.1

theorem reqSent_spare : (reqSent key sel socks called).socks.currAddr = socks.currAddr := by
  unfold reqSent
  dsimp only
  split
  · rfl
  · split <;> rfl

theorem reqConnect_spare (quiet : ∀ code, env.soError = some code → code ≠ 0 → socks.parsers.reqParser.type ≠ fqdn) :
    (reqConnect env key sel socks).socks.currAddr = socks.currAddr := by
  obtain ⟨resolved,freed,cleaned,_⟩ := cleanResolvedAddr_parts socks
  unfold reqConnect
  cases optval : env.soError with
  | none =>
      dsimp only
      rw [cleaned]
      exact manageReqError_spare _
  | some code =>
      dsimp only
      split
      · rename_i failed
        rw [if_neg (quiet code optval failed)]
        exact manageReqError_spare _
      · rw [cleaned]
        dsimp only
        split
        · exact manageReqError_spare _
        · split
          · split
            · split <;> rfl
            · rfl
          · rfl

theorem copyReceived_spare (side : Side) : (copyReceived env side sel socks called).socks.currAddr = socks.currAddr := by
  unfold copyReceived copySniff
  dsimp only
  split
  · cases side <;> rfl
  · split
    · cases side <;> rfl
    · cases side <;> rfl

theorem copyEnded_spare (side : Side) : (copyEnded side sel socks called).socks.currAddr = socks.currAddr := by
  unfold copyEnded
  dsimp only
  split
  · cases side <;> rfl
  · cases side <;> rfl

theorem copyRead_spare : (copyRead env key sel socks).socks.currAddr = socks.currAddr := by
  unfold copyRead
  split
  · rfl
  · rename_i side _
    dsimp only
    split
    · split
      · cases side <;> rfl
      · split
        · rw [copyReceived_spare]
          cases side <;> rfl
        · rw [copyEnded_spare]
          cases side <;> rfl
    · unfold copyFull
      cases side <;> rfl

theorem copyWrite_spare : (copyWrite env key sel socks).socks.currAddr = socks.currAddr := by
  unfold copyWrite
  split
  · rfl
  · rename_i side _
    dsimp only
    split
    · split
      · cases side <;> rfl
      · cases side <;> rfl
    · split
      · cases side <;> rfl
      · cases side <;> rfl

theorem idles_from (idles : Idles first out) (client : first.cliConn = socks.cliConn) (origin : first.srcConn = socks.srcConn)
    (family : first.srcAddrFamily = socks.srcAddrFamily) (spare : first.currAddr = socks.currAddr) : Idles socks out :=
  ⟨keeps_trans ⟨client,origin,family⟩ idles.keeps,idles.spare.trans spare⟩

theorem closes_follows {state next : SocksState} (closes : next.closing = true) : state.follows next := .inr (.inr closes)

theorem dialled_follows {state next : SocksState} (dialled : next = .reqConnect ∨ next = .reqWrite ∨ next = .error)
    (connects : .reqConnect ∈ state.leads) (tells : .reqWrite ∈ state.leads) : state.follows next := by
  rcases dialled with rfl | rfl | rfl
  · exact .inr (.inl connects)
  · exact .inr (.inl tells)
  · exact closes_follows rfl

theorem dials_tries (plain : ∀ effect ∈ called, effect.plain = true) {family : Nat}
    (dials : Dials env socks called family out) (stated : family ≠ afUnspec) (left : out.socks.currAddr = spare) :
    Tries env socks [] spare out := by
  have opens := dials_opens dials stated
  rw [acts_plain plain] at opens
  exact ⟨opens,left,dials.next⟩

theorem readMessage_advances {r : Reader π} {finish : Env → SelectorKey → Selector → SocksConnModel → List Effect → Outcome}
    (stays : r.stay = socks.current) (away : socks.current ≠ .reqConnect)
    (finishes : ∀ parsed called, parsed.current = socks.current → parsed.currAddr = socks.currAddr →
      (∀ effect ∈ called, effect.plain = true) →
      (Idles parsed (finish env key sel parsed called) ∧ (finish env key sel parsed called).next ≠ .reqConnect ∧
        socks.current.follows (finish env key sel parsed called).next) ∨
      (socks.current = .reqRead ∧ Tries env parsed [] parsed.currAddr (finish env key sel parsed called))) :
    Advances env socks (readMessage r finish env key sel socks) := by
  rcases readMessage_cases r finish env key sel socks with ⟨_,none⟩ | ⟨bytes,buff,_,_,_,out⟩
  · rw [none]
    exact .idles ⟨⟨rfl,rfl,rfl,plain_one rfl⟩,rfl⟩ (by simp) (.inr (.inr rfl))
  · rw [out]
    split
    · exact .idles ⟨⟨rfl,rfl,rfl,plain_one rfl⟩,rfl⟩ (by simp) (.inr (.inr rfl))
    · split
      · have plain : ∀ effect ∈ [Effect.recv socks.cliConn.socket (.data bytes)], effect.plain = true := plain_one rfl
        rcases finishes {socks with
          parsers:=r.put socks.parsers (scan (r.advance env.users.requireAuth) r.halted
            (r.init (r.get socks.parsers)) (socks.readBuff.unread ++ bytes)).1
          readBuff:=buff} _ rfl rfl plain with ⟨idles,other,follows⟩ | ⟨reads,tries⟩
        · exact .idles (idles_from idles rfl rfl rfl rfl) other follows
        · obtain ⟨client,origin,family,moved,went⟩ := tries.opens
          exact .first reads ⟨⟨client,origin,family,moved,went⟩,tries.spare,tries.next⟩
      · exact .idles ⟨⟨rfl,rfl,rfl,plain_one rfl⟩,rfl⟩ (by dsimp only; rw [stays]; exact away) (.inl stays)

theorem writeReply_advances {stay : SocksState} {logged : Env → SocksConnModel → List Effect}
    {finish : SelectorKey → Selector → SocksConnModel → List Effect → Outcome} (stays : stay = socks.current)
    (away : socks.current ≠ .reqConnect) (logs : ∀ sent, ∀ effect ∈ logged env sent, effect.plain = true)
    (finishes : ∀ sent called, (∀ effect ∈ called, effect.plain = true) → Idles sent (finish key sel sent called) ∧
      (finish key sel sent called).next ≠ .reqConnect ∧ socks.current.follows (finish key sel sent called).next) :
    Advances env socks (writeReply stay logged finish env key sel socks) := by
  rcases writeReply_cases stay logged finish env key sel socks with none | ⟨count,_,out⟩
  · rw [none]
    exact .idles ⟨⟨rfl,rfl,rfl,plain_one rfl⟩,rfl⟩ (by simp) (.inr (.inr rfl))
  · have plain : ∀ effect ∈ [Effect.send socks.cliConn.socket (socks.writeBuff.unread.take count)] ++
        logged env {socks with writeBuff:=socks.writeBuff.consume count}, effect.plain = true := by
      intro effect member
      rcases List.mem_append.mp member with sent | note
      · exact plain_one rfl effect sent
      · exact logs _ effect note
    rw [out]
    split
    · exact .idles ⟨⟨rfl,rfl,rfl,plain⟩,rfl⟩ (by dsimp only; rw [stays]; exact away) (.inl stays)
    · obtain ⟨idles,other,follows⟩ := finishes {socks with writeBuff:=socks.writeBuff.consume count} _ plain
      exact .idles (idles_from idles rfl rfl rfl rfl) other follows

theorem helloRead_advances (state : socks.current = .helloRead) : Advances env socks (helloRead env key sel socks) := by
  refine readMessage_advances (by rw [state]; rfl) (by rw [state]; simp) ?_
  intro parsed called _ _ plain
  obtain ⟨inert,next,_⟩ := @replyTwo_inert key sel parsed called .helloWrite
    [socksVersion,parsed.parsers.connectParser.auth]
  refine .inl ⟨⟨inert_keeps plain inert,replyTwo_spare _ _⟩,?_⟩
  unfold helloFinish
  rw [state]
  rcases next with next | next
  · rw [next]
    exact ⟨by simp,.inr (.inl (by decide))⟩
  · rw [next]
    exact ⟨by simp,closes_follows rfl⟩

theorem authRead_advances (state : socks.current = .authRead) : Advances env socks (authRead env key sel socks) := by
  refine readMessage_advances (by rw [state]; rfl) (by rw [state]; simp) ?_
  intro parsed called _ _ plain
  obtain ⟨inert,_,next⟩ := @authFinish_inert env key sel parsed called
  refine .inl ⟨⟨inert_keeps plain inert,replyTwo_spare _ _⟩,?_⟩
  rw [state]
  rcases next with next | next
  · rw [next]
    exact ⟨by simp,.inr (.inl (by decide))⟩
  · rw [next]
    exact ⟨by simp,closes_follows rfl⟩

theorem reqRead_advances (state : socks.current = .reqRead) : Advances env socks (reqRead env key sel socks) := by
  refine readMessage_advances (by rw [state]; rfl) (by rw [state]; simp) ?_
  intro parsed called _ _ plain
  rcases @reqFinish_cases env key sel parsed called with ⟨inert,next⟩ | ⟨family,stated,dials⟩
  · refine .inl ⟨⟨inert_keeps plain inert,reqFinish_spare⟩,?_⟩
    rw [state]
    rcases next with next | next | next | next
    · rw [next]
      exact ⟨by simp,.inr (.inl (by decide))⟩
    · rw [next]
      exact ⟨by simp,.inr (.inl (by decide))⟩
    · rw [next]
      exact ⟨by simp,closes_follows rfl⟩
    · rw [next]
      exact ⟨by simp,closes_follows rfl⟩
  · exact .inr ⟨state,dials_tries plain dials stated reqFinish_spare⟩

theorem helloWrite_advances (state : socks.current = .helloWrite) : Advances env socks (helloWrite env key sel socks) := by
  refine writeReply_advances state.symm (by rw [state]; simp) (by simp) ?_
  intro sent called plain
  obtain ⟨inert,_,_,next⟩ := @helloSent_inert key sel sent called
  refine ⟨⟨inert_keeps plain inert,helloSent_spare⟩,?_⟩
  rw [state]
  rcases next with ⟨next,_⟩ | ⟨next,_⟩ | next | next
  · rw [next]
    exact ⟨by simp,.inr (.inl (by decide))⟩
  · rw [next]
    exact ⟨by simp,.inr (.inl (by decide))⟩
  · rw [next]
    exact ⟨by simp,closes_follows rfl⟩
  · rw [next]
    exact ⟨by simp,closes_follows rfl⟩

theorem authWrite_advances (state : socks.current = .authWrite) : Advances env socks (authWrite env key sel socks) := by
  refine writeReply_advances state.symm (by rw [state]; simp) (by simp) ?_
  intro sent called plain
  obtain ⟨inert,next⟩ := @authSent_inert key sel sent called
  refine ⟨⟨inert_keeps plain inert,rfl⟩,?_⟩
  rw [state]
  rcases next with next | next
  · rw [next]
    exact ⟨by simp,.inr (.inl (by decide))⟩
  · rw [next]
    exact ⟨by simp,closes_follows rfl⟩

theorem reqWrite_advances (state : socks.current = .reqWrite) : Advances env socks (reqWrite env key sel socks) := by
  refine writeReply_advances state.symm (by rw [state]; simp)
    (fun sent => @plain_one (connInformation env sent) rfl) ?_
  intro sent called plain
  obtain ⟨inert,next⟩ := @reqSent_inert key sel sent called
  refine ⟨⟨inert_keeps plain inert,reqSent_spare⟩,?_⟩
  rw [state]
  rcases next with next | next | next
  · rw [next]
    exact ⟨by simp,.inr (.inl (by decide))⟩
  · rw [next]
    exact ⟨by simp,closes_follows rfl⟩
  · rw [next]
    exact ⟨by simp,closes_follows rfl⟩

theorem reqDns_advances (state : socks.current = .reqDns) : Advances env socks (reqDns env key sel socks []) := by
  rcases @reqDns_cases env key sel socks [] with ⟨empty,inert,next⟩ | ⟨addr,spare,listed,dials⟩
  · have spare : (reqDns env key sel socks []).socks.currAddr = socks.currAddr := by
      unfold reqDns
      rw [empty]
      dsimp only
      split
      · exact manageReqError_spare _
      · exact (manageReqError_spare _).trans empty
    refine .idles ⟨inert_keeps (by simp) inert,spare⟩ ?_ ?_
    · rcases next with next | next <;> simp [next]
    · rw [state]
      exact dialled_follows (.inr next) (by decide) (by decide)
  · have left : (reqDns env key sel socks []).socks.currAddr = spare := by
      unfold reqDns
      rw [listed]
      exact initConnection_spare
    exact .named addr spare state listed (dials_tries (by simp) dials addr.stated left)

theorem reqConnect_advances (state : socks.current = .reqConnect) : Advances env socks (reqConnect env key sel socks) := by
  by_cases redials : ∃ code, env.soError = some code ∧ code ≠ 0 ∧ socks.parsers.reqParser.type = fqdn
  · obtain ⟨code,error,failed,named⟩ := redials
    have out : reqConnect env key sel socks =
        reqDns env key (selectorUnregisterFd sel socks.srcConn.socket).2 socks [.close socks.srcConn.socket] := by
      unfold reqConnect
      rw [error]
      dsimp only
      rw [if_pos failed,if_pos named]
    rw [out]
    rcases @reqDns_cases env key (selectorUnregisterFd sel socks.srcConn.socket).2 socks
      [.close socks.srcConn.socket] with ⟨empty,inert,next⟩ | ⟨addr,spare,listed,dials⟩
    · obtain ⟨more,grown,plain⟩ := inert.grown
      refine .exhausted state empty ?_ inert.client inert.origin ?_ next
      · unfold reqDns
        rw [empty]
        dsimp only
        split
        · exact manageReqError_spare _
        · exact (manageReqError_spare _).trans empty
      · rw [grown,acts_append,acts_plain plain]
        rfl
    · refine .again addr spare state listed ⟨dials_opens dials addr.stated,?_,dials.next⟩
      unfold reqDns
      rw [listed]
      exact initConnection_spare
  · have quiet : ∀ code, env.soError = some code → code ≠ 0 → socks.parsers.reqParser.type ≠ fqdn :=
      fun code error failed named => redials ⟨code,error,failed,named⟩
    rcases @reqConnect_cases env key sel socks with ⟨code,error,failed,named,_⟩ | ⟨inert,next⟩
    · exact absurd named (quiet code error failed)
    · refine .idles ⟨inert_keeps (by simp) inert,reqConnect_spare quiet⟩ ?_ ?_
      · rcases next with next | next <;> simp [next]
      · rw [state]
        exact dialled_follows (.inr next) (by decide) (by decide)

theorem handler_advances {handler : StateHandler} (found : stateHandler kind socks.current = some handler) :
    Advances env socks (handler env key sel socks) := by
  rcases stateHandler_cases found with ⟨state,_,rfl⟩ | ⟨state,_,rfl⟩ | ⟨state,_,rfl⟩ | ⟨state,_,rfl⟩ | ⟨state,_,rfl⟩ |
    ⟨state,_,rfl⟩ | ⟨state,_,rfl⟩ | ⟨state,_,rfl⟩ | ⟨state,⟨_,rfl⟩ | ⟨_,rfl⟩⟩
  · exact helloRead_advances state
  · exact helloWrite_advances state
  · exact authRead_advances state
  · exact authWrite_advances state
  · exact reqRead_advances state
  · exact reqWrite_advances state
  · exact reqDns_advances state
  · exact reqConnect_advances state
  · refine .idles ⟨copyRead_keeps,copyRead_spare⟩ ?_ ?_
    · rcases @copyRead_next env key sel socks with next | next | next <;> simp [next]
    · rw [state]
      rcases @copyRead_next env key sel socks with next | next | next
      · exact .inl next
      · exact closes_follows (by rw [next]; rfl)
      · exact closes_follows (by rw [next]; rfl)
  · refine .idles ⟨copyWrite_keeps,copyWrite_spare⟩ ?_ ?_
    · rcases @copyWrite_next env key sel socks with next | next | next <;> simp [next]
    · rw [state]
      rcases @copyWrite_next env key sel socks with next | next | next
      · exact .inl next
      · exact closes_follows (by rw [next]; rfl)
      · exact closes_follows (by rw [next]; rfl)

theorem advances_follows (advances : Advances env socks out) : socks.current.follows out.next := by
  cases advances with
  | idles _ _ follows => exact follows
  | first state tries =>
      rw [state]
      exact dialled_follows tries.next (by decide) (by decide)
  | named _ _ state _ tries =>
      rw [state]
      exact dialled_follows tries.next (by decide) (by decide)
  | again _ _ state _ tries =>
      rw [state]
      exact dialled_follows tries.next (by decide) (by decide)
  | exhausted state _ _ _ _ _ next =>
      rw [state]
      exact dialled_follows (.inr next) (by decide) (by decide)

def isTake : Act Int → Bool
  | .take _ => true
  | .drop _ => false

def dialled (effects : List Effect) : Nat := (acts effects).countP isTake

theorem dialled_append (earlier later : List Effect) : dialled (earlier ++ later) = dialled earlier + dialled later := by
  rw [dialled,acts_append,List.countP_append]
  rfl

theorem dialled_plain {effects : List Effect} (plain : ∀ effect ∈ effects, effect.plain = true) : dialled effects = 0 := by
  rw [dialled,acts_plain plain]
  rfl

theorem replyTwo_silent (next : SocksState) (reply : List UInt8) (silent : resolveCalls called = 0) :
    resolveCalls (replyTwo next reply key sel socks called).effects = 0 := by
  rw [(@replyTwo_inert key sel socks called next reply).2.2.1,silent]

theorem authFinish_silent (silent : resolveCalls called = 0) :
    resolveCalls (authFinish env key sel socks called).effects = 0 := by
  refine replyTwo_silent _ _ ?_
  rw [resolveCalls_append]
  split
  · exact silent_more silent rfl
  · exact silent_more silent rfl

theorem reqSent_silent (silent : resolveCalls called = 0) : resolveCalls (reqSent key sel socks called).effects = 0 := by
  unfold reqSent
  dsimp only
  split
  · exact silent
  · split
    · exact silent
    · exact silent

theorem manageReqError_silent (state : UInt8) (silent : resolveCalls called = 0) :
    resolveCalls (manageReqError state sel socks called).effects = 0 := by
  rw [manageReqError_effects,silent]

theorem initConnection_silent (silent : resolveCalls called = 0) :
    resolveCalls (initConnection env key sel socks called).effects = 0 := by
  obtain ⟨addr,grown⟩ := (@initConnection_dials env key sel socks called).opened
  rw [grown,resolveCalls_append,silent]
  split
  · rfl
  · rfl

theorem reqDns_silent (silent : resolveCalls called = 0) : resolveCalls (reqDns env key sel socks called).effects = 0 := by
  unfold reqDns
  split
  · split
    · exact manageReqError_silent _ (silent_more silent rfl)
    · exact manageReqError_silent _ silent
  · exact initConnection_silent silent

theorem reqConnect_silent : resolveCalls (reqConnect env key sel socks).effects = 0 := by
  have silent : resolveCalls (cleanResolvedAddr socks).2 = 0 := (cleaned_silent socks).1
  unfold reqConnect
  split
  · split
    · split
      · exact reqDns_silent rfl
      · exact manageReqError_silent _ rfl
    · dsimp only
      split
      · exact manageReqError_silent _ silent
      · split
        · split
          · split
            · exact silent
            · exact silent
          · exact silent
        · exact silent
  · exact manageReqError_silent _ silent

theorem readMessage_silent {r : Reader π} {finish : Env → SelectorKey → Selector → SocksConnModel → List Effect → Outcome}
    (finishes : ∀ parsed called, resolveCalls called = 0 →
      resolveCalls (finish env key sel parsed called).effects = 0) :
    resolveCalls (readMessage r finish env key sel socks).effects = 0 := by
  rcases readMessage_cases r finish env key sel socks with ⟨_,none_⟩ | ⟨bytes,buff,_,_,_,out⟩
  · rw [none_]
    rfl
  · rw [out]
    split
    · rfl
    · split
      · exact finishes _ _ rfl
      · rfl

theorem writeReply_silent {stay : SocksState} {logged : Env → SocksConnModel → List Effect}
    {finish : SelectorKey → Selector → SocksConnModel → List Effect → Outcome}
    (logs : ∀ sent, resolveCalls (logged env sent) = 0)
    (finishes : ∀ sent called, resolveCalls called = 0 → resolveCalls (finish key sel sent called).effects = 0) :
    resolveCalls (writeReply stay logged finish env key sel socks).effects = 0 := by
  rcases writeReply_cases stay logged finish env key sel socks with none_ | ⟨count,_,out⟩
  · rw [none_]
    rfl
  · have silent : resolveCalls ([Effect.send socks.cliConn.socket (socks.writeBuff.unread.take count)] ++
        logged env {socks with writeBuff:=socks.writeBuff.consume count}) = 0 := by
      rw [resolveCalls_append,logs]
      rfl
    rw [out]
    split
    · exact silent
    · exact finishes _ _ silent

theorem handler_silent {handler : StateHandler} (found : stateHandler kind socks.current = some handler)
    (other : socks.current ≠ .reqRead) : resolveCalls (handler env key sel socks).effects = 0 := by
  rcases stateHandler_cases found with ⟨_,_,rfl⟩ | ⟨_,_,rfl⟩ | ⟨_,_,rfl⟩ | ⟨_,_,rfl⟩ | ⟨state,_,_⟩ |
    ⟨_,_,rfl⟩ | ⟨_,_,rfl⟩ | ⟨_,_,rfl⟩ | ⟨_,⟨_,rfl⟩ | ⟨_,rfl⟩⟩
  · exact readMessage_silent (fun _ _ => replyTwo_silent _ _)
  · exact writeReply_silent (fun _ => rfl) fun _ _ silent => by rw [helloSent_inert.2.1,silent]
  · exact readMessage_silent (fun _ _ => authFinish_silent)
  · exact writeReply_silent (fun _ => rfl) fun _ _ silent => silent
  · exact absurd state other
  · exact writeReply_silent (fun _ => rfl) (fun _ _ => reqSent_silent)
  · exact reqDns_silent rfl
  · exact reqConnect_silent
  · exact copyRead_silent
  · exact copyWrite_silent

-- req_read either starts the thread and calls socket() not at all, or starts none and goes
-- on to something else than REQ_DNS.
structure Asks (out : Outcome) : Prop where
  silent : resolveCalls out.effects = 0 → out.next ≠ .reqDns
  instead : resolveCalls out.effects ≠ 0 → dialled out.effects = 0 ∧ ¬ out.next.early = true

theorem silent_asks (silent : resolveCalls out.effects = 0) (other : out.next ≠ .reqDns) : Asks out :=
  ⟨fun _ => other,fun calls => absurd silent calls⟩

theorem refused_asks (state : UInt8) (silent : resolveCalls called = 0) :
    Asks (manageReqError state sel socks called) := by
  refine silent_asks (manageReqError_silent state silent) ?_
  rcases (@manageReqError_inert sel socks called state).2 with next | next <;> simp [next]

theorem dials_asks (silent : resolveCalls called = 0) : Asks (initConnection env key sel socks called) := by
  refine silent_asks (initConnection_silent silent) ?_
  rcases (@initConnection_dials env key sel socks called).next with next | next | next <;> simp [next]

theorem setConnection_asks (silent : resolveCalls called = 0) (plain : ∀ effect ∈ called, effect.plain = true) :
    Asks (setConnection env key sel socks called) := by
  unfold setConnection
  dsimp only
  split
  · exact dials_asks silent
  · split
    · exact dials_asks silent
    · split
      · split
        · exact refused_asks _ silent
        · split
          · exact refused_asks _ silent
          · refine ⟨?_,?_⟩
            · intro none_
              rw [resolveCalls_append] at none_
              cases (Nat.add_eq_zero_iff.mp none_).2
            · intro _
              refine ⟨?_,?_⟩
              · rw [dialled_append,dialled_plain plain]
                rfl
              · dsimp only
                split
                · decide
                · decide
      · exact silent_asks silent (by simp)

theorem reqFinish_asks (silent : resolveCalls called = 0) (plain : ∀ effect ∈ called, effect.plain = true) :
    Asks (reqFinish env key sel socks called) := by
  unfold reqFinish
  dsimp only
  split
  · exact setConnection_asks silent plain
  · split
    · exact refused_asks _ silent
    · split
      · exact silent_asks silent (by simp)
      · exact silent_asks silent (by simp)

theorem reqRead_asks : Asks (reqRead env key sel socks) := by
  unfold reqRead
  rcases readMessage_cases reqReader reqFinish env key sel socks with ⟨_,none_⟩ | ⟨bytes,buff,_,_,_,out⟩
  · rw [none_]
    exact silent_asks rfl (by simp)
  · rw [out]
    split
    · exact silent_asks rfl (by simp)
    · split
      · exact reqFinish_asks rfl (plain_one rfl)
      · exact silent_asks rfl (by simp [reqReader])

inductive Resolves (state : SocksState) (out : Outcome) : Prop where
  | silent : state ≠ .reqRead → resolveCalls out.effects = 0 → Resolves state out
  | reads : state = .reqRead → Asks out → Resolves state out

theorem handler_resolves {handler : StateHandler} (found : stateHandler kind socks.current = some handler) :
    Resolves socks.current (handler env key sel socks) := by
  by_cases reads : socks.current = .reqRead
  · refine .reads reads ?_
    rw [reads] at found
    cases kind with
    | read =>
        cases found
        exact reqRead_asks
    | write => cases found
    | block => cases found
  · exact .silent reads (handler_silent found reads)

inductive Leaves (out : Outcome) (served : Served) : Prop where
  | going (after : SocksConnModel) : served.socks = some after → out.next.closing = false → after.current = out.next →
      after.cliConn = out.socks.cliConn → after.srcConn = out.socks.srcConn →
      after.srcAddrFamily = out.socks.srcAddrFamily → after.currAddr = out.socks.currAddr →
      served.effects = out.effects → Leaves out served
  | closed (sel : Selector) (last : SocksConnModel) : served.socks = none → last.cliConn = out.socks.cliConn →
      last.srcConn = out.socks.srcConn → served.effects = out.effects ++ (closeSocksConn sel last).2 → Leaves out served

theorem served_advances {served : Served} (ran : socksConnEvent kind env key sel socks = some served) :
    ∃ out, Advances env (handleFirst socks) out ∧ Resolves socks.current out ∧ Leaves out served := by
  obtain ⟨result,handled,rfl⟩ := Option.map_eq_some_iff.mp ran
  obtain ⟨handler,found,rfl⟩ := Option.map_eq_some_iff.mp handled
  refine ⟨handler env key sel (handleFirst socks),@handler_advances env key sel (handleFirst socks) kind handler found,
    @handler_resolves env key sel (handleFirst socks) kind handler found,?_⟩
  obtain ⟨_,effects,next,stm,_,_,_,client,origin,family,_,spare⟩ :=
    jump_parts env (handler env key sel (handleFirst socks))
  unfold checkState
  split
  · exact .closed _ _ rfl client origin (by rw [effects])
  · rename_i going
    rw [next] at going
    refine .going _ rfl ?_ ?_ client origin family spare effects
    · cases state : (handler env key sel (handleFirst socks)).next with
      | error => rw [state] at going; exact absurd rfl going
      | done => rw [state] at going; exact absurd rfl going
      | _ => rfl
    · rw [SocksConnModel.current,stm]
      rfl

def SocksState.forward (state next : SocksState) : Prop := next ∈ state.leads

variable {data id n : Nat} {s next : Session} {e : SessionEvent} {after : SocksConnModel} {moves : List SessionEvent}

theorem step_forward (ran : servedStep data s e = some next) (live : next.conn = some after) :
    ∃ before, s.conn = some before ∧ (after.current = before.current ∨ before.current.forward after.current) := by
  unfold servedStep at ran
  split at ran
  · cases e with
    | event kind fd env =>
        obtain ⟨socks,held,ran⟩ := Option.bind_eq_some_iff.mp ran
        obtain ⟨served,handled,rfl⟩ := Option.map_eq_some_iff.mp ran
        obtain ⟨out,advances,_,leaves⟩ := served_advances handled
        cases leaves with
        | going later kept open_ state =>
            cases Option.some.inj (live.symm.trans kept)
            refine ⟨socks,held,?_⟩
            rw [state]
            rcases advances_follows advances with same | leads | closes
            · exact .inl same
            · exact .inr leads
            · rw [open_] at closes
              cases closes
        | closed _ _ gone => cases live.symm.trans gone
    | resolved addrs =>
        obtain ⟨socks,held,ran⟩ := Option.bind_eq_some_iff.mp ran
        split at ran
        · cases ran
          cases live
          exact ⟨socks,held,.inl rfl⟩
        · cases ran
    | elsewhere sel =>
        cases ran
        exact ⟨after,live,.inl rfl⟩
  · cases ran

theorem exec_forward {last : Session} (ran : exec (servedStep data) s moves = some last) (live : last.conn = some after) :
    ∃ before, s.conn = some before ∧ Relation.ReflTransGen SocksState.forward before.current after.current := by
  induction moves generalizing s with
  | nil =>
      cases ran
      exact ⟨after,live,.refl⟩
  | cons move rest ih =>
      obtain ⟨middle,first,remaining⟩ := Option.bind_eq_some_iff.mp ran
      obtain ⟨between,held,onward⟩ := ih remaining
      obtain ⟨before,opened,same | leads⟩ := step_forward first held
      · exact ⟨before,opened,same ▸ onward⟩
      · exact ⟨before,opened,.head leads onward⟩

theorem dialled_close (sel : Selector) (socks : SocksConnModel) : dialled (closeSocksConn sel socks).2 = 0 := by
  rw [dialled,close_acts]
  split <;> split <;> rfl

theorem tries_dialled (tries : Tries env socks dropped spare out) (few : dropped.countP isTake = 0) :
    dialled out.effects ≤ 1 := by
  rw [dialled,tries.opens.moved,List.countP_append,few]
  split <;> simp [isTake]

-- What a connection with these calls may be given: an address that the client gave is
-- dialled once, a name that went to the resolver as often as it has addresses.
def allowance (n : Nat) (effects : List Effect) : Nat := if resolveCalls effects = 0 then 1 else n

theorem allowance_silent (earlier : List Effect) {later : List Effect} (silent : resolveCalls later = 0) :
    allowance n (earlier ++ later) = allowance n earlier := by
  rw [allowance,resolveCalls_append,silent]
  rfl

theorem close_resolves (sel : Selector) (socks : SocksConnModel) : resolveCalls (closeSocksConn sel socks).2 = 0 := by
  unfold closeSocksConn
  dsimp only
  rw [resolveCalls_append,resolveCalls_append]
  split <;> split <;> split <;> rfl

-- A connection never gets more sockets than its allowance, and none before its request is
-- read: every further one costs it an address.
structure Session.Sparing (n : Nat) (s : Session) : Prop where
  total : dialled s.trace ≤ allowance n s.trace
  early : ∀ socks, s.conn = some socks → socks.current.early = true →
    dialled s.trace = 0 ∧ resolveCalls s.trace = 0 ∧ socks.currAddr = []
  waiting : ∀ socks, s.conn = some socks → socks.current = .reqDns →
    dialled s.trace = 0 ∧ resolveCalls s.trace ≠ 0 ∧ socks.currAddr.length ≤ n
  left : ∀ socks, s.conn = some socks → dialled s.trace + socks.currAddr.length ≤ allowance n s.trace

theorem new_sparing (sel : Selector) (fd : Int) : (newSession sel fd).Sparing n := by
  refine ⟨Nat.zero_le _,?_,?_,?_⟩
  · intro socks live _
    cases live
    exact ⟨rfl,rfl,rfl⟩
  · intro socks live waiting
    cases live
    cases waiting
  · intro socks live
    cases live
    exact Nat.zero_le _

theorem early_before {state next : SocksState} (follows : state.follows next) (early : next.early = true) :
    state.early = true := by
  rcases follows with rfl | leads | closes
  · exact early
  · cases state <;> cases next <;> first | rfl | exact absurd leads (by decide) | exact absurd early (by decide)
  · cases next <;> first | exact absurd early (by decide) | exact absurd closes (by decide)

theorem dns_before {state next : SocksState} (follows : state.follows next) (dns : next = .reqDns) :
    state = .reqRead ∨ state = .reqDns := by
  subst dns
  rcases follows with same | leads | closes
  · exact .inr same.symm
  · cases state <;> first | exact .inl rfl | exact absurd leads (by decide)
  · cases closes

theorem advances_sparing {socks : SocksConnModel} {trace : List Effect} (sparing : Session.Sparing n ⟨sel,some socks,trace⟩)
    (advances : Advances env (handleFirst socks) out) (resolves : Resolves socks.current out) :
    dialled (trace ++ out.effects) + out.socks.currAddr.length ≤ allowance n (trace ++ out.effects) ∧
    (out.next.early = true → dialled (trace ++ out.effects) = 0 ∧ resolveCalls (trace ++ out.effects) = 0 ∧
      out.socks.currAddr = []) ∧
    (out.next = .reqDns → dialled (trace ++ out.effects) = 0 ∧ resolveCalls (trace ++ out.effects) ≠ 0 ∧
      out.socks.currAddr.length ≤ n) := by
  have left : dialled trace + socks.currAddr.length ≤ allowance n trace := sparing.left socks rfl
  have early : socks.current.early = true → dialled trace = 0 ∧ resolveCalls trace = 0 ∧ socks.currAddr = [] :=
    sparing.early socks rfl
  have waiting : socks.current = .reqDns → dialled trace = 0 ∧ resolveCalls trace ≠ 0 ∧ socks.currAddr.length ≤ n :=
    sparing.waiting socks rfl
  have quiet : socks.current ≠ .reqRead → resolveCalls out.effects = 0 := by
    intro other
    cases resolves with
    | silent _ silent => exact silent
    | reads state _ => exact absurd state other
  have later : ∀ {next : SocksState}, next = .reqConnect ∨ next = .reqWrite ∨ next = .error →
      ¬ next.early = true ∧ next ≠ .reqDns := by
    rintro next (rfl | rfl | rfl) <;> decide
  rw [dialled_append]
  cases advances with
  | idles idles _ follows =>
      have kept : out.socks.currAddr = socks.currAddr := idles.spare
      rw [dialled_plain idles.keeps.plain,kept,Nat.add_zero]
      cases resolves with
      | silent other silent =>
          rw [allowance_silent _ silent,resolveCalls_append,silent,Nat.add_zero]
          refine ⟨left,fun soon => early (early_before follows soon),?_⟩
          intro dns
          exact waiting ((dns_before follows dns).resolve_left other)
      | reads state asks =>
          obtain ⟨none_,unasked,empty⟩ := early (by rw [state]; rfl)
          rw [resolveCalls_append,unasked,Nat.zero_add,none_,empty]
          refine ⟨Nat.zero_le _,fun soon => ⟨rfl,?_,rfl⟩,fun dns => ⟨rfl,?_,Nat.zero_le _⟩⟩
          · by_contra calls
            exact (asks.instead calls).2 soon
          · exact fun silent => asks.silent silent dns
  | first state tries =>
      have state : socks.current = .reqRead := state
      have asks : Asks out := by
        cases resolves with
        | silent other _ => exact absurd state other
        | reads _ asks => exact asks
      obtain ⟨none_,unasked,empty⟩ := early (by rw [state]; rfl)
      have once := tries_dialled tries rfl
      have spare : out.socks.currAddr = [] := tries.spare.trans empty
      obtain ⟨notEarly,notDns⟩ := later tries.next
      refine ⟨?_,fun soon => absurd soon notEarly,fun dns => absurd dns notDns⟩
      rw [allowance,resolveCalls_append,unasked,none_,spare,List.length_nil,Nat.zero_add]
      by_cases silent : resolveCalls out.effects = 0
      · rw [Nat.zero_add,if_pos silent]
        exact once
      · rw [(asks.instead silent).1]
        exact Nat.zero_le _
  | named addr spare state listed tries =>
      have state : socks.current = .reqDns := state
      obtain ⟨none_,asked,few⟩ := waiting state
      have once := tries_dialled tries rfl
      have length : socks.currAddr.length = spare.length + 1 := congrArg List.length listed
      obtain ⟨notEarly,notDns⟩ := later tries.next
      refine ⟨?_,fun soon => absurd soon notEarly,fun dns => absurd dns notDns⟩
      rw [allowance_silent _ (quiet (by rw [state]; simp)),none_,tries.spare]
      omega
  | again addr spare state listed tries =>
      have state : socks.current = .reqConnect := state
      have once := tries_dialled tries rfl
      have length : socks.currAddr.length = spare.length + 1 := congrArg List.length listed
      obtain ⟨notEarly,notDns⟩ := later tries.next
      refine ⟨?_,fun soon => absurd soon notEarly,fun dns => absurd dns notDns⟩
      rw [allowance_silent _ (quiet (by rw [state]; simp)),tries.spare]
      omega
  | exhausted state empty after _ _ moved next =>
      have state : socks.current = .reqConnect := state
      have none_ : dialled out.effects = 0 := by
        rw [dialled,moved]
        rfl
      obtain ⟨notEarly,notDns⟩ := later (.inr next)
      refine ⟨?_,fun soon => absurd soon notEarly,fun dns => absurd dns notDns⟩
      rw [allowance_silent _ (quiet (by rw [state]; simp)),none_,after,List.length_nil]
      omega

theorem close_sparing {trace : List Effect} {sel later : Selector} (socks : SocksConnModel)
    (few : dialled trace ≤ allowance n trace) : Session.Sparing n ⟨later,none,trace ++ (closeSocksConn sel socks).2⟩ := by
  refine ⟨?_,fun _ live => (by cases live),fun _ live => (by cases live),fun _ live => (by cases live)⟩
  rw [dialled_append,dialled_close,allowance_silent _ (close_resolves sel socks)]
  exact few

theorem step_sparing (sparing : s.Sparing n) (few : ∀ addrs, e = .resolved addrs → addrs.length ≤ n)
    (ran : servedStep data s e = some next) : next.Sparing n := by
  unfold servedStep at ran
  split at ran
  · cases e with
    | event kind fd env =>
        obtain ⟨socks,held,ran⟩ := Option.bind_eq_some_iff.mp ran
        obtain ⟨served,handled,rfl⟩ := Option.map_eq_some_iff.mp ran
        obtain ⟨out,advances,resolves,leaves⟩ := served_advances handled
        have kept : Session.Sparing n ⟨s.sel,some socks,s.trace⟩ := by
          rw [← held]
          exact sparing
        obtain ⟨left,early,waiting⟩ := advances_sparing kept advances resolves
        cases leaves with
        | going after open_ _ state _ _ _ spare effects =>
            rw [← effects] at left early waiting
            rw [← spare] at left early waiting
            rw [← state] at early waiting
            refine ⟨Nat.le_trans (Nat.le_add_right _ _) left,?_,?_,?_⟩
            all_goals intro later live; cases Option.some.inj (open_.symm.trans live)
            · exact early
            · exact waiting
            · exact left
        | closed _ last gone _ _ effects =>
            rw [gone,effects,← List.append_assoc]
            exact close_sparing last (Nat.le_trans (Nat.le_add_right _ _) left)
    | resolved addrs =>
        obtain ⟨socks,held,ran⟩ := Option.bind_eq_some_iff.mp ran
        split at ran
        · rename_i waits
          cases ran
          have state : socks.current = .reqDns := by rw [SocksConnModel.current,waits]; rfl
          obtain ⟨none_,asked,_⟩ := sparing.waiting socks held state
          have length := few addrs rfl
          refine ⟨sparing.total,?_,?_,?_⟩
          all_goals intro later live; cases live
          · intro early
            change socks.current.early = true at early
            rw [state] at early
            cases early
          · exact fun _ => ⟨none_,asked,length⟩
          · change dialled s.trace + addrs.length ≤ _
            rw [none_,Nat.zero_add,allowance,if_neg asked]
            exact length
        · cases ran
    | elsewhere sel =>
        cases ran
        exact ⟨sparing.total,sparing.early,sparing.waiting,sparing.left⟩
  · cases ran

theorem exec_sparing {last : Session} (sparing : s.Sparing n)
    (few : ∀ addrs, .resolved addrs ∈ moves → addrs.length ≤ n) (ran : exec (servedStep data) s moves = some last) :
    last.Sparing n := by
  induction moves generalizing s with
  | nil =>
      cases ran
      exact sparing
  | cons move rest ih =>
      obtain ⟨middle,first,remaining⟩ := Option.bind_eq_some_iff.mp ran
      refine ih (step_sparing sparing ?_ first) (fun addrs member => few addrs (List.mem_cons_of_mem _ member)) remaining
      intro addrs same
      exact few addrs (by rw [same]; exact List.mem_cons_self)

theorem lane_resolved {d : Daemon} {events : List DaemonEvent} {addrs : List AddrInfo}
    (member : .resolved addrs ∈ lane daemonStep (Daemon.moves id) d events) : .resolved id addrs ∈ events := by
  obtain ⟨before,event,inside,moved⟩ := mem_lane member
  cases event with
  | resolved number stored =>
      rw [Daemon.moves] at moved
      split at moved
      · rename_i same
        rw [List.mem_singleton] at moved
        cases moved
        rw [← same]
        exact inside
      · cases moved
  | event kind fd env =>
      rw [Daemon.moves] at moved
      split at moved
      · cases List.mem_singleton.mp moved
      · cases List.mem_singleton.mp moved
  | _ => cases List.mem_singleton.mp moved

theorem alive_before {middle last : Daemon} {later : List DaemonEvent} (rest : exec daemonStep middle later = some last)
    (alive : last.done = false) : middle.done = false := by
  cases later with
  | nil =>
      cases rest
      exact alive
  | cons event _ =>
      obtain ⟨_,ran,_⟩ := Option.bind_eq_some_iff.mp rest
      exact step_alive ran

theorem socks_moves_forward {d opened middle last : Daemon} {socks mng : List Int} {users : UserTable}
    {sniffer nio : Bool} {listener client : Int} {before earlier later : List DaemonEvent} {n : Nat}
    (path : DaemonRuns (daemonStart socks mng users sniffer) before d)
    (accepted : daemonStep d (.accept listener client nio) = some opened)
    (first : exec daemonStep opened earlier = some middle) (rest : exec daemonStep middle later = some last)
    (alive : last.done = false) (few : ∀ addrs, .resolved d.nextId addrs ∈ earlier ++ later → addrs.length ≤ n) :
    (∀ after, last.conn d.nextId = some after → ∃ held, middle.conn d.nextId = some held ∧
      Relation.ReflTransGen SocksState.forward held.current after.current) ∧
    (∀ held, opened.conn d.nextId = some held → held.current = .helloRead) ∧
    dialled (callsOf d.nextId last.log) ≤ allowance n (callsOf d.nextId last.log) := by
  have whole : exec daemonStep opened (earlier ++ later) = some last := by
    rw [exec_append,first]
    exact rest
  obtain ⟨start,ran⟩ := accepted_lane path accepted whole alive
  obtain ⟨_,reached⟩ := accepted_lane path accepted first (alive_before rest alive)
  have onward := ran
  rw [lane_append first,exec_append,reached,Option.bind_some] at onward
  have sparing : (opened.session d.nextId).Sparing n := by
    rw [start]
    split
    · have none_ : dialled [] ≤ allowance n [] := Nat.zero_le _
      exact close_sparing (acceptedConn client) none_
    · exact new_sparing _ client
  refine ⟨fun after live => exec_forward onward live,?_,?_⟩
  · intro held live
    have opening : (opened.session d.nextId).conn = some held := live
    rw [start] at opening
    split at opening
    · cases opening
    · cases opening
      rfl
  · exact (exec_sparing sparing (fun addrs member => few addrs (lane_resolved member)) ran).total

-- A name with two addresses: the first one turns the connection down, the second takes it.
def asksByName : List DaemonEvent :=
  entersAnonymously 5 ++ [writes 5 [0x05,0x01,0x00,0x03,0x01,0x61,0,80],.resolved 0 [hostAt 1,hostAt 2],
    .event .block 5 {quiet with socket:=6,connect:=.failed einprogress}]

def secondAnswers : List DaemonEvent :=
  [.event .write 6 {quiet with soError:=some econnrefused,socket:=6,connect:=.failed einprogress},
    .event .write 6 {quiet with soError:=some 0},drains 5 10]

theorem second_moves_forward : ∃ opened middle last,
    daemonStep (daemonStart [3] [4] .empty true) (.accept 3 5 true) = some opened ∧
    exec daemonStep opened asksByName = some middle ∧ exec daemonStep middle secondAnswers = some last ∧
    (last.conn 0).map SocksConnModel.current = some .copy ∧
    (∀ after, last.conn 0 = some after → ∃ held, middle.conn 0 = some held ∧
      Relation.ReflTransGen SocksState.forward held.current after.current) ∧
    dialled (callsOf 0 last.log) ≤ allowance 2 (callsOf 0 last.log) ∧ allowance 2 (callsOf 0 last.log) = 2 := by
  have facts : (daemonStep (daemonStart [3] [4] .empty true) (.accept 3 5 true)).bind (fun opened =>
      (exec daemonStep opened asksByName).bind fun middle => (exec daemonStep middle secondAnswers).map fun last =>
        (last.done,(last.conn 0).map SocksConnModel.current,allowance 2 (callsOf 0 last.log))) =
      some (false,some .copy,2) := by decide +kernel
  obtain ⟨opened,accepted,facts⟩ := Option.bind_eq_some_iff.mp facts
  obtain ⟨middle,first,facts⟩ := Option.bind_eq_some_iff.mp facts
  obtain ⟨last,rest,facts⟩ := Option.map_eq_some_iff.mp facts
  obtain ⟨alive,facts⟩ := Prod.mk.inj facts
  obtain ⟨state,asked⟩ := Prod.mk.inj facts
  have few : ∀ addrs, .resolved 0 addrs ∈ asksByName ++ secondAnswers → addrs.length ≤ 2 := by
    intro addrs member
    simp [asksByName,secondAnswers,entersAnonymously,writes,drains] at member
    rw [member]
    decide
  obtain ⟨onward,_,total⟩ := socks_moves_forward .nil accepted first rest alive few
  exact ⟨opened,middle,last,accepted,first,rest,state,onward,total,asked⟩

end Socks5d
