import Socks5d.Handlers
import Socks5d.Foundations.Transitions
import Mathlib.Logic.Function.Basic

namespace Socks5d

def SocksConnModel.fdOf (socks : SocksConnModel) : Side → Int
  | .cli => socks.cliConn.socket
  | .src => socks.srcConn.socket

structure Relay where
  sel : Selector
  socks : SocksConnModel
  trace : List Effect

structure RelayEvent where
  kind : EventKind
  side : Side
  env : Env

def relayStep (data : Nat) (r : Relay) (e : RelayEvent) : Option Relay :=
  (stmHandler e.kind e.env ⟨r.socks.fdOf e.side,data⟩ r.sel r.socks).map fun out =>
    ⟨out.sel,out.socks,r.trace ++ out.effects⟩

-- handle_iteration calls a handler only for what the entry asks for now.
def Relay.ready (r : Relay) (e : RelayEvent) : Bool :=
  match r.sel.registered (r.socks.fdOf e.side) with
  | some item => e.kind.wants item.interest
  | none => false

def selectStep (data : Nat) (r : Relay) (e : RelayEvent) : Option Relay :=
  if r.ready e then relayStep data r e else none

abbrev RelayRuns (data : Nat) := Transitions.Runs fun r e next => relayStep data r e = some next
abbrev SelectRuns (data : Nat) := Transitions.Runs fun r e next => selectStep data r e = some next

theorem select_runs (path : SelectRuns data r events after) : RelayRuns data r events after := by
  refine path.weaken ?_
  intro before label next ran
  unfold selectStep at ran
  split at ran
  · exact ran
  · cases ran

-- Both sides of a relay in one view: how each is wired and masked, the bytes received
-- from it that the other has not been sent, and the interest it is registered with.
structure Flow where
  socket : Side → Int
  copy : Side → CopyModel
  queue : Side → CertifiedBuffer
  interest : Side → Option FdInterest
  trace : List Effect
  stm : Option SocksState

def Relay.flow (r : Relay) : Flow where
  socket := r.socks.fdOf
  copy := r.socks.copyOf
  queue := r.socks.copyWriteBuff
  interest := fun side => (r.sel.registered (r.socks.fdOf side)).map Item.interest
  trace := r.trace
  stm := r.socks.stm

def Flow.fd (f : Flow) (side : Side) : Int := (f.copy side).fd

def Flow.note (f : Flow) (effects : List Effect) : Flow := {f with trace:=f.trace ++ effects}

def Flow.setQueue (f : Flow) (side : Side) (buff : CertifiedBuffer) : Flow :=
  {f with queue:=Function.update f.queue side buff}

-- The interest field and the selector's entry always change together.
def Flow.setInterests (f : Flow) (side : Side) (i : FdInterest) : Flow :=
  {f with
    copy:=Function.update f.copy side {f.copy side with interests:=i}
    interest:=Function.update f.interest side ((f.interest side).map fun _ => i)}

def Flow.setMask (f : Flow) (side : Side) (mask : FdInterest) : Flow :=
  {f with copy:=Function.update f.copy side {f.copy side with intConnection:=mask}}

def Flow.enter (f : Flow) (state : SocksState) : Flow := {f with stm:=some state}

def Flow.mask (f : Flow) (side : Side) : FdInterest := (f.copy side).intConnection
def Flow.wants (f : Flow) (side : Side) : FdInterest := (f.copy side).interests

def Recv.again (errno : Nat) (got : Recv) : Bool :=
  got.errno errno = eagain || got.errno errno = ewouldblock

def Send.again (errno : Nat) (gave : Send) : Bool :=
  gave.errno errno = ewouldblock || gave.errno errno = eagain

-- The rest of copy_read for an end of stream: first the side that ended, then the
-- other one, which loses its write end at once when nothing is queued for it.
def Flow.halfClosed (f : Flow) (side : Side) : Flow :=
  let f := ((f.setMask side (f.mask side &&& ~~~opRead)).setInterests side
    (f.wants side &&& (f.mask side &&& ~~~opRead))).note [.shutdown (f.fd side) .shutRd]
  f.setMask side.aux (f.mask side.aux &&& opRead)

def Flow.ended (f : Flow) (side : Side) : Flow :=
  let next := if (f.mask side &&& ~~~opRead) = opNoop then
    (if (f.mask side.aux &&& opRead) = opNoop then SocksState.done else .copy) else .copy
  let f := f.halfClosed side
  if (f.queue side).unread = [] then
    ((f.setInterests side.aux (f.wants side.aux &&& f.mask side.aux)).note
      [.shutdown (f.fd side.aux) .shutWr]).enter next
  else f.enter next

def Flow.sent (f : Flow) (side : Side) (count : Nat) : Flow :=
  let gave := (f.queue side.aux).unread.take count
  let f := ((f.setQueue side.aux ((f.queue side.aux).consume count)).note
    [.send (f.fd side) gave,.addBytesTransferred gave.length]).setInterests side.aux
      ((f.wants side.aux ||| opRead) &&& f.mask side.aux)
  if (f.queue side.aux).unread = [] then
    (f.setInterests side ((f.wants side &&& opRead) &&& f.mask side)).note
      (if f.mask side &&& opWrite = opNoop then [.shutdown (f.fd side) .shutWr] else [])
  else f

inductive FlowStep (f : Flow) (e : RelayEvent) : Flow → Prop where
  | starved (read : e.kind = .read) (room : 0 < (f.queue e.side).space)
      (recv : e.env.recv.clip (f.queue e.side).space = got) (nothing : got.bytes = [])
      (again : got.again e.env.errno = true) :
      FlowStep f e (f.note [.recv (f.fd e.side) got])
  | received (read : e.kind = .read) (room : 0 < (f.queue e.side).space)
      (recv : e.env.recv.clip (f.queue e.side).space = .data bytes) (some : bytes ≠ [])
      (fits : bytes.length ≤ (f.queue e.side).space) (pass : ∀ effect ∈ notes, effect.isPass) :
      FlowStep f e ((((f.setQueue e.side ((f.queue e.side).fill bytes)).note
        [.recv (f.fd e.side) (.data bytes)]).setInterests e.side.aux
          ((f.wants e.side.aux ||| opWrite) &&& f.mask e.side.aux)).note notes)
  | ended (read : e.kind = .read) (room : 0 < (f.queue e.side).space)
      (recv : e.env.recv.clip (f.queue e.side).space = got) (nothing : got.bytes = [])
      (lasting : got.again e.env.errno = false) :
      FlowStep f e ((f.note [.recv (f.fd e.side) got]).ended e.side)
  | full (read : e.kind = .read) (room : (f.queue e.side).space = 0) :
      FlowStep f e (f.setInterests e.side ((f.wants e.side &&& opWrite) &&& f.mask e.side))
  | blocked (write : e.kind = .write) (failed : e.env.send = .failed code)
      (again : e.env.send.again e.env.errno = true) :
      FlowStep f e (f.note [.send (f.fd e.side) []])
  | broken (write : e.kind = .write) (failed : e.env.send = .failed code)
      (lasting : e.env.send.again e.env.errno = false) :
      FlowStep f e ((f.note [.send (f.fd e.side) []]).enter .error)
  | sent (write : e.kind = .write) (gave : e.env.send = .sent count) :
      FlowStep f e (f.sent e.side count)

structure Relay.Wired (r : Relay) : Prop where
  distinct : r.socks.cliConn.socket ≠ r.socks.srcConn.socket
  wired : ∀ side, (r.socks.copyOf side).fd = r.socks.fdOf side

def Relay.note (r : Relay) (effects : List Effect) : Relay := {r with trace:=r.trace ++ effects}

def Relay.setQueue (r : Relay) (side : Side) (buff : CertifiedBuffer) : Relay :=
  {r with socks:=r.socks.setWriteBuff side buff}

def Relay.setInterests (r : Relay) (side : Side) (i : FdInterest) : Relay where
  sel := (selectorSetInterest r.sel (r.socks.copyOf side).fd i).2
  socks := r.socks.setCopy side {r.socks.copyOf side with interests:=i}
  trace := r.trace

def Relay.setMask (r : Relay) (side : Side) (mask : FdInterest) : Relay :=
  {r with socks:=r.socks.setCopy side {r.socks.copyOf side with intConnection:=mask}}

variable {data : Nat} {r next : Relay} {e : RelayEvent} {socks : SocksConnModel} {side : Side}

theorem fdOf_inj (distinct : socks.cliConn.socket ≠ socks.srcConn.socket) (other : Side) :
    socks.fdOf other = socks.fdOf side ↔ other = side := by
  cases side <;> cases other <;> simp [SocksConnModel.fdOf,distinct,Ne.symm distinct]

theorem getCopy_fdOf (distinct : socks.cliConn.socket ≠ socks.srcConn.socket) :
    getCopy (socks.fdOf side) socks = some side := by
  cases side with
  | cli => simp [getCopy,SocksConnModel.fdOf]
  | src => simp [getCopy,SocksConnModel.fdOf,Ne.symm distinct]

@[simp] theorem fdOf_setCopy (copy : CopyModel) : (socks.setCopy side copy).fdOf = socks.fdOf := by
  funext other
  cases side <;> cases other <;> rfl

@[simp] theorem fdOf_setWriteBuff (buff : CertifiedBuffer) :
    (socks.setWriteBuff side buff).fdOf = socks.fdOf := by
  funext other
  cases side <;> cases other <;> rfl

theorem interest_set (distinct : socks.cliConn.socket ≠ socks.srcConn.socket) (sel : Selector)
    (i : FdInterest) :
    (fun other => ((selectorSetInterest sel (socks.fdOf side) i).2.registered
      (socks.fdOf other)).map Item.interest) =
    Function.update (fun other => (sel.registered (socks.fdOf other)).map Item.interest) side
      (((sel.registered (socks.fdOf side)).map Item.interest).map fun _ => i) := by
  funext other
  rw [setInterest_registered]
  by_cases equal : other = side
  · subst other
    rw [if_pos rfl,Function.update_self,Option.map_map,Option.map_map]
    rfl
  · rw [if_neg (fun same => equal ((fdOf_inj distinct other).mp same)),Function.update_of_ne equal]

theorem flow_setInterests (valid : r.Wired) (i : FdInterest) :
    (r.setInterests side i).flow = r.flow.setInterests side i := by
  simp only [Relay.setInterests,Relay.flow,Flow.setInterests,Flow.mk.injEq,stm_setCopy,fdOf_setCopy,and_true,true_and]
  refine ⟨?_,?_,?_⟩
  · funext other
    simp only [copyOf_setCopy,Function.update_apply]
  · funext other
    simp only [copyWriteBuff_setCopy]
  · rw [valid.wired side]
    exact interest_set valid.distinct r.sel i

theorem flow_setMask (mask : FdInterest) : (r.setMask side mask).flow = r.flow.setMask side mask := by
  simp only [Relay.setMask,Relay.flow,Flow.setMask,Flow.mk.injEq,stm_setCopy,fdOf_setCopy,and_true,true_and]
  refine ⟨?_,?_⟩
  · funext other
    simp only [copyOf_setCopy,Function.update_apply]
  · funext other
    simp only [copyWriteBuff_setCopy]

@[simp] theorem stm_setWriteBuff (buff : CertifiedBuffer) :
    (socks.setWriteBuff side buff).stm = socks.stm := by
  cases side <;> rfl

theorem flow_setQueue (buff : CertifiedBuffer) :
    (r.setQueue side buff).flow = r.flow.setQueue side buff := by
  simp only [Relay.setQueue,Relay.flow,Flow.setQueue,Flow.mk.injEq,stm_setWriteBuff,fdOf_setWriteBuff,
    and_true,true_and]
  refine ⟨?_,?_⟩
  · funext other
    simp only [copyOf_setWriteBuff]
  · funext other
    simp only [copyWriteBuff_setWriteBuff,Function.update_apply]

theorem flow_note (effects : List Effect) : (r.note effects).flow = r.flow.note effects := rfl

theorem wired_setCopy (valid : r.Wired) {copy : CopyModel} (kept : copy.fd = (r.socks.copyOf side).fd)
    (sel : Selector) : Relay.Wired ⟨sel,r.socks.setCopy side copy,r.trace⟩ := by
  refine ⟨by simpa using valid.distinct,?_⟩
  intro other
  dsimp only
  rw [copyOf_setCopy,fdOf_setCopy]
  split
  · rename_i equal
    rw [kept,← equal,valid.wired other]
  · exact valid.wired other

theorem wired_setInterests (valid : r.Wired) (i : FdInterest) : (r.setInterests side i).Wired :=
  @wired_setCopy r side valid {r.socks.copyOf side with interests:=i} rfl _

theorem wired_setMask (valid : r.Wired) (mask : FdInterest) : (r.setMask side mask).Wired :=
  @wired_setCopy r side valid {r.socks.copyOf side with intConnection:=mask} rfl _

theorem wired_note (valid : r.Wired) (effects : List Effect) : (r.note effects).Wired :=
  ⟨valid.distinct,valid.wired⟩

theorem wired_setQueue (valid : r.Wired) (side : Side) (buff : CertifiedBuffer) : (r.setQueue side buff).Wired := by
  cases side with
  | cli => exact ⟨valid.distinct,fun other => by cases other; exact valid.wired .cli; exact valid.wired .src⟩
  | src => exact ⟨valid.distinct,fun other => by cases other; exact valid.wired .cli; exact valid.wired .src⟩

def Outcome.relay (out : Outcome) (trace : List Effect) : Relay := ⟨out.sel,out.socks,trace ++ out.effects⟩

def Relay.halfClosed (r : Relay) (side : Side) : Relay :=
  let f := r.flow
  let r := ((r.setMask side (f.mask side &&& ~~~opRead)).setInterests side
    (f.wants side &&& (f.mask side &&& ~~~opRead))).note [.shutdown (f.fd side) .shutRd]
  r.setMask side.aux (r.flow.mask side.aux &&& opRead)

def Relay.shut (r : Relay) (side : Side) : Relay :=
  (r.setInterests side (r.flow.wants side &&& r.flow.mask side)).note [.shutdown (r.flow.fd side) .shutWr]

theorem wired_halfClosed (valid : r.Wired) (side : Side) : (r.halfClosed side).Wired :=
  wired_setMask (wired_note (wired_setInterests (wired_setMask valid _) _) _) _

theorem flow_halfClosed (valid : r.Wired) (side : Side) :
    (r.halfClosed side).flow = r.flow.halfClosed side := by
  unfold Relay.halfClosed Flow.halfClosed
  dsimp only
  rw [flow_setMask,flow_note,flow_setInterests (wired_setMask valid _),flow_setMask]

theorem copyReceived_flow (valid : r.Wired) (env : Env) (side : Side) (called : List Effect) :
    ∃ notes, (∀ effect ∈ notes, effect.isPass = true) ∧
      (copyReceived env side r.sel r.socks called).next = .copy ∧
      (copyReceived env side r.sel r.socks called).socks.stm = r.socks.stm ∧
      ((copyReceived env side r.sel r.socks called).relay r.trace).flow =
        ((r.flow.note called).setInterests side.aux
          ((r.flow.wants side.aux ||| opWrite) &&& r.flow.mask side.aux)).note notes := by
  unfold copyReceived
  dsimp only
  obtain ⟨parser,notes,sniffed,pass⟩ := copySniff_parts env side
    ((r.note called).setInterests side.aux ((r.flow.wants side.aux ||| opWrite) &&& r.flow.mask side.aux)).socks
  unfold Relay.setInterests Relay.note Relay.flow Flow.wants Flow.mask at sniffed
  dsimp only at sniffed
  refine ⟨notes,pass,rfl,?_,?_⟩
  · rw [sniffed]
    exact stm_setCopy _ _ _
  · rw [sniffed,← flow_note,← flow_setInterests (wired_note valid called),← flow_note,Outcome.relay,
      ← List.append_assoc]
    rfl

theorem copyEnded_relay (side : Side) (called : List Effect) :
    (copyEnded side r.sel r.socks called).relay r.trace =
      if (r.socks.copyWriteBuff side).unread = [] then ((r.note called).halfClosed side).shut side.aux
      else (r.note called).halfClosed side := by
  by_cases empty : (r.socks.copyWriteBuff side).unread = []
  · have stopped := ((r.socks.copyWriteBuff side).canRead_false).mpr empty
    rw [if_pos empty]
    cases side <;> simp [copyEnded,stopped,Outcome.relay,Relay.halfClosed,Relay.shut,Relay.note,
      Relay.setInterests,Relay.setMask,Relay.flow,Flow.mask,Flow.wants,Flow.fd,Side.aux]
  · have going := ((r.socks.copyWriteBuff side).canRead_unread).mpr empty
    rw [if_neg empty]
    cases side <;> simp [copyEnded,going,Outcome.relay,Relay.halfClosed,Relay.note,
      Relay.setInterests,Relay.setMask,Relay.flow,Flow.mask,Flow.wants,Flow.fd,Side.aux]

theorem copyEnded_flow (valid : r.Wired) (side : Side) (called : List Effect) :
    ((copyEnded side r.sel r.socks called).relay r.trace).flow.enter
      (copyEnded side r.sel r.socks called).next = (r.note called).flow.ended side := by
  have noted := wired_note valid called
  have next : (copyEnded side r.sel r.socks called).next =
      if (r.flow.mask side &&& ~~~opRead) = opNoop then
        (if (r.flow.mask side.aux &&& opRead) = opNoop then SocksState.done else .copy) else .copy := by
    unfold copyEnded
    dsimp only
    rw [apply_ite Outcome.next,ite_self]
    cases side <;> rfl
  rw [copyEnded_relay,next]
  by_cases empty : (r.socks.copyWriteBuff side).unread = []
  · rw [if_pos empty,Relay.shut,flow_note,flow_setInterests (wired_halfClosed noted side),
      flow_halfClosed noted side,Flow.ended]
    rw [if_pos (show (((r.note called).flow.halfClosed side).queue side).unread = [] from empty)]
    rfl
  · rw [if_neg empty,flow_halfClosed noted side,Flow.ended]
    rw [if_neg (show (((r.note called).flow.halfClosed side).queue side).unread ≠ [] from empty)]
    rfl

def Relay.sent (r : Relay) (side : Side) (count : Nat) : Relay :=
  let gave := (r.flow.queue side.aux).unread.take count
  let r := ((r.setQueue side.aux ((r.flow.queue side.aux).consume count)).note
    [.send (r.flow.fd side) gave,.addBytesTransferred gave.length])
  r.setInterests side.aux ((r.flow.wants side.aux ||| opRead) &&& r.flow.mask side.aux)

def Relay.drained (r : Relay) (side : Side) : Relay :=
  (r.setInterests side ((r.flow.wants side &&& opRead) &&& r.flow.mask side)).note
    (if r.flow.mask side &&& opWrite = opNoop then [.shutdown (r.flow.fd side) .shutWr] else [])

theorem wired_sent (valid : r.Wired) (side : Side) (count : Nat) : (r.sent side count).Wired :=
  wired_setInterests (wired_note (wired_setQueue valid _ _) _) _

theorem flow_drained (valid : r.Wired) (side : Side) :
    (r.drained side).flow = (r.flow.setInterests side ((r.flow.wants side &&& opRead) &&& r.flow.mask side)).note
      (if r.flow.mask side &&& opWrite = opNoop then [.shutdown (r.flow.fd side) .shutWr] else []) := by
  rw [Relay.drained,flow_note,flow_setInterests valid]

theorem flow_sent (valid : r.Wired) (side : Side) (count : Nat) :
    (if (((r.sent side count).flow.queue side.aux).unread = []) then (r.sent side count).drained side
      else r.sent side count).flow = r.flow.sent side count := by
  have shape : (r.sent side count).flow =
      ((r.flow.setQueue side.aux ((r.flow.queue side.aux).consume count)).note
        [.send (r.flow.fd side) ((r.flow.queue side.aux).unread.take count),
          .addBytesTransferred ((r.flow.queue side.aux).unread.take count).length]).setInterests side.aux
            ((r.flow.wants side.aux ||| opRead) &&& r.flow.mask side.aux) := by
    rw [Relay.sent,flow_setInterests (wired_note (wired_setQueue valid _ _) _),flow_note,flow_setQueue]
    rfl
  rw [apply_ite Relay.flow,flow_drained (wired_sent valid side count),shape]
  rfl

theorem copyWrite_relay (valid : r.Wired) (gave : env.send = .sent count) (side : Side) :
    (copyWrite env ⟨r.socks.fdOf side,data⟩ r.sel r.socks).next = .copy ∧
    (copyWrite env ⟨r.socks.fdOf side,data⟩ r.sel r.socks).relay r.trace =
      if ((r.sent side count).flow.queue side.aux).unread = [] then (r.sent side count).drained side
      else r.sent side count := by
  have amount : ((min count (r.socks.copyReadBuff side).available : Nat) : Int) ≠ -1 := by omega
  have here := valid.wired side
  unfold copyWrite
  rw [getCopy_fdOf valid.distinct]
  simp only [gave,checkBuffAndSend,Send.bytes,if_neg amount]
  have left : (r.sent side count).flow.queue side.aux = (r.socks.copyReadBuff side).consume count := by
    cases side <;> rfl
  rw [left]
  by_cases empty : ((r.socks.copyReadBuff side).consume count).unread = []
  · have stopped := (((r.socks.copyReadBuff side).consume count).canRead_false).mpr empty
    rw [if_pos empty,if_pos (by rw [stopped]; rfl)]
    refine ⟨rfl,?_⟩
    cases side <;> simp [Outcome.relay,Relay.sent,Relay.drained,Relay.note,Relay.setInterests,
      Relay.setQueue,Relay.flow,Flow.mask,Flow.wants,Flow.fd,Side.aux,CertifiedBuffer.available_unread]
    all_goals exact ⟨rfl,⟨here.symm,rfl⟩,rfl⟩
  · have going := (((r.socks.copyReadBuff side).consume count).canRead_unread).mpr empty
    rw [if_neg empty,if_neg (by rw [going]; decide)]
    refine ⟨rfl,?_⟩
    cases side <;> simp [Outcome.relay,Relay.sent,Relay.note,Relay.setInterests,
      Relay.setQueue,Relay.flow,Flow.mask,Flow.wants,Flow.fd,Side.aux,CertifiedBuffer.available_unread]
    all_goals exact ⟨rfl,⟨here.symm,rfl⟩,rfl⟩

theorem enter_same {f : Flow} (live : f.stm = some .copy) : f.enter .copy = f := by
  cases f
  cases live
  rfl

theorem jump_flow {out : Outcome} (kept : out.socks.stm = some .copy)
    (next : out.next = .copy ∨ out.next = .done ∨ out.next = .error) (env : Env) (trace : List Effect) :
    ((jump env out).relay trace).flow = (out.relay trace).flow.enter out.next := by
  unfold jump
  rcases next with copy | done | error
  · rw [if_pos (by rw [kept,copy]),copy]
    simp only [Relay.flow,Flow.enter,Outcome.relay,kept]
  · rw [if_neg (by rw [kept,done]; decide),done]
    rfl
  · rw [if_neg (by rw [kept,error]; decide),error]
    rfl

theorem relayStep_cases (live : r.socks.stm = some .copy) (ran : relayStep data r e = some next) :
    (e.kind = .read ∧ next = (jump e.env (copyRead e.env ⟨r.socks.fdOf e.side,data⟩ r.sel r.socks)).relay r.trace) ∨
    (e.kind = .write ∧ next = (jump e.env (copyWrite e.env ⟨r.socks.fdOf e.side,data⟩ r.sel r.socks)).relay r.trace) := by
  have first : handleFirst r.socks = r.socks := by
    rw [handleFirst,live]
    cases held : r.socks
    rw [held] at live
    cases live
    rfl
  unfold relayStep stmHandler at ran
  rw [live,first] at ran
  cases kind : e.kind with
  | read =>
      rw [kind] at ran
      exact .inl ⟨rfl,(Option.some.inj ran).symm⟩
  | write =>
      rw [kind] at ran
      exact .inr ⟨rfl,(Option.some.inj ran).symm⟩
  | block =>
      rw [kind] at ran
      cases ran

theorem copyRead_nothing (valid : r.Wired) (live : r.socks.stm = some .copy) (read : e.kind = .read)
    (room : 0 < (r.flow.queue e.side).space) (recv : e.env.recv.clip (r.flow.queue e.side).space = got)
    (nothing : got.bytes = []) :
    FlowStep r.flow e ((jump e.env
      (if (got.errno e.env.errno = eagain || got.errno e.env.errno = ewouldblock) = true then
        ⟨r.sel,r.socks,[.recv (r.socks.fdOf e.side) got],.copy⟩
      else copyEnded e.side r.sel r.socks [.recv (r.socks.fdOf e.side) got])).relay r.trace).flow := by
  have wired := valid.wired e.side
  rw [← wired]
  by_cases again : (got.errno e.env.errno = eagain || got.errno e.env.errno = ewouldblock) = true
  · rw [if_pos again,jump_flow live (.inl rfl),enter_same live]
    exact .starved read room recv nothing again
  · rw [if_neg again]
    obtain ⟨kept,next⟩ := @copyEnded_kept r.socks e.side r.sel [.recv (r.socks.copyOf e.side).fd got]
    rw [jump_flow (kept.trans live) (next.imp_right .inl),copyEnded_flow valid]
    exact .ended read room recv nothing (by simpa [Recv.again] using again)

theorem copyRead_step (valid : r.Wired) (live : r.socks.stm = some .copy) (read : e.kind = .read) :
    FlowStep r.flow e ((jump e.env (copyRead e.env ⟨r.socks.fdOf e.side,data⟩ r.sel r.socks)).relay r.trace).flow := by
  have wired := valid.wired e.side
  have same := setWriteBuff_same r.socks e.side
  unfold copyRead
  rw [getCopy_fdOf valid.distinct]
  dsimp only
  split
  · rename_i space
    have room : 0 < (r.flow.queue e.side).space := (r.socks.copyWriteBuff e.side).canWrite_space.mp space
    cases got : e.env.recv.clip (r.socks.copyWriteBuff e.side).space with
    | data bytes =>
        obtain ⟨some,fits⟩ := clip_data got
        have positive := List.length_pos_iff.mpr some
        have filled := wired_setQueue valid e.side ((r.socks.copyWriteBuff e.side).fill bytes)
        obtain ⟨notes,pass,next,kept,shape⟩ := copyReceived_flow filled e.env e.side
          [.recv (r.socks.fdOf e.side) (.data bytes)]
        have ran : (bytes.length : Int) > 0 := by omega
        have failed : ¬ ((bytes.length : Int) = -1) := by omega
        rw [if_neg (by simp [checkBuffAndReceive,failed]),if_pos (by simpa [checkBuffAndReceive] using ran)]
        rw [flow_setQueue] at shape
        unfold Relay.setQueue at next kept shape
        dsimp only at next kept shape
        dsimp only [checkBuffAndReceive]
        rw [jump_flow (by rw [kept,stm_setWriteBuff,live]) (.inl next),shape,next,enter_same live,← wired]
        exact .received read room got some fits pass
    | closed =>
        have step := copyRead_nothing valid live read room got rfl
        simpa [checkBuffAndReceive,same] using step
    | failed code =>
        have step := copyRead_nothing valid live read room got rfl
        simpa [checkBuffAndReceive,same] using step
  · rename_i space
    have full : (r.flow.queue e.side).space = 0 := by
      rw [(r.socks.copyWriteBuff e.side).canWrite_space] at space
      exact Nat.eq_zero_of_not_pos space
    have shape : (copyFull ⟨r.socks.fdOf e.side,data⟩ e.side r.sel r.socks).relay r.trace =
        r.setInterests e.side ((r.flow.wants e.side &&& opWrite) &&& r.flow.mask e.side) := by
      rw [copyFull,← wired]
      simp [Outcome.relay,Relay.setInterests,Relay.flow,Flow.wants,Flow.mask]
    have kept : (copyFull ⟨r.socks.fdOf e.side,data⟩ e.side r.sel r.socks).socks.stm = some .copy := by
      rw [copyFull,stm_setCopy,live]
    rw [jump_flow kept (.inl rfl),shape,flow_setInterests valid,
      show (copyFull ⟨r.socks.fdOf e.side,data⟩ e.side r.sel r.socks).next = .copy from rfl,enter_same live]
    exact .full read full

theorem copyWrite_step (valid : r.Wired) (live : r.socks.stm = some .copy) (write : e.kind = .write) :
    FlowStep r.flow e ((jump e.env (copyWrite e.env ⟨r.socks.fdOf e.side,data⟩ r.sel r.socks)).relay r.trace).flow := by
  have wired := valid.wired e.side
  cases gave : e.env.send with
  | sent count =>
      obtain ⟨next,shape⟩ := @copyWrite_relay data r e.env count valid gave e.side
      have kept : (copyWrite e.env ⟨r.socks.fdOf e.side,data⟩ r.sel r.socks).socks.stm = some .copy := by
        have stms := congrArg (fun relay => relay.socks.stm) shape
        rw [show (copyWrite e.env ⟨r.socks.fdOf e.side,data⟩ r.sel r.socks).socks.stm = _ from stms]
        split
        · simp [Relay.drained,Relay.sent,Relay.setInterests,Relay.setQueue,Relay.note,live]
        · simp [Relay.sent,Relay.setInterests,Relay.setQueue,Relay.note,live]
      have stays : (r.flow.sent e.side count).stm = some .copy := by
        unfold Flow.sent
        dsimp only
        split
        · exact live
        · exact live
      rw [jump_flow kept (.inl next),shape,flow_sent valid,next,enter_same stays]
      exact .sent write gave
  | failed code =>
      have same : r.socks.setReadBuff e.side (r.socks.copyReadBuff e.side) = r.socks :=
        setReadBuff_same _ _
      unfold copyWrite
      rw [getCopy_fdOf valid.distinct]
      dsimp only
      rw [gave,if_pos (show (checkBuffAndSend (r.socks.copyReadBuff e.side) (.failed code)).2 = -1 from rfl)]
      dsimp only [checkBuffAndSend,Send.bytes]
      rw [same,← wired]
      split
      · rename_i again
        rw [jump_flow live (.inl rfl),enter_same live]
        exact .blocked write gave (by rw [gave]; exact again)
      · rename_i lasting
        rw [jump_flow live (.inr (.inr rfl))]
        exact .broken write gave (by rw [gave]; simpa [Send.again] using lasting)

theorem relayStep_flow (valid : r.Wired) (live : r.socks.stm = some .copy)
    (ran : relayStep data r e = some next) : FlowStep r.flow e next.flow := by
  rcases relayStep_cases live ran with ⟨read,rfl⟩ | ⟨write,rfl⟩
  · exact copyRead_step valid live read
  · exact copyWrite_step valid live write

@[simp] theorem fd_setInterests {f : Flow} (i : FdInterest) (other : Side) :
    (f.setInterests side i).fd other = f.fd other := by
  by_cases equal : other = side
  · subst other
    simp [Flow.fd,Flow.setInterests]
  · simp [Flow.fd,Flow.setInterests,equal]

@[simp] theorem fd_setMask {f : Flow} (mask : FdInterest) (other : Side) :
    (f.setMask side mask).fd other = f.fd other := by
  by_cases equal : other = side
  · subst other
    simp [Flow.fd,Flow.setMask]
  · simp [Flow.fd,Flow.setMask,equal]

@[simp] theorem fd_note {f : Flow} (effects : List Effect) (other : Side) :
    (f.note effects).fd other = f.fd other := rfl

@[simp] theorem fd_setQueue {f : Flow} (buff : CertifiedBuffer) (other : Side) :
    (f.setQueue side buff).fd other = f.fd other := rfl

@[simp] theorem fd_enter {f : Flow} (state : SocksState) (other : Side) :
    (f.enter state).fd other = f.fd other := rfl

theorem step_wired {f g : Flow} (step : FlowStep f e g) : g.socket = f.socket ∧ ∀ side, g.fd side = f.fd side := by
  cases step with
  | starved => exact ⟨rfl,fun _ => rfl⟩
  | received => exact ⟨rfl,by simp⟩
  | ended =>
      unfold Flow.ended Flow.halfClosed
      dsimp only
      split
      · exact ⟨rfl,by simp⟩
      · exact ⟨rfl,by simp⟩
  | full => exact ⟨rfl,by simp⟩
  | blocked => exact ⟨rfl,fun _ => rfl⟩
  | broken => exact ⟨rfl,fun _ => rfl⟩
  | sent =>
      unfold Flow.sent
      dsimp only
      split
      · exact ⟨rfl,by simp⟩
      · exact ⟨rfl,by simp⟩

theorem step_stm {f g : Flow} (live : f.stm = some .copy) (step : FlowStep f e g) :
    g.stm = some .copy ∨ g.stm = some .done ∨ g.stm = some .error := by
  cases step with
  | starved => exact .inl live
  | received => exact .inl live
  | ended =>
      unfold Flow.ended
      dsimp only
      split <;> split <;> (try split) <;> simp [Flow.enter]
  | full => exact .inl live
  | blocked => exact .inl live
  | broken => exact .inr (.inr rfl)
  | sent =>
      unfold Flow.sent
      dsimp only
      split
      · exact .inl live
      · exact .inl live

theorem closed_no_step (closed : r.socks.stm = some .done ∨ r.socks.stm = some .error) :
    relayStep data r e = none := by
  unfold relayStep stmHandler
  rcases closed with done | error
  · rw [done]
    cases e.kind <;> rfl
  · rw [error]
    cases e.kind <;> rfl

theorem relayStep_wired (valid : r.Wired) (live : r.socks.stm = some .copy)
    (ran : relayStep data r e = some next) : next.Wired := by
  obtain ⟨sockets,fds⟩ := step_wired (relayStep_flow valid live ran)
  have cli : next.socks.cliConn.socket = r.socks.cliConn.socket := congrFun sockets .cli
  have src : next.socks.srcConn.socket = r.socks.srcConn.socket := congrFun sockets .src
  refine ⟨by rw [cli,src]; exact valid.distinct,?_⟩
  intro side
  exact (fds side).trans ((valid.wired side).trans (congrFun sockets side).symm)

abbrev FlowRuns := Transitions.Runs fun f e g => f.stm = some .copy ∧ FlowStep f e g

theorem relay_runs (valid : r.Wired) (live : r.socks.stm = some .copy) (path : RelayRuns data r events next) :
    FlowRuns r.flow events next.flow ∧ next.Wired ∧
      (next.socks.stm = some .copy ∨ next.socks.stm = some .done ∨ next.socks.stm = some .error) := by
  induction path with
  | nil => exact ⟨.nil,valid,.inl live⟩
  | snoc _ ran ih =>
      obtain ⟨before,wired,states⟩ := ih
      rcases states with going | closed
      · have step := relayStep_flow wired going ran
        exact ⟨.snoc before ⟨going,step⟩,relayStep_wired wired going ran,step_stm going step⟩
      · rw [closed_no_step closed] at ran
        cases ran

end Socks5d
