import Socks5d.Session
import Socks5d.Foundations.Holdings

namespace Socks5d
open Holdings

inductive Owner where
  | listener
  | control
  | other
  | socks (id : Nat)
  deriving DecidableEq, Repr

def Owner.foreign : Owner → Bool
  | .socks _ => false
  | _ => true

-- The whole process: one selector, the descriptor table of the kernel and every SOCKS
-- connection. `closing` is the connection that close_socks_conn was called for.
structure Server where
  sel : Selector
  owner : Table Int Owner
  conn : Nat → Option SocksConnModel
  nextId : Nat
  closing : Option Nat

inductive ForeignCall where
  | register (handler : FdHandler) (interest : FdInterest) (data : Option Nat)
  | setInterest (interest : FdInterest)
  | unregister
  | close
  deriving DecidableEq, Repr

inductive ServerEvent where
  | accept (listener : Int) (socket : Int) (nio : Bool)
  | event (kind : EventKind) (fd : Int) (env : Env)
  | resolved (id : Nat) (addrs : List AddrInfo)
  | opens (fd : Int) (owner : Owner)
  | foreign (fd : Int) (call : ForeignCall)
  | close

def Effect.act : Effect → Option (Act Int)
  | .socket fd => some (.take fd)
  | .close fd => some (.drop fd)
  | _ => none

def acts (effects : List Effect) : List (Act Int) := effects.filterMap Effect.act

-- The second part says whether the handler calls close_socks_conn.
def passiveSocksSocketHandler (sel : Selector) (id : Nat) (socket : Int) (nio : Bool) : Selector × Bool :=
  if socket = -1 then (sel,true)
  else if !nio then (sel,true)
  else
    let (selRegisterRet,sel) := selectorRegister sel socket (some .connActions) opRead (some id)
    (sel,decide (selRegisterRet ≠ .success))

-- The kernel hands out only descriptors that are not open.
def Server.apply (s : Server) (id : Nat) (effects : List (Act Int)) (sel : Selector) (socks : SocksConnModel)
    (ends : Bool) : Option Server :=
  if allows (.socks id) s.owner effects then
    some {s with
      sel:=sel
      owner:=perform (.socks id) s.owner effects
      conn:=Function.update s.conn id (some socks)
      closing:=if ends then some id else none}
  else none

def Server.entry (s : Server) (fd : Int) : Option (Nat × SocksConnModel) :=
  (s.sel.registered fd).bind fun item =>
    if item.handler = some .connActions then
      item.data.bind fun id => (s.conn id).map fun socks => (id,socks)
    else none

def Server.asks (s : Server) (kind : EventKind) (fd : Int) : Bool :=
  decide (kind = .block) || (s.sel.registered fd).any fun item => kind.wants item.interest

def Server.foreignCall (s : Server) (fd : Int) : ForeignCall → Option Server
  | .register handler interest data =>
    if handler = .connActions then none
    else some {s with sel:=(selectorRegister s.sel fd (some handler) interest data).2}
  | .setInterest interest => some {s with sel:=(selectorSetInterest s.sel fd interest).2}
  | .unregister => some {s with sel:=(selectorUnregisterFd s.sel fd).2}
  | .close => some {s with owner:=Function.update s.owner fd none}

def Server.serve (s : Server) : ServerEvent → Option Server
  | .accept listener socket nio =>
    if (s.sel.registered listener).any (fun item => decide (item.handler = some .passiveSocketFd) &&
        item.interest.read) && decide (-1 ≤ socket) then
      let (sel,ends) := passiveSocksSocketHandler s.sel s.nextId socket nio
      {s with nextId:=s.nextId+1}.apply s.nextId (if socket = -1 then [] else [.take socket]) sel
        (acceptedConn socket) ends
    else none
  | .event kind fd env =>
    if s.asks kind fd && decide (-1 ≤ env.socket) then
      (s.entry fd).bind fun (id,socks) => (stmHandler kind env ⟨fd,id⟩ s.sel socks).bind fun out =>
        s.apply id (acts out.effects) out.sel out.socks (out.next = .error || out.next = .done)
    else none
  | .resolved id addrs => (s.conn id).bind fun socks =>
    if socks.stm = some .reqDns then
      some {s with conn:=Function.update s.conn id (some {socks with resolvedAddr:=addrs,currAddr:=addrs})}
    else none
  | .opens fd owner =>
    if owner.foreign && (s.owner fd).isNone && decide (0 ≤ fd) then
      some {s with owner:=Function.update s.owner fd (some owner)}
    else none
  | .foreign fd call => if (s.owner fd).any Owner.foreign then s.foreignCall fd call else none
  | .close => none

def Server.close (s : Server) (id : Nat) (socks : SocksConnModel) : Server :=
  let closed := closeSocksConn s.sel socks
  {s with
    sel:=closed.1
    owner:=perform (.socks id) s.owner (acts closed.2)
    conn:=Function.update s.conn id none
    closing:=none}

-- Nothing comes between a handler and the close_socks_conn it asks for.
def serverStep (s : Server) (e : ServerEvent) : Option Server :=
  match s.closing with
  | none => s.serve e
  | some id =>
    match e with
    | .close => (s.conn id).map fun socks => s.close id socks
    | _ => none

def serverStart : Server := ⟨mainSelector,fun _ => none,fun _ => none,1,none⟩

structure ClosesOwn (s : Server) (id : Nat) (socks : SocksConnModel) : Prop where
  own : Tidy (.socks id) s.owner (acts (closeSocksConn s.sel socks).2)
  named : ∀ fd, .drop fd ∈ acts (closeSocksConn s.sel socks).2 →
    fd = socks.cliConn.socket ∨ fd = socks.srcConn.socket
  entries : ∀ fd, .drop fd ∉ acts (closeSocksConn s.sel socks).2 →
    (closeSocksConn s.sel socks).1.registered fd = s.sel.registered fd
  owners : ∀ fd, .drop fd ∉ acts (closeSocksConn s.sel socks).2 →
    perform (.socks id) s.owner (acts (closeSocksConn s.sel socks).2) fd = s.owner fd

-- A domain name whose last address failed: req_connect has closed the origin socket
-- and opens no other.
def Server.exhausts (s : Server) : ServerEvent → Bool
  | .event .write fd env => (s.entry fd).any fun (_,socks) => decide (socks.current = .reqConnect) &&
      env.soError.any (fun code => decide (code ≠ 0)) && decide (socks.parsers.reqParser.type = fqdn) &&
      decide (socks.currAddr = [])
  | _ => false

-- src_addr_family is still what memset left: no socket() was called for the origin.
def Server.undialled (s : Server) : ServerEvent → Bool
  | .close => (s.closing.bind s.conn).any fun socks => decide (socks.srcAddrFamily = afUnspec)
  | _ => false

def carefulStep (s : Server) (e : ServerEvent) : Option Server :=
  if s.exhausts e || s.undialled e then none else serverStep s e

abbrev CarefulRuns := Transitions.Runs fun s e next => carefulStep s e = some next

variable {s next : Server} {e : ServerEvent} {socks after first : SocksConnModel} {env : Env} {key : SelectorKey}
  {sel : Selector} {fd : Int} {kind : EventKind} {id : Nat} {out : Outcome} {owner : Table Int Owner}
  {dropped : List (Act Int)} {effects called : List Effect} {family : Nat} {π : Type}

theorem acts_append (earlier later : List Effect) : acts (earlier++later) = acts earlier ++ acts later :=
  List.filterMap_append

theorem acts_plain (plain : ∀ effect ∈ effects, effect.plain = true) : acts effects = [] := by
  refine List.filterMap_eq_nil_iff.mpr ?_
  intro effect member
  have calm := plain effect member
  cases effect with
  | socket fd => cases calm
  | close fd => cases calm
  | _ => rfl

theorem close_acts (sel : Selector) (socks : SocksConnModel) :
    acts (closeSocksConn sel socks).2 =
      ((if socks.srcConn.socket ≠ -1 then [.drop socks.srcConn.socket] else []) ++
        (if socks.cliConn.socket ≠ -1 then [.drop socks.cliConn.socket] else [])) := by
  have freed : acts (if socks.resolvedAddr ≠ [] then [.freeAddrInfo] else []) = [] := by
    split
    · rfl
    · rfl
  unfold closeSocksConn
  dsimp only
  rw [acts_append,acts_append,freed,List.append_nil]
  split
  · split
    · rfl
    · rfl
  · split
    · rfl
    · rfl

theorem registered_negative (s : Selector) : s.registered (-1) = none := by
  rw [Selector.registered,if_pos (by decide)]

theorem close_entries (sel : Selector) (socks : SocksConnModel) (fd : Int) :
    (closeSocksConn sel socks).1.registered fd =
      if fd = socks.cliConn.socket ∨ fd = socks.srcConn.socket then none else sel.registered fd := by
  have server : (if socks.srcConn.socket ≠ -1 then
      ((selectorUnregisterFd sel socks.srcConn.socket).2,[Effect.close socks.srcConn.socket])
      else (sel,[])).1.registered fd = if fd = socks.srcConn.socket then none else sel.registered fd := by
    split
    · exact unregister_registered sel _ fd
    · rename_i absent
      rw [Decidable.not_not.mp absent]
      split
      · rename_i same
        rw [same]
        exact registered_negative sel
      · rfl
  unfold closeSocksConn
  dsimp only
  split
  · rw [unregister_registered,server]
    by_cases client : fd = socks.cliConn.socket
    · rw [if_pos client,if_pos (.inl client)]
    · rw [if_neg client]
      simp [client]
  · rename_i absent
    rw [server,Decidable.not_not.mp absent]
    by_cases none_ : fd = -1
    · simp [none_,registered_negative]
    · simp [none_]

structure Opens (env : Env) (socks : SocksConnModel) (dropped : List (Act Int)) (out : Outcome) : Prop where
  client : out.socks.cliConn = socks.cliConn
  origin : out.socks.srcConn.socket = env.socket
  family : out.socks.srcAddrFamily ≠ afUnspec
  moved : acts out.effects = dropped ++ (if env.socket = -1 then [] else [.take env.socket])
  went : out.next = .reqConnect → env.socket ≠ -1

def Moves (env : Env) (socks : SocksConnModel) (out : Outcome) : Prop :=
  (Keeps socks out ∧ out.next ≠ .reqConnect) ∨ Opens env socks [] out ∨
  (socks.current = .reqConnect ∧ Opens env socks [.drop socks.srcConn.socket] out)

theorem dials_opens (dials : Dials env socks called family out) (stated : family ≠ afUnspec) :
    Opens env socks (acts called) out := by
  obtain ⟨addr,opened⟩ := dials.opened
  refine ⟨dials.client,dials.origin,by rw [dials.family]; exact stated,?_,dials.went⟩
  rw [opened,acts_append]
  split
  · rfl
  · rfl

theorem dials_moves (plain : ∀ effect ∈ called, effect.plain = true) (dials : Dials env socks called family out)
    (stated : family ≠ afUnspec) : Moves env socks out := by
  have opens := dials_opens dials stated
  rw [acts_plain plain] at opens
  exact .inr (.inl opens)

theorem moves_from (moves : Moves env first out) (client : first.cliConn = socks.cliConn)
    (origin : first.srcConn = socks.srcConn) (same : first.srcAddrFamily = socks.srcAddrFamily)
    (stm : first.stm = socks.stm) : Moves env socks out := by
  rcases moves with ⟨keeps,next⟩ | opens | ⟨current,opens⟩
  · exact .inl ⟨keeps_trans ⟨client,origin,same⟩ keeps,next⟩
  · exact .inr (.inl ⟨opens.client.trans client,opens.origin,opens.family,opens.moved,opens.went⟩)
  · refine .inr (.inr ⟨?_,opens.client.trans client,opens.origin,opens.family,?_,opens.went⟩)
    · rw [SocksConnModel.current,← stm]
      exact current
    · rw [← origin]
      exact opens.moved

theorem inert_moves (plain : ∀ effect ∈ called, effect.plain = true) (inert : Inert socks called out)
    (away : out.next ≠ .reqConnect) : Moves env socks out :=
  .inl ⟨inert_keeps plain inert,away⟩

theorem plain_one {effect : Effect} (plain : effect.plain = true) : ∀ other ∈ [effect], other.plain = true := by
  intro other member
  rw [List.mem_singleton.mp member]
  exact plain

theorem readMessage_moves {r : Reader π} {finish : Env → SelectorKey → Selector → SocksConnModel → List Effect → Outcome}
    (stays : r.stay ≠ .reqConnect) (finishes : ∀ parsed called, (∀ effect ∈ called, effect.plain = true) →
      Moves env parsed (finish env key sel parsed called)) :
    Moves env socks (readMessage r finish env key sel socks) := by
  rcases readMessage_cases r finish env key sel socks with ⟨_,none⟩ | ⟨bytes,buff,_,_,_,out⟩
  · rw [none]
    exact .inl ⟨⟨rfl,rfl,rfl,plain_one rfl⟩,by simp⟩
  · rw [out]
    split
    · exact .inl ⟨⟨rfl,rfl,rfl,plain_one rfl⟩,by simp⟩
    · split
      · exact moves_from (finishes _ _ (plain_one rfl)) rfl rfl rfl rfl
      · exact .inl ⟨⟨rfl,rfl,rfl,plain_one rfl⟩,stays⟩

theorem writeReply_moves {stay : SocksState} {logged : Env → SocksConnModel → List Effect}
    {finish : SelectorKey → Selector → SocksConnModel → List Effect → Outcome} (stays : stay ≠ .reqConnect)
    (logs : ∀ sent, ∀ effect ∈ logged env sent, effect.plain = true)
    (finishes : ∀ sent called, (∀ effect ∈ called, effect.plain = true) → Moves env sent (finish key sel sent called)) :
    Moves env socks (writeReply stay logged finish env key sel socks) := by
  rcases writeReply_cases stay logged finish env key sel socks with none | ⟨count,_,out⟩
  · rw [none]
    exact .inl ⟨⟨rfl,rfl,rfl,plain_one rfl⟩,by simp⟩
  · have plain : ∀ effect ∈ [Effect.send socks.cliConn.socket (socks.writeBuff.unread.take count)] ++
        logged env {socks with writeBuff:=socks.writeBuff.consume count}, effect.plain = true := by
      intro effect member
      rcases List.mem_append.mp member with sent | note
      · exact plain_one rfl effect sent
      · exact logs _ effect note
    rw [out]
    split
    · exact .inl ⟨⟨rfl,rfl,rfl,plain⟩,stays⟩
    · exact moves_from (finishes _ _ plain) rfl rfl rfl rfl

theorem replyTwo_moves (next : SocksState) (reply : List UInt8) (away : next ≠ .reqConnect)
    (plain : ∀ effect ∈ called, effect.plain = true) : Moves env socks (replyTwo next reply key sel socks called) := by
  obtain ⟨inert,went | failed,_,_⟩ := @replyTwo_inert key sel socks called next reply
  · exact inert_moves plain inert (by rw [went]; exact away)
  · exact inert_moves plain inert (by rw [failed]; simp)

theorem authFinish_moves (plain : ∀ effect ∈ called, effect.plain = true) :
    Moves env socks (authFinish env key sel socks called) := by
  obtain ⟨inert,_,went | failed⟩ := @authFinish_inert env key sel socks called
  · exact inert_moves plain inert (by rw [went]; simp)
  · exact inert_moves plain inert (by rw [failed]; simp)

theorem reqFinish_moves (plain : ∀ effect ∈ called, effect.plain = true) :
    Moves env socks (reqFinish env key sel socks called) := by
  rcases @reqFinish_cases env key sel socks called with ⟨inert,next⟩ | ⟨_,stated,dials⟩
  · refine inert_moves plain inert ?_
    rcases next with next | next | next | next
    all_goals rw [next]; simp
  · exact dials_moves plain dials stated

theorem helloSent_moves (plain : ∀ effect ∈ called, effect.plain = true) :
    Moves env socks (helloSent key sel socks called) := by
  obtain ⟨inert,_,_,next⟩ := @helloSent_inert key sel socks called
  refine inert_moves plain inert ?_
  rcases next with ⟨next,_⟩ | ⟨next,_⟩ | next | next
  all_goals rw [next]; simp

theorem authSent_moves (plain : ∀ effect ∈ called, effect.plain = true) :
    Moves env socks (authSent key sel socks called) := by
  obtain ⟨inert,next | next⟩ := @authSent_inert key sel socks called
  all_goals exact inert_moves plain inert (by rw [next]; simp)

theorem reqSent_moves (plain : ∀ effect ∈ called, effect.plain = true) :
    Moves env socks (reqSent key sel socks called) := by
  obtain ⟨inert,next | next | next⟩ := @reqSent_inert key sel socks called
  all_goals exact inert_moves plain inert (by rw [next]; simp)

theorem handler_moves {handler : StateHandler} (found : stateHandler kind socks.current = some handler)
    (addresses : kind = .write → socks.current = .reqConnect → (∃ code, env.soError = some code ∧ code ≠ 0) →
      socks.parsers.reqParser.type = fqdn → socks.currAddr ≠ []) :
    Moves env socks (handler env key sel socks) := by
  rcases stateHandler_cases found with ⟨_,_,rfl⟩ | ⟨_,_,rfl⟩ | ⟨_,_,rfl⟩ | ⟨_,_,rfl⟩ | ⟨_,_,rfl⟩ | ⟨_,_,rfl⟩ |
    ⟨_,_,rfl⟩ | ⟨was,writes,rfl⟩ | ⟨_,⟨_,rfl⟩ | ⟨_,rfl⟩⟩
  · refine readMessage_moves (by decide) ?_
    intro parsed called plain
    exact replyTwo_moves _ _ (by decide) plain
  · exact writeReply_moves (by decide) (by simp) (fun _ _ plain => helloSent_moves plain)
  · exact readMessage_moves (by decide) (fun _ _ plain => authFinish_moves plain)
  · exact writeReply_moves (by decide) (by simp) (fun _ _ plain => authSent_moves plain)
  · exact readMessage_moves (by decide) (fun _ _ plain => reqFinish_moves plain)
  · exact writeReply_moves (by decide) (fun _ => plain_one rfl) (fun _ _ plain => reqSent_moves plain)
  · rcases @reqDns_cases env key sel socks [] with ⟨_,inert,next⟩ | ⟨current,_,_,dials⟩
    · refine inert_moves (by simp) inert ?_
      rcases next with next | next
      all_goals rw [next]; simp
    · exact dials_moves (by simp) dials current.stated
  · rcases @reqConnect_cases env key sel socks with ⟨code,error,failed,named,out⟩ | ⟨inert,next⟩
    · rw [out]
      rcases @reqDns_cases env key (selectorUnregisterFd sel socks.srcConn.socket).2 socks
        [.close socks.srcConn.socket] with ⟨empty,_⟩ | ⟨current,_,_,dials⟩
      · exact absurd empty (addresses writes was ⟨code,error,failed⟩ named)
      · exact .inr (.inr ⟨was,dials_opens dials current.stated⟩)
    · refine inert_moves (by simp) inert ?_
      rcases next with next | next
      all_goals rw [next]; simp
  · refine .inl ⟨copyRead_keeps,?_⟩
    rcases @copyRead_next env key sel socks with next | next | next
    all_goals rw [next]; simp
  · refine .inl ⟨copyWrite_keeps,?_⟩
    rcases @copyWrite_next env key sel socks with next | next | next
    all_goals rw [next]; simp

-- What a connection knows about its two descriptors: the client is always its own, the
-- origin from the first socket() on, and while it connects there is one. Until then the
-- origin is the 0 of memset, and nothing but the client is open.
structure Held (owner : Table Int Owner) (id : Nat) (socks : SocksConnModel) : Prop where
  client : socks.cliConn.socket ≠ -1 → owner socks.cliConn.socket = some (.socks id)
  origin : socks.srcAddrFamily ≠ afUnspec → socks.srcConn.socket ≠ -1 →
    owner socks.srcConn.socket = some (.socks id) ∧ socks.srcConn.socket ≠ socks.cliConn.socket
  connecting : socks.current = .reqConnect → socks.srcConn.socket ≠ -1 ∧
    owner socks.srcConn.socket = some (.socks id) ∧ socks.srcConn.socket ≠ socks.cliConn.socket
  unset : socks.srcAddrFamily = afUnspec → socks.srcConn.socket = 0 ∧
    ∀ fd, owner fd = some (.socks id) → fd = socks.cliConn.socket

structure Server.Sound (s : Server) : Prop where
  held : ∀ id socks, s.conn id = some socks → Held s.owner id socks
  live : ∀ id socks, s.conn id = some socks → id < s.nextId
  known : ∀ fd id, s.owner fd = some (.socks id) → id < s.nextId

theorem held_owner {later : Table Int Owner} (held : Held owner id socks)
    (kept : ∀ fd, later fd = some (.socks id) ↔ owner fd = some (.socks id)) : Held later id socks := by
  refine ⟨fun valid => (kept _).mpr (held.client valid),?_,?_,?_⟩
  · intro dialled open_
    obtain ⟨own,apart⟩ := held.origin dialled open_
    exact ⟨(kept _).mpr own,apart⟩
  · intro connects
    obtain ⟨open_,own,apart⟩ := held.connecting connects
    exact ⟨open_,(kept _).mpr own,apart⟩
  · intro unset
    obtain ⟨zero,only⟩ := held.unset unset
    exact ⟨zero,fun fd own => only fd ((kept fd).mp own)⟩

theorem sound_others {party : Owner} {moves : List (Act Int)} (sound : s.Sound)
    (tidy : Tidy party s.owner moves) (other : Owner.socks id ≠ party) (live : s.conn id = some socks) :
    Held (perform party s.owner moves) id socks :=
  held_owner (sound.held id socks live) (fun _ => tidy_others tidy other)

theorem known_later {moves : List (Act Int)} {bound : Nat} (known : ∀ fd id, owner fd = some (.socks id) → id < bound)
    {party : Owner} (tidy : Tidy party owner moves) (own : ∀ id, party = .socks id → id < bound) :
    ∀ fd id, perform party owner moves fd = some (.socks id) → id < bound := by
  intro fd id holds
  by_cases same : party = .socks id
  · exact own id same
  · exact known fd id ((tidy_others tidy (Ne.symm same)).mp holds)

theorem held_keeps (held : Held owner id socks) (keeps : Keeps socks out) (away : out.next ≠ .reqConnect) :
    Held owner id (jump env out).socks := by
  obtain ⟨_,_,_,stm,_,_,_,client,origin,family,_⟩ := jump_parts env out
  rw [keeps.client] at client
  rw [keeps.family] at family
  have socket : (jump env out).socks.srcConn.socket = socks.srcConn.socket :=
    (congrArg StdConnModel.socket origin).trans keeps.origin
  refine ⟨?_,?_,?_,?_⟩
  · rw [client]
    exact held.client
  · rw [client,family,socket]
    exact held.origin
  · intro connects
    rw [SocksConnModel.current,stm] at connects
    exact absurd connects away
  · rw [client,family,socket]
    exact held.unset

theorem held_opens (opens : Opens env socks dropped out) (allowed : allows (.socks id) owner (acts out.effects) = true)
    (client : socks.cliConn.socket ≠ -1 →
      perform (.socks id) owner dropped socks.cliConn.socket = some (.socks id)) :
    Held (perform (.socks id) owner (acts out.effects)) id (jump env out).socks := by
  obtain ⟨_,_,_,stm,_,_,_,cliConn,srcConn,family,_⟩ := jump_parts env out
  rw [opens.client] at cliConn
  have stated : (jump env out).socks.srcAddrFamily ≠ afUnspec := by
    rw [family]
    exact opens.family
  have socket : (jump env out).socks.srcConn.socket = env.socket :=
    (congrArg StdConnModel.socket srcConn).trans opens.origin
  rw [opens.moved] at allowed ⊢
  by_cases failed : env.socket = -1
  · rw [if_pos failed,List.append_nil]
    refine ⟨?_,?_,?_,fun unset => absurd unset stated⟩
    · rw [cliConn]
      exact client
    · intro _ open_
      rw [socket] at open_
      exact absurd failed open_
    · intro connects
      rw [SocksConnModel.current,stm] at connects
      exact absurd failed (opens.went connects)
  · rw [if_neg failed] at allowed ⊢
    rw [allows_append] at allowed
    have free : perform (.socks id) owner dropped env.socket = none := by
      simpa [allows] using (Bool.and_eq_true_iff.mp allowed).2
    have apart : env.socket ≠ socks.cliConn.socket := by
      intro same
      have own := client (by rw [← same]; exact failed)
      rw [← same,free] at own
      cases own
    have fresh : perform (.socks id) owner (dropped ++ [.take env.socket]) env.socket = some (.socks id) := by
      rw [perform_append,perform_cons,perform_nil]
      exact Function.update_self _ _ _
    refine ⟨?_,?_,?_,fun unset => absurd unset stated⟩
    · intro valid
      rw [cliConn] at valid ⊢
      rw [perform_append,perform_cons,perform_nil,act,Function.update_of_ne apart.symm]
      exact client valid
    · intro _ _
      rw [socket,cliConn]
      exact ⟨fresh,apart⟩
    · intro _
      rw [socket,cliConn]
      exact ⟨failed,fresh,apart⟩

theorem held_moves (held : Held owner id socks) (moves : Moves env socks out)
    (allowed : allows (.socks id) owner (acts out.effects) = true) :
    Tidy (.socks id) owner (acts out.effects) ∧
    Held (perform (.socks id) owner (acts out.effects)) id (jump env out).socks := by
  rcases moves with ⟨keeps,away⟩ | opens | ⟨connects,opens⟩
  · rw [acts_plain keeps.plain]
    exact ⟨trivial,held_keeps held keeps away⟩
  · refine ⟨?_,held_opens opens allowed held.client⟩
    rw [opens.moved] at allowed ⊢
    split
    · trivial
    · rename_i opened
      rw [if_neg opened] at allowed
      exact ⟨by simpa [allows] using allowed,trivial⟩
  · obtain ⟨_,own,apart⟩ := held.connecting connects
    refine ⟨?_,held_opens opens allowed ?_⟩
    · rw [opens.moved] at allowed ⊢
      refine ⟨own,?_⟩
      split
      · trivial
      · rename_i opened
        rw [if_neg opened] at allowed
        exact ⟨by simpa [allows] using allowed,trivial⟩
    · intro valid
      rw [perform_cons,perform_nil,act,Function.update_of_ne apart.symm]
      exact held.client valid

theorem apply_parts {moves : List (Act Int)} {ends : Bool} (ran : s.apply id moves sel socks ends = some next) :
    allows (.socks id) s.owner moves = true ∧ next.owner = perform (.socks id) s.owner moves ∧
    next.conn = Function.update s.conn id (some socks) ∧ next.nextId = s.nextId := by
  unfold Server.apply at ran
  split at ran
  · rename_i allowed
    cases ran
    exact ⟨allowed,rfl,rfl,rfl⟩
  · cases ran

theorem apply_sound {moves : List (Act Int)} {ends : Bool} (sound : s.Sound)
    (ran : s.apply id moves sel socks ends = some next) (tidy : Tidy (.socks id) s.owner moves)
    (issued : id < s.nextId) (own : Held (perform (.socks id) s.owner moves) id socks) : next.Sound := by
  obtain ⟨_,table,conn,ids⟩ := apply_parts ran
  refine ⟨?_,?_,?_⟩
  · intro other theirs live
    rw [table]
    rw [conn] at live
    by_cases same : other = id
    · subst same
      rw [Function.update_self] at live
      cases live
      exact own
    · rw [Function.update_of_ne same] at live
      exact sound_others sound tidy (by simpa using same) live
  · intro other theirs live
    rw [ids]
    rw [conn] at live
    by_cases same : other = id
    · rw [same]
      exact issued
    · rw [Function.update_of_ne same] at live
      exact sound.live other theirs live
  · rw [table,ids]
    refine known_later sound.known tidy ?_
    intro other same
    cases same
    exact issued

theorem entry_live (found : s.entry fd = some (id,socks)) : s.conn id = some socks := by
  obtain ⟨item,_,leads⟩ := Option.bind_eq_some_iff.mp found
  split at leads
  · obtain ⟨object,_,stored⟩ := Option.bind_eq_some_iff.mp leads
    obtain ⟨conn,live,pair⟩ := Option.map_eq_some_iff.mp stored
    cases pair
    exact live
  · cases leads

theorem accept_sound {listener socket : Int} {nio : Bool} (sound : s.Sound)
    (ran : s.serve (.accept listener socket nio) = some next) : next.Sound := by
  unfold Server.serve at ran
  dsimp only at ran
  split at ran
  · obtain ⟨allowed,_⟩ := apply_parts ran
    have later : Server.Sound {s with nextId:=s.nextId+1} :=
      ⟨sound.held,fun id socks live => Nat.lt_succ_of_lt (sound.live id socks live),
        fun fd id own => Nat.lt_succ_of_lt (sound.known fd id own)⟩
    refine apply_sound later ran ?_ (Nat.lt_succ_self _) ?_
    · split
      · trivial
      · rename_i opened
        rw [if_neg opened] at allowed
        exact ⟨by simpa [allows] using allowed,trivial⟩
    · refine ⟨?_,?_,?_,?_⟩
      · intro valid
        rw [if_neg (show ¬ socket = -1 from valid)]
        exact Function.update_self _ _ _
      · intro dialled
        exact absurd rfl dialled
      · intro connects
        cases connects
      · refine fun _ => ⟨rfl,?_⟩
        intro fd own
        by_contra away
        have before : s.owner fd = some (.socks s.nextId) := by
          split at own
          · exact own
          · rwa [perform_cons,perform_nil,act,Function.update_of_ne (show fd ≠ socket from away)] at own
        exact Nat.lt_irrefl _ (sound.known fd _ before)
  · cases ran

theorem serve_event (ran : s.serve (.event kind fd env) = some next) :
    ∃ id socks handler, s.entry fd = some (id,socks) ∧ stateHandler kind socks.current = some handler ∧
      let out := handler env ⟨fd,id⟩ s.sel (handleFirst socks)
      s.apply id (acts out.effects) out.sel (jump env out).socks (out.next = .error || out.next = .done) = some next := by
  unfold Server.serve at ran
  dsimp only at ran
  split at ran
  · obtain ⟨⟨id,socks⟩,found,ran⟩ := Option.bind_eq_some_iff.mp ran
    obtain ⟨out,handled,ran⟩ := Option.bind_eq_some_iff.mp ran
    obtain ⟨handler,table,jumped⟩ := Option.map_eq_some_iff.mp handled
    refine ⟨id,socks,handler,found,table,?_⟩
    obtain ⟨sel,effects,kept,_⟩ := jump_parts env (handler env ⟨fd,id⟩ s.sel (handleFirst socks))
    rw [← jumped,effects,sel,kept] at ran
    exact ran
  · cases ran

theorem event_sound (sound : s.Sound) (ran : s.serve (.event kind fd env) = some next)
    (addresses : s.exhausts (.event kind fd env) = false) : next.Sound := by
  obtain ⟨id,socks,handler,found,table,ran⟩ := serve_event ran
  have live := entry_live found
  have first : stateHandler kind (handleFirst socks).current = some handler := table
  have moves := @handler_moves (handleFirst socks) env ⟨fd,id⟩ s.sel kind handler first (by
    rintro rfl current ⟨code,error,failed⟩ named empty
    have connects : socks.current = .reqConnect := current
    have name : socks.parsers.reqParser.type = fqdn := named
    have none_ : socks.currAddr = [] := empty
    simp [Server.exhausts,found,connects,error,failed,name,none_] at addresses)
  have start : Held s.owner id (handleFirst socks) := by
    obtain ⟨client,origin,connecting,unset⟩ := sound.held id socks live
    exact ⟨client,origin,connecting,unset⟩
  obtain ⟨tidy,own⟩ := held_moves start moves (apply_parts ran).1
  exact apply_sound sound ran tidy (sound.live id socks live) own

theorem resolved_sound {addrs : List AddrInfo} (sound : s.Sound)
    (ran : s.serve (.resolved id addrs) = some next) : next.Sound := by
  obtain ⟨socks,live,ran⟩ := Option.bind_eq_some_iff.mp ran
  split at ran
  · cases ran
    have before : ∀ other theirs, Function.update s.conn id (some {socks with resolvedAddr:=addrs,currAddr:=addrs}) other =
        some theirs → ∃ was, s.conn other = some was ∧ (Held s.owner other was → Held s.owner other theirs) := by
      intro other theirs found
      by_cases same : other = id
      · subst same
        rw [Function.update_self] at found
        cases found
        refine ⟨socks,live,?_⟩
        rintro ⟨client,origin,connecting,unset⟩
        exact ⟨client,origin,connecting,unset⟩
      · rw [Function.update_of_ne same] at found
        exact ⟨theirs,found,fun held => held⟩
    refine ⟨?_,?_,sound.known⟩
    · intro other theirs found
      obtain ⟨was,conn,held⟩ := before other theirs found
      exact held (sound.held other was conn)
    · intro other theirs found
      obtain ⟨was,conn,_⟩ := before other theirs found
      exact sound.live other was conn
  · cases ran

theorem party_sound {party : Owner} {moves : List (Act Int)} (sound : s.Sound) (tidy : Tidy party s.owner moves)
    (outside : party.foreign = true) (table : next.owner = perform party s.owner moves) (conn : next.conn = s.conn)
    (ids : next.nextId = s.nextId) : next.Sound := by
  have apart : ∀ id, party ≠ .socks id := by
    intro id same
    rw [same] at outside
    cases outside
  refine ⟨?_,?_,?_⟩
  · rw [conn,table]
    intro id socks live
    exact sound_others sound tidy (apart id).symm live
  · rw [conn,ids]
    exact sound.live
  · rw [table,ids]
    exact known_later sound.known tidy (fun id same => absurd same (apart id))

theorem opens_sound {party : Owner} (sound : s.Sound) (ran : s.serve (.opens fd party) = some next) : next.Sound := by
  unfold Server.serve at ran
  dsimp only at ran
  split at ran
  · rename_i free
    cases ran
    simp only [Bool.and_eq_true,Option.isNone_iff_eq_none] at free
    exact @party_sound s _ party [.take fd] sound ⟨free.1.2,trivial⟩ free.1.1 rfl rfl rfl
  · cases ran

theorem foreign_sound {call : ForeignCall} (sound : s.Sound) (ran : s.serve (.foreign fd call) = some next) :
    next.Sound := by
  unfold Server.serve at ran
  dsimp only at ran
  split at ran
  · rename_i theirs
    obtain ⟨party,holds,outside⟩ := (Option.any_eq_true _ _).mp theirs
    cases call with
    | register handler interest data =>
        unfold Server.foreignCall at ran
        dsimp only at ran
        split at ran
        · cases ran
        · cases ran
          exact ⟨sound.held,sound.live,sound.known⟩
    | setInterest interest =>
        cases ran
        exact ⟨sound.held,sound.live,sound.known⟩
    | unregister =>
        cases ran
        exact ⟨sound.held,sound.live,sound.known⟩
    | close =>
        cases ran
        exact @party_sound s _ party [.drop fd] sound ⟨holds,trivial⟩ outside rfl rfl rfl
  · cases ran

theorem close_named {move : Act Int} (member : move ∈ acts (closeSocksConn sel socks).2) :
    (move = .drop socks.cliConn.socket ∧ socks.cliConn.socket ≠ -1) ∨
    (move = .drop socks.srcConn.socket ∧ socks.srcConn.socket ≠ -1) := by
  rw [close_acts] at member
  rcases List.mem_append.mp member with server | client
  · split at server
    · rename_i valid
      exact .inr ⟨List.mem_singleton.mp server,valid⟩
    · cases server
  · split at client
    · rename_i valid
      exact .inl ⟨List.mem_singleton.mp client,valid⟩
    · cases client

theorem close_tidy (held : Held owner id socks) (dialled : socks.srcAddrFamily ≠ afUnspec) :
    Tidy (.socks id) owner (acts (closeSocksConn sel socks).2) := by
  rw [close_acts]
  by_cases server : socks.srcConn.socket = -1
  · rw [if_neg (not_not.mpr server),List.nil_append]
    split
    · rename_i valid
      exact ⟨held.client valid,trivial⟩
    · trivial
  · obtain ⟨own,apart⟩ := held.origin dialled server
    rw [if_pos server,List.singleton_append]
    refine ⟨own,?_⟩
    split
    · rename_i valid
      refine ⟨?_,trivial⟩
      rw [act,Function.update_of_ne apart.symm]
      exact held.client valid
    · trivial

theorem close_own (held : Held s.owner id socks) (dialled : socks.srcAddrFamily ≠ afUnspec) :
    ClosesOwn s id socks := by
  refine ⟨close_tidy held dialled,?_,?_,?_⟩
  · intro fd member
    rcases close_named member with ⟨same,_⟩ | ⟨same,_⟩
    · exact .inl (Act.drop.inj same)
    · exact .inr (Act.drop.inj same)
  · intro fd absent
    rw [close_acts] at absent
    rw [close_entries]
    split
    · rename_i closed
      have none_ : fd = -1 := by
        by_contra valid
        rcases closed with rfl | rfl
        · exact absent (List.mem_append_right _ (by rw [if_pos valid]; exact List.mem_singleton_self _))
        · exact absent (List.mem_append_left _ (by rw [if_pos valid]; exact List.mem_singleton_self _))
      rw [none_,registered_negative]
    · rfl
  · intro fd absent
    refine perform_elsewhere ?_
    intro move member
    refine ⟨?_,fun same => absent (same ▸ member)⟩
    rcases close_named member with ⟨same,_⟩ | ⟨same,_⟩
    all_goals rw [same]; simp

-- Before the first socket() the origin is descriptor 0, which is somebody else's or is
-- the client and closed twice.
theorem close_unset (held : Held s.owner id socks) (closes : ClosesOwn s id socks) :
    socks.srcAddrFamily ≠ afUnspec := by
  intro unset
  obtain ⟨zero,only⟩ := held.unset unset
  have own := closes.own
  rw [close_acts,zero,if_pos (by decide),List.singleton_append] at own
  obtain ⟨mine,rest⟩ := own
  have client := only 0 mine
  rw [← client,if_pos (by decide)] at rest
  have again := rest.1
  rw [act,Function.update_self] at again
  cases again

theorem close_sound (sound : s.Sound) (live : s.conn id = some socks) (dialled : socks.srcAddrFamily ≠ afUnspec) :
    (s.close id socks).Sound := by
  have tidy := @close_tidy socks s.sel id s.owner (sound.held id socks live) dialled
  have before : ∀ other theirs, Function.update s.conn id none other = some theirs →
      other ≠ id ∧ s.conn other = some theirs := by
    intro other theirs found
    by_cases same : other = id
    · rw [same,Function.update_self] at found
      cases found
    · rw [Function.update_of_ne same] at found
      exact ⟨same,found⟩
  refine ⟨?_,?_,?_⟩
  · intro other theirs found
    obtain ⟨apart,conn⟩ := before other theirs found
    exact sound_others sound tidy (by simpa using apart) conn
  · intro other theirs found
    exact sound.live other theirs (before other theirs found).2
  · refine known_later sound.known tidy ?_
    intro other same
    cases same
    exact sound.live id socks live

theorem careful_parts (ran : carefulStep s e = some next) :
    s.exhausts e = false ∧ s.undialled e = false ∧ serverStep s e = some next := by
  unfold carefulStep at ran
  split at ran
  · cases ran
  · rename_i careful
    obtain ⟨addresses,dialled⟩ := Bool.or_eq_false_iff.mp (Bool.eq_false_iff.mpr careful)
    exact ⟨addresses,dialled,ran⟩

theorem preserves_sound (sound : s.Sound) (ran : carefulStep s e = some next) : next.Sound := by
  obtain ⟨addresses,dialled,ran⟩ := careful_parts ran
  unfold serverStep at ran
  split at ran
  · cases e with
    | accept listener socket nio => exact accept_sound sound ran
    | event kind fd env => exact event_sound sound ran addresses
    | resolved id addrs => exact resolved_sound sound ran
    | opens fd party => exact opens_sound sound ran
    | foreign fd call => exact foreign_sound sound ran
    | close => cases ran
  · rename_i id closing
    cases e with
    | close =>
        obtain ⟨socks,live,closed⟩ := Option.map_eq_some_iff.mp ran
        cases closed
        refine close_sound sound live ?_
        intro unset
        simp [Server.undialled,closing,live,unset] at dialled
    | _ => cases ran

theorem runs_sound (path : CarefulRuns serverStart events s) : s.Sound := by
  refine path.invariant ⟨?_,?_,?_⟩ (fun _ _ _ => preserves_sound)
  · intro id socks live
    cases live
  · intro id socks live
    cases live
  · intro fd id own
    cases own

theorem close_own_exact (path : CarefulRuns serverStart events s) (live : s.conn id = some socks) :
    ClosesOwn s id socks ↔ socks.srcAddrFamily ≠ afUnspec :=
  ⟨close_unset ((runs_sound path).held id socks live),close_own ((runs_sound path).held id socks live)⟩

theorem exhausted_strands (path : CarefulRuns serverStart events s) (ran : serverStep s e = some next)
    (exhausts : s.exhausts e = true) : ∃ id socks, next.conn id = some socks ∧ ¬ ClosesOwn next id socks := by
  unfold Server.exhausts at exhausts
  split at exhausts
  · rename_i fd env
    obtain ⟨⟨id,socks⟩,found,rest⟩ := (Option.any_eq_true _ _).mp exhausts
    simp only [Bool.and_eq_true,decide_eq_true_eq,Option.any_eq_true] at rest
    obtain ⟨⟨⟨connects,code,error,failed⟩,named⟩,empty⟩ := rest
    obtain ⟨open_,mine,_⟩ := ((runs_sound path).held id socks (entry_live found)).connecting connects
    have redirected : reqConnect env ⟨fd,id⟩ s.sel (handleFirst socks) =
        reqDns env ⟨fd,id⟩ (selectorUnregisterFd s.sel socks.srcConn.socket).2 (handleFirst socks)
          [.close socks.srcConn.socket] := by
      unfold reqConnect
      rw [error]
      dsimp only
      rw [if_pos failed,if_pos (show (handleFirst socks).parsers.reqParser.type = fqdn from named)]
      rfl
    unfold serverStep at ran
    split at ran
    · obtain ⟨served,conn,handler,entry,table,ran⟩ := serve_event ran
      cases found.symm.trans entry
      rw [connects] at table
      cases table
      dsimp only at ran
      rw [redirected] at ran
      rcases @reqDns_cases env ⟨fd,id⟩ (selectorUnregisterFd s.sel socks.srcConn.socket).2 (handleFirst socks)
        [.close socks.srcConn.socket] with ⟨_,inert,_⟩ | ⟨_,_,some_,_⟩
      · obtain ⟨more,grown,plain⟩ := inert.grown
        obtain ⟨_,owner,conn,_⟩ := apply_parts ran
        refine ⟨id,_,by rw [conn,Function.update_self],?_⟩
        intro closes
        have own := closes.own
        rw [close_acts,(jump_parts env _).2.2.2.2.2.2.2.2.1,inert.origin,owner,grown,acts_append,acts_plain plain,
          List.append_nil,if_pos (show (handleFirst socks).srcConn.socket ≠ -1 from open_)] at own
        exact absurd (own.1.symm.trans (Function.update_self _ _ _)) (by simp)
      · exact absurd (empty.symm.trans some_) (by simp)
    · cases ran
  · cases exhausts

-- The listener got descriptor 0, which main had closed, and accepts on descriptor 5.
def listening : List ServerEvent :=
  [.opens 0 .listener,.foreign 0 (.register .passiveSocketFd opRead none),.accept 0 5 true]

def refused : List ServerEvent :=
  listening ++ [.event .read 5 {quiet with recv:=.data [0x05,0x01,0x00]},.event .write 5 {quiet with send:=.sent 2},
    .event .read 5 {quiet with
      recv:=.data [0x05,0x01,0x00,0x01,10,0,0,1,0,80],socket:=6,connect:=.failed einprogress},
    .event .write 6 {quiet with soError:=some econnrefused},.event .write 5 {quiet with send:=.sent 10}]

theorem refused_closes_own : ∃ s socks, Transitions.exec carefulStep serverStart refused = some s ∧
    s.closing = some 1 ∧ s.conn 1 = some socks ∧ ClosesOwn s 1 socks := by
  have facts : (Transitions.exec carefulStep serverStart refused).map
      (fun s => (s.closing,(s.conn 1).map fun socks => decide (socks.srcAddrFamily ≠ afUnspec))) =
      some (some 1,some true) := by decide +kernel
  obtain ⟨s,ran,found⟩ := Option.map_eq_some_iff.mp facts
  obtain ⟨closing,conn⟩ := Prod.mk.inj found
  obtain ⟨socks,live,dialled⟩ := Option.map_eq_some_iff.mp conn
  exact ⟨s,socks,ran,closing,live,(close_own_exact (Transitions.exec_runs ran) live).mpr (of_decide_eq_true dialled)⟩

-- A client that says nothing and leaves takes the listener on descriptor 0 with it.
theorem silent_client_closes_listener : ∃ s socks,
    Transitions.exec serverStep serverStart (listening ++ [.event .read 5 quiet]) = some s ∧
    s.closing = some 1 ∧ s.conn 1 = some socks ∧ s.owner 0 = some .listener ∧
    s.sel.registered 0 = some ⟨0,opRead,some .passiveSocketFd,none⟩ ∧
    (s.close 1 socks).owner 0 = none ∧ (s.close 1 socks).sel.registered 0 = none ∧ ¬ ClosesOwn s 1 socks := by
  have facts : (Transitions.exec serverStep serverStart (listening ++ [.event .read 5 quiet])).map
      (fun s => (s.closing,s.owner 0,s.sel.registered 0)) =
      some (some 1,some .listener,some ⟨0,opRead,some .passiveSocketFd,none⟩) := by decide +kernel
  have calls : (Transitions.exec serverStep serverStart (listening ++ [.event .read 5 quiet])).bind
      (fun s => (s.conn 1).map fun socks => (acts (closeSocksConn s.sel socks).2,(s.close 1 socks).owner 0,
        (s.close 1 socks).sel.registered 0)) = some ([.drop 0,.drop 5],none,none) := by decide +kernel
  obtain ⟨s,ran,found⟩ := Option.map_eq_some_iff.mp facts
  simp only [Prod.mk.injEq] at found
  obtain ⟨closing,owner,entry⟩ := found
  rw [ran] at calls
  obtain ⟨socks,live,closed⟩ := Option.map_eq_some_iff.mp calls
  simp only [Prod.mk.injEq] at closed
  obtain ⟨moves,released,unregistered⟩ := closed
  refine ⟨s,socks,ran,closing,live,owner,entry,released,unregistered,?_⟩
  intro closes
  have own := closes.own
  rw [moves] at own
  exact absurd (owner.symm.trans own.1) (by simp)

end Socks5d
