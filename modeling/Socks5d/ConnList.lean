import Mathlib.Logic.Function.Basic
import Socks5d.ControlSteps
import Socks5d.Foundations.Registry

namespace Socks5d.ControlProtocol
open Registry

-- The nodes from `first` on. A node is the connection itself: its number says which
-- one, and the fd in it never changes. A node whose connection is freed while it is
-- still linked is read as it was left.
structure CpConnList where
  nodes : List (Nat × Int)
  size : Nat
  deriving DecidableEq, Repr

-- size_t has 64 bits and int has 32.
def sizeValues : Nat := 18446744073709551616
def intLimit : Nat := 2147483648

def initConnList : CpConnList := ⟨[],0⟩

def addToList (list : CpConnList) (new : Nat × Int) : CpConnList :=
  if list.nodes = [] then {list with nodes:=[new]}
  else ⟨list.nodes ++ [new],(list.size+1) % sizeValues⟩

def removeRec (fd : Int) : List (Nat × Int) → List (Nat × Int) × Nat
  | [] => ([],0)
  | current::nextConn =>
    if current.2 = fd then (nextConn,1)
    else
      let (rest,removed) := removeRec fd nextConn
      (current::rest,removed)

def removeFromList (list : CpConnList) (fd : Int) : CpConnList :=
  let (first,removed) := removeRec fd list.nodes
  ⟨first,(list.size + (sizeValues - removed)) % sizeValues⟩

-- The control connections by the number of their creation; a freed one is `none`.
structure MgmtServer where
  sel : Selector
  globals : Globals
  conns : Nat → Option ControlProtConn
  connList : CpConnList
  nextId : Nat

-- `memory` is for the three blocks of newControlProtConn, and `elsewhere` for the rest of
-- the server.
inductive MgmtEvent where
  | accept (clientFd : Int) (nio memory : Bool)
  | event (kind : EventKind) (id : Nat) (env : CpEnv)
  | elsewhere (sel : Selector) (globals : Globals)

-- accept gives an int, -1 when it fails, and no number that a connection still has open.
def MgmtServer.grants (s : MgmtServer) (clientFd : Int) : Bool :=
  decide (-1 ≤ clientFd) && decide (clientFd < intLimit) &&
    (List.range s.nextId).all fun id => (s.conns id).all fun cpc => decide (cpc.fd ≠ clientFd)

def MgmtServer.session (s : MgmtServer) (id : Nat) : ControlSession := ⟨s.sel,s.globals,s.conns id,[]⟩

def mgmtStep (s : MgmtServer) : MgmtEvent → Option MgmtServer
  | .accept clientFd nio memory =>
    if s.grants clientFd then
      if decide (clientFd < 0) || !nio || !memory then some s
      else
        let new := passiveCpSocketHandler s.nextId s.sel s.globals clientFd
        some ⟨new.sel,new.globals,Function.update s.conns s.nextId new.cpc,
          addToList s.connList (s.nextId,clientFd),s.nextId+1⟩
    else none
  | .event kind id env => (s.conns id).bind fun cpc =>
    (controlStep id (s.session id) (.event kind env)).map fun after =>
      {s with
        sel:=after.sel
        globals:=after.globals
        conns:=Function.update s.conns id after.cpc
        connList:=if .removeFromList ∈ after.trace then removeFromList s.connList cpc.fd else s.connList}
  | .elsewhere sel globals =>
    if (List.range s.nextId).all fun id => (s.session id).spares id sel then
      some {s with sel:=sel,globals:=globals}
    else none

def mgmtStart (sel : Selector) (g : Globals) : MgmtServer := ⟨sel,g,fun _ => none,initConnList,0⟩

structure MgmtServer.Listed (s : MgmtServer) : Prop where
  once : (s.connList.nodes.map Prod.fst).Nodup
  live : ∀ id, id ∈ s.connList.nodes.map Prod.fst ↔ (s.conns id).isSome = true
  size : s.connList.size = s.connList.nodes.length

def MgmtServer.founds (s : MgmtServer) : MgmtEvent → Bool
  | .accept clientFd nio memory => decide (0 ≤ clientFd) && nio && memory && s.connList.nodes.isEmpty
  | _ => false

-- An event that gets as far as cpError: recv brings bytes, or there is no room for any.
def ControlProtConn.reachesCpError (cpc : ControlProtConn) (kind : EventKind) (env : CpEnv) : Bool :=
  decide (cpc.current = .error) && match kind with
    | .read => decide (cpc.readBuffer.space = 0) || match env.recv.clip cpc.readBuffer.space with
      | .data _ => true
      | _ => false
    | _ => true

-- A connection that is freed where nothing unlinks it: selector_register refused its
-- descriptor, or an event got as far as cpError.
def MgmtServer.leaks (s : MgmtServer) : MgmtEvent → Bool
  | .accept clientFd nio memory => decide (0 ≤ clientFd) && nio && memory &&
      decide ((selectorRegister s.sel clientFd (some .cpFd) opWrite (some s.nextId)).1 ≠ .success)
  | .event kind id env => (s.conns id).any fun cpc => cpc.reachesCpError kind env
  | .elsewhere _ _ => false

structure Audit where
  server : MgmtServer
  founded : Nat
  leaked : Nat

def auditStep (a : Audit) (e : MgmtEvent) : Option Audit := (mgmtStep a.server e).map fun next =>
  ⟨next,a.founded + (a.server.founds e).toNat,a.leaked + (a.server.leaks e).toNat⟩

def auditStart (sel : Selector) (g : Globals) : Audit := ⟨mgmtStart sel g,0,0⟩

abbrev AuditRuns := Transitions.Runs fun a e next => auditStep a e = some next

variable {s next : MgmtServer} {a b : Audit} {e : MgmtEvent} {cpc : ControlProtConn} {env : CpEnv} {kind : EventKind}
  {sel : Selector} {g : Globals} {id : Nat} {fd : Int} {nodes living : List (Nat × Int)} {list : CpConnList}
  {session after : ControlSession}

theorem removeRec_strike (fd : Int) (nodes : List (Nat × Int)) :
    removeRec fd nodes = (strike fd nodes,if fd ∈ nodes.map Prod.snd then 1 else 0) := by
  induction nodes with
  | nil => rfl
  | cons current nextConn ih =>
      unfold removeRec
      by_cases same : current.2 = fd
      · have struck : strike fd (current::nextConn) = nextConn := List.eraseP_cons_of_pos (by simpa using same)
        rw [if_pos same,struck,if_pos (List.mem_map.mpr ⟨current,List.mem_cons_self,same⟩)]
      · have kept : strike fd (current::nextConn) = current::strike fd nextConn :=
          List.eraseP_cons_of_neg (by simpa using same)
        have other : fd ≠ current.2 := fun equal => same equal.symm
        rw [if_neg same,ih,kept,List.map_cons]
        simp only [List.mem_cons,other,false_or]

theorem addToList_nodes (list : CpConnList) (new : Nat × Int) : (addToList list new).nodes = list.nodes ++ [new] := by
  unfold addToList
  split
  · rename_i empty
    rw [empty]
    rfl
  · rfl

theorem removeFromList_nodes (list : CpConnList) (fd : Int) : (removeFromList list fd).nodes = strike fd list.nodes := by
  unfold removeFromList
  rw [removeRec_strike]

-- The counter lags behind the list by one for each connection that was added to an empty one.
structure Counted (list : CpConnList) (founded : Nat) : Prop where
  range : list.size < sizeValues
  lags : (list.size + founded) % sizeValues = list.nodes.length % sizeValues

theorem counted_add {founded : Nat} (counted : Counted list founded) (new : Nat × Int) :
    Counted (addToList list new) (founded + list.nodes.isEmpty.toNat) := by
  obtain ⟨range,lags⟩ := counted
  unfold addToList
  split
  · rename_i empty
    refine ⟨range,?_⟩
    rw [empty] at lags ⊢
    simp only [List.length_nil,List.length_singleton,List.isEmpty_nil,Bool.toNat_true,sizeValues] at *
    omega
  · rename_i some_
    have full : list.nodes.isEmpty = false := by simpa using some_
    refine ⟨Nat.mod_lt _ (by decide),?_⟩
    rw [full]
    simp only [List.length_append,List.length_singleton,Bool.toNat_false,sizeValues] at *
    omega

theorem counted_remove {founded : Nat} (counted : Counted list founded) (present : fd ∈ list.nodes.map Prod.snd) :
    Counted (removeFromList list fd) founded := by
  obtain ⟨range,lags⟩ := counted
  have shorter := strike_length present
  unfold removeFromList
  rw [removeRec_strike,if_pos present]
  refine ⟨Nat.mod_lt _ (by decide),?_⟩
  simp only [sizeValues] at *
  omega

inductive Fate (cpc : ControlProtConn) (kind : EventKind) (env : CpEnv) (after : ControlSession) : Prop where
  | stays (left : ControlProtConn) : after.cpc = some left → left.fd = cpc.fd → .removeFromList ∉ after.trace →
      cpc.reachesCpError kind env = false → Fate cpc kind env after
  | unlinked : after.cpc = none → .removeFromList ∈ after.trace → cpc.reachesCpError kind env = false →
      Fate cpc kind env after
  | dangling : after.cpc = none → .removeFromList ∉ after.trace → cpc.reachesCpError kind env = true →
      Fate cpc kind env after

theorem entering_unlisted (was after : ControlProtStmState) : .removeFromList ∉ entering was after := by
  unfold entering
  split
  · exact List.not_mem_nil
  · simp

theorem event_fate {data : Nat} (live : session.cpc = some cpc) (quiet : session.trace = [])
    (ran : controlStep data session (.event kind env) = some after) : Fate cpc kind env after := by
  obtain ⟨same,found_,_,handled⟩ := controlStep_handled ran
  cases live.symm.trans found_
  cases handled with
  | ended result other gave room =>
      refine .unlinked rfl (by simp [ControlSession.served,freeControlProtConn]) ?_
      have full : ¬ cpc.readBuffer.space = 0 := by omega
      unfold ControlProtConn.reachesCpError
      rw [gave]
      cases result with
      | data bytes => exact absurd rfl (other bytes)
      | closed => simp [full]
      | failed code => simp [full]
  | read called buff handler out arrives found gave =>
      have silent : .removeFromList ∉ called := by
        cases arrives with
        | segment => simp
        | full => simp
      by_cases error : cpc.current = .error
      · rw [error] at found
        cases found
        subst gave
        refine .dangling rfl ?_ ?_
        · simp only [ControlSession.served,quiet,List.nil_append,List.mem_append,not_or,cpError,freeControlProtConn]
          exact ⟨silent,by simp,entering_unlisted _ _⟩
        · unfold ControlProtConn.reachesCpError
          cases arrives with
          | segment bytes _ _ got => rw [got]; simp [error]
          | full none_ => simp [error,none_]
      · obtain ⟨⟨left,stays,fd⟩,listed⟩ := @handler_stays (cpc.handed buff) env ⟨cpc.fd,data⟩ session.sel session.globals
          _ _ handler found error
        rw [gave] at stays listed
        refine .stays (left.jumped out.next) ?_ fd ?_ ?_
        · exact (congrArg (Option.map _) stays).trans rfl
        · simp only [ControlSession.served,quiet,List.nil_append,List.mem_append,not_or]
          exact ⟨silent,listed,entering_unlisted _ _⟩
        · simp [ControlProtConn.reachesCpError,error]
  | dropped handler out found gave gone =>
      obtain ⟨error,rfl⟩ := dropped_error found ((congrArg _ gave).trans gone)
      subst gave
      refine .dangling rfl ?_ (by simp [ControlProtConn.reachesCpError,error])
      simp only [ControlSession.served,quiet,List.nil_append,List.mem_append,not_or,cpError,freeControlProtConn]
      exact ⟨by simp,entering_unlisted _ _⟩
  | wrote handler out middle served found gave left flushes =>
      have going := kept_sane found ((congrArg _ gave).trans left)
      have calm : cpc.reachesCpError .write env = false := by simp [ControlProtConn.reachesCpError,going]
      obtain ⟨⟨same,stays,fd⟩,listed⟩ := @handler_stays (cpc.handed cpc.readBuffer) env ⟨cpc.fd,data⟩ session.sel
        session.globals _ _ handler found going
      rw [gave] at stays listed
      cases left.symm.trans stays
      have silent : .removeFromList ∉ out.effects ++ entering cpc.current out.next := by
        rw [List.mem_append,not_or]
        exact ⟨listed,entering_unlisted _ _⟩
      cases flushes with
      | stopped =>
          refine .stays _ rfl fd ?_ calm
          simp only [ControlSession.served,quiet,List.nil_append,List.append_nil]
          exact silent
      | idle =>
          refine .stays _ rfl fd ?_ calm
          simp only [ControlSession.served,quiet,List.nil_append,List.append_nil]
          exact silent
      | sent bytes =>
          refine .stays _ rfl fd ?_ calm
          simp only [ControlSession.served,quiet,List.nil_append]
          rw [List.mem_append,not_or]
          exact ⟨silent,by simp⟩
      | broken => exact .unlinked rfl (by simp [ControlSession.served,freeControlProtConn]) calm

structure Lives (conns : Nat → Option ControlProtConn) (nextId : Nat) (living : List (Nat × Int)) : Prop where
  alive : ∀ id fd, (id,fd) ∈ living ↔ ∃ cpc, conns id = some cpc ∧ cpc.fd = fd
  known : ∀ id fd, (id,fd) ∈ living → id < nextId
  range : ∀ id fd, (id,fd) ∈ living → 0 ≤ fd ∧ fd < intLimit

variable {conns : Nat → Option ControlProtConn} {nextId : Nat}

theorem lives_member (lives : Lives conns nextId living) (live : conns id = some cpc) : (id,cpc.fd) ∈ living :=
  (lives.alive id cpc.fd).mpr ⟨cpc,live,rfl⟩

theorem lives_stays {left : ControlProtConn} (lives : Lives conns nextId living) (live : conns id = some cpc)
    (same : left.fd = cpc.fd) : Lives (Function.update conns id (some left)) nextId living := by
  refine ⟨?_,lives.known,lives.range⟩
  intro other fd
  rw [lives.alive]
  by_cases own : other = id
  · subst own
    rw [Function.update_self,live]
    simp only [Option.some.injEq,exists_eq_left',same]
  · rw [Function.update_of_ne own]

theorem lives_freed (lives : Lives conns nextId living) (live : conns id = some cpc)
    (keys : (living.map Prod.snd).Nodup) : Lives (Function.update conns id none) nextId (strike cpc.fd living) := by
  refine ⟨?_,?_,?_⟩
  · intro other fd
    rw [mem_strike keys]
    by_cases own : other = id
    · subst own
      rw [Function.update_self]
      constructor
      · rintro ⟨member,apart⟩
        obtain ⟨same,found,rfl⟩ := (lives.alive other fd).mp member
        cases live.symm.trans found
        exact absurd rfl apart
      · rintro ⟨_,gone,_⟩
        cases gone
    · rw [Function.update_of_ne own,lives.alive]
      constructor
      · exact And.left
      · rintro ⟨other_,found,rfl⟩
        refine ⟨⟨other_,found,rfl⟩,?_⟩
        intro shared
        have one := List.inj_on_of_nodup_map keys (lives_member lives found) (lives_member lives live) shared
        exact own (Prod.mk.inj one).1
  · intro other fd member
    exact lives.known other fd ((mem_strike keys _).mp member).1
  · intro other fd member
    exact lives.range other fd ((mem_strike keys _).mp member).1

theorem lives_new (lives : Lives conns nextId living) (low : 0 ≤ fd) (high : fd < intLimit) (own : cpc.fd = fd) :
    Lives (Function.update conns nextId (some cpc)) (nextId+1) (living ++ [(nextId,fd)]) := by
  refine ⟨?_,?_,?_⟩
  · intro other fd'
    rw [List.mem_append,List.mem_singleton,Prod.mk.injEq]
    by_cases new : other = nextId
    · subst new
      rw [Function.update_self]
      constructor
      · rintro (member | ⟨_,rfl⟩)
        · exact absurd (lives.known _ _ member) (Nat.lt_irrefl _)
        · exact ⟨cpc,rfl,own⟩
      · rintro ⟨_,same,rfl⟩
        cases same
        exact .inr ⟨rfl,own⟩
    · rw [Function.update_of_ne new,lives.alive]
      simp [new]
  · intro other fd' member
    rcases List.mem_append.mp member with old | new
    · exact Nat.lt_succ_of_lt (lives.known _ _ old)
    · cases List.mem_singleton.mp new
      exact Nat.lt_succ_self _
  · intro other fd' member
    rcases List.mem_append.mp member with old | new
    · exact lives.range _ _ old
    · cases List.mem_singleton.mp new
      exact ⟨low,high⟩

structure Audit.Sound (a : Audit) : Prop where
  kept : ∃ living, Kept a.server.connList.nodes living a.leaked ∧ Lives a.server.conns a.server.nextId living
  counted : Counted a.server.connList a.founded

theorem audit_start (sel : Selector) (g : Globals) : (auditStart sel g).Sound := by
  refine ⟨⟨[],kept_start,?_,by simp,by simp⟩,⟨show 0 < sizeValues by decide,rfl⟩⟩
  intro id fd
  constructor
  · intro member
    cases member
  · rintro ⟨cpc,live,_⟩
    cases live

theorem grants_free (granted : s.grants fd = true) (lives : Lives s.conns s.nextId living) :
    fd < intLimit ∧ fd ∉ living.map Prod.snd := by
  simp only [MgmtServer.grants,Bool.and_eq_true,decide_eq_true_eq,List.all_eq_true,List.mem_range] at granted
  obtain ⟨⟨_,high⟩,free⟩ := granted
  refine ⟨high,?_⟩
  intro member
  obtain ⟨⟨id,_⟩,inside,rfl⟩ := List.mem_map.mp member
  obtain ⟨cpc,live,same⟩ := (lives.alive id _).mp inside
  have apart := free id (lives.known id _ inside)
  rw [live,Option.all_some] at apart
  exact of_decide_eq_true apart same

theorem accepted_sound {clientFd : Int} (sound : a.Sound) (granted : a.server.grants clientFd = true) (low : 0 ≤ clientFd) :
    let new := passiveCpSocketHandler a.server.nextId a.server.sel a.server.globals clientFd
    let list := addToList a.server.connList (a.server.nextId,clientFd)
    let refused := (selectorRegister a.server.sel clientFd (some .cpFd) opWrite (some a.server.nextId)).1 ≠ .success
    Audit.Sound ⟨⟨new.sel,new.globals,Function.update a.server.conns a.server.nextId new.cpc,list,a.server.nextId+1⟩,
      a.founded + a.server.connList.nodes.isEmpty.toNat,a.leaked + (decide refused).toNat⟩ := by
  obtain ⟨⟨living,kept,lives⟩,counted⟩ := sound
  obtain ⟨high,free⟩ := grants_free granted lives
  have number : a.server.nextId ∉ living.map Prod.fst := by
    intro member
    obtain ⟨⟨id,fd⟩,inside,rfl⟩ := List.mem_map.mp member
    exact absurd (lives.known _ fd inside) (Nat.lt_irrefl _)
  have enrolled := kept_enrol kept number free
  have born := @lives_new (newControlProtConn clientFd) clientFd living _ _ lives low high rfl
  intro new list refused
  refine ⟨?_,counted_add counted _⟩
  dsimp only
  rw [addToList_nodes]
  by_cases failed : refused
  · have gone : new.cpc = none := by
      simp only [new,passiveCpSocketHandler]
      rw [if_pos (show (selectorRegister a.server.sel (newControlProtConn clientFd).fd (some .cpFd)
        (newControlProtConn clientFd).interests (some a.server.nextId)).1 ≠ .success from failed)]
      rfl
    have inside : clientFd ∈ (living ++ [(a.server.nextId,clientFd)]).map Prod.snd := by simp
    have freed := lives_freed born (Function.update_self _ _ _) enrolled.keys
    rw [Function.update_idem] at freed
    rw [gone,decide_eq_true failed]
    exact ⟨_,kept_lose enrolled inside,freed⟩
  · have made : new.cpc = some (newControlProtConn clientFd) := by
      simp only [new,passiveCpSocketHandler]
      rw [if_neg (show ¬ (selectorRegister a.server.sel (newControlProtConn clientFd).fd (some .cpFd)
        (newControlProtConn clientFd).interests (some a.server.nextId)).1 ≠ .success from failed)]
    rw [made,decide_eq_false failed]
    exact ⟨_,enrolled,born⟩

theorem preserves_sound (sound : a.Sound) (ran : auditStep a e = some b) : b.Sound := by
  obtain ⟨next,step,rfl⟩ := Option.map_eq_some_iff.mp ran
  cases e with
  | accept clientFd nio memory =>
      unfold mgmtStep at step
      dsimp only at step
      split at step
      · rename_i granted
        by_cases low : 0 ≤ clientFd
        · have valid : decide (clientFd < 0) = false := by simpa using low
          simp only [MgmtServer.founds,MgmtServer.leaks,low,decide_true,Bool.true_and]
          rw [valid,Bool.false_or] at step
          cases nio with
          | false => cases step; exact sound
          | true =>
              cases memory with
              | false => cases step; exact sound
              | true => cases step; exact accepted_sound sound granted low
        · have wrong : decide (clientFd < 0) = true := by simpa using low
          rw [wrong] at step
          cases step
          simp only [MgmtServer.founds,MgmtServer.leaks,low,decide_false,Bool.false_and]
          exact sound
      · cases step
  | event kind id env =>
      obtain ⟨cpc,live,step⟩ := Option.bind_eq_some_iff.mp step
      obtain ⟨after,served,rfl⟩ := Option.map_eq_some_iff.mp step
      obtain ⟨⟨living,kept,lives⟩,counted⟩ := sound
      have present : cpc.fd ∈ living.map Prod.snd := List.mem_map_of_mem (lives_member lives live)
      have leaks : a.server.leaks (.event kind id env) = cpc.reachesCpError kind env := by
        rw [MgmtServer.leaks,live,Option.any_some]
      rw [leaks]
      have fate : Fate cpc kind env after := event_fate (show (a.server.session id).cpc = some cpc from live) rfl served
      cases fate with
      | stays left stored same unlisted calm =>
          rw [calm,stored,if_neg unlisted]
          exact ⟨⟨living,kept,lives_stays lives live same⟩,counted⟩
      | unlinked gone listed calm =>
          rw [calm,gone,if_pos listed]
          refine ⟨⟨strike cpc.fd living,?_,lives_freed lives live kept.keys⟩,
            counted_remove counted (kept.covered _ present)⟩
          dsimp only
          rw [removeFromList_nodes]
          exact kept_retire kept present
      | dangling gone unlisted slipped =>
          rw [slipped,gone,if_neg unlisted]
          exact ⟨⟨strike cpc.fd living,kept_lose kept present,lives_freed lives live kept.keys⟩,counted⟩
  | elsewhere sel globals =>
      unfold mgmtStep at step
      dsimp only at step
      split at step
      · cases step
        exact ⟨sound.kept,sound.counted⟩
      · cases step

theorem runs_sound {events : List MgmtEvent} (path : AuditRuns (auditStart sel g) events a) : a.Sound :=
  path.invariant (audit_start sel g) (fun _ _ _ => preserves_sound)

theorem nodes_exact (sound : a.Sound) :
    ((a.server.connList.nodes.map Prod.fst).Nodup ∧
      ∀ id, id ∈ a.server.connList.nodes.map Prod.fst ↔ (a.server.conns id).isSome = true) ↔ a.leaked = 0 := by
  obtain ⟨⟨living,kept,lives⟩,_⟩ := sound
  have alive : ∀ id, id ∈ living.map Prod.fst ↔ (a.server.conns id).isSome = true := by
    intro id
    constructor
    · intro member
      obtain ⟨⟨_,fd⟩,inside,rfl⟩ := List.mem_map.mp member
      obtain ⟨cpc,live,_⟩ := (lives.alive _ fd).mp inside
      rw [live]
      rfl
    · intro some_
      obtain ⟨cpc,live⟩ := Option.isSome_iff_exists.mp some_
      exact List.mem_map.mpr ⟨_,lives_member lives live,rfl⟩
  rw [← kept_exact kept]
  simp only [alive]

theorem nodes_bounded (sound : a.Sound) (none_ : a.leaked = 0) : a.server.connList.nodes.length < sizeValues := by
  obtain ⟨⟨living,kept,lives⟩,_⟩ := sound
  have few : (living.map Prod.snd).length ≤ intLimit := by
    refine nodup_bounded kept.keys ?_
    intro fd member
    obtain ⟨⟨id,_⟩,inside,rfl⟩ := List.mem_map.mp member
    exact lives.range id _ inside
  have count := kept.count
  rw [List.length_map] at few
  rw [none_] at count
  simp only [intLimit,sizeValues] at *
  omega

theorem list_exact {events : List MgmtEvent} (path : AuditRuns (auditStart sel g) events a) :
    a.server.Listed ↔ a.leaked = 0 ∧ a.founded % sizeValues = 0 := by
  have sound := runs_sound path
  constructor
  · rintro ⟨once,live,size⟩
    have lags := sound.counted.lags
    refine ⟨(nodes_exact sound).mp ⟨once,live⟩,?_⟩
    rw [size] at lags
    simp only [sizeValues] at *
    omega
  · rintro ⟨none_,whole⟩
    obtain ⟨once,live⟩ := (nodes_exact sound).mpr none_
    have few := nodes_bounded sound none_
    obtain ⟨range,lags⟩ := sound.counted
    refine ⟨once,live,?_⟩
    simp only [sizeValues] at *
    omega

def seen (a : Audit) : CpConnList × List Bool × Nat × Nat :=
  (a.server.connList,(List.range a.server.nextId).map fun id => (a.server.conns id).isSome,a.founded,a.leaked)

def listRun (events : List MgmtEvent) : Option Audit :=
  Transitions.exec auditStep (auditStart mainSelector ⟨.empty,true,.start⟩) events

def serves (id : Nat) (kind : EventKind) (recv : Recv) (count : Nat) : MgmtEvent :=
  .event kind id ⟨recv,.sent count,true,[],4⟩

-- A client that gets its HELLO and then sends a byte that no password line starts with.
def malformed (id : Nat) : List MgmtEvent :=
  [serves id .write .closed 7,serves id .write .closed 0,serves id .read (.data [0xFF]) 0,serves id .read (.data [0xFF]) 0]

theorem two_clients_exact : ∃ a, listRun [.accept 7 true true,.accept 8 true true,serves 0 .write .closed 0] = some a ∧
    seen a = (⟨[(1,8)],0⟩,[false,true],1,0) ∧ (a.server.Listed ↔ a.leaked = 0 ∧ a.founded % sizeValues = 0) := by
  have facts : (listRun [.accept 7 true true,.accept 8 true true,serves 0 .write .closed 0]).map seen =
      some (⟨[(1,8)],0⟩,[false,true],1,0) := by decide +kernel
  obtain ⟨a,ran,saw⟩ := Option.map_eq_some_iff.mp facts
  exact ⟨a,ran,saw,list_exact (Transitions.exec_runs ran)⟩

-- One client and nothing else; one whose number selector_register does not take; and two
-- that use one number, the first of them malformed: its node is the one that the end of
-- the second takes out.
theorem list_drifts :
    (∃ a, listRun [.accept 7 true true] = some a ∧ seen a = (⟨[(0,7)],0⟩,[true],1,0) ∧ ¬ a.server.Listed) ∧
    (∃ a, listRun [.accept 1024 true true] = some a ∧ seen a = (⟨[(0,1024)],0⟩,[false],1,1) ∧ ¬ a.server.Listed) ∧
    ∃ a, listRun ([.accept 7 true true] ++ malformed 0 ++ [.accept 7 true true,serves 1 .write .closed 0]) = some a ∧
      seen a = (⟨[(1,7)],0⟩,[false,false],1,1) ∧ ¬ a.server.Listed := by
  have one : (listRun [.accept 7 true true]).map seen = some (⟨[(0,7)],0⟩,[true],1,0) := by decide +kernel
  have two : (listRun [.accept 1024 true true]).map seen = some (⟨[(0,1024)],0⟩,[false],1,1) := by decide +kernel
  have three : (listRun ([.accept 7 true true] ++ malformed 0 ++ [.accept 7 true true,serves 1 .write .closed 0])).map
      seen = some (⟨[(1,7)],0⟩,[false,false],1,1) := by decide +kernel
  have short : ∀ a list alive founded leaked, seen a = (list,alive,founded,leaked) → list.size ≠ list.nodes.length →
      ¬ a.server.Listed := by
    rintro a list alive founded leaked saw wrong ⟨_,_,size⟩
    cases saw
    exact wrong size
  obtain ⟨a,ran,saw⟩ := Option.map_eq_some_iff.mp one
  obtain ⟨b,ran',saw'⟩ := Option.map_eq_some_iff.mp two
  obtain ⟨c,ran'',saw''⟩ := Option.map_eq_some_iff.mp three
  exact ⟨⟨a,ran,saw,short _ _ _ _ _ saw (by decide)⟩,⟨b,ran',saw',short _ _ _ _ _ saw' (by decide)⟩,
    c,ran'',saw'',short _ _ _ _ _ saw'' (by decide)⟩

end Socks5d.ControlProtocol
