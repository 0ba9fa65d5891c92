import Socks5d.Args
import Socks5d.Daemon

namespace Socks5d

-- What the calls of one start_socket answer. `stale` is what stands in ret_fd as long as
-- nothing is assigned to it.
structure SocketEnv where
  getaddrinfo : Bool
  socket : Int
  reuseAddr : Bool
  v6Only : Bool
  bind : Bool
  listen : Bool
  stale : Int
  deriving DecidableEq, Repr

inductive BootCall where
  | getaddrinfo (ipAddr : Option (List UInt8)) (port : List UInt8) (aiFamily : Nat)
  | socket (fd : Int)
  | bind (fd : Int)
  | listen (fd : Int)
  | close (fd : Int)
  deriving DecidableEq, Repr

structure Started where
  retFd : Int
  sel : Selector
  calls : List BootCall

-- The label finally: `error` is set on every way there but the one from bind.
def finallySocket (error : Bool) (retFd : Int) (sel : Selector) (calls : List BootCall) : Started :=
  if error && decide (retFd ≠ -1) then ⟨-1,sel,calls ++ [.close retFd]⟩ else ⟨retFd,sel,calls⟩

def startSocket (env : SocketEnv) (ipAddr : Option (List UInt8)) (port : List UInt8) (handler : FdHandler) (aiFamily : Nat)
    (sel : Selector) : Started :=
  let calls := [BootCall.getaddrinfo ipAddr port aiFamily]
  if !env.getaddrinfo then finallySocket true env.stale sel calls
  else if env.socket = -1 then finallySocket true env.socket sel calls
  else
    let calls := calls ++ [.socket env.socket]
    if !env.reuseAddr then finallySocket true env.socket sel calls
    else if aiFamily = afInet6 && !env.v6Only then finallySocket true env.socket sel calls
    else
      let calls := calls ++ [.bind env.socket]
      if !env.bind then finallySocket false env.socket sel calls
      else
        let calls := calls ++ [.listen env.socket]
        if !env.listen then finallySocket true env.socket sel calls
        else
          let ret := selectorRegister sel env.socket (some handler) opRead none
          finallySocket (decide (ret.1 ≠ .success)) env.socket ret.2 calls

structure ServerEnv where
  socksIpv4 : SocketEnv
  socksIpv6 : SocketEnv
  mngIpv4 : SocketEnv
  mngIpv6 : SocketEnv

structure Boot where
  sel : Selector
  calls : List BootCall
  serving : Bool

def finallyServer (fds : List Int) (sel : Selector) (calls : List BootCall) : Boot :=
  ⟨sel,calls ++ (fds.filter fun fd => decide (fd ≠ -1)).map .close,false⟩

def bootServer (args : Socks5Args) (e : ServerEnv) (sel : Selector) : Boot :=
  let socks4 := startSocket e.socksIpv4 args.socksAddr args.socksPort .passiveSocketFd afUnspec sel
  if socks4.retFd = -1 then finallyServer [-1,-1,-1,-1] socks4.sel socks4.calls
  else
    let socks6 := if args.socksAddr = none then
        startSocket e.socksIpv6 none args.socksPort .passiveSocketFd afInet6 socks4.sel
      else ⟨-1,socks4.sel,[]⟩
    let calls := socks4.calls ++ socks6.calls
    if args.socksAddr = none ∧ socks6.retFd = -1 then finallyServer [socks4.retFd,-1,-1,-1] socks6.sel calls
    else
      let mng4 := startSocket e.mngIpv4 args.mngAddr args.mngPort .passiveSocketFdMng afUnspec socks6.sel
      let calls := calls ++ mng4.calls
      if mng4.retFd = -1 then finallyServer [socks4.retFd,socks6.retFd,-1,-1] mng4.sel calls
      else
        let mng6 := if args.mngAddr = none then
            startSocket e.mngIpv6 none args.mngPort .passiveSocketFdMng afInet6 mng4.sel
          else ⟨-1,mng4.sel,[]⟩
        let calls := calls ++ mng6.calls
        if args.mngAddr = none ∧ mng6.retFd = -1 then
          finallyServer [socks4.retFd,socks6.retFd,mng4.retFd,-1] mng6.sel calls
        else ⟨mng6.sel,calls,true⟩

structure Wanted where
  env : SocketEnv
  ipAddr : Option (List UInt8)
  port : List UInt8
  handler : FdHandler
  aiFamily : Nat

def wantedPair (four six : SocketEnv) (addr : Option (List UInt8)) (port : List UInt8) (handler : FdHandler) :
    List Wanted :=
  ⟨four,addr,port,handler,afUnspec⟩::(if addr = none then [⟨six,none,port,handler,afInet6⟩] else [])

def Socks5Args.wanted (args : Socks5Args) (e : ServerEnv) : List Wanted :=
  wantedPair e.socksIpv4 e.socksIpv6 args.socksAddr args.socksPort .passiveSocketFd ++
    wantedPair e.mngIpv4 e.mngIpv6 args.mngAddr args.mngPort .passiveSocketFdMng

def Wanted.start (w : Wanted) (sel : Selector) : Started := startSocket w.env w.ipAddr w.port w.handler w.aiFamily sel

def startAll : List Wanted → List Int → Selector → List BootCall → Boot
  | [],_,sel,calls => ⟨sel,calls,true⟩
  | w::rest,fds,sel,calls =>
    let started := w.start sel
    if started.retFd = -1 then finallyServer fds started.sel (calls ++ started.calls)
    else startAll rest (fds ++ [started.retFd]) started.sel (calls ++ started.calls)

theorem finally_filter {fds others : List Int}
    (same : fds.filter (fun fd => decide (fd ≠ -1)) = others.filter fun fd => decide (fd ≠ -1))
    (sel : Selector) (calls : List BootCall) : finallyServer fds sel calls = finallyServer others sel calls := by
  rw [finallyServer,finallyServer,same]

theorem boot_all (args : Socks5Args) (e : ServerEnv) (sel : Selector) :
    bootServer args e sel = startAll (args.wanted e) [] sel [] := by
  obtain ⟨socksAddr,socksPort,mngAddr,mngPort⟩ := args
  have skipped : ∀ {addr : List UInt8} {fd : Int}, ¬ (some addr = none ∧ fd = -1) := fun both => by cases both.1
  cases socksAddr with
  | none =>
      simp only [bootServer,Socks5Args.wanted,wantedPair,if_true,true_and,List.cons_append,List.nil_append,startAll,
        Wanted.start]
      refine ite_congr rfl (fun _ => finally_filter (by simp) _ _) fun _ => ?_
      refine ite_congr rfl (fun _ => finally_filter (by simp [List.filter_cons]) _ _) fun _ => ?_
      refine ite_congr rfl (fun _ => finally_filter (by simp [List.filter_cons]) _ _) fun _ => ?_
      cases mngAddr with
      | none =>
          simp only [if_true,true_and,startAll,Wanted.start]
          exact ite_congr rfl (fun _ => finally_filter (by simp [List.filter_cons]) _ _) fun _ => rfl
      | some addr =>
          rw [if_neg skipped]
          simp [startAll]
  | some addr =>
      simp only [bootServer,Socks5Args.wanted,wantedPair,List.cons_append,List.nil_append,startAll,Wanted.start]
      refine ite_congr rfl (fun _ => finally_filter (by simp) _ _) fun _ => ?_
      rw [if_neg skipped]
      simp only [reduceCtorEq,if_false,List.append_nil,List.nil_append,startAll,Wanted.start]
      refine ite_congr rfl (fun _ => finally_filter (by simp [List.filter_cons]) _ _) fun _ => ?_
      cases mngAddr with
      | none =>
          simp only [if_true,true_and,startAll,Wanted.start]
          exact ite_congr rfl (fun _ => finally_filter (by simp [List.filter_cons]) _ _) fun _ => rfl
      | some addr =>
          rw [if_neg skipped]
          simp [startAll]

-- What start_server asks of a socket: everything but a successful bind.
def Wanted.starts (w : Wanted) : Bool :=
  w.env.getaddrinfo && decide (w.env.socket ≠ -1) && w.env.reuseAddr && (decide (w.aiFamily ≠ afInet6) || w.env.v6Only) &&
    (!w.env.bind || (w.env.listen && !invalidFd w.env.socket))

def opened (calls : List BootCall) : List Int := calls.filterMap fun call => match call with
  | .socket fd => some fd
  | _ => none

def closed (calls : List BootCall) : List Int := calls.filterMap fun call => match call with
  | .close fd => some fd
  | _ => none

-- close is called on whatever stands in ret_fd when getaddrinfo fails.
def Wanted.strays (w : Wanted) : List Int :=
  if w.env.getaddrinfo = false ∧ w.env.stale ≠ -1 then [w.env.stale] else []

variable {w : Wanted} {ws : List Wanted} {sel : Selector} {fds : List Int} {calls : List BootCall}

structure Wanted.Outcome (w : Wanted) (sel : Selector) : Prop where
  fd : (w.start sel).retFd = if w.starts then w.env.socket else -1
  entry : w.starts = true → (w.start sel).sel =
    if w.env.bind then (selectorRegister sel w.env.socket (some w.handler) opRead none).2 else sel
  took : w.starts = true → opened (w.start sel).calls = [w.env.socket] ∧ closed (w.start sel).calls = []
  gave : w.starts = false → closed (w.start sel).calls = opened (w.start sel).calls ++ w.strays

theorem start_outcome (room : itemsMaxSize ≤ sel.fds.length) (unused : sel.registered w.env.socket = none) :
    w.Outcome sel := by
  obtain ⟨env,ipAddr,port,handler,family⟩ := w
  obtain ⟨found,socket,reuse,only,bound,listens,stale⟩ := env
  have added : invalidFd socket = false → (selectorRegister sel socket (some handler) opRead none).1 = .success :=
    fun valid => (register_fresh room valid unused handler opRead none).1
  have refused : invalidFd socket = true → selectorRegister sel socket (some handler) opRead none = (.iargs,sel) := by
    intro wrong
    unfold selectorRegister
    rw [wrong,Bool.true_or,if_pos rfl]
  cases found with
  | false =>
      by_cases unset : stale = -1
      · constructor <;> simp [Wanted.start,startSocket,Wanted.starts,finallySocket,opened,closed,Wanted.strays,unset]
      · constructor <;> simp [Wanted.start,startSocket,Wanted.starts,finallySocket,opened,closed,Wanted.strays,unset]
  | true =>
      by_cases none_ : socket = -1
      · constructor <;> simp [Wanted.start,startSocket,Wanted.starts,finallySocket,opened,closed,Wanted.strays,none_]
      · cases reuse with
        | false =>
            constructor <;> simp [Wanted.start,startSocket,Wanted.starts,finallySocket,opened,closed,Wanted.strays,none_]
        | true =>
            by_cases refuses : family = afInet6 ∧ only = false
            · constructor <;>
                simp [Wanted.start,startSocket,Wanted.starts,finallySocket,opened,closed,Wanted.strays,none_,refuses]
            · cases bound with
              | false =>
                  constructor <;> simp [Wanted.start,startSocket,Wanted.starts,finallySocket,opened,closed,none_,refuses]
              | true =>
                  cases listens with
                  | false =>
                      constructor <;> simp [Wanted.start,startSocket,Wanted.starts,finallySocket,opened,closed,
                        Wanted.strays,none_,refuses]
                  | true =>
                      cases valid : invalidFd socket with
                      | false =>
                          have taken := added valid
                          constructor <;> simp [Wanted.start,startSocket,Wanted.starts,finallySocket,opened,closed,none_,
                            refuses,valid,taken]
                      | true =>
                          have failed := refused valid
                          constructor <;> simp [Wanted.start,startSocket,Wanted.starts,finallySocket,opened,closed,
                            Wanted.strays,none_,refuses,valid,failed]

def registers (sel : Selector) (w : Wanted) : Selector :=
  if w.env.bind then (selectorRegister sel w.env.socket (some w.handler) opRead none).2 else sel

def strays (ws : List Wanted) : List Int := ((ws.find? fun w => !w.starts).map Wanted.strays).getD []

-- socket() gives no descriptor that is open: none that the selector knows, and none twice.
structure Unused (ws : List Wanted) (sel : Selector) : Prop where
  room : itemsMaxSize ≤ sel.fds.length
  unknown : ∀ w ∈ ws, sel.registered w.env.socket = none
  apart : ws.Pairwise fun w later => w.env.socket ≠ -1 → later.env.socket ≠ w.env.socket

theorem unused_later {rest : List Wanted} (unused : Unused (w::rest) sel) (made : w.env.socket ≠ -1) :
    Unused rest (registers sel w) := by
  obtain ⟨apart,pairs⟩ := List.pairwise_cons.mp unused.apart
  refine ⟨?_,?_,pairs⟩
  · unfold registers
    split
    · exact Nat.le_trans unused.room (register_length _ _ _ _ _)
    · exact unused.room
  · intro later member
    have unknown := unused.unknown later (List.mem_cons_of_mem w member)
    unfold registers
    split
    · cases found : (selectorRegister sel w.env.socket (some w.handler) opRead none).2.registered later.env.socket with
      | none => rfl
      | some item =>
          rcases register_registered found with old | ⟨same,_⟩
          · rw [unknown] at old
            cases old
          · exact absurd same (apart later member made)
    · exact unknown

structure Booted (ws : List Wanted) (fds : List Int) (sel : Selector) (b : Boot) : Prop where
  serving : b.serving = true ↔ ∀ w ∈ ws, w.starts = true
  table : b.serving = true → b.sel = ws.foldl registers sel
  held : b.serving = true → opened b.calls = fds ++ ws.map (fun w => w.env.socket) ∧ closed b.calls = []
  freed : b.serving = false → (closed b.calls).Perm (opened b.calls ++ strays ws)

theorem opened_append (earlier later : List BootCall) : opened (earlier++later) = opened earlier ++ opened later :=
  List.filterMap_append

theorem closed_append (earlier later : List BootCall) : closed (earlier++later) = closed earlier ++ closed later :=
  List.filterMap_append

theorem close_all (fds : List Int) : closed (fds.map .close) = fds ∧ opened (fds.map .close) = [] := by
  constructor
  · unfold closed
    rw [List.filterMap_map]
    exact List.filterMap_some
  · unfold opened
    rw [List.filterMap_map]
    exact List.filterMap_eq_nil_iff.mpr fun _ _ => rfl

theorem startAll_booted (unused : Unused ws sel) (some_ : ∀ fd ∈ fds, fd ≠ -1) (open_ : opened calls = fds)
    (none_ : closed calls = []) : Booted ws fds sel (startAll ws fds sel calls) := by
  induction ws generalizing fds sel calls with
  | nil =>
      refine ⟨⟨fun _ _ member => absurd member List.not_mem_nil,fun _ => rfl⟩,fun _ => rfl,fun _ => ?_,fun gone => by cases gone⟩
      rw [List.map_nil,List.append_nil]
      exact ⟨open_,none_⟩
  | cons w rest ih =>
      obtain ⟨fd,entry,took,gave⟩ := start_outcome unused.room (unused.unknown w List.mem_cons_self)
      cases starts : w.starts with
      | false =>
          rw [starts] at fd
          have ended : startAll (w::rest) fds sel calls = finallyServer fds (w.start sel).sel (calls ++ (w.start sel).calls) :=
            if_pos fd
          rw [ended]
          refine ⟨⟨(fun serving => by cases serving),fun all => ?_⟩,(fun serving => by cases serving),
            (fun serving => by cases serving),fun _ => ?_⟩
          · rw [all w List.mem_cons_self] at starts
            cases starts
          · have kept : fds.filter (fun fd => decide (fd ≠ -1)) = fds :=
              List.filter_eq_self.mpr fun fd member => decide_eq_true (some_ fd member)
            have first : strays (w::rest) = w.strays := by
              unfold strays
              rw [List.find?_cons_of_pos (by rw [starts]; rfl)]
              rfl
            rw [finallyServer,kept,closed_append,closed_append,opened_append,opened_append,none_,open_,(close_all fds).1,
              (close_all fds).2,gave starts,first,List.nil_append,List.append_nil]
            rw [List.append_assoc fds]
            exact List.perm_append_comm
      | true =>
          rw [starts] at fd
          have made : w.env.socket ≠ -1 := by
            intro wrong
            rw [Wanted.starts,wrong] at starts
            simp at starts
          have goes : startAll (w::rest) fds sel calls =
              startAll rest (fds ++ [w.env.socket]) (registers sel w) (calls ++ (w.start sel).calls) := by
            refine (if_neg (by rw [fd]; exact made)).trans ?_
            rw [fd,entry starts]
            rfl
          obtain ⟨opens,closes⟩ := took starts
          obtain ⟨serving,table,held,freed⟩ := @ih (registers sel w) (fds++[w.env.socket]) (calls ++ (w.start sel).calls)
            (unused_later unused made) (by
              intro fd member
              rcases List.mem_append.mp member with old | new
              · exact some_ fd old
              · rw [List.mem_singleton.mp new]
                exact made)
            (by rw [opened_append,open_,opens]) (by rw [closed_append,none_,closes]; rfl)
          rw [goes]
          refine ⟨?_,table,?_,?_⟩
          · rw [serving,List.forall_mem_cons]
            exact ⟨fun all => ⟨starts,all⟩,fun all => all.2⟩
          · intro serves
            obtain ⟨all,none⟩ := held serves
            rw [all,List.append_assoc]
            exact ⟨rfl,none⟩
          · intro fails
            have skipped : strays (w::rest) = strays rest := by
              unfold strays
              rw [List.find?_cons_of_neg (by rw [starts]; exact Bool.false_ne_true)]
            rw [skipped]
            exact freed fails

def listeners (ws : List Wanted) : List Int := (ws.filter fun w => w.env.bind).map fun w => w.env.socket

theorem listeners_cons (rest : List Wanted) :
    listeners (w::rest) = if w.env.bind then w.env.socket::listeners rest else listeners rest := by
  unfold listeners
  split
  · rename_i bound
    simp [bound]
  · rename_i unbound
    simp [unbound]

theorem registers_fold {pair : List Wanted} {handler : FdHandler} (alike : ∀ w ∈ pair, w.handler = handler) :
    pair.foldl registers sel =
      (listeners pair).foldl (fun sel fd => (selectorRegister sel fd (some handler) opRead none).2) sel := by
  induction pair generalizing sel with
  | nil => rfl
  | cons w rest ih =>
      rw [List.foldl_cons,ih fun other member => alike other (List.mem_cons_of_mem w member),listeners_cons]
      unfold registers
      split
      · rw [List.foldl_cons,alike w List.mem_cons_self]
      · rfl

theorem pair_handler {four six : SocketEnv} {addr : Option (List UInt8)} {port : List UInt8} {handler : FdHandler} :
    ∀ w ∈ wantedPair four six addr port handler, w.handler = handler := by
  intro w member
  unfold wantedPair at member
  rcases List.mem_cons.mp member with rfl | six
  · rfl
  · split at six
    · rw [List.mem_singleton.mp six]
    · cases six

theorem server_boots (args : Socks5Args) (e : ServerEnv) (users : UserTable) (sniffer : Bool)
    (unused : Unused (args.wanted e) mainSelector) :
    let b := bootServer args e mainSelector
    let socks := wantedPair e.socksIpv4 e.socksIpv6 args.socksAddr args.socksPort .passiveSocketFd
    let mng := wantedPair e.mngIpv4 e.mngIpv6 args.mngAddr args.mngPort .passiveSocketFdMng
    (b.serving = true ↔ ∀ w ∈ socks ++ mng, w.starts = true) ∧
    (b.serving = true → daemonStart (listeners socks) (listeners mng) users sniffer =
        ⟨ControlProtocol.mgmtStart b.sel ⟨users,sniffer,.start⟩,fun _ => none,0,none,[],false⟩ ∧
      opened b.calls = (socks ++ mng).map (fun w => w.env.socket) ∧ closed b.calls = []) ∧
    (b.serving = false → (closed b.calls).Perm (opened b.calls ++ strays (socks ++ mng))) := by
  have booted : Booted (args.wanted e) [] mainSelector (bootServer args e mainSelector) := by
    rw [boot_all]
    exact startAll_booted unused (fun _ member => absurd member List.not_mem_nil) rfl rfl
  refine ⟨booted.serving,fun serves => ⟨?_,booted.held serves⟩,booted.freed⟩
  rw [daemonStart,startServer,booted.table serves,Socks5Args.wanted,List.foldl_append,registers_fold pair_handler,
    registers_fold pair_handler]

-- A start in which the last of the four sockets could not be bound.
def socketGives (fd : Int) (bind : Bool) : SocketEnv := ⟨true,fd,true,true,bind,true,-1⟩

def lastTaken : ServerEnv := ⟨socketGives 3 true,socketGives 4 true,socketGives 5 true,socketGives 6 false⟩

theorem last_unbound : let b := bootServer parsedStart.args lastTaken mainSelector
    b.serving = true ∧ daemonStart [3,4] [5] .empty true =
      ⟨ControlProtocol.mgmtStart b.sel ⟨.empty,true,.start⟩,fun _ => none,0,none,[],false⟩ := by
  have unused : Unused (parsedStart.args.wanted lastTaken) mainSelector := by
    refine ⟨by decide +kernel,?_,?_⟩
    · intro w member
      exact selectorNew_registered (show selectorNew 1023 = some mainSelector from rfl) w.env.socket
    · decide +kernel
  obtain ⟨serving,serves,_⟩ := server_boots parsedStart.args lastTaken .empty true unused
  have starts := serving.mpr (by decide +kernel)
  exact ⟨starts,(serves starts).1⟩

end Socks5d
