import Socks5d.Session
import Socks5d.CommandTurns

namespace Socks5d

def SocksState.number : SocksState → Nat
  | .helloRead => 0
  | .helloWrite => 1
  | .authRead => 2
  | .authWrite => 3
  | .reqRead => 4
  | .reqWrite => 5
  | .reqDns => 6
  | .reqConnect => 7
  | .copy => 8
  | .error => 9
  | .done => 10

def SocksState.maxState : Nat := SocksState.done.number

def Selector.own (sel : Selector) (handler : FdHandler) (data : Nat) (fd : Int) : Option Item :=
  (sel.registered fd).filter fun item => decide (item.handler = some handler) && decide (item.data = some data)

def resolveCalls (effects : List Effect) : Nat := effects.countP fun effect => match effect with
  | .resolve _ _ => true
  | _ => false

structure Delivery where
  session : Session
  blocks : Nat

-- A read or a write event goes by the interest of the entry. A resolver thread notifies
-- the selector once, and that event is delivered where the descriptor has an entry.
def Delivery.delivers (data : Nat) (d : Delivery) (kind : EventKind) (fd : Int) : Bool :=
  (d.session.sel.own .connActions data fd).any fun item => match kind with
    | .block => decide (d.blocks < resolveCalls d.session.trace)
    | _ => kind.wants item.interest

-- The rest of the server may take the entries of this connection away, but neither adds
-- nor changes any.
def Delivery.spares (data : Nat) (d : Delivery) (sel : Selector) : Bool :=
  (List.range itemsMaxSize).all fun fd => decide (sel.own .connActions data fd = none) ||
    decide (sel.own .connActions data fd = d.session.sel.own .connActions data fd)

def deliveryStep (data : Nat) (d : Delivery) : SessionEvent → Option Delivery
  | .event kind fd env =>
    if d.delivers data kind fd then
      (sessionStep data d.session (.event kind fd env)).map fun next =>
        ⟨next,d.blocks + (if kind = .block then 1 else 0)⟩
    else none
  | .resolved addrs => (sessionStep data d.session (.resolved addrs)).map fun next => ⟨next,d.blocks⟩
  | .elsewhere sel => if d.spares data sel then some ⟨{d.session with sel:=sel},d.blocks⟩ else none

def socksAccepted (data : Nat) (sel : Selector) (fd : Int) : Option Delivery :=
  let (status,sel) := selectorRegister sel fd (some .connActions) opRead (some data)
  if status = .success then some ⟨newSession sel fd,0⟩ else none

abbrev DeliveryRuns (data : Nat) := Transitions.Runs fun d e next => deliveryStep data d e = some next

variable {data : Nat} {sel : Selector} {fd other client : Int} {kind : EventKind} {i : FdInterest} {item : Item}
  {env : Env} {key : SelectorKey} {socks : SocksConnModel} {called effects : List Effect} {out : Outcome}
  {handler : StateHandler}

def Quiet (data : Nat) (kind : EventKind) (sel : Selector) : Prop :=
  ∀ fd item, sel.own .connActions data fd = some item → kind.wants item.interest = false

def Only (data : Nat) (client : Int) (sel : Selector) : Prop :=
  ∀ fd item, sel.own .connActions data fd = some item → fd = client

theorem own_some {table : FdHandler} : sel.own table data fd = some item ↔
    sel.registered fd = some item ∧ item.handler = some table ∧ item.data = some data := by
  unfold Selector.own
  rw [Option.filter_eq_some_iff,Bool.and_eq_true,decide_eq_true_eq,decide_eq_true_eq]

theorem own_told {table : FdHandler} (found : (selectorSetInterest sel fd i).2.own table data other = some item) :
    if other = fd then item.interest = i ∧ ∃ before, sel.own table data fd = some before
    else sel.own table data other = some item := by
  obtain ⟨entry,table_,object⟩ := own_some.mp found
  rw [setInterest_registered] at entry
  split at entry
  · rename_i same
    obtain ⟨before,held,rfl⟩ := Option.map_eq_some_iff.mp entry
    rw [if_pos same]
    exact ⟨rfl,before,own_some.mpr ⟨held,table_,object⟩⟩
  · rename_i apart
    rw [if_neg apart]
    exact own_some.mpr ⟨entry,table_,object⟩

theorem only_told (only : Only data client sel) (fd : Int) (i : FdInterest) :
    Only data client (selectorSetInterest sel fd i).2 := by
  intro other item found
  have told := own_told found
  split at told
  · rename_i same
    obtain ⟨_,before,held⟩ := told
    rw [same]
    exact only fd before held
  · exact only other item told

theorem quiet_told (quiet : Quiet data kind sel) (off : kind.wants i = false) (fd : Int) :
    Quiet data kind (selectorSetInterest sel fd i).2 := by
  intro other item found
  have told := own_told found
  split at told
  · rw [told.1]
    exact off
  · exact quiet other item told

theorem only_quiet (only : Only data client sel) (off : kind.wants i = false) :
    Quiet data kind (selectorSetInterest sel client i).2 := by
  intro other item found
  have same := only_told only client i other item found
  have told := own_told found
  rw [if_pos same] at told
  rw [told.1]
  exact off

theorem only_turned (kind : EventKind) (i : FdInterest) (only : Only data client sel) (own : fd = client)
    (off : kind.wants i = false) :
    Only data client (selectorSetInterest sel fd i).2 ∧ Quiet data kind (selectorSetInterest sel fd i).2 := by
  refine ⟨only_told only fd i,?_⟩
  rw [own]
  exact only_quiet only off

theorem quiet_registered {handler : FdHandler} {object : Option Nat} (quiet : Quiet data kind sel)
    (off : kind.wants i = false) (fd : Int) :
    Quiet data kind (selectorRegister sel fd (some handler) i object).2 := by
  intro other item found
  obtain ⟨entry,table,same⟩ := own_some.mp found
  rcases register_registered entry with old | ⟨_,rfl⟩
  · exact quiet other item (own_some.mpr ⟨old,table,same⟩)
  · exact off

theorem quiet_unregistered (quiet : Quiet data kind sel) (fd : Int) :
    Quiet data kind (selectorUnregisterFd sel fd).2 := by
  intro other item found
  obtain ⟨entry,table,same⟩ := own_some.mp found
  rw [unregister_registered] at entry
  split at entry
  · cases entry
  · exact quiet other item (own_some.mpr ⟨entry,table,same⟩)

-- What the entries of a connection ask for in each state: until it leaves REQ_READ it
-- has the client's alone, and only COPY takes both kinds of event.
def Allowed (data : Nat) (client : Int) (sel : Selector) : SocksState → Prop
  | .helloRead | .authRead | .reqRead => Only data client sel ∧ Quiet data .write sel
  | .helloWrite | .authWrite => Only data client sel ∧ Quiet data .read sel
  | .reqWrite | .reqConnect => Quiet data .read sel
  | .reqDns => Quiet data .read sel ∧ Quiet data .write sel
  | .copy | .error | .done => True

theorem resolveCalls_append (earlier later : List Effect) :
    resolveCalls (earlier ++ later) = resolveCalls earlier + resolveCalls later := List.countP_append

structure Rested (data : Nat) (client : Int) (out : Outcome) : Prop where
  allowed : Allowed data client out.sel out.next
  client : out.socks.cliConn.socket = client
  threads : resolveCalls out.effects = if out.next = .reqDns then 1 else 0

def Rests (data : Nat) (client : Int) (out : Outcome) : Prop := out.next ≠ .error → Rested data client out

theorem rests_failed (sel : Selector) (socks : SocksConnModel) (called : List Effect) :
    Rests data client ⟨sel,socks,called,.error⟩ := fun going => absurd rfl going

theorem rests_done (same : socks.cliConn.socket = client) (silent : resolveCalls called = 0) :
    Rests data client ⟨sel,socks,called,.done⟩ := fun _ => ⟨trivial,same,silent⟩

theorem replyTwo_rests {next : SocksState} {reply : List UInt8} (only : Only data client sel) (own : key.fd = client)
    (same : socks.cliConn.socket = client) (silent : resolveCalls called = 0)
    (reached : next = .helloWrite ∨ next = .authWrite) :
    Rests data client (replyTwo next reply key sel socks called) := by
  have fits := only_turned .read opWrite only own rfl
  unfold replyTwo
  dsimp only
  split
  · exact rests_failed _ _ _
  · split
    · exact rests_failed _ _ _
    · rcases reached with rfl | rfl
      · exact fun _ => ⟨fits,same,silent⟩
      · exact fun _ => ⟨fits,same,silent⟩

theorem readMessage_rests {π : Type} {r : Reader π}
    {finish : Env → SelectorKey → Selector → SocksConnModel → List Effect → Outcome}
    (allowed : Allowed data client sel r.stay) (away : r.stay ≠ .reqDns) (same : socks.cliConn.socket = client)
    (finishes : ∀ parsed called, parsed.cliConn.socket = client → resolveCalls called = 0 →
      Rests data client (finish env key sel parsed called)) :
    Rests data client (readMessage r finish env key sel socks) := by
  rcases readMessage_cases r finish env key sel socks with ⟨_,none_⟩ | ⟨bytes,buff,_,_,_,out⟩
  · rw [none_]
    exact rests_failed _ _ _
  · rw [out]
    split
    · exact rests_failed _ _ _
    · split
      · exact finishes _ _ same rfl
      · exact fun _ => ⟨allowed,same,by rw [if_neg away]; rfl⟩

theorem writeReply_rests {stay : SocksState} {logged : Env → SocksConnModel → List Effect}
    {finish : SelectorKey → Selector → SocksConnModel → List Effect → Outcome}
    (allowed : Allowed data client sel stay) (away : stay ≠ .reqDns) (same : socks.cliConn.socket = client)
    (logs : ∀ sent, resolveCalls (logged env sent) = 0)
    (finishes : ∀ sent called, sent.cliConn.socket = client → resolveCalls called = 0 →
      Rests data client (finish key sel sent called)) :
    Rests data client (writeReply stay logged finish env key sel socks) := by
  rcases writeReply_cases stay logged finish env key sel socks with none_ | ⟨count,_,out⟩
  · rw [none_]
    exact rests_failed _ _ _
  · have silent : resolveCalls ([Effect.send socks.cliConn.socket (socks.writeBuff.unread.take count)] ++
        logged env {socks with writeBuff:=socks.writeBuff.consume count}) = 0 := by
      rw [resolveCalls_append,logs]
      rfl
    rw [out]
    split
    · exact fun _ => ⟨allowed,same,by rw [if_neg away]; exact silent⟩
    · exact finishes _ _ same silent

theorem helloSent_rests (only : Only data client sel) (own : key.fd = client) (same : socks.cliConn.socket = client)
    (silent : resolveCalls called = 0) : Rests data client (helloSent key sel socks called) := by
  have fits := only_turned .write opRead only own rfl
  unfold helloSent
  dsimp only
  split
  · exact rests_failed _ _ _
  · split
    · exact fun _ => ⟨fits,same,silent⟩
    · split
      · exact fun _ => ⟨fits,same,silent⟩
      · split
        · exact rests_done same silent
        · split
          · exact rests_done same silent
          · exact rests_failed _ _ _

theorem authSent_rests (only : Only data client sel) (own : key.fd = client) (same : socks.cliConn.socket = client)
    (silent : resolveCalls called = 0) : Rests data client (authSent key sel socks called) := by
  have fits := only_turned .write opRead only own rfl
  unfold authSent
  dsimp only
  split
  · exact fun _ => ⟨fits,same,silent⟩
  · exact rests_failed _ _ _

def Hushed (data : Nat) (client : Int) (sel : Selector) : Prop :=
  ∀ i : FdInterest, i.read = false → Quiet data .read (selectorSetInterest sel client i).2

theorem only_hushed (only : Only data client sel) : Hushed data client sel := fun _ off => only_quiet only off

theorem quiet_hushed (quiet : Quiet data .read sel) : Hushed data client sel := fun _ off => quiet_told quiet off client

theorem manageReqError_rests {state : UInt8} (hushed : Hushed data client sel) (same : socks.cliConn.socket = client)
    (silent : resolveCalls called = 0) : Rests data client (manageReqError state sel socks called) := by
  unfold manageReqError
  dsimp only
  split
  · exact rests_failed _ _ _
  · split
    · refine fun _ => ⟨?_,same,silent⟩
      rw [same]
      exact hushed opWrite rfl
    · exact rests_failed _ _ _

theorem initConnection_rests (hushed : Hushed data client sel) (same : socks.cliConn.socket = client)
    (silent : resolveCalls called = 0) : Rests data client (initConnection env key sel socks called) := by
  have dialled : ∀ addr, resolveCalls (called ++ [.socket env.socket,.connect env.socket addr]) = 0 := by
    intro addr
    rw [resolveCalls_append,silent]
    rfl
  unfold initConnection
  dsimp only
  split
  · exact rests_failed _ _ _
  · split
    · split
      · exact rests_failed _ _ _
      · split
        · exact rests_failed _ _ _
        · refine fun _ => ⟨?_,same,dialled _⟩
          rw [same]
          exact quiet_registered (hushed opNoop rfl) rfl env.socket
    · exact manageReqError_rests hushed same (dialled _)

theorem setConnection_rests (only : Only data client sel) (own : key.fd = client) (same : socks.cliConn.socket = client)
    (silent : resolveCalls called = 0) : Rests data client (setConnection env key sel socks called) := by
  have hushed := only_hushed only
  unfold setConnection
  dsimp only
  split
  · exact initConnection_rests hushed same silent
  · split
    · exact initConnection_rests hushed same silent
    · split
      · split
        · exact manageReqError_rests hushed same silent
        · split
          · exact manageReqError_rests hushed same silent
          · rw [own]
            split
            · refine fun _ => ⟨⟨only_quiet only rfl,only_quiet only rfl⟩,same,?_⟩
              rw [resolveCalls_append,silent]
              rfl
            · exact rests_failed _ _ _
      · exact rests_failed _ _ _

theorem reqFinish_rests (only : Only data client sel) (own : key.fd = client) (same : socks.cliConn.socket = client)
    (silent : resolveCalls called = 0) : Rests data client (reqFinish env key sel socks called) := by
  unfold reqFinish
  dsimp only
  split
  · exact setConnection_rests only own same silent
  · split
    · exact manageReqError_rests (only_hushed only) same silent
    · split
      · exact rests_done same silent
      · exact rests_failed _ _ _

theorem reqDns_rests (quiet : Quiet data .read sel) (same : socks.cliConn.socket = client)
    (silent : resolveCalls called = 0) : Rests data client (reqDns env key sel socks called) := by
  unfold reqDns
  split
  · split
    · refine manageReqError_rests (quiet_hushed quiet) same ?_
      rw [resolveCalls_append,silent]
      rfl
    · exact manageReqError_rests (quiet_hushed quiet) same silent
  · exact initConnection_rests (quiet_hushed quiet) same silent

theorem cleaned_silent (socks : SocksConnModel) : resolveCalls (cleanResolvedAddr socks).2 = 0 ∧
    (cleanResolvedAddr socks).1.cliConn = socks.cliConn := by
  unfold cleanResolvedAddr
  split
  · exact ⟨rfl,rfl⟩
  · exact ⟨rfl,rfl⟩

theorem reqConnect_rests (quiet : Quiet data .read sel) (same : socks.cliConn.socket = client) :
    Rests data client (reqConnect env key sel socks) := by
  obtain ⟨silent,kept⟩ := cleaned_silent socks
  have cleaned : (cleanResolvedAddr socks).1.cliConn.socket = client := by rw [kept,same]
  unfold reqConnect
  split
  · split
    · split
      · exact reqDns_rests (quiet_unregistered quiet _) same rfl
      · exact manageReqError_rests (quiet_hushed quiet) same rfl
    · dsimp only
      split
      · exact manageReqError_rests (quiet_hushed quiet) cleaned silent
      · split
        · split
          · split
            · exact fun _ => ⟨quiet_told (quiet_told quiet rfl _) rfl _,cleaned,silent⟩
            · exact rests_failed _ _ _
          · exact rests_failed _ _ _
        · exact rests_failed _ _ _
  · exact manageReqError_rests (quiet_hushed quiet) cleaned silent

theorem reqSent_rests (same : socks.cliConn.socket = client) (silent : resolveCalls called = 0) :
    Rests data client (reqSent key sel socks called) := by
  unfold reqSent
  split
  · exact rests_done same silent
  · dsimp only
    split
    · exact rests_failed _ _ _
    · split
      · exact fun _ => ⟨trivial,same,silent⟩
      · exact rests_failed _ _ _

theorem silent_more {effect : Effect} (silent : resolveCalls called = 0) (calm : resolveCalls [effect] = 0) :
    resolveCalls (called ++ [effect]) = 0 := by
  rw [resolveCalls_append,silent,calm]

theorem notes_silent (notes : ∀ effect ∈ effects, effect.isPass = true) : resolveCalls effects = 0 := by
  refine List.countP_eq_zero.mpr ?_
  intro effect member
  have passes := notes effect member
  cases effect with
  | passInformation record => simp
  | _ => cases passes

theorem copyEnded_silent {side : Side} (silent : resolveCalls called = 0) :
    resolveCalls (copyEnded side sel socks called).effects = 0 := by
  unfold copyEnded
  dsimp only
  split
  · exact silent_more (silent_more silent rfl) rfl
  · exact silent_more silent rfl

theorem copyRead_silent : resolveCalls (copyRead env key sel socks).effects = 0 := by
  unfold copyRead
  split
  · rfl
  · dsimp only
    split
    · split
      · rfl
      · split
        · unfold copyReceived
          dsimp only
          obtain ⟨_,notes,sniffed,passes⟩ := copySniff_parts env _ ((socks.setWriteBuff _ _).setCopy _ _)
          rw [sniffed,resolveCalls_append,notes_silent passes]
          rfl
        · exact copyEnded_silent rfl
    · rfl

theorem copyWrite_silent : resolveCalls (copyWrite env key sel socks).effects = 0 := by
  unfold copyWrite
  split
  · rfl
  · dsimp only
    split
    · split
      · rfl
      · rfl
    · split
      · split
        · rfl
        · rfl
      · rfl

theorem copy_rests (keeps : Keeps socks out) (next : out.next = .copy ∨ out.next = .done ∨ out.next = .error)
    (same : socks.cliConn.socket = client) (silent : resolveCalls out.effects = 0) : Rests data client out := by
  intro going
  have kept : out.socks.cliConn.socket = client := by rw [keeps.client,same]
  rcases next with copy | done | error
  · refine ⟨?_,kept,?_⟩
    · rw [copy]
      exact trivial
    · rw [copy]
      exact silent
  · refine ⟨?_,kept,?_⟩
    · rw [done]
      exact trivial
    · rw [done]
      exact silent
  · exact absurd error going

theorem delivers_own {d : Delivery} (delivers : d.delivers data kind fd = true) :
    ∃ item, d.session.sel.own .connActions data fd = some item ∧ (kind ≠ .block → kind.wants item.interest = true) ∧
      (kind = .block → d.blocks < resolveCalls d.session.trace) := by
  unfold Delivery.delivers at delivers
  cases found : d.session.sel.own .connActions data fd with
  | none =>
      rw [found] at delivers
      cases delivers
  | some item =>
      rw [found] at delivers
      refine ⟨item,rfl,?_,?_⟩
      · intro other
        cases kind with
        | block => exact absurd rfl other
        | read => exact delivers
        | write => exact delivers
      · rintro rfl
        exact of_decide_eq_true delivers

theorem handler_rests (found : stateHandler kind socks.current = some handler)
    (allowed : Allowed data client sel socks.current) (same : socks.cliConn.socket = client)
    (held : ∃ item, sel.own .connActions data key.fd = some item) :
    Rests data client (handler env key sel socks) := by
  obtain ⟨item,entry⟩ := held
  have own : Only data client sel → key.fd = client := fun only => only key.fd item entry
  rcases stateHandler_cases found with ⟨was,_,rfl⟩ | ⟨was,_,rfl⟩ | ⟨was,_,rfl⟩ | ⟨was,_,rfl⟩ | ⟨was,_,rfl⟩ | ⟨was,_,rfl⟩ |
    ⟨was,_,rfl⟩ | ⟨was,_,rfl⟩ | ⟨was,⟨_,rfl⟩ | ⟨_,rfl⟩⟩
  all_goals rw [was] at allowed
  · exact readMessage_rests allowed (by decide) same (fun _ _ same silent =>
      replyTwo_rests allowed.1 (own allowed.1) same silent (.inl rfl))
  · exact writeReply_rests allowed (by decide) same (fun _ => rfl) (fun _ _ same silent =>
      helloSent_rests allowed.1 (own allowed.1) same silent)
  · refine readMessage_rests allowed (by decide) same (fun parsed called same silent => ?_)
    refine replyTwo_rests allowed.1 (own allowed.1) same ?_ (.inr rfl)
    rw [resolveCalls_append,resolveCalls_append,silent]
    split
    · rfl
    · rfl
  · exact writeReply_rests allowed (by decide) same (fun _ => rfl) (fun _ _ same silent =>
      authSent_rests allowed.1 (own allowed.1) same silent)
  · exact readMessage_rests allowed (by decide) same (fun _ _ same silent =>
      reqFinish_rests allowed.1 (own allowed.1) same silent)
  · exact writeReply_rests allowed (by decide) same (fun _ => rfl) (fun _ _ same silent => reqSent_rests same silent)
  · exact reqDns_rests allowed.1 same rfl
  · exact reqConnect_rests allowed same
  · exact copy_rests copyRead_keeps copyRead_next same copyRead_silent
  · exact copy_rests copyWrite_keeps copyWrite_next same copyWrite_silent

structure Steady (data : Nat) (client : Int) (d : Delivery) (socks : SocksConnModel) : Prop where
  allowed : Allowed data client d.session.sel socks.current
  client : socks.cliConn.socket = client
  going : socks.current ≠ .error ∧ socks.current ≠ .done
  once : resolveCalls d.session.trace ≤ d.blocks + 1
  waits : d.blocks < resolveCalls d.session.trace → socks.current = .reqDns

def Delivery.Steadies (data : Nat) (client : Int) (d : Delivery) : Prop :=
  ∀ socks, d.session.conn = some socks → Steady data client d socks

theorem allowed_fewer {later : Selector} {state : SocksState} (allowed : Allowed data client sel state)
    (fewer : ∀ fd item, later.own .connActions data fd = some item → sel.own .connActions data fd = some item) :
    Allowed data client later state := by
  have only : Only data client sel → Only data client later := fun only fd item found => only fd item (fewer fd item found)
  have quiet : ∀ kind, Quiet data kind sel → Quiet data kind later :=
    fun _ quiet fd item found => quiet fd item (fewer fd item found)
  cases state with
  | helloRead | authRead | reqRead => exact ⟨only allowed.1,quiet _ allowed.2⟩
  | helloWrite | authWrite => exact ⟨only allowed.1,quiet _ allowed.2⟩
  | reqWrite | reqConnect => exact quiet _ allowed
  | reqDns => exact ⟨quiet _ allowed.1,quiet _ allowed.2⟩
  | copy | error | done => trivial

theorem spares_fewer {d : Delivery} (spared : d.spares data sel = true) (found : sel.own .connActions data fd = some item) :
    d.session.sel.own .connActions data fd = some item := by
  obtain ⟨valid,_⟩ := registered_parts (own_some.mp found).1
  have range : 0 ≤ fd ∧ fd < itemsMaxSize := by simpa [invalidFd] using valid
  have each := List.all_eq_true.mp spared fd.toNat (List.mem_range.mpr (by omega))
  rw [Int.toNat_of_nonneg range.1,Bool.or_eq_true,decide_eq_true_eq,decide_eq_true_eq] at each
  rcases each with gone | same
  · rw [gone] at found
    cases found
  · rw [← same]
    exact found

theorem steady_handled {d : Delivery} (steady : Steady data client d socks) (delivers : d.delivers data kind fd = true) :
    ∃ handler, stateHandler kind socks.current = some handler := by
  obtain ⟨item,found,asks,threads⟩ := delivers_own delivers
  obtain ⟨allowed,_,⟨sound,unfinished⟩,_,waits⟩ := steady
  cases kind with
  | block =>
      rw [waits (threads rfl)]
      exact ⟨_,rfl⟩
  | read =>
      have wants := asks (by simp)
      have loud : ¬ Quiet data .read d.session.sel := fun quiet => by rw [quiet fd item found] at wants; cases wants
      cases state : socks.current with
      | helloRead | authRead | reqRead | copy => exact ⟨_,rfl⟩
      | helloWrite | authWrite =>
          rw [state] at allowed
          exact absurd allowed.2 loud
      | reqDns =>
          rw [state] at allowed
          exact absurd allowed.1 loud
      | reqWrite | reqConnect =>
          rw [state] at allowed
          exact absurd allowed loud
      | error => exact absurd state sound
      | done => exact absurd state unfinished
  | write =>
      have wants := asks (by simp)
      have loud : ¬ Quiet data .write d.session.sel := fun quiet => by rw [quiet fd item found] at wants; cases wants
      cases state : socks.current with
      | helloRead | authRead | reqRead | reqDns =>
          rw [state] at allowed
          exact absurd allowed.2 loud
      | helloWrite | authWrite | reqWrite | reqConnect | copy => exact ⟨_,rfl⟩
      | error => exact absurd state sound
      | done => exact absurd state unfinished

theorem blocks_idle {d : Delivery} (steady : Steady data client d socks)
    (held : ∃ item, d.session.sel.own .connActions data fd = some item ∧ kind.wants item.interest = true)
    (other : kind ≠ .block) : resolveCalls d.session.trace ≤ d.blocks := by
  obtain ⟨item,found,wants⟩ := held
  by_contra fewer
  have allowed := steady.allowed
  rw [steady.waits (by omega)] at allowed
  cases kind with
  | block => exact absurd rfl other
  | read => rw [allowed.1 fd item found] at wants; cases wants
  | write => rw [allowed.2 fd item found] at wants; cases wants

theorem preserves_steadies {d next : Delivery} {e : SessionEvent} (steadies : d.Steadies data client)
    (ran : deliveryStep data d e = some next) : next.Steadies data client := by
  cases e with
  | event kind fd env =>
      unfold deliveryStep at ran
      dsimp only at ran
      split at ran
      · rename_i delivers
        obtain ⟨after,step,rfl⟩ := Option.map_eq_some_iff.mp ran
        intro left going
        obtain ⟨socks,live,_⟩ := Option.bind_eq_some_iff.mp step
        obtain ⟨item,entry,asks,threads⟩ := delivers_own delivers
        have steady := steadies socks live
        obtain ⟨handler,found,same,stm,grown,selector,sound,unfinished⟩ := event_parts step live going
        have rested := @handler_rests data _ client kind env ⟨fd,data⟩ (handleFirst socks) handler found steady.allowed
          steady.client ⟨item,entry⟩ sound
        have current : left.current = (handler env ⟨fd,data⟩ d.session.sel (handleFirst socks)).next := by
          rw [SocksConnModel.current,stm]
          rfl
        have calls := rested.threads
        have total : resolveCalls after.trace = resolveCalls d.session.trace +
            if left.current = .reqDns then 1 else 0 := by
          rw [grown,resolveCalls_append,calls,current]
        have most : resolveCalls after.trace ≤ resolveCalls d.session.trace + 1 := by
          rw [total]
          split
          · exact Nat.le_refl _
          · exact Nat.le_succ _
        refine ⟨?_,?_,?_,?_,?_⟩
        · rw [current,selector]
          exact rested.allowed
        · rw [same,(jump_parts env _).2.2.2.2.2.2.2.1]
          exact rested.client
        · rw [current]
          exact ⟨sound,unfinished⟩
        · dsimp only
          by_cases block : kind = .block
          · have once := steady.once
            rw [if_pos block]
            omega
          · have idle := blocks_idle steady ⟨item,entry,asks block⟩ block
            rw [if_neg block]
            omega
        · intro fewer
          by_contra elsewhere_
          rw [if_neg elsewhere_] at total
          dsimp only at fewer
          by_cases block : kind = .block
          · have once := steady.once
            rw [if_pos block] at fewer
            omega
          · have idle := blocks_idle steady ⟨item,entry,asks block⟩ block
            rw [if_neg block] at fewer
            omega
      · cases ran
  | resolved addrs =>
      obtain ⟨after,step,rfl⟩ := Option.map_eq_some_iff.mp ran
      obtain ⟨socks,live,stored⟩ := Option.bind_eq_some_iff.mp step
      split at stored
      · cases stored
        intro left going
        cases going
        obtain ⟨allowed,same,sane,once,waits⟩ := steadies socks live
        exact ⟨allowed,same,sane,once,waits⟩
      · cases stored
  | elsewhere sel =>
      unfold deliveryStep at ran
      dsimp only at ran
      split at ran
      · rename_i spared
        cases ran
        intro socks live
        obtain ⟨allowed,same,sane,once,waits⟩ := steadies socks live
        exact ⟨allowed_fewer allowed (fun _ _ found => spares_fewer spared found),same,sane,once,waits⟩
      · cases ran

theorem accepted_steadies {first : Delivery} (fresh : ∀ other, sel.own .connActions data other = none)
    (accepted : socksAccepted data sel fd = some first) : first.Steadies data fd := by
  unfold socksAccepted at accepted
  dsimp only at accepted
  split at accepted
  · cases accepted
    have entries : ∀ other item, (selectorRegister sel fd (some .connActions) opRead (some data)).2.own .connActions data
        other = some item → other = fd ∧ item = ⟨fd,opRead,some .connActions,some data⟩ := by
      intro other item found
      obtain ⟨entry,table,object⟩ := own_some.mp found
      rcases register_registered entry with old | new
      · have gone := fresh other
        rw [own_some.mpr ⟨old,table,object⟩] at gone
        cases gone
      · exact new
    intro socks live
    cases live
    have reading : (acceptedConn fd).current = .helloRead := rfl
    refine ⟨⟨fun other item found => (entries other item found).1,?_⟩,rfl,?_,Nat.zero_le _,?_⟩
    · intro other item found
      rw [(entries other item found).2]
      rfl
    · rw [reading]
      exact ⟨by simp,by simp⟩
    · intro fewer
      exact absurd fewer (Nat.lt_irrefl _)
  · cases accepted

theorem runs_steadies {first d : Delivery} {events : List SessionEvent} (start : first.Steadies data client)
    (path : DeliveryRuns data first events d) : d.Steadies data client :=
  path.invariant start (fun _ _ _ => preserves_steadies)

end Socks5d

namespace Socks5d.ControlProtocol

variable {data : Nat} {s next : ControlSession} {cpc : ControlProtConn} {env : CpEnv} {sel : Selector} {g : Globals}
  {kind : EventKind} {e : ControlEvent} {state : ControlProtStmState}

-- CP_HELLO has no handler for what comes in.
def ControlSession.Greets (data : Nat) (s : ControlSession) : Prop :=
  ∀ cpc, s.cpc = some cpc → cpc.current = .hello → asks (ownEntry data cpc s.sel) .read = false

theorem handler_hello {handler : CpStateHandler} {key : SelectorKey}
    (found : cpStateHandler kind state = some handler) (greets : (handler env key sel g cpc).next = .hello) :
    kind = .write ∧ state = .hello ∧ (handler env key sel g cpc).sel = sel := by
  rcases cpStateHandler_cases found with ⟨hello,write,rfl⟩ | ⟨_,⟨_,rfl⟩ | ⟨_,rfl⟩⟩ | ⟨_,⟨_,rfl⟩ | ⟨_,rfl⟩⟩ | ⟨_,rfl⟩
  · refine ⟨write,hello,?_⟩
    rcases helloWrite_cases env key sel g cpc with ⟨_,_,ran⟩ | ⟨_,ran⟩ | ⟨_,_,ran⟩ | ⟨_,ran⟩
    · rw [ran] at greets; cases greets
    · rw [ran]
    · rw [ran]
    · rw [ran]
  · unfold authRead at greets
    split at greets
    · cases greets
    · dsimp only at greets
      split at greets
      · cases greets
      · split at greets
        · cases greets
        · cases greets
  · rcases authWrite_cases env key sel g cpc with ⟨_,_,ran⟩ | ⟨_,_,ran⟩ | ⟨_,_,ran⟩ | ⟨_,_,_,ran⟩ | ⟨_,_,_,ran⟩
    all_goals rw [ran] at greets; cases greets
  · unfold executeRead at greets
    split at greets
    · cases greets
    · dsimp only at greets
      split at greets
      · cases greets
      · split at greets
        · cases greets
        · cases greets
  · have answers : ∀ g answer called, (executeAnswer env sel g cpc answer called).next ≠ .hello := by
      intro g answer called next
      rcases executeAnswer_cases env sel g cpc answer called with ⟨_,ran⟩ | ⟨_,ran⟩
      · rw [ran] at next; cases next
      · rw [ran] at next; cases next
    rcases executeWrite_cases env key sel g cpc with ⟨_,_,ran⟩ | ⟨_,_,ran⟩ | ⟨answer,_,_,ran⟩ | ⟨_,_,_,ran⟩ |
      ⟨command,_,_,_,ran⟩
    · rw [ran] at greets; cases greets
    · rw [ran] at greets; cases greets
    · rw [ran] at greets; exact absurd greets (answers _ _ _)
    · rw [ran] at greets; cases greets
    · rw [ran] at greets
      cases result : (command env.malloc g cpc.commandParser).1 with
      | none => rw [result] at greets; cases greets
      | some answer => rw [result] at greets; exact absurd greets (answers _ _ _)
  · cases greets

theorem preserves_greets (greets : s.Greets data) (ran : controlStep data s e = some next) : next.Greets data := by
  cases e with
  | event kind env =>
      obtain ⟨cpc,live,_,handled⟩ := controlStep_handled ran
      cases handled with
      | ended => intro after left; cases left
      | dropped => intro after left; cases left
      | read called buff handler out _ found gave =>
          intro after left hello
          obtain ⟨middle,_,same⟩ := Option.map_eq_some_iff.mp left
          subst same
          have next : out.next = .hello := hello
          rw [← gave] at next
          exact absurd (handler_hello found next).1 (by simp)
      | wrote handler out middle served found gave stored flushes =>
          intro after left hello
          have kept : served.sel = out.sel ∧ after.fd = middle.fd ∧ out.next = .hello := by
            cases flushes with
            | stopped => cases left; exact ⟨rfl,rfl,hello⟩
            | idle => cases left; exact ⟨rfl,rfl,hello⟩
            | sent bytes => cases left; exact ⟨rfl,rfl,hello⟩
            | broken => cases left
          obtain ⟨selector,fd,next⟩ := kept
          rw [← gave] at next
          obtain ⟨_,state,quiet⟩ := handler_hello found next
          obtain ⟨⟨stays,held,own⟩,_⟩ := @handler_stays (cpc.handed cpc.readBuffer) env ⟨cpc.fd,data⟩ s.sel s.globals _ _
            handler found (by rw [state]; simp)
          rw [gave] at held quiet
          cases stored.symm.trans held
          have before := greets cpc live state
          have entry : ownEntry data after served.sel = ownEntry data cpc s.sel := by
            have number : after.fd = cpc.fd := fd.trans own
            rw [selector,quiet,ownEntry,ownEntry,number]
          exact (congrArg (asks · .read) entry).trans before
  | elsewhere sel globals =>
      obtain ⟨spared,rfl⟩ := elsewhere_spares ran
      intro cpc live hello
      exact asks_spared spared live (greets cpc live hello)

theorem accepted_greets (data : Nat) (sel : Selector) (g : Globals) (clientFd : Int) :
    (passiveCpSocketHandler data sel g clientFd).Greets data := by
  unfold passiveCpSocketHandler
  dsimp only
  split
  · intro cpc live
    cases live
  · rename_i taken
    intro cpc live _
    cases live
    have absent := register_absent (Decidable.not_not.mp taken)
    unfold asks
    cases found : ownEntry data (newControlProtConn clientFd) (selectorRegister sel (newControlProtConn clientFd).fd
      (some .cpFd) (newControlProtConn clientFd).interests (some data)).2 with
    | none => rfl
    | some item =>
        obtain ⟨entry,_⟩ := Option.filter_eq_some_iff.mp found
        rcases register_registered entry with old | ⟨_,rfl⟩
        · rw [absent] at old
          cases old
        · rfl

theorem turning_handled (turning : s.Turning data) (greets : s.Greets data) (live : s.cpc = some cpc)
    (wanted : asks (ownEntry data cpc s.sel) kind = true) :
    ∃ handler, cpStateHandler kind cpc.current = some handler := by
  have silent : kind ≠ .block := by
    rintro rfl
    unfold asks at wanted
    cases found : ownEntry data cpc s.sel with
    | none => rw [found] at wanted; cases wanted
    | some item => rw [found] at wanted; cases wanted
  have phase := turning.phase live
  have state : (cpc.current = .hello → kind ≠ .read) ∧ cpc.current ≠ .ok := by
    refine ⟨?_,?_⟩
    · rintro hello rfl
      rw [greets cpc live hello] at wanted
      cases wanted
    · cases phase with
      | early _ state => rcases state with state | state <;> rw [state] <;> simp
      | turning _ _ state => rw [state]; simp
      | over_ _ error => rw [error cpc rfl]; simp
  cases current : cpc.current with
  | hello =>
      cases kind with
      | read => exact absurd rfl (state.1 current)
      | write => exact ⟨_,rfl⟩
      | block => exact absurd rfl silent
  | ok => exact absurd current state.2
  | auth | execute | error =>
      cases kind with
      | read => exact ⟨_,rfl⟩
      | write => exact ⟨_,rfl⟩
      | block => exact absurd rfl silent

theorem runs_greets {fd : Int} {events : List ControlEvent}
    (path : ControlRuns data (passiveCpSocketHandler data sel g fd) events s) : s.Greets data :=
  path.invariant (accepted_greets data sel g fd) (fun _ _ _ => preserves_greets)

-- What cpError frees is all that can take the machine away from under jump.
theorem handled_exact {buff : CertifiedBuffer} {handler : CpStateHandler} {key : SelectorKey}
    (found : cpStateHandler kind cpc.current = some handler) :
    (∃ out, cpStmHandler kind env key sel g {cpc with readBuffer:=buff} = some out ∧
      out.next.number ≤ ControlProtStmState.maxState) ↔
    (cpc.current = .error → ControlProtStmState.maxState ≤ env.freed) := by
  have ran : cpStmHandler kind env key sel g {cpc with readBuffer:=buff} =
      cpJump env.freed cpc.current (handler env key sel g (cpc.handed buff)) := by
    rw [cpStmHandler]
    change (cpStateHandler kind cpc.current).bind _ = _
    rw [found,Option.bind_some]
    rfl
  rw [ran]
  cases left : (handler env key sel g (cpc.handed buff)).cpc with
  | some after =>
      have kept : (handler env key sel g (cpc.handed buff)).cpc.isSome = true := by
        rw [left]
        rfl
      refine ⟨fun _ failed => absurd failed (kept_sane found left),fun _ => ?_⟩
      exact ⟨_,cpJump_kept kept,cp_state_bounded _⟩
  | none =>
      obtain ⟨failed,rfl⟩ := dropped_error found left
      constructor
      · rintro ⟨out,jumps,_⟩ _
        exact Nat.le_of_not_gt (Option.ite_none_left_eq_some.mp jumps).1
      · intro fits
        refine ⟨_,if_neg (Nat.not_lt.mpr (fits failed)),cp_state_bounded _⟩

end Socks5d.ControlProtocol

namespace Socks5d
open ControlProtocol

theorem state_bounded (state : SocksState) : state.number ≤ SocksState.maxState := by cases state <;> decide

theorem engine_aborts_exact (data : Nat) (sel : Selector) (fd : Int) :
    (∀ (first d : Delivery) (events : List SessionEvent) (socks : SocksConnModel),
      (∀ other, sel.own .connActions data other = none) → socksAccepted data sel fd = some first →
      DeliveryRuns data first events d → d.session.conn = some socks → ∀ kind other env, d.delivers data kind other = true →
      ∃ out, stmHandler kind env ⟨other,data⟩ d.session.sel socks = some out ∧ out.next.number ≤ SocksState.maxState) ∧
    ∀ (g : Globals) (s : ControlSession) (events : List ControlEvent) (cpc : ControlProtConn),
      ControlRuns data (passiveCpSocketHandler data sel g fd) events s → s.cpc = some cpc →
      ∀ kind env buff, asks (ownEntry data cpc s.sel) kind = true → (cpStateHandler kind cpc.current).isSome = true ∧
      ((∃ out, cpStmHandler kind env ⟨cpc.fd,data⟩ s.sel s.globals {cpc with readBuffer:=buff} = some out ∧
        out.next.number ≤ ControlProtStmState.maxState) ↔
      (cpc.current = .error → ControlProtStmState.maxState ≤ env.freed)) := by
  constructor
  · intro first d events socks fresh accepted path live kind other env delivers
    have steadies := runs_steadies (accepted_steadies fresh accepted) path
    obtain ⟨handler,found⟩ := steady_handled (steadies socks live) delivers
    exact ⟨_,congrArg (Option.map _) found,state_bounded _⟩
  · intro g s events cpc path live kind env buff wanted
    obtain ⟨_,turning⟩ := runs_turning path
    obtain ⟨handler,found⟩ := turning_handled turning (runs_greets path) live wanted
    exact ⟨Option.isSome_iff_exists.mpr ⟨handler,found⟩,handled_exact found⟩

theorem mainSelector_own (table : FdHandler) (data : Nat) (fd : Int) : mainSelector.own table data fd = none := by
  have created : selectorNew itemsMaxSize = some mainSelector := rfl
  rw [Selector.own,selectorNew_registered created]
  rfl

theorem opened_never_abort :
    (∃ d socks, Transitions.exec (deliveryStep 1) ⟨newSession acceptedSelector 5,0⟩ (opening []) = some d ∧
      d.session.conn = some socks ∧ socks.current = .reqConnect ∧
      ∃ out, stmHandler .write quiet ⟨6,1⟩ d.session.sel socks = some out ∧ out.next.number ≤ SocksState.maxState) ∧
    ∃ cpc, (passiveCpSocketHandler 3 mainSelector ⟨.empty,true,.start⟩ 7).cpc = some cpc ∧
      ∃ out, cpStmHandler .write ⟨.closed,.sent 7,true,[],0⟩ ⟨cpc.fd,3⟩
          (passiveCpSocketHandler 3 mainSelector ⟨.empty,true,.start⟩ 7).sel
          (passiveCpSocketHandler 3 mainSelector ⟨.empty,true,.start⟩ 7).globals {cpc with readBuffer:=cpc.readBuffer} =
          some out ∧ out.next.number ≤ ControlProtStmState.maxState := by
  have serves := (engine_aborts_exact 1 mainSelector 5).1
  have manages := (engine_aborts_exact 3 mainSelector 7).2
  have taken : (selectorRegister mainSelector 5 (some .connActions) opRead (some 1)).1 = .success := by decide +kernel
  have accepted : socksAccepted 1 mainSelector 5 = some ⟨newSession acceptedSelector 5,0⟩ := by
    unfold socksAccepted acceptedSelector
    generalize selectorRegister mainSelector 5 (some .connActions) opRead (some 1) = result at taken
    exact if_pos taken
  refine ⟨?_,?_⟩
  · have facts : (Transitions.exec (deliveryStep 1) ⟨newSession acceptedSelector 5,0⟩ (opening [])).map
        (fun d => (d.session.conn.map SocksConnModel.current,d.delivers 1 .write 6)) = some (some .reqConnect,true) := by
      decide +kernel
    obtain ⟨d,ran,found⟩ := Option.map_eq_some_iff.mp facts
    obtain ⟨state,delivered⟩ := Prod.mk.inj found
    obtain ⟨socks,live,connecting⟩ := Option.map_eq_some_iff.mp state
    refine ⟨d,socks,ran,live,connecting,?_⟩
    exact serves _ d _ socks (mainSelector_own .connActions 1) accepted (Transitions.exec_runs ran) live
      .write 6 quiet delivered
  · have facts : ((passiveCpSocketHandler 3 mainSelector ⟨.empty,true,.start⟩ 7).cpc.map fun cpc =>
        (asks (ownEntry 3 cpc (passiveCpSocketHandler 3 mainSelector ⟨.empty,true,.start⟩ 7).sel) .write,
          cpc.current)) = some (true,.hello) := by
      decide +kernel
    obtain ⟨cpc,live,found⟩ := Option.map_eq_some_iff.mp facts
    obtain ⟨wanted,hello⟩ := Prod.mk.inj found
    refine ⟨cpc,live,(manages _ _ [] cpc .nil live .write _ _ wanted).2.mpr ?_⟩
    rw [hello]
    intro failed
    cases failed

-- The login begins with a wrong byte, and its next byte comes once the connection is in
-- CP_ERROR. What the freed block holds for max_state is too small for CP_ERROR by then.
theorem freed_machine_aborts :
    ∃ s cpc, Transitions.exec (controlStep 3) (passiveCpSocketHandler 3 mainSelector ⟨.empty,true,.start⟩ 7)
        [adminTakes 7,adminTakes 0,adminTypes [0x31]] = some s ∧
      s.cpc = some cpc ∧ cpc.current = .error ∧ asks (ownEntry 3 cpc s.sel) .read = true ∧
      cpStmHandler .read ⟨.data [0x32],.sent 0,true,[],3⟩ ⟨cpc.fd,3⟩ s.sel s.globals
        {cpc with readBuffer:=cpc.readBuffer.fill [0x32]} = none ∧
      controlStep 3 s (.event .read ⟨.data [0x32],.sent 0,true,[],3⟩) = none := by
  have facts : (Transitions.exec (controlStep 3) (passiveCpSocketHandler 3 mainSelector ⟨.empty,true,.start⟩ 7)
      [adminTakes 7,adminTakes 0,adminTypes [0x31]]).bind (fun s => s.cpc.map fun cpc =>
        (cpc.current,asks (ownEntry 3 cpc s.sel) .read,
          (cpStmHandler .read ⟨.data [0x32],.sent 0,true,[],3⟩ ⟨cpc.fd,3⟩ s.sel s.globals
            {cpc with readBuffer:=cpc.readBuffer.fill [0x32]}).isNone,
          (controlStep 3 s (.event .read ⟨.data [0x32],.sent 0,true,[],3⟩)).isNone)) = some (.error,true,true,true) := by
    decide +kernel
  obtain ⟨s,ran,facts⟩ := Option.bind_eq_some_iff.mp facts
  obtain ⟨cpc,live,facts⟩ := Option.map_eq_some_iff.mp facts
  obtain ⟨failed,facts⟩ := Prod.mk.inj facts
  obtain ⟨wanted,facts⟩ := Prod.mk.inj facts
  obtain ⟨aborts,ends⟩ := Prod.mk.inj facts
  exact ⟨s,cpc,ran,live,failed,wanted,Option.isNone_iff_eq_none.mp aborts,Option.isNone_iff_eq_none.mp ends⟩

end Socks5d
