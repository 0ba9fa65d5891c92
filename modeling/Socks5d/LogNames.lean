import Socks5d.Daemon
import Socks5d.Foundations.Trace

namespace Socks5d
open Trace ControlProtocol

def callsOf (id : Nat) (log : List (Nat × Effect)) : List Effect :=
  (log.filter fun call => decide (call.1 = id)).map Prod.snd

def lastLogin (calls : List Effect) : Option (List UInt8) := (calls.filterMap Effect.login).getLast?

def NamesOwn (log : List (Nat × Effect)) (call : Nat × Effect) : Prop :=
  ∀ named, call.2.recordUser = some named → named = lastLogin (callsOf call.1 log)

def LastIsOwn (log : List (Nat × Effect)) (call : Nat × Effect) : Prop :=
  call.2.recordUser.isSome = true → lastLogin (log.map Prod.snd) = lastLogin (callsOf call.1 log)

def NamesLast (log : List (Nat × Effect)) (call : Nat × Effect) : Prop :=
  ∀ named, call.2.recordUser = some named → named = lastLogin (log.map Prod.snd)

-- Two connections, of one run or of two, that did the same have the same user in their records.
def RecordsAlike (log other : List (Nat × Effect)) : Prop :=
  ∀ {before id effect after before' id' effect' after' named named'}, log = before ++ (id,effect)::after →
    other = before' ++ (id',effect')::after' → callsOf id before = callsOf id' before' →
    effect.recordUser = some named → effect'.recordUser = some named' → named = named'

structure Daemon.Recorded (d : Daemon) : Prop where
  user : d.currUser = lastLogin (d.log.map Prod.snd)
  named : Each NamesLast [] d.log

variable {d next : Daemon} {id : Nat} {sel : Selector} {socks : SocksConnModel} {effects : List Effect} {e : DaemonEvent}
  {user : Option (List UInt8)} {past log other : List (Nat × Effect)} {kind : EventKind} {env : Env} {key : SelectorKey}
  {served : Served}

theorem lastLogin_append (earlier later : List Effect) :
    lastLogin (earlier ++ later) = (lastLogin later).or (lastLogin earlier) := by
  unfold lastLogin
  rw [List.filterMap_append,List.getLast?_append]

theorem onCurrUser_last (effects : List Effect) (user : Option (List UInt8)) :
    effects.foldl Effect.onCurrUser user = (effects.filterMap Effect.newUser).getLast?.or user := by
  induction effects generalizing user with
  | nil => rfl
  | cons effect rest ih =>
      rw [List.foldl_cons,ih]
      cases effect with
      | setCurrUser username =>
          rw [List.filterMap_cons_some (show Effect.newUser (.setCurrUser username) = some username from rfl),
            List.getLast?_cons]
          cases (rest.filterMap Effect.newUser).getLast? <;> rfl
      | _ => rfl

theorem records_named (own : user = lastLogin (past.map Prod.snd)) (records : ∀ effect ∈ effects, ∀ named,
      effect.recordUser = some named → named = user ∧ effects.filterMap Effect.login = []) (id : Nat) :
    Each NamesLast past (effects.map fun effect => (id,effect)) := by
  by_cases unjudged : effects.filterMap Effect.login = []
  · have silent := List.filterMap_eq_nil_iff.mp unjudged
    have named := fun effect member named logged => (records effect member named logged).1
    clear records unjudged
    induction effects generalizing past with
    | nil => trivial
    | cons effect rest ih =>
        refine ⟨?_,ih ?_ ?_ ?_⟩
        · intro name logged
          rw [← own]
          exact named effect List.mem_cons_self name logged
        · rw [List.map_append,lastLogin_append,own]
          have nobody : lastLogin [effect] = none := by
            rw [lastLogin,List.filterMap_cons_none (silent effect List.mem_cons_self)]
            rfl
          exact (congrArg (·.or (lastLogin (past.map Prod.snd))) nobody).symm
        · intro other member
          exact silent other (List.mem_cons_of_mem effect member)
        · intro other member
          exact named other (List.mem_cons_of_mem effect member)
  · apply each_silent
    intro call member before named logged
    obtain ⟨effect,inside,rfl⟩ := List.mem_map.mp member
    exact absurd (records effect inside named logged).2 unjudged

theorem after_recorded (recorded : d.Recorded) (names : effects.filterMap Effect.newUser = effects.filterMap Effect.login)
    (records : ∀ effect ∈ effects, ∀ named, effect.recordUser = some named →
      named = d.currUser ∧ effects.filterMap Effect.login = [])
    (id : Nat) (sel : Selector) (entry : Option SocksConnModel) : (d.after id sel entry effects).Recorded := by
  obtain ⟨user,named⟩ := recorded
  constructor
  · unfold Daemon.after
    dsimp only
    have calls : (effects.map fun effect => (id,effect)).map Prod.snd = effects := by
      rw [List.map_map]
      exact List.map_id effects
    rw [onCurrUser_last,names,List.map_append,lastLogin_append,calls,user]
    rfl
  · exact each_extend named (records_named user records id)

theorem close_silent (sel : Selector) (socks : SocksConnModel) : ∀ effect ∈ (closeSocksConn sel socks).2,
    effect.newUser = none ∧ effect.login = none ∧ effect.recordUser = none := by
  intro effect member
  simp only [closeSocksConn,List.mem_append] at member
  rcases member with (server | client) | addresses
  · split at server
    · rw [List.mem_singleton.mp server]
      exact ⟨rfl,rfl,rfl⟩
    · cases server
  · split at client
    · rcases List.mem_cons.mp client with first | second
      · rw [first]
        exact ⟨rfl,rfl,rfl⟩
      · rw [List.mem_singleton.mp second]
        exact ⟨rfl,rfl,rfl⟩
    · cases client
  · split at addresses
    · rw [List.mem_singleton.mp addresses]
      exact ⟨rfl,rfl,rfl⟩
    · cases addresses

theorem close_names (sel : Selector) (socks : SocksConnModel) :
    (closeSocksConn sel socks).2.filterMap Effect.newUser = [] ∧ (closeSocksConn sel socks).2.filterMap Effect.login = [] :=
  ⟨List.filterMap_eq_nil_iff.mpr fun effect member => (close_silent sel socks effect member).1,
    List.filterMap_eq_nil_iff.mpr fun effect member => (close_silent sel socks effect member).2.1⟩

theorem close_recorded (recorded : d.Recorded) (id : Nat) (sel : Selector) (socks : SocksConnModel) :
    (d.close id sel socks).Recorded := by
  obtain ⟨unnamed,unjudged⟩ := close_names sel socks
  apply after_recorded recorded
  · rw [unnamed,unjudged]
  · intro effect member named logged
    rw [(close_silent sel socks effect member).2.2] at logged
    cases logged

theorem served_recorded (recorded : d.Recorded) (id : Nat)
    (ran : socksConnEvent kind (d.sees env) key sel socks = some served) :
    (d.after id served.sel served.socks served.effects).Recorded := by
  obtain ⟨out,attests,⟨_,effects⟩ | ⟨_,effects⟩⟩ := served_parts ran
  · rw [effects]
    exact after_recorded recorded attests.names attests.records _ _ _
  · obtain ⟨unnamed,unjudged⟩ := close_names out.sel out.socks
    rw [effects]
    apply after_recorded recorded
    · rw [List.filterMap_append,List.filterMap_append,unnamed,unjudged,attests.names]
    · intro effect member named logged
      rw [List.filterMap_append,unjudged,List.append_nil]
      rcases List.mem_append.mp member with called | closing
      · exact attests.records effect called named logged
      · rw [(close_silent out.sel out.socks effect closing).2.2] at logged
        cases logged

theorem handleClose_recorded (recorded : d.Recorded) (item : Item) : (d.handleClose item).Recorded := by
  unfold Daemon.handleClose
  split
  · split
    · exact close_recorded recorded _ _ _
    · exact recorded
  · split
    · exact ⟨recorded.user,recorded.named⟩
    · exact recorded
  · exact recorded

theorem destroyed_recorded (numbers : List Nat) (recorded : d.Recorded) :
    (numbers.foldl Daemon.unregisterClosing d).Recorded := by
  induction numbers generalizing d with
  | nil => exact recorded
  | cons fd rest ih =>
      apply ih
      unfold Daemon.unregisterClosing
      split
      · rename_i item _
        obtain ⟨user,named⟩ := handleClose_recorded recorded item
        exact ⟨user,named⟩
      · exact recorded

theorem accept_recorded (recorded : d.Recorded) (socket : Int) (nio : Bool) : (d.accept socket nio).Recorded := by
  have next : ({d with nextId:=d.nextId+1} : Daemon).Recorded := ⟨recorded.user,recorded.named⟩
  unfold Daemon.accept
  dsimp only
  split
  · exact close_recorded next _ _ _
  · obtain ⟨user,named⟩ := @after_recorded _ [] next rfl (fun _ member => absurd member List.not_mem_nil) d.nextId
      (passiveSocksSocketHandler d.mgmt.sel d.nextId socket nio).1 (some (acceptedConn socket))
    exact ⟨user,named⟩

theorem step_recorded (recorded : d.Recorded) (ran : daemonStep d e = some next) : next.Recorded := by
  cases daemon_steps ran with
  | @accept listener socket nio _ _ => exact accept_recorded recorded socket nio
  | acceptMgmt _ _ => exact ⟨recorded.user,recorded.named⟩
  | @event kind fd env id socks served _ _ handled => exact served_recorded recorded id handled
  | mgmtEvent _ => exact ⟨recorded.user,recorded.named⟩
  | resolved _ _ => exact ⟨recorded.user,recorded.named⟩
  | sigterm =>
      have freed : ({d with mgmt:=freeCpConnList d.mgmt} : Daemon).Recorded := ⟨recorded.user,recorded.named⟩
      obtain ⟨user,named⟩ := destroyed_recorded (List.range (freeCpConnList d.mgmt).sel.fds.length) freed
      exact ⟨user,named⟩

theorem runs_recorded {socks mng : List Int} {users : UserTable} {sniffer : Bool} {events : List DaemonEvent}
    (path : DaemonRuns (daemonStart socks mng users sniffer) events d) : d.Recorded :=
  path.invariant ⟨rfl,trivial⟩ (fun _ _ _ recorded ran => step_recorded recorded ran)

theorem names_exact (recorded : d.Recorded) : Each NamesOwn [] d.log ↔ Each LastIsOwn [] d.log := by
  rw [each_exact,each_exact]
  constructor
  · intro own before call after split written
    obtain ⟨named,logged⟩ := Option.isSome_iff_exists.mp written
    have last := each_at recorded.named split named logged
    exact last.symm.trans (own before call after split named logged)
  · intro undisturbed before call after split named logged
    have last := each_at recorded.named split named logged
    exact last.trans (undisturbed before call after split (by rw [logged]; rfl))

theorem own_alike (own : Each NamesOwn [] log) (others : Each NamesOwn [] other) : RecordsAlike log other := by
  intro before id effect after before' id' effect' after' named named' split split' same logged logged'
  have first : named = lastLogin (callsOf id before) := each_at own split named logged
  have second : named' = lastLogin (callsOf id' before') := each_at others split' named' logged'
  rw [first,second,same]

theorem log_names_exact {socks mng socks' mng' : List Int} {users users' : UserTable} {sniffer sniffer' : Bool}
    {events events' : List DaemonEvent} {last : Daemon}
    (path : DaemonRuns (daemonStart socks mng users sniffer) events d)
    (path' : DaemonRuns (daemonStart socks' mng' users' sniffer') events' last) :
    (Each NamesOwn [] d.log ↔ Each LastIsOwn [] d.log) ∧
    (Each LastIsOwn [] d.log → Each LastIsOwn [] last.log → RecordsAlike d.log last.log) := by
  have own := names_exact (runs_recorded path)
  have others := names_exact (runs_recorded path')
  exact ⟨own,fun undisturbed calm => own_alike (own.mpr undisturbed) (others.mpr calm)⟩

def recordsTold (past : List (Nat × Effect)) : List (Nat × Effect) → List (Nat × Option (List UInt8) × Option (List UInt8))
  | [] => []
  | call::rest =>
    (call.2.recordUser.toList.map fun named => (call.1,named,lastLogin (callsOf call.1 past))) ++
      recordsTold (past++[call]) rest

theorem told_own (own : Each NamesOwn past log) : ∀ told ∈ recordsTold past log, told.2.1 = told.2.2 := by
  induction log generalizing past with
  | nil => exact fun _ member => absurd member List.not_mem_nil
  | cons call rest ih =>
      intro told member
      rcases List.mem_append.mp member with first | later
      · obtain ⟨named,logged,rfl⟩ := List.mem_map.mp first
        exact own.1 named (Option.mem_toList.mp logged)
      · exact ih own.2 told later

def writes (fd : Int) (bytes : List UInt8) : DaemonEvent := .event .read fd {quiet with recv:=.data bytes}
def drains (fd : Int) (count : Nat) : DaemonEvent := .event .write fd {quiet with send:=.sent count}

def logsIn (fd : Int) (name pass : List UInt8) : List DaemonEvent :=
  [writes fd [0x05,0x01,0x02],drains fd 2,
    writes fd ([0x01,UInt8.ofNat name.length] ++ name ++ [UInt8.ofNat pass.length] ++ pass),drains fd 2]

def entersAnonymously (fd : Int) : List DaemonEvent := [writes fd [0x05,0x01,0x00],drains fd 2]

-- A request that the server turns down, which it logs.
def asksToBind (fd : Int) : List DaemonEvent := [writes fd [0x05,0x02,0x00,0x01,10,0,0,1,0,80],drains fd 10]

def twoUsers : UserTable := (addUser oneUser [0x62,0x6f] [0x70,0x77]).2

def daemonRun (users : UserTable) (events : List DaemonEvent) : Option Daemon :=
  Transitions.exec daemonStep (daemonStart [3] [4] users true) events

def alAlone : List DaemonEvent := [.accept 3 5 true] ++ logsIn 5 [0x61,0x6c] [0x73,0x65] ++ asksToBind 5
def nobodyKnown : List DaemonEvent := [.accept 3 5 true] ++ entersAnonymously 5 ++ asksToBind 5

theorem alone_named : ∃ d last, daemonRun twoUsers alAlone = some d ∧ daemonRun .empty nobodyKnown = some last ∧
    recordsTold [] d.log = [(0,some [0x61,0x6c],some [0x61,0x6c])] ∧ recordsTold [] last.log = [(0,none,none)] ∧
    (Each NamesOwn [] d.log ↔ Each LastIsOwn [] d.log) ∧
    (Each LastIsOwn [] d.log → Each LastIsOwn [] last.log → RecordsAlike d.log last.log) := by
  have named : (daemonRun twoUsers alAlone).map (fun d => recordsTold [] d.log) =
      some [(0,some [0x61,0x6c],some [0x61,0x6c])] := by decide +kernel
  have unnamed : (daemonRun .empty nobodyKnown).map (fun d => recordsTold [] d.log) = some [(0,none,none)] := by
    decide +kernel
  obtain ⟨d,ran,told⟩ := Option.map_eq_some_iff.mp named
  obtain ⟨last,ended,told'⟩ := Option.map_eq_some_iff.mp unnamed
  obtain ⟨own,alike⟩ := log_names_exact (Transitions.exec_runs ran) (Transitions.exec_runs ended)
  exact ⟨d,last,ran,ended,told,told',own,alike⟩

-- Two users log in, and the first one's request is logged as the second one's; and a client
-- that logs in as nobody is logged as the user who did before.
theorem others_named :
    (∃ d, daemonRun twoUsers ([.accept 3 5 true,.accept 3 7 true] ++ logsIn 5 [0x61,0x6c] [0x73,0x65] ++
        logsIn 7 [0x62,0x6f] [0x70,0x77] ++ asksToBind 5) = some d ∧
      recordsTold [] d.log = [(0,some [0x62,0x6f],some [0x61,0x6c])] ∧ ¬ Each NamesOwn [] d.log) ∧
    ∃ d, daemonRun .empty ([.accept 3 5 true,.accept 3 7 true] ++ logsIn 5 [0x61,0x6c] [0x73,0x65] ++
        entersAnonymously 7 ++ asksToBind 7) = some d ∧
      recordsTold [] d.log = [(1,some [0x61,0x6c],none)] ∧ ¬ Each NamesOwn [] d.log := by
  have swapped : (daemonRun twoUsers ([.accept 3 5 true,.accept 3 7 true] ++ logsIn 5 [0x61,0x6c] [0x73,0x65] ++
      logsIn 7 [0x62,0x6f] [0x70,0x77] ++ asksToBind 5)).map (fun d => recordsTold [] d.log) =
      some [(0,some [0x62,0x6f],some [0x61,0x6c])] := by decide +kernel
  have borrowed : (daemonRun .empty ([.accept 3 5 true,.accept 3 7 true] ++ logsIn 5 [0x61,0x6c] [0x73,0x65] ++
      entersAnonymously 7 ++ asksToBind 7)).map (fun d => recordsTold [] d.log) =
      some [(1,some [0x61,0x6c],none)] := by decide +kernel
  obtain ⟨d,ran,told⟩ := Option.map_eq_some_iff.mp swapped
  obtain ⟨last,ended,told'⟩ := Option.map_eq_some_iff.mp borrowed
  refine ⟨⟨d,ran,told,?_⟩,last,ended,told',?_⟩
  · intro own
    have same := told_own own _ (by rw [told]; exact List.mem_cons_self)
    cases same
  · intro own
    have same := told_own own _ (by rw [told']; exact List.mem_cons_self)
    cases same

end Socks5d
