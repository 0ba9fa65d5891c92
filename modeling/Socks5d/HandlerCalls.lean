import Socks5d.Session

namespace Socks5d

def Effect.recordUser : Effect → Option (Option (List UInt8))
  | .connInformation record => some record.user
  | .passInformation record => some record.user
  | _ => none

def Effect.login : Effect → Option (List UInt8)
  | .verdict username _ result => if result ≠ -1 then some username else none
  | _ => none

def Effect.newUser : Effect → Option (List UInt8)
  | .setCurrUser username => some username
  | _ => none

def Effect.routine (user : Option (List UInt8)) : Effect → Bool
  | .verdict _ _ _ => false
  | .setCurrUser _ => false
  | .removeCurrentSocksConnection => false
  | .connInformation record => decide (record.user = user)
  | .passInformation record => decide (record.user = user)
  | _ => true

structure Serves (user : Option (List UInt8)) (socks : SocksConnModel) (out : Outcome) : Prop where
  client : out.socks.cliConn = socks.cliConn
  calls : out.effects.all (Effect.routine user) = true

structure Attests (user : Option (List UInt8)) (socks : SocksConnModel) (out : Outcome) : Prop where
  client : out.socks.cliConn = socks.cliConn
  metered : .removeCurrentSocksConnection ∉ out.effects
  names : out.effects.filterMap Effect.newUser = out.effects.filterMap Effect.login
  records : ∀ effect ∈ out.effects, ∀ named, effect.recordUser = some named →
    named = user ∧ out.effects.filterMap Effect.login = []

variable {π : Type} {env : Env} {key : SelectorKey} {sel : Selector} {socks first : SocksConnModel}
  {called : List Effect} {state : UInt8} {out : Outcome} {kind : EventKind} {user : Option (List UInt8)}

theorem calm_append (calm : called.all (Effect.routine user) = true) {more : List Effect}
    (rest : more.all (Effect.routine user) = true) : (called ++ more).all (Effect.routine user) = true := by
  rw [List.all_append,calm,rest]
  rfl

theorem serves_from (serves : Serves user first out) (client : first.cliConn = socks.cliConn) : Serves user socks out :=
  ⟨serves.client.trans client,serves.calls⟩

theorem readMessage_serves {r : Reader π} {finish : Env → SelectorKey → Selector → SocksConnModel → List Effect → Outcome}
    (finishes : ∀ parsed called, called.all (Effect.routine user) = true →
      Serves user parsed (finish env key sel parsed called)) :
    Serves user socks (readMessage r finish env key sel socks) := by
  rcases readMessage_cases r finish env key sel socks with ⟨_,none⟩ | ⟨bytes,buff,_,_,_,out⟩
  · rw [none]
    exact ⟨rfl,rfl⟩
  · rw [out]
    split
    · exact ⟨rfl,rfl⟩
    · split
      · exact serves_from (finishes _ _ rfl) rfl
      · exact ⟨rfl,rfl⟩

theorem writeReply_serves {stay : SocksState} {logged : Env → SocksConnModel → List Effect}
    {finish : SelectorKey → Selector → SocksConnModel → List Effect → Outcome}
    (logs : ∀ sent, (logged env sent).all (Effect.routine user) = true)
    (finishes : ∀ sent called, called.all (Effect.routine user) = true →
      Serves user sent (finish key sel sent called)) :
    Serves user socks (writeReply stay logged finish env key sel socks) := by
  rcases writeReply_cases stay logged finish env key sel socks with none | ⟨count,_,out⟩
  · rw [none]
    exact ⟨rfl,rfl⟩
  · have calm := calm_append (show [Effect.send socks.cliConn.socket (socks.writeBuff.unread.take count)].all
      (Effect.routine user) = true from rfl) (logs {socks with writeBuff:=socks.writeBuff.consume count})
    rw [out]
    split
    · exact ⟨rfl,calm⟩
    · exact serves_from (finishes _ _ calm) rfl

theorem replyTwo_serves (next : SocksState) (reply : List UInt8) (calm : called.all (Effect.routine user) = true) :
    Serves user socks (replyTwo next reply key sel socks called) := by
  obtain ⟨inert,_,effects,_⟩ := @replyTwo_inert key sel socks called next reply
  exact ⟨inert.client,by rw [effects]; exact calm⟩

theorem helloSent_serves (calm : called.all (Effect.routine user) = true) :
    Serves user socks (helloSent key sel socks called) := by
  obtain ⟨inert,effects,_⟩ := @helloSent_inert key sel socks called
  exact ⟨inert.client,by rw [effects]; exact calm⟩

theorem reqSent_serves (calm : called.all (Effect.routine user) = true) :
    Serves user socks (reqSent key sel socks called) := by
  unfold reqSent
  split
  · exact ⟨rfl,calm⟩
  · dsimp only
    split
    · exact ⟨rfl,calm⟩
    · exact ⟨rfl,calm⟩

theorem manageReqError_serves (calm : called.all (Effect.routine user) = true) :
    Serves user socks (manageReqError state sel socks called) :=
  ⟨(manageReqError_inert state).1.client,by rw [manageReqError_effects]; exact calm⟩

theorem initConnection_serves (calm : called.all (Effect.routine user) = true) :
    Serves user socks (initConnection env key sel socks called) := by
  have dials := @initConnection_dials env key sel socks called
  obtain ⟨addr,opened⟩ := dials.opened
  refine ⟨dials.client,?_⟩
  rw [opened]
  refine calm_append calm ?_
  split
  · rfl
  · rfl

theorem setConnection_serves (calm : called.all (Effect.routine user) = true) :
    Serves user socks (setConnection env key sel socks called) := by
  unfold setConnection
  dsimp only
  split
  · exact serves_from (initConnection_serves calm) rfl
  · split
    · exact serves_from (initConnection_serves calm) rfl
    · split
      · split
        · exact manageReqError_serves calm
        · split
          · exact manageReqError_serves calm
          · exact ⟨rfl,calm_append calm rfl⟩
      · exact ⟨rfl,calm⟩

theorem reqFinish_serves (calm : called.all (Effect.routine user) = true) :
    Serves user socks (reqFinish env key sel socks called) := by
  unfold reqFinish
  dsimp only
  split
  · exact setConnection_serves calm
  · split
    · exact manageReqError_serves calm
    · split
      · exact ⟨rfl,calm⟩
      · exact ⟨rfl,calm⟩

theorem reqDns_serves (calm : called.all (Effect.routine user) = true) :
    Serves user socks (reqDns env key sel socks called) := by
  unfold reqDns
  split
  · split
    · exact serves_from (manageReqError_serves (calm_append calm rfl)) rfl
    · exact manageReqError_serves calm
  · exact serves_from (initConnection_serves calm) rfl

theorem cleaned_serves (socks : SocksConnModel) : (cleanResolvedAddr socks).1.cliConn = socks.cliConn ∧
    (cleanResolvedAddr socks).2.all (Effect.routine user) = true := by
  unfold cleanResolvedAddr
  split
  · exact ⟨rfl,rfl⟩
  · exact ⟨rfl,rfl⟩

theorem reqConnect_serves : Serves user socks (reqConnect env key sel socks) := by
  obtain ⟨kept,calm⟩ := @cleaned_serves user socks
  unfold reqConnect
  split
  · split
    · split
      · exact reqDns_serves rfl
      · exact manageReqError_serves rfl
    · dsimp only
      split
      · exact serves_from (manageReqError_serves calm) kept
      · split
        · split
          · split
            · exact ⟨kept,calm⟩
            · exact ⟨kept,calm⟩
          · exact ⟨kept,calm⟩
        · exact ⟨kept,calm⟩
  · exact serves_from (manageReqError_serves calm) kept

theorem copySniff_serves (env : Env) (side : Side) (socks : SocksConnModel) :
    (copySniff env side socks).2.all (Effect.routine env.currUser) = true := by
  unfold copySniff
  split
  · rfl
  · split
    · dsimp only
      split
      · simp [passInformation,Effect.routine]
      · rfl
    · rfl

theorem copyEnded_serves {side : Side} (calm : called.all (Effect.routine user) = true) :
    (copyEnded side sel socks called).effects.all (Effect.routine user) = true := by
  unfold copyEnded
  dsimp only
  split
  · exact calm_append (calm_append calm rfl) rfl
  · exact calm_append calm rfl

theorem copyRead_serves : Serves env.currUser socks (copyRead env key sel socks) := by
  refine ⟨copyRead_keeps.client,?_⟩
  unfold copyRead
  split
  · rfl
  · dsimp only
    split
    · split
      · rfl
      · split
        · exact calm_append rfl (copySniff_serves _ _ _)
        · exact copyEnded_serves rfl
    · rfl

theorem copyWrite_serves : Serves user socks (copyWrite env key sel socks) := by
  refine ⟨copyWrite_keeps.client,?_⟩
  unfold copyWrite
  split
  · rfl
  · dsimp only
    split
    · split
      · rfl
      · rfl
    · split
      · split
        · rfl
        · rfl
      · rfl

theorem serves_attests (serves : Serves user socks out) : Attests user socks out := by
  have calm := List.all_eq_true.mp serves.calls
  have unnamed : out.effects.filterMap Effect.newUser = [] := by
    refine List.filterMap_eq_nil_iff.mpr ?_
    intro effect member
    have routine := calm effect member
    cases effect with
    | setCurrUser username => cases routine
    | _ => rfl
  have unjudged : out.effects.filterMap Effect.login = [] := by
    refine List.filterMap_eq_nil_iff.mpr ?_
    intro effect member
    have routine := calm effect member
    cases effect with
    | verdict username password result => cases routine
    | _ => rfl
  refine ⟨serves.client,?_,unnamed.trans unjudged.symm,?_⟩
  · intro member
    cases calm _ member
  · intro effect member named logged
    refine ⟨?_,unjudged⟩
    have routine := calm effect member
    cases effect with
    | connInformation record =>
        cases logged
        exact of_decide_eq_true routine
    | passInformation record =>
        cases logged
        exact of_decide_eq_true routine
    | _ => cases logged

theorem authFinish_attests (fd : Int) (got : Recv) :
    Attests user socks (authFinish env key sel socks [.recv fd got]) := by
  have inert := (@authFinish_inert env key sel socks [.recv fd got]).1
  have effects : (authFinish env key sel socks [.recv fd got]).effects = _ := (replyTwo_inert _ _).2.2.1
  refine ⟨inert.client,?_,?_,?_⟩
  all_goals
    rw [effects]
    by_cases accepted : processAuthenticationRequest env.users socks.parsers.authParser.username
      socks.parsers.authParser.password = -1
    · simp [List.filterMap_cons,Effect.newUser,Effect.login,Effect.recordUser,accepted]
    · simp [List.filterMap_cons,Effect.newUser,Effect.login,Effect.recordUser,accepted]

theorem authRead_attests : Attests user socks (authRead env key sel socks) := by
  unfold authRead
  rcases readMessage_cases authReader authFinish env key sel socks with ⟨_,none⟩ | ⟨bytes,buff,_,_,_,out⟩
  · rw [none]
    exact serves_attests ⟨rfl,rfl⟩
  · rw [out]
    split
    · exact serves_attests ⟨rfl,rfl⟩
    · split
      · obtain ⟨client,metered,names,records⟩ := @authFinish_attests env key sel
          {socks with
            parsers:=authReader.put socks.parsers (Scan.scan (authReader.advance env.users.requireAuth)
              authReader.halted (authReader.init (authReader.get socks.parsers)) (socks.readBuff.unread ++ bytes)).1
            readBuff:=buff} user socks.cliConn.socket (.data bytes)
        exact ⟨client,metered,names,records⟩
      · exact serves_attests ⟨rfl,rfl⟩

theorem handler_attests {handler : StateHandler} {state : SocksState} (found : stateHandler kind state = some handler) :
    Attests env.currUser socks (handler env key sel socks) := by
  rcases stateHandler_cases found with ⟨_,_,rfl⟩ | ⟨_,_,rfl⟩ | ⟨_,_,rfl⟩ | ⟨_,_,rfl⟩ | ⟨_,_,rfl⟩ | ⟨_,_,rfl⟩ |
    ⟨_,_,rfl⟩ | ⟨_,_,rfl⟩ | ⟨_,⟨_,rfl⟩ | ⟨_,rfl⟩⟩
  · exact serves_attests (readMessage_serves fun _ _ calm => replyTwo_serves _ _ calm)
  · exact serves_attests (writeReply_serves (fun _ => rfl) fun _ _ calm => helloSent_serves calm)
  · exact authRead_attests
  · exact serves_attests (writeReply_serves (fun _ => rfl) fun _ _ calm => ⟨rfl,calm⟩)
  · exact serves_attests (readMessage_serves fun _ _ calm => reqFinish_serves calm)
  · refine serves_attests (writeReply_serves ?_ fun _ _ calm => reqSent_serves calm)
    intro sent
    simp [connInformation,Effect.routine]
  · exact serves_attests (reqDns_serves rfl)
  · exact serves_attests reqConnect_serves
  · exact serves_attests copyRead_serves
  · exact serves_attests copyWrite_serves

theorem served_parts {served : Served} (ran : socksConnEvent kind env key sel socks = some served) :
    ∃ out, Attests env.currUser socks out ∧
      (served.socks = some out.socks ∧ served.effects = out.effects ∨
        served.socks = none ∧ served.effects = out.effects ++ (closeSocksConn out.sel out.socks).2) := by
  obtain ⟨out,handled,rfl⟩ := Option.map_eq_some_iff.mp ran
  obtain ⟨handler,found,rfl⟩ := Option.map_eq_some_iff.mp handled
  have attests := @handler_attests env key sel (handleFirst socks) kind handler _ found
  generalize handler env key sel (handleFirst socks) = result at attests
  obtain ⟨_,effects,_,_,_,_,_,client,_⟩ := jump_parts env result
  refine ⟨jump env result,⟨?_,?_,?_,?_⟩,?_⟩
  · rw [client]
    exact attests.client
  · rw [effects]
    exact attests.metered
  · rw [effects]
    exact attests.names
  · rw [effects]
    exact attests.records
  · unfold checkState
    split
    · exact .inr ⟨rfl,rfl⟩
    · exact .inl ⟨rfl,rfl⟩

end Socks5d
