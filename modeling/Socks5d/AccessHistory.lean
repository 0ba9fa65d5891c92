import Socks5d.CallForms
import Socks5d.CommandDecoding
import Socks5d.Isolation

namespace Socks5d.ControlProtocol

structure AccessControl where
  users : UserMap
  dissecting : Bool

end Socks5d.ControlProtocol

namespace Socks5d
open ControlProtocol

def TableOp.refusal (m : UserMap) : TableOp → Option ControlProtErrorCode
  | .addUser name _ => if m.keys.card = maxUsers then some .userLimit else if name ∈ m then some .alreadyExists else none
  | .removeUser username => if username ∈ m then none else some .inexistingUser
  | .changePassword username _ _ => if username ∈ m then none else some .inexistingUser

end Socks5d

namespace Socks5d.ControlProtocol

def CpCommandParser.refusal (parser : CpCommandParser) (m : UserMap) : Option ControlProtErrorCode :=
  match parser.code with
  | .listUsers => none
  | .getMetrics | .dissectorOn | .dissectorOff => if parser.hasData = 1 then some .noDataCommand else none
  | _ => if parser.hasData = 0 then some .commandNeedsData
    else parser.tableCall.elim (some .invalidFormat) fun op => op.refusal m

def CpCommandParser.effectOn (parser : CpCommandParser) (a : AccessControl) : AccessControl :=
  match parser.code with
  | .dissectorOn => if parser.hasData = 1 then a else {a with dissecting:=true}
  | .dissectorOff => if parser.hasData = 1 then a else {a with dissecting:=false}
  | _ => {a with users:=parser.tableCall.elim a.users fun op => (op.applyMap a.users).2}

def Lists (m : UserMap) (text : List UInt8) : Prop :=
  ∃ names : List (List UInt8), names.Nodup ∧ (∀ name, name ∈ names ↔ name ∈ m) ∧
    text = [statusSuccess,UInt8.ofNat (names.length+1)] ++ socksUHeader ++
      names.flatMap fun name => cString name ++ [newline]

def Acknowledged (refusal : Option ControlProtErrorCode) (text : List UInt8) : Prop :=
  (∀ code, refusal = some code → text.take 4 = [statusError,1,code.byte,newline]) ∧
  (refusal = none → text.head? = some statusSuccess)

def CpCommandParser.Tells (parser : CpCommandParser) (m : UserMap) (text : List UInt8) : Prop :=
  Acknowledged (parser.refusal m) text ∧ (parser.code = .listUsers → Lists m text)

variable {parser : CpCommandParser} {command : Command} {g : Globals} {a : AccessControl} {m : UserMap} {malloc : Bool}
  {answer behind : List UInt8} {code : ControlProtErrorCode} {data : Nat} {s next : ControlSession}
  {cpc : ControlProtConn} {env : CpEnv} {key : SelectorKey} {sel : Selector} {after : Globals} {kind : EventKind}
  {effects earlier later : List CpEffect} {state : ControlProtStmState}

structure Globals.Refines (g : Globals) (a : AccessControl) : Prop where
  users : g.users.Refines a.users
  dissecting : g.sniffer = a.dissecting

theorem failed_text (gave : statusFailedAnswer malloc code = some answer) :
    (cString (answer ++ behind)).take 4 = [statusError,1,code.byte,newline] := by
  unfold statusFailedAnswer at gave
  split at gave
  · cases gave
    cases code <;> rfl
  · cases gave

theorem success_text (gave : noDataStatusSuccessAnswer malloc = some answer) :
    (cString (answer ++ behind)).head? = some statusSuccess := by
  unfold noDataStatusSuccessAnswer at gave
  split at gave
  · cases gave
    rfl
  · cases gave

theorem reports_failed (gave : statusFailedAnswer malloc code = some answer) :
    Acknowledged (some code) (cString (answer ++ behind)) := by
  refine ⟨?_,fun none_ => by cases none_⟩
  intro other same
  cases same
  exact failed_text gave

theorem reports_success (gave : noDataStatusSuccessAnswer malloc = some answer) :
    Acknowledged none (cString (answer ++ behind)) := ⟨fun _ some_ => (by cases some_),fun _ => success_text gave⟩

theorem addUser_refusal {t : UserTable} {name pass : List UInt8} (refines : t.Refines m) :
    ((TableOp.addUser name pass).refusal m = some .userLimit ∧ (addUser t name pass).1 = .addMaxUsers) ∨
    ((TableOp.addUser name pass).refusal m = some .alreadyExists ∧ (addUser t name pass).1 = .addUserExists) ∨
    ((TableOp.addUser name pass).refusal m = none ∧ (addUser t name pass).1 = .addOk) := by
  unfold TableOp.refusal addUser
  dsimp only
  by_cases full : t.users.length = maxUsers
  · rw [if_pos (refines.card.trans full),if_pos full]
    exact .inl ⟨rfl,rfl⟩
  · rw [if_neg (fun many => full (refines.card.symm.trans many)),if_neg full]
    by_cases taken : name ∈ m
    · rw [if_pos taken,if_pos (exists_exact.mpr (refines.member.mp taken))]
      exact .inr (.inl ⟨rfl,rfl⟩)
    · rw [if_neg taken,if_neg (fun found => taken (refines.member.mpr (exists_exact.mp found)))]
      exact .inr (.inr ⟨rfl,rfl⟩)

theorem addProxyUser_reports (refines : g.users.Refines m) (add : parser.code = .addUser)
    (gave : (addProxyUser malloc g parser).1 = some answer) : Acknowledged (parser.refusal m) (cString (answer ++ behind)) := by
  unfold addProxyUser at gave
  unfold CpCommandParser.refusal CpCommandParser.tableCall
  rw [add]
  dsimp only at gave ⊢
  split at gave
  · rename_i empty
    rw [if_pos empty]
    exact reports_failed gave
  · rename_i some_
    rw [if_neg some_,if_neg some_]
    cases first : (strtok tokenDelimiter (cString parser.data)).1 with
    | none =>
        rw [first] at gave
        exact reports_failed gave
    | some user =>
        rw [first] at gave
        cases second : (strtok lineDelimiter (strtok tokenDelimiter (cString parser.data)).2).1 with
        | none =>
            rw [second] at gave
            exact reports_failed gave
        | some password =>
            rw [second] at gave
            dsimp only [Option.bind_some,Option.map_some,Option.elim_some] at gave ⊢
            rcases @addUser_refusal m g.users user password refines with ⟨refused,made⟩ | ⟨refused,made⟩ | ⟨accepted,made⟩
            · rw [made] at gave
              rw [refused]
              exact reports_failed gave
            · rw [made] at gave
              rw [refused]
              exact reports_failed gave
            · rw [made] at gave
              rw [accepted]
              exact reports_success gave

theorem absent_refusal {t : UserTable} {username : List UInt8} (refines : t.Refines m) {result : Int × UserTable}
    (outcome : username ∉ t.users.map User.name ∧ result = (-1,t) ∨
      username ∈ t.users.map User.name ∧ result.1 = 0) :
    ((if username ∈ m then none else some ControlProtErrorCode.inexistingUser) = some .inexistingUser ∧ result.1 < 0) ∨
    ((if username ∈ m then none else some ControlProtErrorCode.inexistingUser) = none ∧ ¬ result.1 < 0) := by
  rcases outcome with ⟨absent,made⟩ | ⟨present,made⟩
  · rw [if_neg (fun member => absent (refines.member.mp member)),made]
    exact .inl ⟨rfl,by change (-1 : Int) < 0; decide⟩
  · rw [if_pos (refines.member.mpr present),made]
    exact .inr ⟨rfl,by decide⟩

theorem removeProxyUser_reports (refines : g.users.Refines m) (remove : parser.code = .remUser)
    (gave : (removeProxyUser malloc g parser).1 = some answer) :
    Acknowledged (parser.refusal m) (cString (answer ++ behind)) := by
  unfold removeProxyUser at gave
  unfold CpCommandParser.refusal CpCommandParser.tableCall
  rw [remove]
  dsimp only at gave ⊢
  split at gave
  · rename_i empty
    rw [if_pos empty]
    exact reports_failed gave
  · rename_i some_
    rw [if_neg some_,if_neg some_,Option.elim_some]
    generalize name : cString (parser.data.set (parser.dataSize - 1) 0) = username at gave
    have outcome : username ∉ g.users.users.map User.name ∧ removeUser g.users username = (-1,g.users) ∨
        username ∈ g.users.users.map User.name ∧ (removeUser g.users username).1 = 0 := by
      rcases @removeUser_cases g.users username with ⟨absent,made⟩ | ⟨front,u,rest,split,rfl,made⟩
      · exact .inl ⟨absent,made⟩
      · exact .inr ⟨listed split,by rw [made]⟩
    unfold TableOp.refusal
    dsimp only
    rcases absent_refusal refines outcome with ⟨refused,made⟩ | ⟨accepted,made⟩
    · rw [if_pos made] at gave
      rw [refused]
      exact reports_failed gave
    · rw [if_neg made] at gave
      rw [accepted]
      exact reports_success gave

theorem changePassword_reports (refines : g.users.Refines m) (change : parser.code = .changePass)
    (gave : (changePassword malloc g parser).1 = some answer) :
    Acknowledged (parser.refusal m) (cString (answer ++ behind)) := by
  unfold changePassword at gave
  unfold CpCommandParser.refusal CpCommandParser.tableCall
  rw [change]
  dsimp only at gave ⊢
  split at gave
  · rename_i empty
    rw [if_pos empty]
    exact reports_failed gave
  · rename_i some_
    rw [if_neg some_,if_neg some_]
    cases first : (strtok tokenDelimiter (cString parser.data)).1 with
    | none =>
        rw [first] at gave
        exact reports_failed gave
    | some user =>
        rw [first] at gave
        cases second : (strtok lineDelimiter (strtok tokenDelimiter (cString parser.data)).2).1 with
        | none =>
            rw [second] at gave
            exact reports_failed gave
        | some word =>
            rw [second] at gave
            generalize (strtok lineDelimiter (strtok tokenDelimiter (cString parser.data)).2).2 = rest at gave ⊢
            have outcome : user ∉ g.users.users.map User.name ∧
                Socks5d.changePassword g.users user word rest = (-1,g.users) ∨
                user ∈ g.users.users.map User.name ∧ (Socks5d.changePassword g.users user word rest).1 = 0 := by
              rcases @changePassword_cases g.users user word rest with ⟨absent,made⟩ | ⟨front,u,later,split,rfl,made⟩
              · exact .inl ⟨absent,made⟩
              · exact .inr ⟨listed split,by rw [made]⟩
            dsimp only [Option.bind_some,Option.map_some,Option.elim_some] at gave ⊢
            unfold TableOp.refusal
            dsimp only
            rcases absent_refusal refines outcome with ⟨refused,made⟩ | ⟨accepted,made⟩
            · rw [if_pos made] at gave
              rw [refused]
              exact reports_failed gave
            · rw [if_neg made] at gave
              rw [accepted]
              exact reports_success gave

theorem switch_reports {value : Bool} (gave : (switchPassDissectors value malloc g parser).1 = some answer) :
    Acknowledged (if parser.hasData = 1 then some .noDataCommand else none) (cString (answer ++ behind)) := by
  unfold switchPassDissectors at gave
  split at gave
  · rename_i data
    rw [if_pos data]
    exact reports_failed gave
  · rename_i plain
    rw [if_neg plain]
    exact reports_success gave

theorem getMetrics_reports (gave : (getMetrics malloc g parser).1 = some answer) :
    Acknowledged (if parser.hasData = 1 then some .noDataCommand else none) (cString (answer ++ behind)) := by
  unfold getMetrics at gave
  split at gave
  · rename_i data
    rw [if_pos data]
    exact reports_failed gave
  · rename_i plain
    rw [if_neg plain]
    dsimp only at gave
    split at gave
    · cases gave
      exact ⟨fun _ some_ => (by cases some_),fun _ => rfl⟩
    · cases gave

theorem getSocksUsers_lists (refines : g.users.Refines m) (gave : (getSocksUsers malloc g parser).1 = some answer) :
    Lists m (cString (answer ++ behind)) := by
  cases gave
  refine ⟨g.users.users.map User.name,refines.distinct,fun name => refines.member.symm,?_⟩
  have bounded := refines.bounded
  rw [List.length_map,List.flatMap_map,List.append_assoc _ [0] behind]
  refine cString_whole ?_ behind
  have title : ∀ byte ∈ socksUHeader, byte ≠ 0 := by decide +kernel
  simp only [List.mem_append,List.mem_cons,List.not_mem_nil,or_false,List.mem_flatMap]
  rintro byte (((rfl | rfl) | header) | ⟨user,_,inside | rfl⟩)
  · decide
  · intro zero
    have value := congrArg UInt8.toNat zero
    rw [UInt8.toNat_ofNat'] at value
    simp only [maxUsers] at bounded
    change _ = 0 at value
    omega
  · exact title byte header
  · exact string_nonzero _ byte inside
  · decide

theorem command_tells (found : commandOf parser.code = some command) (refines : g.users.Refines m)
    (gave : (command malloc g parser).1 = some answer) : parser.Tells m (cString (answer ++ behind)) := by
  cases code : parser.code with
  | noCommand => rw [code] at found; cases found
  | authentication => rw [code] at found; cases found
  | addUser =>
      rw [code] at found
      cases found
      exact ⟨addProxyUser_reports refines code gave,fun list => by rw [code] at list; cases list⟩
  | remUser =>
      rw [code] at found
      cases found
      exact ⟨removeProxyUser_reports refines code gave,fun list => by rw [code] at list; cases list⟩
  | changePass =>
      rw [code] at found
      cases found
      exact ⟨changePassword_reports refines code gave,fun list => by rw [code] at list; cases list⟩
  | listUsers =>
      rw [code] at found
      cases found
      have lists := @getSocksUsers_lists parser g m malloc answer behind refines gave
      refine ⟨⟨?_,?_⟩,fun _ => lists⟩
      · unfold CpCommandParser.refusal
        rw [code]
        intro _ some_
        cases some_
      · obtain ⟨names,_,_,same⟩ := lists
        rw [same]
        exact fun _ => rfl
  | getMetrics =>
      rw [code] at found
      cases found
      unfold CpCommandParser.Tells CpCommandParser.refusal
      rw [code]
      exact ⟨getMetrics_reports gave,fun list => by cases list⟩
  | dissectorOn =>
      rw [code] at found
      cases found
      unfold CpCommandParser.Tells CpCommandParser.refusal
      rw [code]
      exact ⟨switch_reports gave,fun list => by cases list⟩
  | dissectorOff =>
      rw [code] at found
      cases found
      unfold CpCommandParser.Tells CpCommandParser.refusal
      rw [code]
      exact ⟨switch_reports gave,fun list => by cases list⟩

theorem command_switch (found : commandOf parser.code = some command) (on : parser.code ≠ .dissectorOn)
    (off : parser.code ≠ .dissectorOff) (malloc : Bool) : (command malloc g parser).2.sniffer = g.sniffer := by
  cases code : parser.code with
  | noCommand => rw [code] at found; cases found
  | authentication => rw [code] at found; cases found
  | dissectorOn => exact absurd code on
  | dissectorOff => exact absurd code off
  | listUsers => rw [code] at found; cases found; rfl
  | addUser =>
      rw [code] at found
      cases found
      unfold addProxyUser
      split
      · rfl
      · dsimp only
        split
        · rfl
        · rfl
  | remUser =>
      rw [code] at found
      cases found
      unfold removeProxyUser
      split
      · rfl
      · dsimp only
        split
        · rfl
        · rfl
  | changePass =>
      rw [code] at found
      cases found
      unfold changePassword
      split
      · rfl
      · dsimp only
        split
        · split
          · rfl
          · rfl
        · rfl
  | getMetrics =>
      rw [code] at found
      cases found
      unfold getMetrics
      split
      · rfl
      · rfl

theorem command_effect (found : commandOf parser.code = some command) (refines : g.Refines a) (malloc : Bool) :
    (command malloc g parser).2.Refines (parser.effectOn a) := by
  have users := command_calls found malloc g
  have table : (command malloc g parser).2.users.Refines
      (parser.tableCall.elim a.users fun op => (op.applyMap a.users).2) := by
    rw [users]
    cases parser.tableCall with
    | none => exact refines.users
    | some op => exact (apply_refines refines.users op).2
  by_cases on : parser.code = .dissectorOn
  · unfold CpCommandParser.effectOn
    rw [on] at found ⊢
    cases found
    unfold turnOnPassDissectors switchPassDissectors
    dsimp only
    split
    · exact refines
    · exact ⟨refines.users,rfl⟩
  · by_cases off : parser.code = .dissectorOff
    · unfold CpCommandParser.effectOn
      rw [off] at found ⊢
      cases found
      unfold turnOffPassDissectors switchPassDissectors
      dsimp only
      split
      · exact refines
      · exact ⟨refines.users,rfl⟩
    · have switch := @command_switch parser command g found on off malloc
      have same : parser.effectOn a =
          {a with users:=parser.tableCall.elim a.users fun op => (op.applyMap a.users).2} := by
        unfold CpCommandParser.effectOn
        split
        · rename_i code
          exact absurd code on
        · rename_i code
          exact absurd code off
        · rfl
      rw [same]
      exact ⟨table,switch.trans refines.dissecting⟩

end Socks5d.ControlProtocol

namespace Socks5d
open Transitions ControlProtocol

-- What the connections of both kinds ask, and what comes back: the result of a login, a
-- password record, and of a command the messages that its event queued, with what malloc
-- said in it and the room that write_buff had.
inductive Access where
  | login (id : Nat) (username password : List UInt8) (result : Int)
  | dissected (id : Nat) (record : PassRecord)
  | command (id : Nat) (parser : CpCommandParser) (malloc : Bool) (room : Nat) (told : List (List UInt8))

def Daemon.orders (d : Daemon) : DaemonEvent → List Access
  | .mgmtEvent kind id env => ((controlStep id (d.mgmt.session id) (.event kind env)).map fun after =>
      (commandRuns after.trace).map fun parser => .command id parser env.malloc
        ((d.mgmt.session id).cpc.elim 0 fun cpc => cpc.writeBuffer.space) (queuedMessages after.trace)).getD []
  | _ => []

variable {d next : Daemon} {e : DaemonEvent} {a : AccessControl} {env : Env} {effects : List Effect} {id : Nat}
  {events : List DaemonEvent} {m : UserMap}

def Access.outcome : Access → Option (List UInt8) × Option Int
  | .login _ _ password result => (some password,some result)
  | .command _ _ _ _ told => (told.head?,none)
  | .dissected _ _ => (none,none)

end Socks5d
