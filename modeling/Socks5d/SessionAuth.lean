import Socks5d.Session

namespace Socks5d
open Scan

variable {data : Nat} {s next : Session} {socks after : SocksConnModel} {env : Env} {key : SelectorKey}
  {sel : Selector} {fd : Int} {kind : EventKind} {e : SessionEvent} {trace : List Effect}

theorem conn_method (parser : ConnParser) (bytes : List UInt8)
    (start : parser.auth = noMethods ∨ parser.auth = userPass) :
    (scan (connParseByte true) helloReader.halted parser bytes).1.auth = noMethods ∨
    (scan (connParseByte true) helloReader.halted parser bytes).1.auth = userPass := by
  refine @scan_invariant _ _ _ _ (fun parser : ConnParser => parser.auth = noMethods ∨ parser.auth = userPass)
    parser bytes start ?_
  intro before byte auth
  unfold connParseByte
  split
  · split
    · exact auth
    · exact auth
  · split
    · exact auth
    · exact auth
  · have method : (setNewMethod true before byte).auth = noMethods ∨
        (setNewMethod true before byte).auth = userPass := by
      unfold setNewMethod
      split
      · rename_i chosen
        right
        simpa using chosen
      · exact auth
    dsimp only
    split
    · exact method
    · exact method
  · exact auth
  · exact auth

theorem helloRead_next :
    (helloRead env key sel socks).next = .helloRead ∨ (helloRead env key sel socks).next = .error ∨
    ((helloRead env key sel socks).next = .helloWrite ∧
      (env.users.requireAuth = true → (helloRead env key sel socks).socks.parsers.connectParser.auth ≠ noAuth)) := by
  rcases readMessage_cases helloReader helloFinish env key sel socks with ⟨_,none⟩ | ⟨bytes,buff,_,_,_,out⟩
  · rw [helloRead,none]
    exact .inr (.inl rfl)
  · rw [helloRead,out]
    split
    · exact .inr (.inl rfl)
    · split
      · unfold helloFinish
        obtain ⟨_,went | failed,_,parsers⟩ := @replyTwo_inert key sel
          {socks with parsers:=helloReader.put socks.parsers (scan (helloReader.advance env.users.requireAuth)
            helloReader.halted (helloReader.init (helloReader.get socks.parsers))
            (socks.readBuff.unread ++ bytes)).1,readBuff:=buff} [.recv socks.cliConn.socket (.data bytes)]
          .helloWrite [socksVersion,_]
        · refine .inr (.inr ⟨went,?_⟩)
          intro required
          rw [parsers]
          change (scan (connParseByte env.users.requireAuth) _ _ _).1.auth ≠ _
          rw [required]
          rcases conn_method (startConnectionParser socks.parsers.connectParser) (socks.readBuff.unread ++ bytes)
            (.inl rfl) with auth | auth
          · exact fun same => absurd (auth.symm.trans same) (by decide)
          · exact fun same => absurd (auth.symm.trans same) (by decide)
        · exact .inr (.inl failed)
      · exact .inl rfl

theorem helloWrite_next :
    ((helloWrite env key sel socks).next = .helloWrite ∧ (helloWrite env key sel socks).socks.parsers = socks.parsers) ∨
    (helloWrite env key sel socks).next = .authRead ∨
    ((helloWrite env key sel socks).next = .reqRead ∧ socks.parsers.connectParser.auth = noAuth) ∨
    (helloWrite env key sel socks).next = .done ∨ (helloWrite env key sel socks).next = .error := by
  rcases writeReply_cases .helloWrite (fun _ _ => []) helloSent env key sel socks with none | ⟨count,_,out⟩
  · rw [helloWrite,none]
    exact .inr (.inr (.inr (.inr rfl)))
  · rw [helloWrite,out]
    split
    · exact .inl ⟨rfl,rfl⟩
    · obtain ⟨_,_,_,reads | auth | done | error⟩ := @helloSent_inert key sel
        {socks with writeBuff:=socks.writeBuff.consume count}
        ([.send socks.cliConn.socket (socks.writeBuff.unread.take count)] ++ [])
      · exact .inr (.inr (.inl reads))
      · exact .inr (.inl auth.1)
      · exact .inr (.inr (.inr (.inl done)))
      · exact .inr (.inr (.inr (.inr error)))

def SocksConnModel.credentials (socks : SocksConnModel) (env : Env) : AuthParser :=
  (scan authParseByte AuthParser.halted (authParserInit socks.parsers.authParser)
    (socks.readBuff.unread ++ (env.recv.clip socks.readBuff.space).bytes)).1

theorem authRead_next :
    (authRead env key sel socks).next = .authRead ∨ (authRead env key sel socks).next = .error ∨
    ((authRead env key sel socks).next = .authWrite ∧ (socks.credentials env).state = .done ∧
      .verdict (socks.credentials env).username (socks.credentials env).password
        (processAuthenticationRequest env.users (socks.credentials env).username (socks.credentials env).password) ∈
          (authRead env key sel socks).effects) := by
  rcases readMessage_cases authReader authFinish env key sel socks with ⟨_,none⟩ | ⟨bytes,buff,got,_,_,out⟩
  · rw [authRead,none]
    exact .inr (.inl rfl)
  · have parsed : (scan (authReader.advance env.users.requireAuth) authReader.halted
        (authReader.init (authReader.get socks.parsers)) (socks.readBuff.unread ++ bytes)).1 = socks.credentials env := by
      unfold SocksConnModel.credentials
      rw [got]
      rfl
    rw [authRead,out,parsed]
    split
    · exact .inr (.inl rfl)
    · split
      · rename_i finished
        obtain ⟨_,verdict,went | failed⟩ := @authFinish_inert env key sel
          {socks with parsers:=authReader.put socks.parsers (socks.credentials env),readBuff:=buff}
          [.recv socks.cliConn.socket (.data bytes)]
        · exact .inr (.inr ⟨went,by simpa [authReader] using finished,verdict⟩)
        · exact .inr (.inl failed)
      · exact .inl rfl

def SocksState.admitted : SocksState → Bool
  | .reqRead => true
  | .reqWrite => true
  | .reqDns => true
  | .reqConnect => true
  | .copy => true
  | _ => false

def SocksState.closing : SocksState → Bool
  | .error => true
  | .done => true
  | _ => false

theorem authWrite_next :
    (authWrite env key sel socks).next = .authWrite ∨ (authWrite env key sel socks).next = .reqRead ∨
    (authWrite env key sel socks).next = .error := by
  rcases writeReply_cases .authWrite (fun _ _ => []) authSent env key sel socks with none | ⟨count,_,out⟩
  · rw [authWrite,none]
    exact .inr (.inr rfl)
  · rw [authWrite,out]
    split
    · exact .inl rfl
    · exact .inr (@authSent_inert key sel _ _).2

theorem dials_admitted (dials : Dials env socks called family out) :
    out.next.admitted = true ∨ out.next.closing = true := by
  rcases dials.next with next | next | next
  · exact .inl (by rw [next]; rfl)
  · exact .inl (by rw [next]; rfl)
  · exact .inr (by rw [next]; rfl)

theorem reqFinish_next (called : List Effect) :
    (reqFinish env key sel socks called).next.admitted = true ∨
    (reqFinish env key sel socks called).next.closing = true := by
  rcases @reqFinish_cases env key sel socks called with ⟨_,next | next | next | next⟩ | ⟨_,_,dials⟩
  · exact .inl (by rw [next]; rfl)
  · exact .inl (by rw [next]; rfl)
  · exact .inr (by rw [next]; rfl)
  · exact .inr (by rw [next]; rfl)
  · exact dials_admitted dials

theorem reqRead_next :
    (reqRead env key sel socks).next.admitted = true ∨ (reqRead env key sel socks).next.closing = true := by
  rcases readMessage_cases reqReader reqFinish env key sel socks with ⟨_,none⟩ | ⟨bytes,buff,_,_,_,out⟩
  · rw [reqRead,none]
    exact .inr rfl
  · rw [reqRead,out]
    split
    · exact .inr rfl
    · split
      · exact reqFinish_next _
      · exact .inl rfl

theorem reqDns_next (called : List Effect) :
    (reqDns env key sel socks called).next.admitted = true ∨ (reqDns env key sel socks called).next.closing = true := by
  rcases @reqDns_cases env key sel socks called with ⟨_,_,next | next⟩ | ⟨_,_,_,dials⟩
  · exact .inl (by rw [next]; rfl)
  · exact .inr (by rw [next]; rfl)
  · exact dials_admitted dials

theorem reqConnect_next :
    (reqConnect env key sel socks).next.admitted = true ∨ (reqConnect env key sel socks).next.closing = true := by
  rcases @reqConnect_cases env key sel socks with ⟨_,_,_,_,out⟩ | ⟨_,next | next⟩
  · rw [out]
    exact reqDns_next _
  · exact .inl (by rw [next]; rfl)
  · exact .inr (by rw [next]; rfl)

theorem reqWrite_next :
    (reqWrite env key sel socks).next.admitted = true ∨ (reqWrite env key sel socks).next.closing = true := by
  rcases writeReply_cases .reqWrite (fun env socks => [connInformation env socks]) reqSent env key sel socks with
    none | ⟨count,_,out⟩
  · rw [reqWrite,none]
    exact .inr rfl
  · rw [reqWrite,out]
    split
    · exact .inl rfl
    · rcases (@reqSent_inert key sel _ _).2 with next | next | next
      · exact .inl (by rw [next]; rfl)
      · exact .inr (by rw [next]; rfl)
      · exact .inr (by rw [next]; rfl)

theorem copy_admitted {next : SocksState} (stays : next = .copy ∨ next = .done ∨ next = .error) :
    next.admitted = true ∨ next.closing = true := by
  rcases stays with rfl | rfl | rfl
  · exact .inl rfl
  · exact .inr rfl
  · exact .inr rfl

theorem admitted_next {handler : StateHandler} (found : stateHandler kind state = some handler)
    (admitted : state.admitted = true) :
    (handler env key sel socks).next.admitted = true ∨ (handler env key sel socks).next.closing = true := by
  rcases stateHandler_cases found with ⟨rfl,_⟩ | ⟨rfl,_⟩ | ⟨rfl,_⟩ | ⟨rfl,_⟩ | ⟨rfl,_,rfl⟩ | ⟨rfl,_,rfl⟩ |
    ⟨rfl,_,rfl⟩ | ⟨rfl,_,rfl⟩ | ⟨rfl,⟨_,rfl⟩ | ⟨_,rfl⟩⟩
  · cases admitted
  · cases admitted
  · cases admitted
  · cases admitted
  · exact reqRead_next
  · exact reqWrite_next
  · exact reqDns_next []
  · exact reqConnect_next
  · exact copy_admitted copyRead_next
  · exact copy_admitted copyWrite_next

def Accepted (trace : List Effect) : Prop := ∃ username password, .verdict username password 0 ∈ trace

theorem accepted_later (accepted : Accepted trace) (effects : List Effect) : Accepted (trace++effects) := by
  obtain ⟨username,password,member⟩ := accepted
  exact ⟨username,password,List.mem_append_left _ member⟩

def Guard (trace : List Effect) (socks : SocksConnModel) : Prop :=
  (socks.current = .helloWrite → socks.parsers.connectParser.auth ≠ noAuth) ∧
  (socks.current = .authWrite → Accepted trace) ∧
  (socks.current.admitted = true → Accepted trace)

def Session.Guarded (s : Session) : Prop := ∀ socks, s.conn = some socks → Guard s.trace socks

-- Authentication is required at every event from the one that completes the hello on.
def enforced (next : Session) : SessionEvent → Bool
  | .event _ _ env => !(next.conn.any fun socks => decide (socks.current ≠ .helloRead)) || env.users.requireAuth
  | _ => true

def Session.rejects (s : Session) : SessionEvent → Bool
  | .event .read _ env => s.conn.any fun socks => decide (socks.current = .authRead) &&
      decide ((socks.credentials env).state = .done) &&
      decide (processAuthenticationRequest env.users (socks.credentials env).username
        (socks.credentials env).password ≠ 0)
  | _ => false

theorem guard_early (early : socks.current = .helloRead ∨ socks.current = .authRead) : Guard trace socks := by
  rcases early with current | current
  · refine ⟨?_,?_,?_⟩
    · intro at_; rw [current] at at_; cases at_
    · intro at_; rw [current] at at_; cases at_
    · intro at_; rw [current] at at_; cases at_
  · refine ⟨?_,?_,?_⟩
    · intro at_; rw [current] at at_; cases at_
    · intro at_; rw [current] at at_; cases at_
    · intro at_; rw [current] at at_; cases at_

theorem guard_late (accepted : Accepted trace) (past : socks.current ≠ .helloWrite) : Guard trace socks :=
  ⟨fun at_ => absurd at_ past,fun _ => accepted,fun _ => accepted⟩

theorem verdict_zero {users : UserTable} {username password : List UInt8}
    (accepted : processAuthenticationRequest users username password = 0)
    (judged : .verdict username password (processAuthenticationRequest users username password) ∈ effects) :
    Accepted (trace ++ effects) := by
  rw [accepted] at judged
  exact ⟨username,password,List.mem_append_right _ judged⟩

theorem guard_event (guard : Guard s.trace socks) (ran : sessionStep data s (.event kind fd env) = some next)
    (live : s.conn = some socks) (going : next.conn = some after)
    (enforces : enforced next (.event kind fd env) = true) (accepts : s.rejects (.event kind fd env) = false) :
    Guard next.trace after := by
  obtain ⟨handler,found,same,stm,grown,_,open_,finished⟩ := event_parts ran live going
  have current : after.current = (handler env ⟨fd,data⟩ s.sel (handleFirst socks)).next := by
    rw [SocksConnModel.current,stm]
    rfl
  have parsers : after.parsers = (handler env ⟨fd,data⟩ s.sel (handleFirst socks)).socks.parsers := by
    rw [same]
    exact (jump_parts env _).2.2.2.2.1
  obtain ⟨method,verdict,admitted⟩ := guard
  rw [grown]
  rcases stateHandler_cases found with ⟨_,_,rfl⟩ | ⟨was,_,rfl⟩ | ⟨was,rfl,rfl⟩ | ⟨was,_,rfl⟩ | late
  · rcases @helloRead_next (handleFirst socks) env ⟨fd,data⟩ s.sel with stays | error | ⟨writes,chosen⟩
    · exact guard_early (.inl (current.trans stays))
    · exact absurd error open_
    · have required : env.users.requireAuth = true := by
        simpa [enforced,going,current,writes] using enforces
      refine ⟨fun _ => by rw [parsers]; exact chosen required,?_,?_⟩
      · intro at_; rw [current,writes] at at_; cases at_
      · intro at_; rw [current,writes] at at_; cases at_
  · rcases @helloWrite_next (handleFirst socks) env ⟨fd,data⟩ s.sel with
      ⟨stays,kept⟩ | reads | ⟨_,none⟩ | done | error
    · refine ⟨fun _ => by rw [parsers,kept]; exact method was,?_,?_⟩
      · intro at_; rw [current,stays] at at_; cases at_
      · intro at_; rw [current,stays] at at_; cases at_
    · exact guard_early (.inr (current.trans reads))
    · exact absurd none (method was)
    · exact absurd done finished
    · exact absurd error open_
  · rcases @authRead_next (handleFirst socks) env ⟨fd,data⟩ s.sel with stays | error | ⟨writes,decided,judged⟩
    · exact guard_early (.inr (current.trans stays))
    · exact absurd error open_
    · have zero : processAuthenticationRequest env.users (socks.credentials env).username
          (socks.credentials env).password = 0 := by
        by_contra rejected
        simp [Session.rejects,live,was,rejected] at accepts
        exact accepts decided
      exact guard_late (verdict_zero zero judged) (by rw [current,writes]; decide)
  · have accepted := accepted_later (verdict was)
      (authWrite env ⟨fd,data⟩ s.sel (handleFirst socks)).effects
    refine guard_late accepted ?_
    rcases @authWrite_next (handleFirst socks) env ⟨fd,data⟩ s.sel with next | next | next
    · rw [current,next]; decide
    · rw [current,next]; decide
    · rw [current,next]; decide
  · have inside : socks.current.admitted = true := by
      rcases late with ⟨was,_⟩ | ⟨was,_⟩ | ⟨was,_⟩ | ⟨was,_⟩ | ⟨was,_⟩
      all_goals rw [was]; rfl
    refine guard_late (accepted_later (admitted inside) _) ?_
    rw [current]
    intro writes
    rcases @admitted_next (handleFirst socks) env ⟨fd,data⟩ s.sel _ _ _ found inside with next | next
    · rw [writes] at next; cases next
    · rw [writes] at next; cases next

theorem step_live (ran : sessionStep data s (.event kind fd env) = some next) :
    ∃ socks, s.conn = some socks := by
  cases live : s.conn with
  | none => rw [sessionStep,live] at ran; cases ran
  | some socks => exact ⟨socks,rfl⟩

theorem preserves_guard (guarded : s.Guarded) (ran : sessionStep data s e = some next)
    (enforces : enforced next e = true) (accepts : s.rejects e = false) : next.Guarded := by
  intro after going
  cases e with
  | event kind fd env =>
      obtain ⟨socks,live⟩ := step_live ran
      exact guard_event (guarded socks live) ran live going enforces accepts
  | resolved addrs =>
      obtain ⟨socks,live,stored⟩ := Option.bind_eq_some_iff.mp ran
      split at stored
      · cases stored
        cases going
        exact guarded socks live
      · cases stored
  | elsewhere sel =>
      cases ran
      exact guarded after going

def honestStep (data : Nat) (s : Session) (e : SessionEvent) : Option Session :=
  (sessionStep data s e).filter fun next => enforced next e && !s.rejects e

abbrev HonestRuns (data : Nat) := Transitions.Runs fun s e next => honestStep data s e = some next

theorem runs_guard (path : HonestRuns data (newSession sel fd) events last) : last.Guarded := by
  refine path.invariant ?_ ?_
  · intro socks live
    cases live
    exact guard_early (.inl rfl)
  · intro before label next guarded honest
    obtain ⟨ran,holds⟩ := Option.filter_eq_some_iff.mp honest
    obtain ⟨enforces,accepts⟩ := Bool.and_eq_true_iff.mp holds
    exact preserves_guard guarded ran enforces (by simpa using accepts)

-- auth_write goes on to the request whatever the verdict was, so what keeps a client
-- out is only that its credentials were never turned down.
theorem request_after_accepted (path : HonestRuns data (newSession sel fd) events last)
    (live : last.conn = some socks) (request : socks.current.admitted = true) : Accepted last.trace :=
  (runs_guard path socks live).2.2 request

def login (password : List UInt8) : List SessionEvent :=
  [clientSends oneUser [0x05,0x01,0x02],clientTakes oneUser 2,
    clientSends oneUser ([0x01,0x02,0x61,0x6c,UInt8.ofNat password.length] ++ password),clientTakes oneUser 2]

theorem login_accepted :
    ∃ last, Transitions.exec (honestStep 1) (newSession acceptedSelector 5) (login [0x73,0x65]) = some last ∧
      Accepted last.trace := by
  have facts : (Transitions.exec (honestStep 1) (newSession acceptedSelector 5) (login [0x73,0x65])).map
      (fun last => last.conn.map SocksConnModel.current) = some (some .reqRead) := by decide +kernel
  obtain ⟨last,ran,found⟩ := Option.map_eq_some_iff.mp facts
  obtain ⟨socks,live,request⟩ := Option.map_eq_some_iff.mp found
  exact ⟨last,ran,request_after_accepted (Transitions.exec_runs ran) live (by rw [request]; rfl)⟩

-- With the wrong password the table says -1, and the request is read all the same.
theorem wrong_password_admitted :
    ∃ last socks, Transitions.exec (servedStep 1) (newSession acceptedSelector 5) (login [0x78]) = some last ∧
      last.conn = some socks ∧ socks.current = .reqRead ∧ oneUser.requireAuth = true ∧
      .verdict [0x61,0x6c] [0x78] (-1) ∈ last.trace ∧ ¬ Accepted last.trace := by
  have facts : (Transitions.exec (servedStep 1) (newSession acceptedSelector 5) (login [0x78])).map
      (fun last => (last.conn.map SocksConnModel.current,last.trace)) = some (some .reqRead,
        [.recv 5 (.data [0x05,0x01,0x02]),.send 5 [0x05,0x02],.recv 5 (.data [0x01,0x02,0x61,0x6c,0x01,0x78]),
          .verdict [0x61,0x6c] [0x78] (-1),.send 5 [0x01,0xff]]) := by decide +kernel
  obtain ⟨last,ran,found⟩ := Option.map_eq_some_iff.mp facts
  obtain ⟨current,trace⟩ := Prod.mk.inj found
  obtain ⟨socks,live,request⟩ := Option.map_eq_some_iff.mp current
  refine ⟨last,socks,ran,live,request,rfl,by rw [trace]; decide,?_⟩
  rintro ⟨username,password,accepted⟩
  rw [trace] at accepted
  simp at accepted

end Socks5d
