import Socks5d.CommandTurns

namespace Socks5d.ControlProtocol
open Scan

variable {data : Nat} {s next : ControlSession} {cpc after : ControlProtConn} {env : CpEnv} {sel : Selector} {g : Globals}
  {e : ControlEvent} {own : Option Item} {buff : CertifiedBuffer}

def ControlSession.Idle (data : Nat) (s : ControlSession) : Prop :=
  ∀ cpc, s.cpc = some cpc → cpc.current ≠ .error → ∀ item, ownEntry data cpc s.sel = some item →
    item.interest.write = false → cpc.writeBuffer.unread = [] ∧ cpc.readBuffer.unread = []

def ControlProtConn.endsWith (cpc : ControlProtConn) (bytes : List UInt8) : Bool :=
  match cpc.current with
  | .auth =>
    let last := scan cpapParseByte (fun parser => parser.failed || parser.finished) cpc.authParser bytes
    last.1.failed || last.2.isEmpty
  | .execute =>
    let last := scan cpcpParseByte (fun parser => parser.failed || parser.finished) cpc.commandParser bytes
    last.1.failed || last.2.isEmpty
  | _ => true

-- The events that leave no work behind: no segment goes on past the end of a password
-- line or of a command, and the answer to a wrong password is taken whole.
def ControlSession.calm (s : ControlSession) : ControlEvent → Bool
  | .event .read env => s.cpc.all fun cpc => match env.recv.clip cpc.readBuffer.space with
    | .data bytes => cpc.endsWith bytes
    | _ => true
  | .event .write env => s.cpc.all fun cpc =>
    if cpc.current = .auth ∧ cpc.authAnsWritten = false ∧ cpc.validPassword = false then
      match env.send with
      | .sent count => decide (count = 0) || decide ((authResult false).length ≤ count)
      | .failed _ => true
    else true
  | _ => true

def calmStep (data : Nat) (s : ControlSession) (e : ControlEvent) (next : ControlSession) : Prop :=
  s.calm e = true ∧ controlStep data s e = some next

structure Calm (state : ControlProtStmState) (own : Option Item) (cpc : ControlProtConn) : Prop where
  read : cpc.readBuffer.unread = []
  parser : state = .hello ∨ state = .auth → (cpc.authParser.failed || cpc.authParser.finished) = false
  answer : state = .auth → cpc.authAnsWritten = false → cpc.writeBuffer.unread = []
  sent : ∀ item, own = some item → item.interest.write = false → cpc.writeBuffer.unread = []

def ControlSession.Calmed (data : Nat) (s : ControlSession) : Prop :=
  ∀ cpc, s.cpc = some cpc → cpc.current ≠ .error → Calm cpc.current (ownEntry data cpc s.sel) cpc

theorem own_interest {i : FdInterest} {item : Item}
    (found : ownEntry data cpc (selectorSetInterest sel cpc.fd i).2 = some item) : item.interest = i := by
  rw [own_setInterest] at found
  obtain ⟨_,_,same⟩ := Option.map_eq_some_iff.mp found
  rw [← same]

theorem asking_writes {item : Item} (wanted : asks own .write = true) (found : own = some item) :
    item.interest.write = true := by
  rw [found] at wanted
  exact wanted

def CalmOut (data : Nat) (fd : Int) (out : CpOutcome) : Prop :=
  out.next ≠ .error → ∀ after, out.cpc = some after → after.fd = fd ∧ Calm out.next (ownEntry data after out.sel) after

theorem authRead_calm (calm : Calm .auth own cpc) (same : own = ownEntry data cpc sel) (more : buff.unread ≠ [])
    (current : cpc.current = .auth) (ends : cpc.endsWith buff.unread = true) :
    CalmOut data cpc.fd (authRead env ⟨cpc.fd,data⟩ sel g (cpc.handed buff)) := by
  obtain ⟨parser,rest,taken,_,_,scanned,outcome⟩ :=
    @authRead_cases (cpc.handed buff) env ⟨cpc.fd,data⟩ sel g more (calm.parser (.inr rfl))
  have scanned : scan cpapParseByte (fun parser => parser.failed || parser.finished) cpc.authParser buff.unread =
      (parser,rest.unread) := scanned
  have stops : parser.failed = true ∨ rest.unread = [] := by
    rw [ControlProtConn.endsWith,current] at ends
    simpa [scanned,List.isEmpty_iff] using ends
  rcases outcome with ⟨_,ran⟩ | ⟨sound,_,ran⟩ | ⟨sound,unfinished,none_,ran⟩
  · rw [ran]
    intro going
    exact absurd rfl going
  · rw [ran]
    intro _ after left
    cases left
    have none_ : rest.unread = [] := by
      rcases stops with failed | none_
      · rw [sound] at failed; cases failed
      · exact none_
    refine ⟨rfl,none_,fun _ => rfl,fun _ => calm.answer rfl,?_⟩
    intro item found quiet
    have interest := @own_interest data cpc sel opWrite item found
    rw [interest] at quiet
    cases quiet
  · rw [ran]
    intro _ after left
    cases left
    refine ⟨rfl,none_,fun _ => by rw [sound,unfinished]; rfl,fun _ => calm.answer rfl,?_⟩
    intro item found
    exact calm.sent item (same.trans found)

theorem executeRead_calm (calm : Calm .execute own cpc) (same : own = ownEntry data cpc sel) (more : buff.unread ≠ [])
    (running : (cpc.commandParser.failed || cpc.commandParser.finished) = false)
    (current : cpc.current = .execute) (ends : cpc.endsWith buff.unread = true) :
    CalmOut data cpc.fd (executeRead env ⟨cpc.fd,data⟩ sel g (cpc.handed buff)) := by
  obtain ⟨parser,rest,taken,_,_,scanned,outcome⟩ :=
    @executeRead_cases (cpc.handed buff) env ⟨cpc.fd,data⟩ sel g more running
  have scanned : scan cpcpParseByte (fun parser => parser.failed || parser.finished) cpc.commandParser buff.unread =
      (parser,rest.unread) := scanned
  have stops : parser.failed = true ∨ rest.unread = [] := by
    rw [ControlProtConn.endsWith,current] at ends
    simpa [scanned,List.isEmpty_iff] using ends
  rcases outcome with ⟨_,ran⟩ | ⟨sound,_,ran⟩ | ⟨_,_,none_,ran⟩
  · rw [ran]
    intro going
    exact absurd rfl going
  · rw [ran]
    intro _ after left
    cases left
    have none_ : rest.unread = [] := by
      rcases stops with failed | none_
      · rw [sound] at failed; cases failed
      · exact none_
    refine ⟨rfl,none_,by simp,by simp,?_⟩
    intro item found quiet
    have interest := @own_interest data cpc sel opWrite item found
    rw [interest] at quiet
    cases quiet
  · rw [ran]
    intro _ after left
    cases left
    refine ⟨rfl,none_,by simp,by simp,?_⟩
    intro item found
    exact calm.sent item (same.trans found)

theorem helloWrite_calm (calm : Calm .hello own cpc) (same : own = ownEntry data cpc sel)
    (wanted : asks own .write = true) :
    CalmOut data cpc.fd (helloWrite env ⟨cpc.fd,data⟩ sel g (cpc.handed cpc.readBuffer)) := by
  have asking : ∀ item, ownEntry data cpc sel = some item → item.interest.write = false → False := by
    intro item found quiet
    rw [asking_writes wanted (same.trans found)] at quiet
    cases quiet
  rcases helloWrite_cases env ⟨cpc.fd,data⟩ sel g (cpc.handed cpc.readBuffer) with
    ⟨_,empty,ran⟩ | ⟨_,ran⟩ | ⟨_,_,ran⟩ | ⟨_,ran⟩
  · rw [ran]
    intro _ after left
    cases left
    exact ⟨rfl,calm.read,fun _ => calm.parser (.inl rfl),fun _ _ => empty,fun _ _ _ => empty⟩
  · rw [ran]
    intro _ after left
    cases left
    exact ⟨rfl,calm.read,fun _ => calm.parser (.inl rfl),by simp,fun item found quiet => (asking item found quiet).elim⟩
  · rw [ran]
    intro _ after left
    cases left
    exact ⟨rfl,calm.read,fun _ => calm.parser (.inl rfl),by simp,fun item found quiet => (asking item found quiet).elim⟩
  · rw [ran]
    exact fun going => absurd rfl going

theorem executeWrite_calm (calm : Calm .execute own cpc) (same : own = ownEntry data cpc sel)
    (wanted : asks own .write = true) :
    CalmOut data cpc.fd (executeWrite env ⟨cpc.fd,data⟩ sel g (cpc.handed cpc.readBuffer)) := by
  have asking : ∀ item, ownEntry data cpc sel = some item → item.interest.write = false → False := by
    intro item found quiet
    rw [asking_writes wanted (same.trans found)] at quiet
    cases quiet
  have answers : ∀ g answer called, CalmOut data cpc.fd
      (executeAnswer env sel g (cpc.handed cpc.readBuffer) answer called) := by
    intro g answer called _ after left
    rcases executeAnswer_cases env sel g (cpc.handed cpc.readBuffer) answer called with ⟨_,ran⟩ | ⟨_,ran⟩
    · rw [ran] at left ⊢
      cases left
      exact ⟨rfl,calm.read,by simp,by simp,fun item found quiet => (asking item found quiet).elim⟩
    · rw [ran] at left ⊢
      cases left
      exact ⟨rfl,calm.read,by simp,by simp,fun item found quiet => (asking item found quiet).elim⟩
  rcases executeWrite_cases env ⟨cpc.fd,data⟩ sel g (cpc.handed cpc.readBuffer) with ⟨_,empty,ran⟩ | ⟨_,_,ran⟩ |
    ⟨answer,_,_,ran⟩ | ⟨_,_,_,ran⟩ | ⟨command,_,_,_,ran⟩
  · rw [ran]
    intro _ after left
    cases left
    exact ⟨rfl,calm.read,by simp,by simp,fun _ _ _ => empty⟩
  · rw [ran]
    intro _ after left
    cases left
    exact ⟨rfl,calm.read,by simp,by simp,fun item found quiet => (asking item found quiet).elim⟩
  · rw [ran]
    exact answers _ _ _
  · rw [ran]
    exact fun going => absurd rfl going
  · rw [ran]
    cases (command env.malloc g (cpc.handed cpc.readBuffer).commandParser).1 with
    | none => exact fun going => absurd rfl going
    | some answer => exact answers _ _ _

def CalmServed (data : Nat) (served : CpServed) : Prop :=
  ∀ live, served.cpc = some live → live.current ≠ .error → Calm live.current (ownEntry data live served.sel) live

theorem calm_consume {state : ControlProtStmState} (calm : Calm state own cpc) (count : Nat) :
    Calm state own {cpc with writeBuffer:=cpc.writeBuffer.consume count} := by
  have shrinks : cpc.writeBuffer.unread = [] → (cpc.writeBuffer.consume count).unread = [] := by
    intro empty
    rw [CertifiedBuffer.consume_unread,empty]
    exact List.drop_nil
  refine ⟨calm.read,calm.parser,?_,?_⟩
  · intro auth unwritten
    exact shrinks (calm.answer auth unwritten)
  · intro item found quiet
    exact shrinks (calm.sent item found quiet)

theorem flush_calm {out : CpOutcome} {served : CpServed} (calm : CalmOut data cpc.fd out) (left : out.cpc = some after)
    (flushes : Flushes env out.sel out.globals (after.jumped out.next) served) : CalmServed data served := by
  have kept : out.next ≠ .error → Calm out.next (ownEntry data after out.sel) (after.jumped out.next) := by
    intro going
    obtain ⟨_,read,parser,answer,sent⟩ := calm going after left
    exact ⟨read,parser,answer,sent⟩
  cases flushes with
  | stopped =>
      intro live same going
      cases same
      exact kept going
  | idle =>
      intro live same going
      cases same
      exact kept going
  | sent bytes =>
      intro live same going
      cases same
      exact calm_consume (kept going) bytes.length
  | broken =>
      intro live same
      cases same

theorem rejected_calm {served : CpServed} (calm : Calm .auth own cpc) (unwritten : cpc.authAnsWritten = false)
    (takes : ∀ count, env.send = .sent count → count = 0 ∨ (authResult false).length ≤ count)
    (fits : (authResult false).length ≤ cpc.writeBuffer.space)
    (flushes : Flushes env (selectorSetInterest sel cpc.fd opRead).2 g
      (ControlProtConn.jumped .auth {cpc.handed cpc.readBuffer with
        writeBuffer:=cpc.writeBuffer.fill (authResult false),interests:=opRead}) served) :
    CalmServed data served := by
  have whole : (cpc.writeBuffer.fill (authResult false)).unread = authResult false := by
    rw [CertifiedBuffer.fill_unread,calm.answer rfl unwritten,List.take_of_length_le fits]
    rfl
  cases flushes with
  | stopped error => cases error
  | idle empty =>
      have empty : (cpc.writeBuffer.fill (authResult false)).unread = [] := empty
      rw [whole] at empty
      cases empty
  | sent bytes rest _ some_ _ gave =>
      intro live same _
      cases same
      have gave : bytes = env.send.bytes (cpc.writeBuffer.fill (authResult false)) := gave
      have sent : ((cpc.writeBuffer.fill (authResult false)).consume bytes.length).unread = [] := by
        cases result : env.send with
        | failed code =>
            rw [result] at gave
            exact absurd gave some_
        | sent count =>
            rw [result] at gave
            rcases takes count result with zero | all
            · rw [zero] at gave
              exact absurd gave some_
            · have every : bytes = authResult false := by
                rw [gave,Send.bytes,whole]
                exact List.take_of_length_le all
              rw [CertifiedBuffer.consume_unread,whole,every]
              exact List.drop_length
      exact ⟨calm.read,fun _ => calm.parser (.inr rfl),fun _ _ => sent,fun _ _ _ => sent⟩
  | broken =>
      intro live same
      cases same

theorem authWrite_calm {out : CpOutcome} {served : CpServed} (calm : Calm .auth own cpc)
    (same : own = ownEntry data cpc sel) (wanted : asks own .write = true)
    (takes : cpc.authAnsWritten = false → cpc.validPassword = false → ∀ count, env.send = .sent count →
      count = 0 ∨ (authResult false).length ≤ count)
    (ran : authWrite env ⟨cpc.fd,data⟩ sel g (cpc.handed cpc.readBuffer) = out) (left : out.cpc = some after)
    (flushes : Flushes env out.sel out.globals (after.jumped out.next) served) : CalmServed data served := by
  have asking : ∀ item, ownEntry data cpc sel = some item → item.interest.write = false → False := by
    intro item found quiet
    rw [asking_writes wanted (same.trans found)] at quiet
    cases quiet
  -- What is unsent, or an answer that does not fit, is waited for with the entry as it is.
  have waits : authWrite env ⟨cpc.fd,data⟩ sel g (cpc.handed cpc.readBuffer) =
      ⟨sel,g,some (cpc.handed cpc.readBuffer),[],.auth⟩ → CalmServed data served := by
    intro did
    refine @flush_calm data cpc after env out served ?_ left flushes
    rw [← ran,did]
    intro _ after left
    cases left
    exact ⟨rfl,calm.read,fun _ => calm.parser (.inr rfl),fun _ => calm.answer rfl,
      fun item found quiet => (asking item found quiet).elim⟩
  rcases authWrite_cases env ⟨cpc.fd,data⟩ sel g (cpc.handed cpc.readBuffer) with ⟨_,empty,did⟩ | ⟨written,_,did⟩ |
    ⟨_,_,did⟩ | ⟨unwritten,invalid,fits,did⟩ | ⟨_,_,_,did⟩
  · refine @flush_calm data cpc after env out served ?_ left flushes
    rw [← ran,did]
    intro _ after left
    cases left
    exact ⟨rfl,calm.read,by simp,by simp,fun _ _ _ => empty⟩
  · exact waits did
  · exact waits did
  · have made := ran.symm.trans did
    subst made
    cases left
    exact rejected_calm calm unwritten (takes unwritten invalid) fits flushes
  · refine @flush_calm data cpc after env out served ?_ left flushes
    rw [← ran,did]
    intro _ after left
    cases left
    exact ⟨rfl,calm.read,fun _ => calm.parser (.inr rfl),by simp,fun item found quiet => (asking item found quiet).elim⟩

theorem calm_takes (calm : s.calm (.event .write env) = true) (live : s.cpc = some cpc) (auth : cpc.current = .auth)
    (unwritten : cpc.authAnsWritten = false) (invalid : cpc.validPassword = false) (count : Nat)
    (sent : env.send = .sent count) : count = 0 ∨ (authResult false).length ≤ count := by
  rw [ControlSession.calm,live,Option.all_some,if_pos ⟨auth,unwritten,invalid⟩,sent] at calm
  simpa using calm

theorem calm_ends {bytes : List UInt8} (calm : s.calm (.event .read env) = true) (live : s.cpc = some cpc)
    (got : env.recv.clip cpc.readBuffer.space = .data bytes) : cpc.endsWith bytes = true := by
  rw [ControlSession.calm,live,Option.all_some,got] at calm
  exact calm

theorem preserves_calmed (guarded : s.Guarded data) (turning : s.Turning data) (calmed : s.Calmed data)
    (step : calmStep data s e next) : next.Calmed data := by
  obtain ⟨calm,ran⟩ := step
  cases e with
  | event kind env =>
      obtain ⟨cpc,live,wanted,handled⟩ := controlStep_handled ran
      have phase := turning.phase live
      have room := (guarded.guard cpc live).room
      cases handled with
      | ended => intro after left; cases left
      | read called buff handler out arrives found gave =>
          intro after left going
          obtain ⟨middle,stored,same⟩ := Option.map_eq_some_iff.mp left
          have sane := kept_sane found ((congrArg _ gave).trans stored)
          have before := calmed cpc live sane
          obtain ⟨more,_,_,_⟩ := arrives_parts arrives room (by decide)
          have ends : cpc.endsWith buff.unread = true := by
            cases arrives with
            | segment bytes _ fits got =>
                rw [CertifiedBuffer.fill_unread,before.read,List.take_of_length_le fits,List.nil_append]
                exact calm_ends calm live got
            | full => exact absurd before.read more
          have result : CalmOut data cpc.fd out := by
            rcases cpStateHandler_cases found with ⟨_,wrong,_⟩ | ⟨auth,⟨_,rfl⟩ | ⟨wrong,_⟩⟩ |
              ⟨execute,⟨_,rfl⟩ | ⟨wrong,_⟩⟩ | ⟨error,_⟩
            · cases wrong
            · rw [auth] at before
              rw [← gave]
              exact authRead_calm before rfl more auth ends
            · cases wrong
            · rw [execute] at before
              rw [← gave]
              obtain ⟨turns,_,stage⟩ := phase.executing execute
              exact executeRead_calm before rfl more (stage.running wanted) execute ends
            · cases wrong
            · exact absurd error sane
          subst same
          obtain ⟨_,read,parser,answer,sent⟩ := result going middle stored
          exact ⟨read,parser,answer,sent⟩
      | dropped => intro after left; cases left
      | wrote handler out after served found gave left flushes =>
          have sane := kept_sane found ((congrArg _ gave).trans left)
          have before := calmed cpc live sane
          rcases cpStateHandler_cases found with ⟨hello,_,rfl⟩ | ⟨auth,⟨wrong,_⟩ | ⟨_,rfl⟩⟩ |
            ⟨execute,⟨wrong,_⟩ | ⟨_,rfl⟩⟩ | ⟨error,_⟩
          · rw [hello] at before
            refine @flush_calm data cpc after env out served ?_ left flushes
            rw [← gave]
            exact helloWrite_calm before rfl wanted
          · cases wrong
          · rw [auth] at before
            exact authWrite_calm before rfl wanted (fun unwritten invalid => calm_takes calm live auth unwritten invalid)
              gave left flushes
          · cases wrong
          · rw [execute] at before
            refine @flush_calm data cpc after env out served ?_ left flushes
            rw [← gave]
            exact executeWrite_calm before rfl wanted
          · exact absurd error sane
  | elsewhere sel globals =>
      obtain ⟨spared,rfl⟩ := elsewhere_spares ran
      intro cpc live going
      obtain ⟨read,parser,answer,sent⟩ := calmed cpc live going
      refine ⟨read,parser,answer,?_⟩
      intro item found
      rcases spares_entry spared live with gone | same
      · exact absurd (gone.symm.trans found) (by simp)
      · exact sent item (same.symm.trans found)

theorem accepted_calmed (data : Nat) (sel : Selector) (g : Globals) (clientFd : Int) :
    (passiveCpSocketHandler data sel g clientFd).Calmed data := by
  unfold passiveCpSocketHandler
  dsimp only
  split
  · intro cpc live
    cases live
  · intro cpc live _
    cases live
    exact ⟨CertifiedBuffer.init_unread _,fun _ => rfl,fun _ _ => CertifiedBuffer.init_unread _,
      fun _ _ _ => CertifiedBuffer.init_unread _⟩

theorem calm_runs_idle {fd : Int} {events : List ControlEvent} {last : ControlSession}
    (path : Transitions.Runs (calmStep data) (passiveCpSocketHandler data sel g fd) events last) : last.Idle data := by
  have kept : last.Guarded data ∧ last.Turning data ∧ last.Calmed data := by
    apply path.invariant
    · exact ⟨accepted_guarded data sel g fd,accepted_turning data sel g fd,accepted_calmed data sel g fd⟩
    intro before label next known step
    exact ⟨preserves_guarded known.1 step.2,preserves_turning known.1 known.2.1 step.2,
      preserves_calmed known.1 known.2.1 known.2.2 step⟩
  intro cpc live going item found quiet
  have calm := kept.2.2 cpc live going
  exact ⟨calm.sent item found quiet,calm.read⟩

def calmExec (data : Nat) (s : ControlSession) (e : ControlEvent) : Option ControlSession :=
  if s.calm e then controlStep data s e else none

theorem two_commands_idle : ∃ last,
    Transitions.Runs (calmStep 3) (passiveCpSocketHandler 3 mainSelector ⟨.empty,true,.start⟩ 7) commandSession last ∧
    last.Idle 3 := by
  have facts : (Transitions.exec (calmExec 3) (passiveCpSocketHandler 3 mainSelector ⟨.empty,true,.start⟩ 7)
      commandSession).isSome = true := by decide +kernel
  obtain ⟨last,ran⟩ := Option.isSome_iff_exists.mp facts
  have path : Transitions.Runs (calmStep 3) (passiveCpSocketHandler 3 mainSelector ⟨.empty,true,.start⟩ 7)
      commandSession last := by
    refine (Transitions.exec_runs ran).weaken ?_
    intro before label next step
    unfold calmExec at step
    split at step
    · rename_i calm
      exact ⟨calm,step⟩
    · cases step
  exact ⟨last,path,calm_runs_idle path⟩

-- The password line and a command in one segment: the command waits for more input.
def pipelinedSession : List ControlEvent :=
  [adminTakes 7,adminTakes 0,adminTypes (passwordLine adminPassword ++ [0x37,0x00]),adminTakes 2,adminTakes 0]

-- A wrong password whose answer is sent in part: the rest of it waits.
def shortSession : List ControlEvent :=
  [adminTakes 7,adminTakes 0,adminTypes (passwordLine (ascii "pass")),adminTakes 2]

def leftOver (last : ControlSession) : Option (ControlProtStmState × Option FdInterest × List UInt8 × List UInt8) :=
  last.cpc.map fun cpc =>
    (cpc.current,(ownEntry 3 cpc last.sel).map Item.interest,cpc.readBuffer.unread,cpc.writeBuffer.unread)

theorem left_over_waits {last : ControlSession} {state : ControlProtStmState} {unread unsent : List UInt8}
    (left : leftOver last = some (state,some opRead,unread,unsent)) (going : state ≠ .error)
    (some_ : unsent ≠ [] ∨ unread ≠ []) : ¬ last.Idle 3 := by
  intro idle
  obtain ⟨cpc,live,same⟩ := Option.map_eq_some_iff.mp left
  simp only [Prod.mk.injEq] at same
  obtain ⟨rfl,entry,rfl,rfl⟩ := same
  obtain ⟨item,found,interest⟩ := Option.map_eq_some_iff.mp entry
  obtain ⟨sent,read⟩ := idle cpc live going item found (by rw [interest]; rfl)
  rcases some_ with unsent | unread
  · exact unsent sent
  · exact unread read

theorem pending_work_waits :
    (∃ last, Transitions.exec (controlStep 3) (passiveCpSocketHandler 3 mainSelector ⟨.empty,true,.start⟩ 7)
      pipelinedSession = some last ∧ leftOver last = some (.execute,some opRead,[0x37,0x00],[]) ∧ ¬ last.Idle 3) ∧
    ∃ last, Transitions.exec (controlStep 3) (passiveCpSocketHandler 3 mainSelector ⟨.empty,true,.start⟩ 7)
      shortSession = some last ∧ leftOver last = some (.auth,some opRead,[],[0x30,newline]) ∧ ¬ last.Idle 3 := by
  have first : ((Transitions.exec (controlStep 3) (passiveCpSocketHandler 3 mainSelector ⟨.empty,true,.start⟩ 7)
      pipelinedSession).map leftOver) = some (some (.execute,some opRead,[0x37,0x00],[])) := by decide +kernel
  have second : ((Transitions.exec (controlStep 3) (passiveCpSocketHandler 3 mainSelector ⟨.empty,true,.start⟩ 7)
      shortSession).map leftOver) = some (some (.auth,some opRead,[],[0x30,newline])) := by decide +kernel
  obtain ⟨one,ran,left⟩ := Option.map_eq_some_iff.mp first
  obtain ⟨two,ran',left'⟩ := Option.map_eq_some_iff.mp second
  exact ⟨⟨one,ran,left,left_over_waits left (by simp) (.inr (by simp))⟩,
    two,ran',left',left_over_waits left' (by simp) (.inl (by simp))⟩

end Socks5d.ControlProtocol
