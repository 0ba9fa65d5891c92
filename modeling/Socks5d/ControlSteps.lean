import Socks5d.CpMessages
import Socks5d.ControlAuth

namespace Socks5d.ControlProtocol
open Scan

variable {data : Nat} {s next : ControlSession} {cpc : ControlProtConn} {env : CpEnv} {key : SelectorKey}
  {sel : Selector} {g : Globals} {kind : EventKind} {state : ControlProtStmState}

def asks (own : Option Item) (kind : EventKind) : Bool := own.any fun item => kind.wants item.interest

theorem asks_setInterest {i : FdInterest} (quiet : kind.wants i = false) :
    asks (ownEntry data cpc (selectorSetInterest sel cpc.fd i).2) kind = false := by
  rw [asks,own_setInterest]
  cases ownEntry data cpc sel with
  | none => rfl
  | some item => exact quiet

theorem asks_spared (spared : s.spares data sel = true) (live : s.cpc = some cpc)
    (quiet : asks (ownEntry data cpc s.sel) kind = false) : asks (ownEntry data cpc sel) kind = false := by
  rcases spares_entry spared live with gone | same
  · rw [gone]
    rfl
  · rw [same]
    exact quiet

-- What each handler can do, with the guards under which it does it.
theorem helloWrite_cases (env : CpEnv) (key : SelectorKey) (sel : Selector) (g : Globals) (cpc : ControlProtConn) :
    (cpc.helloWritten = true ∧ cpc.writeBuffer.unread = [] ∧ helloWrite env key sel g cpc =
      ⟨(selectorSetInterest sel key.fd opRead).2,g,some {cpc with interests:=opRead},[],.auth⟩) ∨
    (cpc.helloWritten = true ∧ helloWrite env key sel g cpc = ⟨sel,g,some cpc,[],.hello⟩) ∨
    (cpc.helloWritten = false ∧ helloMsg.length ≤ cpc.writeBuffer.space ∧ helloWrite env key sel g cpc =
      ⟨sel,g,some {cpc with writeBuffer:=cpc.writeBuffer.fill helloMsg,helloWritten:=true},[.queued helloMsg],.hello⟩) ∨
    (cpc.helloWritten = false ∧ helloWrite env key sel g cpc = ⟨sel,g,some cpc,[],.error⟩) := by
  unfold helloWrite
  cases written : cpc.helloWritten with
  | true =>
      by_cases empty : cpc.writeBuffer.unread = []
      · exact .inl ⟨rfl,empty,by rw [cpc.writeBuffer.canRead_false.mpr empty]; rfl⟩
      · exact .inr (.inl ⟨rfl,by rw [cpc.writeBuffer.canRead_unread.mpr empty]; rfl⟩)
  | false =>
      refine .inr (.inr ?_)
      rw [Bool.false_and,if_neg Bool.false_ne_true,Bool.not_false,if_pos rfl]
      split
      · exact .inr ⟨rfl,rfl⟩
      · split
        · exact .inr ⟨rfl,rfl⟩
        · rename_i fits
          exact .inl ⟨rfl,by omega,rfl⟩

theorem authWrite_cases (env : CpEnv) (key : SelectorKey) (sel : Selector) (g : Globals) (cpc : ControlProtConn) :
    (cpc.authAnsWritten = true ∧ cpc.writeBuffer.unread = [] ∧ authWrite env key sel g cpc =
      ⟨(selectorSetInterest sel key.fd opRead).2,g,some {cpc with interests:=opRead},[],.execute⟩) ∨
    (cpc.authAnsWritten = true ∧ cpc.writeBuffer.unread ≠ [] ∧
      authWrite env key sel g cpc = ⟨sel,g,some cpc,[],.auth⟩) ∨
    (cpc.authAnsWritten = false ∧ cpc.writeBuffer.space < (authResult cpc.validPassword).length ∧
      authWrite env key sel g cpc = ⟨sel,g,some cpc,[],.auth⟩) ∨
    (cpc.authAnsWritten = false ∧ cpc.validPassword = false ∧ (authResult false).length ≤ cpc.writeBuffer.space ∧
      authWrite env key sel g cpc = ⟨(selectorSetInterest sel key.fd opRead).2,g,
        some {cpc with writeBuffer:=cpc.writeBuffer.fill (authResult false),interests:=opRead},
        [.queued (authResult false)],.auth⟩) ∨
    (cpc.authAnsWritten = false ∧ cpc.validPassword = true ∧ (authResult true).length ≤ cpc.writeBuffer.space ∧
      authWrite env key sel g cpc = ⟨sel,g,
        some {cpc with writeBuffer:=cpc.writeBuffer.fill (authResult true),authAnsWritten:=true},
        [.queued (authResult true)],.auth⟩) := by
  unfold authWrite
  cases written : cpc.authAnsWritten with
  | true =>
      by_cases empty : cpc.writeBuffer.unread = []
      · exact .inl ⟨rfl,empty,by rw [cpc.writeBuffer.canRead_false.mpr empty]; rfl⟩
      · exact .inr (.inl ⟨rfl,empty,by rw [cpc.writeBuffer.canRead_unread.mpr empty]; rfl⟩)
  | false =>
      refine .inr (.inr ?_)
      rw [Bool.false_and,if_neg Bool.false_ne_true,if_neg Bool.false_ne_true]
      have some_ : 0 < (authResult cpc.validPassword).length := by
        cases cpc.validPassword with
        | true => decide
        | false => decide
      split
      · rename_i full
        have none_ : cpc.writeBuffer.space = 0 := by
          rw [Bool.not_eq_true',← Bool.not_eq_true,CertifiedBuffer.canWrite_space] at full
          omega
        exact .inl ⟨rfl,by omega,rfl⟩
      · split
        · rename_i narrow
          exact .inl ⟨rfl,narrow,rfl⟩
        · rename_i fits
          refine .inr ?_
          cases valid : cpc.validPassword with
          | false =>
              rw [valid] at fits
              exact .inl ⟨rfl,rfl,by omega,rfl⟩
          | true =>
              rw [valid] at fits
              exact .inr ⟨rfl,rfl,by omega,rfl⟩

theorem executeAnswer_cases (env : CpEnv) (sel : Selector) (g : Globals) (cpc : ControlProtConn) (answer : List UInt8)
    (called : List CpEffect) :
    (cpc.writeBuffer.space < (cString (answer ++ env.behind)).length ∧
      executeAnswer env sel g cpc answer called = ⟨sel,g,some {cpc with execAnswer:=some answer},called,.execute⟩) ∨
    ((cString (answer ++ env.behind)).length ≤ cpc.writeBuffer.space ∧
      executeAnswer env sel g cpc answer called = ⟨sel,g,some {cpc with
        execAnswer:=some answer
        writeBuffer:=cpc.writeBuffer.fill (cString (answer ++ env.behind))
        execAnsWritten:=true
        commandParser:=initCpCommandParser cpc.commandParser},
        called ++ [.queued (cString (answer ++ env.behind))],.execute⟩) := by
  unfold executeAnswer
  dsimp only
  split
  · rename_i narrow
    exact .inl ⟨narrow,rfl⟩
  · rename_i fits
    exact .inr ⟨by omega,rfl⟩

theorem executeWrite_cases (env : CpEnv) (key : SelectorKey) (sel : Selector) (g : Globals) (cpc : ControlProtConn) :
    (cpc.execAnsWritten = true ∧ cpc.writeBuffer.unread = [] ∧ executeWrite env key sel g cpc =
      ⟨(selectorSetInterest sel key.fd opRead).2,g,
        some {cpc with execAnsWritten:=false,interests:=opRead,execAnswer:=none},[],.execute⟩) ∨
    (cpc.execAnsWritten = true ∧ cpc.writeBuffer.unread ≠ [] ∧
      executeWrite env key sel g cpc = ⟨sel,g,some cpc,[],.execute⟩) ∨
    (∃ answer, cpc.execAnsWritten = false ∧ cpc.execAnswer = some answer ∧
      executeWrite env key sel g cpc = executeAnswer env sel g cpc answer []) ∨
    (cpc.execAnsWritten = false ∧ cpc.execAnswer = none ∧ commandOf cpc.commandParser.code = none ∧
      executeWrite env key sel g cpc = ⟨sel,g,some cpc,[],.error⟩) ∨
    (∃ command, cpc.execAnsWritten = false ∧ cpc.execAnswer = none ∧
      commandOf cpc.commandParser.code = some command ∧
      executeWrite env key sel g cpc = match (command env.malloc g cpc.commandParser).1 with
        | none => ⟨sel,(command env.malloc g cpc.commandParser).2,some cpc,[.run cpc.commandParser],.error⟩
        | some answer => executeAnswer env sel (command env.malloc g cpc.commandParser).2 cpc answer
            [.run cpc.commandParser]) := by
  unfold executeWrite
  cases written : cpc.execAnsWritten with
  | true =>
      by_cases empty : cpc.writeBuffer.unread = []
      · exact .inl ⟨rfl,empty,by rw [cpc.writeBuffer.canRead_false.mpr empty]; rfl⟩
      · exact .inr (.inl ⟨rfl,empty,by rw [cpc.writeBuffer.canRead_unread.mpr empty]; rfl⟩)
  | false =>
      refine .inr (.inr ?_)
      rw [Bool.false_and,if_neg Bool.false_ne_true,if_neg Bool.false_ne_true]
      cases stored : cpc.execAnswer with
      | some answer => exact .inl ⟨answer,rfl,rfl,rfl⟩
      | none =>
          refine .inr ?_
          cases found : commandOf cpc.commandParser.code with
          | none => exact .inl ⟨rfl,rfl,rfl,rfl⟩
          | some command => exact .inr ⟨command,rfl,rfl,rfl,rfl⟩

theorem authRead_cases (env : CpEnv) (key : SelectorKey) (sel : Selector) (g : Globals)
    (more : cpc.readBuffer.unread ≠ []) (running : (cpc.authParser.failed || cpc.authParser.finished) = false) :
    ∃ parser buff taken, cpc.readBuffer.unread = taken ++ buff.unread ∧ buff.capacity = cpc.readBuffer.capacity ∧
      scan cpapParseByte (fun parser => parser.failed || parser.finished) cpc.authParser cpc.readBuffer.unread =
        (parser,buff.unread) ∧
      let after := {cpc with authParser:=parser,readBuffer:=buff}
      (parser.failed = true ∧ authRead env key sel g cpc = ⟨sel,g,some after,[.typed taken],.error⟩ ∨
      parser.failed = false ∧ parser.finished = true ∧ authRead env key sel g cpc =
        ⟨(selectorSetInterest sel key.fd opWrite).2,g,
          some {after with validPassword:=validatePassword parser,authParser:=initCpAuthParser parser},
          [.typed taken,.verdict (validatePassword parser)],.auth⟩ ∨
      parser.failed = false ∧ parser.finished = false ∧ buff.unread = [] ∧
        authRead env key sel g cpc = ⟨sel,g,some after,[.typed taken],.auth⟩) := by
  obtain ⟨parser,buff,taken,ran,split,room,scanned,open_⟩ := parseBytes_parts running cpc.readBuffer
  refine ⟨parser,buff,taken,split,room,scanned,?_⟩
  unfold authRead
  rw [if_neg (by simpa [cpc.readBuffer.canRead_unread] using more)]
  dsimp only
  rw [ran]
  dsimp only
  rw [take_front split]
  cases failing : parser.failed with
  | true => exact .inl ⟨rfl,rfl⟩
  | false =>
      refine .inr ?_
      cases ended : parser.finished with
      | true => exact .inl ⟨rfl,rfl,rfl⟩
      | false => exact .inr ⟨rfl,rfl,open_ (by rw [failing,ended]; rfl),rfl⟩

theorem executeRead_cases (env : CpEnv) (key : SelectorKey) (sel : Selector) (g : Globals)
    (more : cpc.readBuffer.unread ≠ []) (running : (cpc.commandParser.failed || cpc.commandParser.finished) = false) :
    ∃ parser buff taken, cpc.readBuffer.unread = taken ++ buff.unread ∧ buff.capacity = cpc.readBuffer.capacity ∧
      scan cpcpParseByte (fun parser => parser.failed || parser.finished) cpc.commandParser cpc.readBuffer.unread =
        (parser,buff.unread) ∧
      let after := {cpc with commandParser:=parser,readBuffer:=buff}
      (parser.failed = true ∧ executeRead env key sel g cpc = ⟨sel,g,some after,[.parsed taken],.error⟩ ∨
      parser.failed = false ∧ parser.finished = true ∧ executeRead env key sel g cpc =
        ⟨(selectorSetInterest sel key.fd opWrite).2,g,
          some {after with commandParser:={parser with data:=parser.data.set parser.dataSize 0},interests:=opWrite},
          [.parsed taken],.execute⟩ ∨
      parser.failed = false ∧ parser.finished = false ∧ buff.unread = [] ∧
        executeRead env key sel g cpc = ⟨sel,g,some after,[.parsed taken],.execute⟩) := by
  obtain ⟨parser,buff,taken,ran,split,room,scanned,open_⟩ := parseBytes_parts running cpc.readBuffer
  refine ⟨parser,buff,taken,split,room,scanned,?_⟩
  unfold executeRead
  rw [if_neg (by simpa [cpc.readBuffer.canRead_unread] using more)]
  dsimp only
  rw [ran]
  dsimp only
  rw [take_front split]
  cases failing : parser.failed with
  | true => exact .inl ⟨rfl,rfl⟩
  | false =>
      refine .inr ?_
      cases ended : parser.finished with
      | true => exact .inl ⟨rfl,rfl,rfl⟩
      | false => exact .inr ⟨rfl,rfl,open_ (by rw [failing,ended]; rfl),rfl⟩

-- Only cpError frees the connection.
structure Stays (fd : Int) (out : CpOutcome) : Prop where
  left : ∃ after, out.cpc = some after ∧ after.fd = fd
  listed : .removeFromList ∉ out.effects

theorem stays_kept {fd : Int} {out : CpOutcome} (stays : Stays fd out) : out.cpc.isSome = true := by
  obtain ⟨⟨after,left,_⟩,_⟩ := stays
  rw [left]
  rfl

theorem executeAnswer_stays (answer : List UInt8) {called : List CpEffect} (listed : .removeFromList ∉ called) :
    Stays cpc.fd (executeAnswer env sel g cpc answer called) := by
  rcases executeAnswer_cases env sel g cpc answer called with ⟨_,ran⟩ | ⟨_,ran⟩
  · rw [ran]; exact ⟨⟨_,rfl,rfl⟩,listed⟩
  · rw [ran]; exact ⟨⟨_,rfl,rfl⟩,by simpa using listed⟩

theorem executeWrite_stays : Stays cpc.fd (executeWrite env key sel g cpc) := by
  rcases executeWrite_cases env key sel g cpc with ⟨_,_,ran⟩ | ⟨_,_,ran⟩ | ⟨answer,_,_,ran⟩ | ⟨_,_,_,ran⟩ |
    ⟨command,_,_,_,ran⟩
  · rw [ran]; exact ⟨⟨_,rfl,rfl⟩,by simp⟩
  · rw [ran]; exact ⟨⟨_,rfl,rfl⟩,by simp⟩
  · rw [ran]; exact executeAnswer_stays answer (by simp)
  · rw [ran]; exact ⟨⟨_,rfl,rfl⟩,by simp⟩
  · rw [ran]
    cases (command env.malloc g cpc.commandParser).1 with
    | none => exact ⟨⟨_,rfl,rfl⟩,by simp⟩
    | some answer => exact executeAnswer_stays answer (by simp)

theorem authRead_stays : Stays cpc.fd (authRead env key sel g cpc) := by
  unfold authRead
  split
  · exact ⟨⟨_,rfl,rfl⟩,by simp⟩
  · dsimp only
    split
    · exact ⟨⟨_,rfl,rfl⟩,by simp⟩
    · split
      · exact ⟨⟨_,rfl,rfl⟩,by simp⟩
      · exact ⟨⟨_,rfl,rfl⟩,by simp⟩

theorem executeRead_stays : Stays cpc.fd (executeRead env key sel g cpc) := by
  unfold executeRead
  split
  · exact ⟨⟨_,rfl,rfl⟩,by simp⟩
  · dsimp only
    split
    · exact ⟨⟨_,rfl,rfl⟩,by simp⟩
    · split
      · exact ⟨⟨_,rfl,rfl⟩,by simp⟩
      · exact ⟨⟨_,rfl,rfl⟩,by simp⟩

theorem helloWrite_stays : Stays cpc.fd (helloWrite env key sel g cpc) := by
  rcases helloWrite_cases env key sel g cpc with ⟨_,_,ran⟩ | ⟨_,ran⟩ | ⟨_,_,ran⟩ | ⟨_,ran⟩
  all_goals rw [ran]; exact ⟨⟨_,rfl,rfl⟩,by simp⟩

theorem authWrite_stays : Stays cpc.fd (authWrite env key sel g cpc) := by
  rcases authWrite_cases env key sel g cpc with ⟨_,_,ran⟩ | ⟨_,_,ran⟩ | ⟨_,_,ran⟩ | ⟨_,_,_,ran⟩ | ⟨_,_,_,ran⟩
  all_goals rw [ran]; exact ⟨⟨_,rfl,rfl⟩,by simp⟩

theorem handler_stays {handler : CpStateHandler} (found : cpStateHandler kind state = some handler)
    (going : state ≠ .error) : Stays cpc.fd (handler env key sel g cpc) := by
  rcases cpStateHandler_cases found with ⟨_,_,rfl⟩ | ⟨_,⟨_,rfl⟩ | ⟨_,rfl⟩⟩ | ⟨_,⟨_,rfl⟩ | ⟨_,rfl⟩⟩ | ⟨error,_⟩
  · exact helloWrite_stays
  · exact authRead_stays
  · exact authWrite_stays
  · exact executeRead_stays
  · exact executeWrite_stays
  · exact absurd error going

theorem kept_sane {handler : CpStateHandler} (found : cpStateHandler kind state = some handler)
    (left : (handler env key sel g cpc).cpc = some after) : state ≠ .error := by
  rintro rfl
  cases kind with
  | read => cases found; cases left
  | write => cases found; cases left
  | block => cases found

theorem dropped_error {handler : CpStateHandler} (found : cpStateHandler kind state = some handler)
    (gone : (handler env key sel g cpc).cpc = none) : state = .error ∧ handler = cpError := by
  have error : state = .error := by
    by_contra going
    obtain ⟨⟨_,stays,_⟩,_⟩ := @handler_stays cpc env key sel g kind state handler found going
    cases gone.symm.trans stays
  subst error
  cases kind with
  | read => cases found; exact ⟨rfl,rfl⟩
  | write => cases found; exact ⟨rfl,rfl⟩
  | block => cases found

inductive Arrives (env : CpEnv) (cpc : ControlProtConn) : List CpEffect → CertifiedBuffer → Prop where
  | segment (bytes : List UInt8) : bytes ≠ [] → bytes.length ≤ cpc.readBuffer.space →
      env.recv.clip cpc.readBuffer.space = .data bytes →
      Arrives env cpc [.recv (.data bytes)] (cpc.readBuffer.fill bytes)
  | full : cpc.readBuffer.space = 0 → Arrives env cpc [] cpc.readBuffer

inductive Flushes (env : CpEnv) (sel : Selector) (g : Globals) (cpc : ControlProtConn) : CpServed → Prop where
  | stopped : cpc.currentState = .error → Flushes env sel g cpc ⟨sel,g,some cpc,[]⟩
  | idle : cpc.writeBuffer.unread = [] → Flushes env sel g cpc ⟨sel,g,some cpc,[]⟩
  | sent (bytes rest : List UInt8) : cpc.currentState ≠ .error → bytes ≠ [] → cpc.writeBuffer.unread = bytes ++ rest →
      bytes = env.send.bytes cpc.writeBuffer →
      Flushes env sel g cpc ⟨sel,g,some {cpc with writeBuffer:=cpc.writeBuffer.consume bytes.length},[.send bytes]⟩
  | broken : cpc.writeBuffer.unread ≠ [] → env.send.bytes cpc.writeBuffer = [] →
      Flushes env sel g cpc (freeControlProtConn cpc sel g [.send [],.removeFromList])

def ControlProtConn.jumped (next : ControlProtStmState) (cpc : ControlProtConn) : ControlProtConn :=
  {cpc with connStm:=some next,currentState:=next}

abbrev ControlProtConn.handed (cpc : ControlProtConn) (buff : CertifiedBuffer) : ControlProtConn :=
  {cpc with readBuffer:=buff,connStm:=some cpc.current}

def ControlSession.served (s : ControlSession) (called : List CpEffect) (out : CpServed) : ControlSession :=
  ⟨out.sel,out.globals,out.cpc,s.trace ++ (called ++ out.effects)⟩

inductive Handled (data : Nat) (env : CpEnv) (s : ControlSession) (cpc : ControlProtConn) :
    EventKind → ControlSession → Prop where
  | ended (result : Recv) : (∀ bytes, result ≠ .data bytes) → env.recv.clip cpc.readBuffer.space = result →
      0 < cpc.readBuffer.space → Handled data env s cpc .read
        (s.served [] (freeControlProtConn cpc s.sel s.globals [.recv result,.removeFromList]))
  | read (called : List CpEffect) (buff : CertifiedBuffer) (handler : CpStateHandler) (out : CpOutcome) :
      Arrives env cpc called buff → cpStateHandler .read cpc.current = some handler →
      handler env ⟨cpc.fd,data⟩ s.sel s.globals (cpc.handed buff) = out →
      Handled data env s cpc .read (s.served called
        ⟨out.sel,out.globals,out.cpc.map (ControlProtConn.jumped out.next),out.effects ++ entering cpc.current out.next⟩)
  | dropped (handler : CpStateHandler) (out : CpOutcome) : cpStateHandler .write cpc.current = some handler →
      handler env ⟨cpc.fd,data⟩ s.sel s.globals (cpc.handed cpc.readBuffer) = out → out.cpc = none →
      Handled data env s cpc .write
        (s.served [] ⟨out.sel,out.globals,none,out.effects ++ entering cpc.current out.next⟩)
  | wrote (handler : CpStateHandler) (out : CpOutcome) (after : ControlProtConn) (served : CpServed) :
      cpStateHandler .write cpc.current = some handler →
      handler env ⟨cpc.fd,data⟩ s.sel s.globals (cpc.handed cpc.readBuffer) = out → out.cpc = some after →
      Flushes env out.sel out.globals (after.jumped out.next) served →
      Handled data env s cpc .write (s.served (out.effects ++ entering cpc.current out.next) served)

theorem send_front {send : Send} {buff : CertifiedBuffer} : ∃ rest, buff.unread = send.bytes buff ++ rest := by
  cases send with
  | sent count => exact ⟨buff.unread.drop count,(List.take_append_drop count buff.unread).symm⟩
  | failed code => exact ⟨buff.unread,rfl⟩

theorem cpFlush_flushes (env : CpEnv) (sel : Selector) (g : Globals) (cpc : ControlProtConn)
    (going : cpc.currentState ≠ .error) (called : List CpEffect) :
    ∃ served, Flushes env sel g cpc served ∧
      cpFlush env sel g cpc called = ⟨served.sel,served.globals,served.cpc,called ++ served.effects⟩ := by
  unfold cpFlush
  split
  · rename_i unsent
    dsimp only
    split
    · rename_i none_
      refine ⟨_,.broken (cpc.writeBuffer.canRead_unread.mp unsent) none_,?_⟩
      simp only [freeControlProtConn,List.append_assoc]
    · rename_i some_
      obtain ⟨rest,split⟩ := @send_front env.send cpc.writeBuffer
      exact ⟨_,.sent _ rest going some_ split rfl,rfl⟩
  · rename_i empty
    refine ⟨_,.idle (cpc.writeBuffer.canRead_false.mp (by simpa using empty)),?_⟩
    rw [List.append_nil]

theorem cpRead_handled {served : CpServed} (ran : cpReadHandler env ⟨cpc.fd,data⟩ s.sel s.globals cpc = some served) :
    Handled data env s cpc .read (s.served [] served) := by
  unfold cpReadHandler at ran
  split at ran
  · rename_i room
    split at ran
    · rename_i bytes got
      obtain ⟨out,handled,same⟩ := Option.map_eq_some_iff.mp ran
      obtain ⟨handler,found,jump⟩ := cpStm_some handled
      obtain ⟨some_,fits⟩ := clip_data got
      subst same jump
      exact .read _ _ handler _ (.segment bytes some_ fits got) found rfl
    · rename_i other
      cases ran
      exact .ended _ other rfl (cpc.readBuffer.canWrite_space.mp room)
  · rename_i full
    obtain ⟨out,handled,same⟩ := Option.map_eq_some_iff.mp ran
    obtain ⟨handler,found,jump⟩ := cpStm_some handled
    rw [CertifiedBuffer.canWrite_space] at full
    subst same jump
    exact .read _ _ handler _ (.full (by omega)) found rfl

theorem cpWrite_handled {served : CpServed} (ran : cpWriteHandler env ⟨cpc.fd,data⟩ s.sel s.globals cpc = some served) :
    Handled data env s cpc .write (s.served [] served) := by
  obtain ⟨_,handled,same⟩ := Option.map_eq_some_iff.mp ran
  obtain ⟨handler,found,rfl⟩ := cpStm_some handled
  generalize outcome : handler env ⟨cpc.fd,data⟩ s.sel s.globals {cpc with connStm:=some cpc.current} = out at same
  cases left : out.cpc with
  | none =>
      simp only [cpJumped,left,Option.map_none] at same
      subst same
      exact .dropped handler out found outcome left
  | some after =>
      simp only [cpJumped,left,Option.map_some] at same
      split at same
      · rename_i error
        subst same
        have wrote := Handled.wrote handler out after _ found outcome left (.stopped error)
        rwa [ControlSession.served,List.append_nil] at wrote
      · rename_i going
        obtain ⟨flushed,flushes,run⟩ := cpFlush_flushes env out.sel out.globals (after.jumped out.next) going
          (out.effects ++ entering cpc.current out.next)
        have whole := run.symm.trans same
        subst whole
        exact .wrote handler out after flushed found outcome left flushes

theorem controlStep_handled (ran : controlStep data s (.event kind env) = some next) :
    ∃ cpc, s.cpc = some cpc ∧ asks (ownEntry data cpc s.sel) kind = true ∧ Handled data env s cpc kind next := by
  obtain ⟨cpc,live,ran⟩ := Option.bind_eq_some_iff.mp ran
  split at ran
  · rename_i wanted
    obtain ⟨served,handled,same⟩ := Option.map_eq_some_iff.mp ran
    refine ⟨cpc,live,wanted,?_⟩
    subst same
    cases kind with
    | read => exact cpRead_handled handled
    | write => exact cpWrite_handled handled
    | block => cases handled
  · cases ran

end Socks5d.ControlProtocol
