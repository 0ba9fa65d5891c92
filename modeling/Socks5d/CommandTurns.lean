import Mathlib.Data.List.Forall2
import Socks5d.ControlSteps

namespace Socks5d.ControlProtocol
open Scan Trace

variable {data : Nat} {s next : ControlSession} {cpc : ControlProtConn} {env : CpEnv} {key : SelectorKey}
  {sel : Selector} {g : Globals} {e : ControlEvent} {turns effects trace : List CpEffect}
  {finished pending : List CommandMessage} {part : List UInt8} {answered waiting : List CpCommandParser}
  {own : Option Item} {buff : CertifiedBuffer} {parser : CpCommandParser} {answer : List UInt8} {effect : CpEffect}

def parsedBytes (turns : List CpEffect) : List UInt8 := turns.flatMap fun effect => match effect with
  | .parsed bytes => bytes
  | _ => []

def commandRuns (turns : List CpEffect) : List CpCommandParser := turns.filterMap fun effect => match effect with
  | .run parser => some parser
  | _ => none

def queuedMessages (turns : List CpEffect) : List (List UInt8) := turns.filterMap fun effect => match effect with
  | .queued bytes => some bytes
  | _ => none

def sentBytes (turns : List CpEffect) : List UInt8 := turns.flatMap fun effect => match effect with
  | .send bytes => bytes
  | _ => []

@[simp] theorem parsedBytes_append : parsedBytes (turns ++ effects) = parsedBytes turns ++ parsedBytes effects :=
  List.flatMap_append

@[simp] theorem commandRuns_append : commandRuns (turns ++ effects) = commandRuns turns ++ commandRuns effects :=
  List.filterMap_append

@[simp] theorem queuedMessages_append :
    queuedMessages (turns ++ effects) = queuedMessages turns ++ queuedMessages effects := List.filterMap_append

@[simp] theorem sentBytes_append : sentBytes (turns ++ effects) = sentBytes turns ++ sentBytes effects :=
  List.flatMap_append

def Computed (parser : CpCommandParser) (answer : List UInt8) : Prop :=
  ∃ command malloc g, commandOf parser.code = some command ∧ (command malloc g parser).1 = some answer

def Answers (parser : CpCommandParser) (message : List UInt8) : Prop :=
  ∃ answer behind, Computed parser answer ∧ message = cString (answer ++ behind)

-- The account of CP_EXECUTE. The commands that were read in full are the executed ones
-- and, at most, one more; the executed ones are the answered ones and, at most, one more;
-- and nothing of another command is read before all that was answered has been sent.
structure Ledger (turns : List CpEffect) (finished pending : List CommandMessage) (part : List UInt8)
    (answered waiting : List CpCommandParser) : Prop where
  parsed : parsedBytes turns = (finished ++ pending).flatMap CommandMessage.bytes ++ part
  unfinished : Unfinished part
  runs : commandRuns turns = answered ++ waiting
  executed : List.Forall₂ Carries finished (answered ++ waiting)
  latest : pending.length ≤ 1
  answers : List.Forall₂ Answers answered (queuedMessages turns)
  once : waiting.length ≤ 1
  sent : sentBytes turns <+: (queuedMessages turns).flatten
  settled : pending ≠ [] ∨ part ≠ [] → waiting = [] ∧ sentBytes turns = (queuedMessages turns).flatten
  alone : part ≠ [] → pending = []

def Orderly (turns : List CpEffect) : Prop :=
  ∃ finished pending part answered waiting, Ledger turns finished pending part answered waiting

def Moment (past : List CpEffect) (effect : CpEffect) : Prop := Orderly (past ++ [effect])

theorem ledger_start : Ledger [] [] [] [] [] [] :=
  ⟨rfl,unfinished_nil,rfl,.nil,Nat.zero_le _,.nil,Nat.zero_le _,List.nil_prefix,by simp,fun _ => rfl⟩

theorem Ledger.orderly (ledger : Ledger turns finished pending part answered waiting) : Orderly turns :=
  ⟨finished,pending,part,answered,waiting,ledger⟩

def CpEffect.silent : CpEffect → Bool
  | .parsed _ => false
  | .run _ => false
  | .queued _ => false
  | .send bytes => bytes.isEmpty
  | _ => true

theorem silent_counts (silent : effect.silent = true) :
    parsedBytes [effect] = [] ∧ commandRuns [effect] = [] ∧ queuedMessages [effect] = [] ∧ sentBytes [effect] = [] := by
  cases effect with
  | parsed bytes => cases silent
  | run parser => cases silent
  | queued bytes => cases silent
  | send bytes =>
      rw [CpEffect.silent,List.isEmpty_iff] at silent
      rw [silent]
      exact ⟨rfl,rfl,rfl,rfl⟩
  | _ => exact ⟨rfl,rfl,rfl,rfl⟩

theorem Ledger.silent (ledger : Ledger turns finished pending part answered waiting) (silent : effect.silent = true) :
    Ledger (turns ++ [effect]) finished pending part answered waiting := by
  obtain ⟨bytes,runs,messages,sent⟩ := silent_counts silent
  refine ⟨?_,ledger.unfinished,?_,ledger.executed,ledger.latest,?_,ledger.once,?_,?_,ledger.alone⟩
  · rw [parsedBytes_append,bytes,List.append_nil]
    exact ledger.parsed
  · rw [commandRuns_append,runs,List.append_nil]
    exact ledger.runs
  · rw [queuedMessages_append,messages,List.append_nil]
    exact ledger.answers
  · rw [sentBytes_append,queuedMessages_append,sent,messages,List.append_nil,List.append_nil]
    exact ledger.sent
  · rw [sentBytes_append,queuedMessages_append,sent,messages,List.append_nil,List.append_nil]
    exact ledger.settled

theorem Ledger.silents (ledger : Ledger turns finished pending part answered waiting)
    (silent : ∀ effect ∈ effects, effect.silent = true) :
    Ledger (turns ++ effects) finished pending part answered waiting ∧ Each Moment turns effects := by
  induction effects generalizing turns with
  | nil =>
      rw [List.append_nil]
      exact ⟨ledger,trivial⟩
  | cons effect rest ih =>
      have one := ledger.silent (silent effect List.mem_cons_self)
      obtain ⟨whole,each⟩ := ih one (fun other member => silent other (List.mem_cons_of_mem _ member))
      rw [List.append_assoc] at whole
      exact ⟨whole,one.orderly,each⟩

theorem Ledger.reads (ledger : Ledger turns finished [] part answered [])
    (all : sentBytes turns = (queuedMessages turns).flatten) {bytes : List UInt8} (open_ : Unfinished (part ++ bytes)) :
    Ledger (turns ++ [.parsed bytes]) finished [] (part ++ bytes) answered [] := by
  have sent : sentBytes (turns ++ [.parsed bytes]) = sentBytes turns := by simp [sentBytes]
  have messages : queuedMessages (turns ++ [.parsed bytes]) = queuedMessages turns := by simp [queuedMessages]
  refine ⟨?_,open_,?_,ledger.executed,Nat.zero_le _,?_,Nat.zero_le _,?_,?_,fun _ => rfl⟩
  · rw [parsedBytes_append,ledger.parsed,List.append_assoc]
    simp [parsedBytes]
  · rw [commandRuns_append,ledger.runs]
    exact List.append_nil _
  · rw [messages]
    exact ledger.answers
  · rw [sent,messages]
    exact ledger.sent
  · rw [sent,messages]
    exact fun _ => ⟨rfl,all⟩

theorem Ledger.completes (ledger : Ledger turns finished [] part answered [])
    (all : sentBytes turns = (queuedMessages turns).flatten) {bytes : List UInt8} {message : CommandMessage}
    (whole : part ++ bytes = message.bytes) : Ledger (turns ++ [.parsed bytes]) finished [message] [] answered [] := by
  have sent : sentBytes (turns ++ [.parsed bytes]) = sentBytes turns := by simp [sentBytes]
  have messages : queuedMessages (turns ++ [.parsed bytes]) = queuedMessages turns := by simp [queuedMessages]
  refine ⟨?_,unfinished_nil,?_,ledger.executed,Nat.le_refl _,?_,Nat.zero_le _,?_,?_,fun _ => by contradiction⟩
  · rw [parsedBytes_append,ledger.parsed,List.append_assoc]
    simpa [parsedBytes] using whole
  · rw [commandRuns_append,ledger.runs]
    exact List.append_nil _
  · rw [messages]
    exact ledger.answers
  · rw [sent,messages]
    exact ledger.sent
  · rw [sent,messages]
    exact fun _ => ⟨rfl,all⟩

theorem Ledger.executes {message : CommandMessage} (ledger : Ledger turns finished [message] [] answered [])
    (carries : Carries message parser) :
    Ledger (turns ++ [.run parser]) (finished ++ [message]) [] [] answered [parser] := by
  have sent : sentBytes (turns ++ [.run parser]) = sentBytes turns := by simp [sentBytes]
  have messages : queuedMessages (turns ++ [.run parser]) = queuedMessages turns := by simp [queuedMessages]
  refine ⟨?_,unfinished_nil,?_,?_,Nat.zero_le _,?_,Nat.le_refl _,?_,by simp,fun _ => rfl⟩
  · rw [parsedBytes_append,ledger.parsed]
    simp [parsedBytes]
  · rw [commandRuns_append,ledger.runs,List.append_nil]
    rfl
  · have executed := ledger.executed
    rw [List.append_nil] at executed
    exact List.rel_append executed (.cons carries .nil)
  · rw [messages]
    exact ledger.answers
  · rw [sent,messages]
    exact ledger.sent

theorem Ledger.replies (ledger : Ledger turns finished [] [] answered [parser]) {message : List UInt8}
    (right : Answers parser message) :
    Ledger (turns ++ [.queued message]) finished [] [] (answered ++ [parser]) [] := by
  have sent : sentBytes (turns ++ [.queued message]) = sentBytes turns := by simp [sentBytes]
  have messages : queuedMessages (turns ++ [.queued message]) = queuedMessages turns ++ [message] := by
    simp [queuedMessages]
  refine ⟨?_,unfinished_nil,?_,?_,Nat.zero_le _,?_,Nat.zero_le _,?_,by simp,fun _ => rfl⟩
  · rw [parsedBytes_append,ledger.parsed]
    simp [parsedBytes]
  · rw [commandRuns_append,ledger.runs,List.append_nil]
    simp [commandRuns]
  · rw [List.append_nil]
    exact ledger.executed
  · rw [messages]
    exact List.rel_append ledger.answers (.cons right .nil)
  · rw [sent,messages,List.flatten_append]
    exact ledger.sent.trans (List.prefix_append _ _)

theorem Ledger.sends (ledger : Ledger turns finished [] [] answered []) {bytes rest : List UInt8}
    (left : sentBytes turns ++ (bytes ++ rest) = (queuedMessages turns).flatten) :
    Ledger (turns ++ [.send bytes]) finished [] [] answered [] := by
  have sent : sentBytes (turns ++ [.send bytes]) = sentBytes turns ++ bytes := by simp [sentBytes]
  have messages : queuedMessages (turns ++ [.send bytes]) = queuedMessages turns := by simp [queuedMessages]
  refine ⟨?_,unfinished_nil,?_,ledger.executed,Nat.zero_le _,?_,Nat.zero_le _,?_,by simp,fun _ => rfl⟩
  · rw [parsedBytes_append,ledger.parsed]
    simp [parsedBytes]
  · rw [commandRuns_append,ledger.runs]
    exact List.append_nil _
  · rw [messages]
    exact ledger.answers
  · rw [sent,messages,← left,← List.append_assoc]
    exact List.prefix_append _ _

-- Where a connection in CP_EXECUTE stands: reading a command, with one read, with an
-- answer that did not fit, or with an answer that is being sent.
inductive Stage (turns : List CpEffect) (own : Option Item) (writeBuffer : CertifiedBuffer) (parser : CpCommandParser)
    (execAnswer : Option (List UInt8)) (execAnsWritten : Bool) : Prop where
  | reading {finished : List CommandMessage} {part : List UInt8} {answered : List CpCommandParser} :
      Ledger turns finished [] part answered [] → sentBytes turns = (queuedMessages turns).flatten →
      writeBuffer.unread = [] → parser.Taken part → (parser.failed || parser.finished) = false →
      execAnswer = none → execAnsWritten = false → asks own .write = false →
      Stage turns own writeBuffer parser execAnswer execAnsWritten
  | parsed {finished : List CommandMessage} {message : CommandMessage} {answered : List CpCommandParser} :
      Ledger turns finished [message] [] answered [] → sentBytes turns = (queuedMessages turns).flatten →
      writeBuffer.unread = [] → parser.data.length = maxDataSize+1 → Carries message parser →
      execAnswer = none → execAnsWritten = false → asks own .read = false →
      Stage turns own writeBuffer parser execAnswer execAnsWritten
  | computed {finished : List CommandMessage} {answered : List CpCommandParser} {ran : CpCommandParser}
      {answer : List UInt8} :
      Ledger turns finished [] [] answered [ran] → sentBytes turns = (queuedMessages turns).flatten →
      writeBuffer.unread = [] → parser.data.length = maxDataSize+1 → parser.currentState = .done →
      execAnswer = some answer → Computed ran answer → execAnsWritten = false → asks own .read = false → Stage turns own writeBuffer parser execAnswer execAnsWritten
  | written {finished : List CommandMessage} {answered : List CpCommandParser} :
      Ledger turns finished [] [] answered [] →
      sentBytes turns ++ writeBuffer.unread = (queuedMessages turns).flatten →
      parser.Taken [] → (parser.failed || parser.finished) = false → execAnsWritten = true → asks own .read = false →
      Stage turns own writeBuffer parser execAnswer execAnsWritten

abbrev ControlProtConn.stage (turns : List CpEffect) (own : Option Item) (cpc : ControlProtConn) : Prop :=
  Stage turns own cpc.writeBuffer cpc.commandParser cpc.execAnswer cpc.execAnsWritten

theorem Stage.orderly {writeBuffer : CertifiedBuffer} {execAnswer : Option (List UInt8)} {written : Bool}
    (stage : Stage turns own writeBuffer parser execAnswer written) : Orderly turns := by
  cases stage with
  | reading ledger => exact ledger.orderly
  | parsed ledger => exact ledger.orderly
  | computed ledger => exact ledger.orderly
  | written ledger => exact ledger.orderly

theorem Stage.running {writeBuffer : CertifiedBuffer} {execAnswer : Option (List UInt8)} {written : Bool}
    (stage : Stage turns own writeBuffer parser execAnswer written) (wanted : asks own .read = true) :
    (parser.failed || parser.finished) = false := by
  cases stage with
  | reading _ _ _ _ running => exact running
  | parsed _ _ _ _ _ _ _ quiet => rw [quiet] at wanted; cases wanted
  | computed _ _ _ _ _ _ _ _ quiet => rw [quiet] at wanted; cases wanted
  | written _ _ _ _ _ quiet => rw [quiet] at wanted; cases wanted

theorem Stage.silents {writeBuffer : CertifiedBuffer} {execAnswer : Option (List UInt8)} {written : Bool}
    (stage : Stage turns own writeBuffer parser execAnswer written) (silent : ∀ effect ∈ effects, effect.silent = true) :
    Stage (turns ++ effects) own writeBuffer parser execAnswer written ∧ Each Moment turns effects := by
  have counts : sentBytes effects = [] ∧ queuedMessages effects = [] := by
    induction effects with
    | nil => exact ⟨rfl,rfl⟩
    | cons effect rest ih =>
        obtain ⟨sent,messages⟩ := ih (fun other member => silent other (List.mem_cons_of_mem _ member))
        obtain ⟨_,_,none_,still⟩ := silent_counts (silent effect List.mem_cons_self)
        rw [← List.singleton_append,sentBytes_append,queuedMessages_append,sent,messages,none_,still]
        exact ⟨rfl,rfl⟩
  have sent : sentBytes (turns ++ effects) = sentBytes turns := by
    rw [sentBytes_append,counts.1,List.append_nil]
  have messages : queuedMessages (turns ++ effects) = queuedMessages turns := by
    rw [queuedMessages_append,counts.2,List.append_nil]
  cases stage with
  | reading ledger all empty taken running clear unwritten quiet =>
      obtain ⟨kept,each⟩ := ledger.silents silent
      exact ⟨.reading kept (by rw [sent,messages]; exact all) empty taken running clear unwritten quiet,each⟩
  | parsed ledger all empty sized carries clear unwritten quiet =>
      obtain ⟨kept,each⟩ := ledger.silents silent
      exact ⟨.parsed kept (by rw [sent,messages]; exact all) empty sized carries clear unwritten quiet,each⟩
  | computed ledger all empty sized ended stored right unwritten quiet =>
      obtain ⟨kept,each⟩ := ledger.silents silent
      exact ⟨.computed kept (by rw [sent,messages]; exact all) empty sized ended stored right unwritten quiet,each⟩
  | written ledger left taken running done quiet =>
      obtain ⟨kept,each⟩ := ledger.silents silent
      exact ⟨.written kept (by rw [sent,messages]; exact left) taken running done quiet,each⟩

structure Turned (data : Nat) (turns : List CpEffect) (fd : Int) (out : CpOutcome) : Prop where
  each : Each Moment turns out.effects
  inside : .enter .execute ∉ out.effects
  kept : (out.next = .execute ∧ ∃ after, out.cpc = some after ∧ after.fd = fd ∧
      after.stage (turns ++ out.effects) (ownEntry data after out.sel)) ∨
    (out.next = .error ∧ Orderly (turns ++ out.effects) ∧ out.cpc.isSome = true)

theorem executeRead_turned (stage : cpc.stage turns (ownEntry data cpc sel))
    (wanted : asks (ownEntry data cpc sel) .read = true) (more : cpc.readBuffer.unread ≠ []) :
    Turned data turns cpc.fd (executeRead env ⟨cpc.fd,data⟩ sel g cpc) := by
  cases stage with
  | reading ledger all empty taken running clear unwritten quiet =>
      obtain ⟨parser,buff,bytes,split,_,scanned,outcome⟩ := executeRead_cases env ⟨cpc.fd,data⟩ sel g more running
      obtain ⟨front,cut,known⟩ := @scan_reading _ _ cpcpParseByte
        (fun parser => CpCommandParser.failed parser || CpCommandParser.finished parser) CpCommandParser.Taken _
        cpc.commandParser cpc.readBuffer.unread running taken (fun _ _ byte going knows => cpcpParseByte_taken knows going byte)
      rw [scanned] at cut known
      have same : front = bytes := List.append_cancel_right (cut.symm.trans split)
      subst same
      have knows : parser.Taken _ := known
      rcases outcome with ⟨failed,ran⟩ | ⟨_,ended,ran⟩ | ⟨sound,unfinished,_,ran⟩
      · rw [ran]
        have kept := @Ledger.reads _ _ _ _ ledger all front (taken_unfinished knows (by
          rw [CpCommandParser.failed,decide_eq_true_eq] at failed
          rw [CpCommandParser.finished,failed]
          rfl))
        exact ⟨⟨kept.orderly,trivial⟩,by simp,.inr ⟨rfl,kept.orderly,rfl⟩⟩
      · rw [ran]
        obtain ⟨message,whole,carries⟩ := taken_done knows ended
        have kept := ledger.completes all whole
        refine ⟨⟨kept.orderly,trivial⟩,by simp,.inl ⟨rfl,_,rfl,rfl,?_⟩⟩
        refine .parsed kept ?_ empty (List.length_set.trans knows.1) carries clear unwritten (asks_setInterest rfl)
        simpa [sentBytes,queuedMessages] using all
      · rw [ran]
        have kept := @Ledger.reads _ _ _ _ ledger all front (taken_unfinished knows unfinished)
        refine ⟨⟨kept.orderly,trivial⟩,by simp,.inl ⟨rfl,_,rfl,rfl,?_⟩⟩
        refine .reading kept ?_ empty knows (by rw [sound,unfinished]; rfl) clear unwritten quiet
        simpa [sentBytes,queuedMessages] using all
  | parsed _ _ _ _ _ _ _ quiet => rw [quiet] at wanted; cases wanted
  | computed _ _ _ _ _ _ _ _ quiet => rw [quiet] at wanted; cases wanted
  | written _ _ _ _ _ quiet => rw [quiet] at wanted; cases wanted

theorem executeAnswer_turned {ran : CpCommandParser} {called : List CpEffect}
    (ledger : Ledger (turns ++ called) finished [] [] answered [ran]) (each : Each Moment turns called)
    (inside : .enter .execute ∉ called) (all : sentBytes (turns ++ called) = (queuedMessages (turns ++ called)).flatten)
    (empty : cpc.writeBuffer.unread = []) (sized : cpc.commandParser.data.length = maxDataSize+1)
    (ended : cpc.commandParser.currentState = .done) (right : Computed ran answer) (unwritten : cpc.execAnsWritten = false)
    (quiet : asks (ownEntry data cpc sel) .read = false) :
    Turned data turns cpc.fd (executeAnswer env sel g cpc answer called) := by
  rcases executeAnswer_cases env sel g cpc answer called with ⟨_,ran⟩ | ⟨fits,ran⟩
  · rw [ran]
    exact ⟨each,inside,.inl ⟨rfl,_,rfl,rfl,.computed ledger all empty sized ended rfl right unwritten quiet⟩⟩
  · rw [ran]
    have kept := ledger.replies ⟨answer,env.behind,right,rfl⟩
    refine ⟨each_append.mpr ⟨each,kept.orderly,trivial⟩,by simpa using inside,.inl ⟨rfl,_,rfl,rfl,?_⟩⟩
    rw [← List.append_assoc]
    refine .written kept ?_ (initCommand_taken sized) rfl rfl quiet
    rw [sentBytes_append,queuedMessages_append,all,CertifiedBuffer.fill_unread,empty,List.take_of_length_le fits]
    simp [sentBytes,queuedMessages]

theorem executeWrite_turned (stage : cpc.stage turns (ownEntry data cpc sel))
    (wanted : asks (ownEntry data cpc sel) .write = true) :
    Turned data turns cpc.fd (executeWrite env ⟨cpc.fd,data⟩ sel g cpc) := by
  cases stage with
  | reading _ _ _ _ _ _ _ quiet => rw [quiet] at wanted; cases wanted
  | parsed ledger all empty sized carries clear unwritten quiet =>
      have ran := ledger.executes carries
      rcases executeWrite_cases env ⟨cpc.fd,data⟩ sel g cpc with ⟨written,_⟩ | ⟨written,_⟩ | ⟨answer,_,stored,_⟩ |
        ⟨_,_,_,outcome⟩ | ⟨command,_,_,found,outcome⟩
      · rw [unwritten] at written; cases written
      · rw [unwritten] at written; cases written
      · rw [clear] at stored; cases stored
      · rw [outcome]
        refine ⟨trivial,by simp,.inr ⟨rfl,?_,rfl⟩⟩
        rw [List.append_nil]
        exact ledger.orderly
      · rw [outcome]
        cases result : (command env.malloc g cpc.commandParser).1 with
        | none => exact ⟨⟨ran.orderly,trivial⟩,by simp,.inr ⟨rfl,ran.orderly,rfl⟩⟩
        | some answer =>
            refine executeAnswer_turned ran ⟨ran.orderly,trivial⟩ (by simp) ?_ empty sized carries.2.1 ⟨_,_,_,found,result⟩ unwritten quiet
            simpa [sentBytes,queuedMessages] using all
  | computed ledger all empty sized ended stored right unwritten quiet =>
      rcases executeWrite_cases env ⟨cpc.fd,data⟩ sel g cpc with ⟨written,_⟩ | ⟨written,_⟩ | ⟨answer,_,same,outcome⟩ |
        ⟨_,clear,_⟩ | ⟨command,_,clear,_⟩
      · rw [unwritten] at written; cases written
      · rw [unwritten] at written; cases written
      · rw [outcome]
        cases stored.symm.trans same
        rw [← List.append_nil turns] at ledger all
        exact executeAnswer_turned ledger trivial (by simp) all empty sized ended right unwritten quiet
      · rw [stored] at clear; cases clear
      · rw [stored] at clear; cases clear
  | written ledger left taken running done quiet =>
      rcases executeWrite_cases env ⟨cpc.fd,data⟩ sel g cpc with ⟨_,empty,outcome⟩ | ⟨_,_,outcome⟩ |
        ⟨answer,unwritten,_⟩ | ⟨unwritten,_⟩ | ⟨command,unwritten,_⟩
      · rw [outcome]
        refine ⟨trivial,by simp,.inl ⟨rfl,_,rfl,rfl,?_⟩⟩
        rw [List.append_nil]
        rw [empty,List.append_nil] at left
        exact .reading ledger left empty taken running rfl rfl (asks_setInterest rfl)
      · rw [outcome]
        refine ⟨trivial,by simp,.inl ⟨rfl,_,rfl,rfl,?_⟩⟩
        rw [List.append_nil]
        exact .written ledger left taken running done quiet
      · rw [done] at unwritten; cases unwritten
      · rw [done] at unwritten; cases unwritten
      · rw [done] at unwritten; cases unwritten

structure Turns (trace turns : List CpEffect) : Prop where
  split : ∃ before, trace = before ++ .enter .execute :: turns ∧ .enter .execute ∉ before
  once : .enter .execute ∉ turns
  each : Each Moment [] turns

theorem Turns.extend (known : Turns trace turns) (each : Each Moment turns effects) (inside : .enter .execute ∉ effects) :
    Turns (trace ++ effects) (turns ++ effects) := by
  obtain ⟨⟨before,split,first⟩,once,earlier⟩ := known
  refine ⟨⟨before,by rw [split,List.append_assoc]; rfl,first⟩,?_,each_extend earlier each⟩
  rw [List.mem_append,not_or]
  exact ⟨once,inside⟩

def Closed (trace : List CpEffect) : Prop := .enter .execute ∉ trace ∨ ∃ turns, Turns trace turns ∧ Orderly turns

inductive Phase (data : Nat) (trace : List CpEffect) (sel : Selector) : Option ControlProtConn → Prop where
  | early (cpc : ControlProtConn) : cpc.current = .hello ∨ cpc.current = .auth → .enter .execute ∉ trace →
      cpc.commandParser.Taken [] → (cpc.commandParser.failed || cpc.commandParser.finished) = false →
      cpc.execAnswer = none → cpc.execAnsWritten = false → Phase data trace sel (some cpc)
  | turning (cpc : ControlProtConn) (turns : List CpEffect) : cpc.current = .execute → Turns trace turns →
      cpc.stage turns (ownEntry data cpc sel) → Phase data trace sel (some cpc)
  | over_ (cpc : Option ControlProtConn) : (∀ live, cpc = some live → live.current = .error) → Closed trace →
      Phase data trace sel cpc

abbrev ControlSession.Turning (data : Nat) (s : ControlSession) : Prop := Phase data s.trace s.sel s.cpc

theorem ControlSession.Turning.phase (turning : s.Turning data) (live : s.cpc = some cpc) :
    Phase data s.trace s.sel (some cpc) := by
  rw [← live]
  exact turning

theorem Closed.silents (closed : Closed trace) (silent : ∀ effect ∈ effects, effect.silent = true)
    (inside : .enter .execute ∉ effects) : Closed (trace ++ effects) := by
  rcases closed with outside | ⟨turns,known,_,_,_,_,_,ledger⟩
  · left
    rw [List.mem_append,not_or]
    exact ⟨outside,inside⟩
  · obtain ⟨kept,each⟩ := ledger.silents silent
    exact .inr ⟨_,known.extend each inside,kept.orderly⟩

theorem Phase.executing (phase : Phase data trace sel (some cpc)) (execute : cpc.current = .execute) :
    ∃ turns, Turns trace turns ∧ cpc.stage turns (ownEntry data cpc sel) := by
  cases phase with
  | early _ state =>
      rw [execute] at state
      rcases state with state | state <;> cases state
  | turning _ turns _ known stage => exact ⟨turns,known,stage⟩
  | over_ _ error => rw [error cpc rfl] at execute; cases execute

theorem Phase.closed {live : Option ControlProtConn} (phase : Phase data trace sel live) : Closed trace := by
  cases phase with
  | early _ _ outside => exact .inl outside
  | turning cpc turns _ known stage => exact .inr ⟨turns,known,stage.orderly⟩
  | over_ _ _ closed => exact closed

theorem phase_gone (closed : Closed trace) (silent : ∀ effect ∈ effects, effect.silent = true)
    (inside : .enter .execute ∉ effects) : Phase data (trace ++ effects) sel none := by
  apply Phase.over_
  · intro cpc live
    cases live
  · exact closed.silents silent inside

theorem flush_phase {served : CpServed} (flushes : Flushes env sel g cpc served) (same : cpc.currentState = cpc.current)
    (phase : Phase data trace sel (some cpc)) : Phase data (trace ++ served.effects) served.sel served.cpc := by
  cases flushes with
  | stopped => rwa [List.append_nil]
  | idle => rwa [List.append_nil]
  | broken =>
      apply phase_gone phase.closed
      · simp [freeControlProtConn,CpEffect.silent]
      · simp [freeControlProtConn]
  | sent bytes rest going some_ split _ =>
      cases phase with
      | early _ state outside taken running clear unwritten =>
          refine .early _ state ?_ taken running clear unwritten
          simpa using outside
      | turning _ turns state known stage =>
          cases stage with
          | reading _ _ empty => exact absurd (List.append_eq_nil_iff.mp (split.symm.trans empty)).1 some_
          | parsed _ _ empty => exact absurd (List.append_eq_nil_iff.mp (split.symm.trans empty)).1 some_
          | computed _ _ empty => exact absurd (List.append_eq_nil_iff.mp (split.symm.trans empty)).1 some_
          | written ledger left taken running done quiet =>
              rw [split] at left
              have kept := ledger.sends left
              refine .turning _ _ state (known.extend ⟨kept.orderly,trivial⟩ (by simp)) ?_
              refine .written kept ?_ taken running done quiet
              rw [sentBytes_append,queuedMessages_append,CertifiedBuffer.consume_unread,split,List.drop_left]
              simpa [sentBytes,queuedMessages] using left
      | over_ _ error => exact absurd (same.trans (error cpc rfl)) going

structure Early (cpc : ControlProtConn) (sel : Selector) (out : CpOutcome) (after : ControlProtConn) : Prop where
  left : out.cpc = some after
  parser : after.commandParser = cpc.commandParser
  answer : after.execAnswer = cpc.execAnswer
  written : after.execAnsWritten = cpc.execAnsWritten
  inside : .enter .execute ∉ out.effects
  told : ∀ bytes, .queued bytes ∈ out.effects → bytes = helloMsg ∨ ∃ valid, bytes = authResult valid
  next : out.next = .hello ∨ out.next = .auth ∨ out.next = .error ∨ (out.next = .execute ∧ after.fd = cpc.fd ∧
    after.writeBuffer.unread = [] ∧ out.sel = (selectorSetInterest sel cpc.fd opRead).2)

theorem helloWrite_early : ∃ after, Early cpc sel (helloWrite env ⟨cpc.fd,data⟩ sel g cpc) after := by
  rcases helloWrite_cases env ⟨cpc.fd,data⟩ sel g cpc with ⟨_,_,ran⟩ | ⟨_,ran⟩ | ⟨_,_,ran⟩ | ⟨_,ran⟩
  · rw [ran]; exact ⟨_,rfl,rfl,rfl,rfl,by simp,by simp,.inr (.inl rfl)⟩
  · rw [ran]; exact ⟨_,rfl,rfl,rfl,rfl,by simp,by simp,.inl rfl⟩
  · rw [ran]; exact ⟨_,rfl,rfl,rfl,rfl,by simp,by simp,.inl rfl⟩
  · rw [ran]; exact ⟨_,rfl,rfl,rfl,rfl,by simp,by simp,.inr (.inr (.inl rfl))⟩

theorem authRead_early : ∃ after, Early cpc sel (authRead env ⟨cpc.fd,data⟩ sel g cpc) after := by
  unfold authRead
  split
  · exact ⟨_,rfl,rfl,rfl,rfl,by simp,by simp,.inr (.inr (.inl rfl))⟩
  · dsimp only
    split
    · exact ⟨_,rfl,rfl,rfl,rfl,by simp,by simp,.inr (.inr (.inl rfl))⟩
    · split
      · exact ⟨_,rfl,rfl,rfl,rfl,by simp,by simp,.inr (.inl rfl)⟩
      · exact ⟨_,rfl,rfl,rfl,rfl,by simp,by simp,.inr (.inl rfl)⟩

theorem authWrite_early : ∃ after, Early cpc sel (authWrite env ⟨cpc.fd,data⟩ sel g cpc) after := by
  rcases authWrite_cases env ⟨cpc.fd,data⟩ sel g cpc with ⟨_,empty,ran⟩ | ⟨_,_,ran⟩ | ⟨_,_,ran⟩ | ⟨_,_,_,ran⟩ | ⟨_,_,_,ran⟩
  · rw [ran]; exact ⟨_,rfl,rfl,rfl,rfl,by simp,by simp,.inr (.inr (.inr ⟨rfl,rfl,empty,rfl⟩))⟩
  · rw [ran]; exact ⟨_,rfl,rfl,rfl,rfl,by simp,by simp,.inr (.inl rfl)⟩
  · rw [ran]; exact ⟨_,rfl,rfl,rfl,rfl,by simp,by simp,.inr (.inl rfl)⟩
  · rw [ran]; exact ⟨_,rfl,rfl,rfl,rfl,by simp,by simp,.inr (.inl rfl)⟩
  · rw [ran]; exact ⟨_,rfl,rfl,rfl,rfl,by simp,by simp,.inr (.inl rfl)⟩

theorem mem_entering {was after state : ControlProtStmState} (entered : .enter state ∈ entering was after) :
    after = state := by
  unfold entering at entered
  split at entered
  · cases entered
  · cases List.mem_singleton.mp entered
    rfl

theorem early_phase {out : CpOutcome} {after : ControlProtConn} (early : Early cpc sel out after)
    (state : cpc.current = .hello ∨ cpc.current = .auth) (outside : .enter .execute ∉ trace)
    (taken : cpc.commandParser.Taken []) (running : (cpc.commandParser.failed || cpc.commandParser.finished) = false)
    (clear : cpc.execAnswer = none) (unwritten : cpc.execAnsWritten = false) :
    Phase data (trace ++ (out.effects ++ entering cpc.current out.next)) out.sel (some (after.jumped out.next)) := by
  have quiet : out.next ≠ .execute → .enter .execute ∉ trace ++ (out.effects ++ entering cpc.current out.next) := by
    intro other member
    rcases List.mem_append.mp member with old | new
    · exact outside old
    · rcases List.mem_append.mp new with called | entered
      · exact early.inside called
      · exact other (mem_entering entered)
  rw [← early.parser] at taken running
  rw [← early.answer] at clear
  rw [← early.written] at unwritten
  rcases early.next with hello | auth | error | ⟨execute,same,empty,selector⟩
  · exact .early _ (.inl hello) (quiet (by rw [hello]; simp)) taken running clear unwritten
  · exact .early _ (.inr auth) (quiet (by rw [auth]; simp)) taken running clear unwritten
  · refine .over_ _ ?_ (.inl (quiet (by rw [error]; simp)))
    intro live same
    cases same
    exact error
  · have entered : entering cpc.current out.next = [.enter .execute] := by
      rw [execute]
      rcases state with hello | auth
      · rw [hello]; rfl
      · rw [auth]; rfl
    rw [entered,← List.append_assoc]
    refine .turning _ [] execute ⟨⟨trace ++ out.effects,rfl,?_⟩,by simp,trivial⟩ ?_
    · rw [List.mem_append,not_or]
      exact ⟨outside,early.inside⟩
    · refine .reading ledger_start rfl empty taken running clear unwritten ?_
      rw [selector,← same]
      exact asks_setInterest rfl

theorem turned_phase {out : CpOutcome} (turned : Turned data turns cpc.fd out) (known : Turns trace turns)
    (state : cpc.current = .execute) :
    Phase data (trace ++ (out.effects ++ entering cpc.current out.next)) out.sel
      (out.cpc.map (ControlProtConn.jumped out.next)) := by
  rcases turned.kept with ⟨next,after,left,_,stage⟩ | ⟨next,orderly,live⟩
  · rw [state,next,entering_same,List.append_nil,left]
    exact .turning _ _ rfl (known.extend turned.each turned.inside) stage
  · rw [← List.append_assoc]
    apply Phase.over_
    · intro cpc live
      obtain ⟨before,_,same⟩ := Option.map_eq_some_iff.mp live
      rw [← same]
      exact next
    · refine Closed.silents (.inr ⟨_,known.extend turned.each turned.inside,orderly⟩) ?_ ?_
      · simp [state,next,entering,CpEffect.silent]
      · simp [state,next,entering]

theorem arrives_parts {called : List CpEffect} {capacity : Nat} (arrives : Arrives env cpc called buff)
    (room : cpc.readBuffer.capacity = capacity) (some_ : 0 < capacity) :
    buff.unread ≠ [] ∧ buff.capacity = capacity ∧ (∀ effect ∈ called, effect.silent = true) ∧
      .enter .execute ∉ called := by
  cases arrives with
  | segment bytes got fits =>
      refine ⟨?_,(CertifiedBuffer.fill_capacity _ _).trans room,by simp [CpEffect.silent],by simp⟩
      rw [CertifiedBuffer.fill_unread,List.take_of_length_le fits]
      simp [got]
  | full none_ => exact ⟨cpc.readBuffer.full_unread none_ (by omega),room,by simp,by simp⟩

theorem read_phase {called : List CpEffect} {handler : CpStateHandler} {out : CpOutcome}
    (phase : Phase data s.trace s.sel (some cpc)) (room : cpc.readBuffer.capacity = bufferSize)
    (wanted : asks (ownEntry data cpc s.sel) .read = true) (arrives : Arrives env cpc called buff)
    (found : cpStateHandler .read cpc.current = some handler)
    (ran : handler env ⟨cpc.fd,data⟩ s.sel s.globals (cpc.handed buff) = out) :
    Phase data (s.trace ++ called ++ (out.effects ++ entering cpc.current out.next)) out.sel
      (out.cpc.map (ControlProtConn.jumped out.next)) := by
  obtain ⟨more,_,silent,inside⟩ := arrives_parts arrives room (by decide)
  cases phase with
  | early _ state outside taken running clear unwritten =>
      have auth : handler = authRead := by
        rcases state with hello | auth
        · rw [hello] at found; cases found
        · rw [auth] at found; cases found; rfl
      obtain ⟨after,early⟩ := @authRead_early data (cpc.handed buff) env s.sel s.globals
      rw [← auth,ran] at early
      rw [early.left]
      refine @early_phase data (cpc.handed buff) s.sel _ out after early state ?_ taken running clear unwritten
      rw [List.mem_append,not_or]
      exact ⟨outside,inside⟩
  | turning _ turns state known stage =>
      rw [state] at found
      cases found
      obtain ⟨kept,each⟩ := stage.silents silent
      have turned := @executeRead_turned data (cpc.handed buff) env s.sel s.globals (turns ++ called) kept wanted more
      rw [ran] at turned
      exact @turned_phase data (cpc.handed buff) _ _ _ turned (known.extend each inside) state
  | over_ _ error closed =>
      rw [error cpc rfl] at found
      cases found
      subst ran
      rw [error cpc rfl]
      exact phase_gone (closed.silents silent inside)
        (by simp [cpError,freeControlProtConn,entering,CpEffect.silent]) (by simp [cpError,freeControlProtConn,entering])

theorem write_phase {handler : CpStateHandler} {out : CpOutcome} (phase : Phase data s.trace s.sel (some cpc))
    (wanted : asks (ownEntry data cpc s.sel) .write = true) (found : cpStateHandler .write cpc.current = some handler)
    (ran : handler env ⟨cpc.fd,data⟩ s.sel s.globals (cpc.handed cpc.readBuffer) = out) :
    Phase data (s.trace ++ (out.effects ++ entering cpc.current out.next)) out.sel
      (out.cpc.map (ControlProtConn.jumped out.next)) := by
  cases phase with
  | early _ state outside taken running clear unwritten =>
      have early : ∃ after, Early (cpc.handed cpc.readBuffer) s.sel out after := by
        rcases state with hello | auth
        · rw [hello] at found
          cases found
          rw [← ran]
          exact @helloWrite_early data (cpc.handed cpc.readBuffer) env s.sel s.globals
        · rw [auth] at found
          cases found
          rw [← ran]
          exact @authWrite_early data (cpc.handed cpc.readBuffer) env s.sel s.globals
      obtain ⟨after,early⟩ := early
      rw [early.left]
      exact @early_phase data (cpc.handed cpc.readBuffer) s.sel _ out after early state outside taken running clear unwritten
  | turning _ turns state known stage =>
      rw [state] at found
      cases found
      have turned := @executeWrite_turned data (cpc.handed cpc.readBuffer) env s.sel s.globals turns stage wanted
      rw [ran] at turned
      exact @turned_phase data (cpc.handed cpc.readBuffer) _ _ _ turned known state
  | over_ _ error closed =>
      rw [error cpc rfl] at found
      cases found
      subst ran
      rw [error cpc rfl]
      exact phase_gone closed
        (by simp [cpError,freeControlProtConn,entering,CpEffect.silent]) (by simp [cpError,freeControlProtConn,entering])

theorem phase_spared (phase : Phase data trace s.sel s.cpc) (spared : s.spares data sel = true) :
    Phase data trace sel s.cpc := by
  generalize live : s.cpc = left at phase
  cases phase with
  | early _ state outside taken running clear unwritten => exact .early _ state outside taken running clear unwritten
  | turning cpc turns state known stage =>
      refine .turning _ turns state known ?_
      cases stage with
      | reading ledger all empty taken running clear unwritten quiet =>
          exact .reading ledger all empty taken running clear unwritten (asks_spared spared live quiet)
      | parsed ledger all empty sized carries clear unwritten quiet =>
          exact .parsed ledger all empty sized carries clear unwritten (asks_spared spared live quiet)
      | computed ledger all empty sized ended stored right unwritten quiet =>
          exact .computed ledger all empty sized ended stored right unwritten (asks_spared spared live quiet)
      | written ledger left taken running done quiet =>
          exact .written ledger left taken running done (asks_spared spared live quiet)
  | over_ _ error closed => exact .over_ _ error closed

theorem preserves_turning (guarded : s.Guarded data) (turning : s.Turning data) (ran : controlStep data s e = some next) :
    next.Turning data := by
  cases e with
  | event kind env =>
      obtain ⟨cpc,live,wanted,handled⟩ := controlStep_handled ran
      have phase := turning.phase live
      cases handled with
      | ended result =>
          exact phase_gone phase.closed (by simp [freeControlProtConn,CpEffect.silent]) (by simp [freeControlProtConn])
      | read called buff handler out arrives found gave =>
          have turned := read_phase phase (guarded.guard cpc live).room wanted arrives found gave
          rw [List.append_assoc] at turned
          exact turned
      | dropped handler out found gave left =>
          have turned := write_phase phase wanted found gave
          rw [left] at turned
          exact turned
      | wrote handler out after served found gave left flushes =>
          have turned := write_phase phase wanted found gave
          rw [left] at turned
          have flushed := flush_phase flushes rfl turned
          rw [List.append_assoc] at flushed
          exact flushed
  | elsewhere sel globals =>
      obtain ⟨spared,rfl⟩ := elsewhere_spares ran
      exact @phase_spared data s sel s.trace turning spared

theorem accepted_turning (data : Nat) (sel : Selector) (g : Globals) (clientFd : Int) :
    (passiveCpSocketHandler data sel g clientFd).Turning data := by
  unfold passiveCpSocketHandler
  dsimp only
  split
  · apply Phase.over_
    · intro cpc live
      cases live
    · exact .inl (by simp [freeControlProtConn])
  · exact .early _ (.inl rfl) (by simp) (initCommand_taken zeroed_taken.1) rfl rfl rfl

theorem runs_turning {fd : Int} {events : List ControlEvent} {last : ControlSession}
    (path : ControlRuns data (passiveCpSocketHandler data sel g fd) events last) :
    last.Guarded data ∧ last.Turning data := by
  apply path.invariant
  · exact ⟨accepted_guarded data sel g fd,accepted_turning data sel g fd⟩
  intro before label next known ran
  exact ⟨preserves_guarded known.1 ran,preserves_turning known.1 known.2 ran⟩

theorem turning_orderly {before later : List CpEffect} (turning : s.Turning data)
    (split : s.trace = before ++ .enter .execute :: (turns ++ later)) : Orderly turns := by
  rcases turning.closed with outside | ⟨whole,⟨⟨first,same,early⟩,once,each⟩,_⟩
  · exact absurd (by rw [split]; simp) outside
  · rw [same] at split
    obtain ⟨_,_,rest⟩ := (List.append_cons_inj_of_notMem early once).mp split
    rw [rest] at each
    rcases List.eq_nil_or_concat turns with rfl | ⟨past,effect,rfl⟩
    · exact ledger_start.orderly
    · rw [List.concat_eq_append] at each ⊢
      exact each_at each (List.append_assoc past [effect] later)

theorem commands_exactly_once {fd : Int} {events : List ControlEvent} {last : ControlSession}
    {before later : List CpEffect} (path : ControlRuns data (passiveCpSocketHandler data sel g fd) events last)
    (split : last.trace = before ++ .enter .execute :: (turns ++ later)) : Orderly turns :=
  turning_orderly (runs_turning path).2 split

-- The right password, then two commands in one segment and in two, with short sends.
def commandSession : List ControlEvent :=
  [adminTakes 7,adminTakes 0,adminTypes (passwordLine adminPassword),adminTakes 1,adminTakes 1,adminTakes 0,
    adminTypes [0x35,0x00],adminTakes 40,adminTakes 500,adminTakes 0,adminTypes [0x37],adminTypes [0x00],adminTakes 1]

theorem two_commands_orderly : ∃ last before turns,
    Transitions.exec (controlStep 3) (passiveCpSocketHandler 3 mainSelector ⟨.empty,true,.start⟩ 7) commandSession =
      some last ∧ last.trace = before ++ .enter .execute :: (turns ++ []) ∧ (commandRuns last.trace).length = 2 ∧
    Orderly turns := by
  have facts : (Transitions.exec (controlStep 3) (passiveCpSocketHandler 3 mainSelector ⟨.empty,true,.start⟩ 7)
      commandSession).map (fun last => (decide (.enter .execute ∈ last.trace),(commandRuns last.trace).length)) =
      some (true,2) := by decide +kernel
  obtain ⟨last,ran,found⟩ := Option.map_eq_some_iff.mp facts
  obtain ⟨entered,twice⟩ := Prod.mk.inj found
  obtain ⟨before,turns,split⟩ := List.append_of_mem (of_decide_eq_true entered)
  have whole : last.trace = before ++ .enter .execute :: (turns ++ []) := by rw [split,List.append_nil]
  exact ⟨last,before,turns,ran,whole,twice,commands_exactly_once (Transitions.exec_runs ran) whole⟩

end Socks5d.ControlProtocol
