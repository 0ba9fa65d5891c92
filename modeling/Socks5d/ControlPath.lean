import Socks5d.Deliveries
import Mathlib.Data.List.Chain

namespace Socks5d.ControlProtocol

def CpEffect.entered : CpEffect → Option ControlProtStmState
  | .enter state => some state
  | _ => none

def entered (trace : List CpEffect) : List ControlProtStmState := trace.filterMap CpEffect.entered

def reachedState (trace : List CpEffect) : ControlProtStmState := (entered trace).getLast?.getD .hello

-- The way through the protocol, with the two places where it can fail.
inductive Onward : ControlProtStmState → ControlProtStmState → Prop where
  | greeted : Onward .hello .auth
  | admitted : Onward .auth .execute
  | refused : Onward .auth .error
  | broken : Onward .execute .error

def cpReceive (env : CpEnv) (cpc : ControlProtConn) : Option (ControlProtConn × List CpEffect) :=
  if bufferCanWrite cpc.readBuffer.raw then
    match env.recv.clip cpc.readBuffer.space with
    | .data bytes => some ({cpc with readBuffer:=cpc.readBuffer.fill bytes},[.recv (.data bytes)])
    | _ => none
  else some (cpc,[])

variable {data : Nat} {s next : ControlSession} {cpc held : ControlProtConn} {env : CpEnv} {key : SelectorKey}
  {sel : Selector} {g : Globals} {kind : EventKind} {e : ControlEvent} {trace effects called got : List CpEffect}
  {state : ControlProtStmState} {fd : Int}

theorem cpReadHandler_receive (env : CpEnv) (key : SelectorKey) (sel : Selector) (g : Globals) (cpc : ControlProtConn) :
    cpReadHandler env key sel g cpc = match cpReceive env cpc with
      | some (held,got) => (cpStmHandler .read env key sel g held).map fun out =>
        ⟨out.sel,out.globals,out.cpc,got ++ out.effects⟩
      | none => some (freeControlProtConn cpc sel g [.recv (env.recv.clip cpc.readBuffer.space),.removeFromList]) := by
  unfold cpReadHandler cpReceive
  split
  · cases env.recv.clip cpc.readBuffer.space with
    | data bytes => rfl
    | closed => rfl
    | failed code => rfl
  · rfl

theorem receive_readable (room : cpc.readBuffer.capacity = bufferSize) (received : cpReceive env cpc = some (held,got)) :
    held.readBuffer.unread ≠ [] := by
  unfold cpReceive at received
  split at received
  · split at received
    · rename_i bytes segment
      obtain ⟨some_,fits⟩ := clip_data segment
      cases received
      rw [CertifiedBuffer.fill_unread,List.take_of_length_le fits]
      simp [some_]
    · cases received
  · rename_i full
    cases received
    rw [CertifiedBuffer.canWrite_space] at full
    exact cpc.readBuffer.full_unread (by omega) (by rw [room]; decide)

theorem executeRead_forward (more : cpc.readBuffer.unread ≠ []) :
    (executeRead env key sel g cpc).next = .execute ∨ (executeRead env key sel g cpc).next = .error := by
  unfold executeRead
  rw [if_neg (by simpa [cpc.readBuffer.canRead_unread] using more)]
  dsimp only
  split
  · exact .inr rfl
  · split
    · exact .inl rfl
    · exact .inl rfl

theorem authRead_forward (more : cpc.readBuffer.unread ≠ []) :
    (authRead env key sel g cpc).next = .auth ∨ (authRead env key sel g cpc).next = .error ∧
      (parseBytes cpapParseByte CpAuthParser.failed CpAuthParser.finished cpc.readBuffer.unread.length cpc.authParser
        cpc.readBuffer).1.failed = true := by
  unfold authRead
  rw [if_neg (by simpa [cpc.readBuffer.canRead_unread] using more)]
  dsimp only
  split
  · rename_i failed
    exact .inr ⟨rfl,failed⟩
  · split
    · exact .inl rfl
    · exact .inl rfl

theorem entered_append (earlier later : List CpEffect) : entered (earlier ++ later) = entered earlier ++ entered later :=
  List.filterMap_append

theorem entered_entering (was next : ControlProtStmState) :
    entered (entering was next) = if was = next then [] else [next] := by
  unfold entering
  split
  · rfl
  · rfl

structure Treads (state : ControlProtStmState) (out : CpOutcome) : Prop where
  onward : out.next = state ∨ Onward state out.next
  silent : entered out.effects = []

theorem helloWrite_treads (fits : cpc.helloWritten = false → helloMsg.length ≤ cpc.writeBuffer.space) :
    Treads .hello (helloWrite env key sel g cpc) ∧
    ((helloWrite env key sel g cpc).next = .hello →
      ∀ after, (helloWrite env key sel g cpc).cpc = some after → after.helloWritten = true) := by
  rcases helloWrite_cases env key sel g cpc with ⟨_,_,ran⟩ | ⟨written,ran⟩ | ⟨_,_,ran⟩ | ⟨unwritten,ran⟩
  · rw [ran]
    exact ⟨⟨.inr .greeted,rfl⟩,fun stays => by cases stays⟩
  · rw [ran]
    refine ⟨⟨.inl rfl,rfl⟩,fun _ after kept => ?_⟩
    cases kept
    exact written
  · rw [ran]
    refine ⟨⟨.inl rfl,rfl⟩,fun _ after kept => ?_⟩
    cases kept
    rfl
  · -- the buffer has room for the greeting, so this is not what happens
    have room := fits unwritten
    have some_ : bufferCanWrite cpc.writeBuffer.raw = true := by
      rw [CertifiedBuffer.canWrite_space]
      exact Nat.lt_of_lt_of_le (by decide) room
    unfold helloWrite at ran
    rw [unwritten,some_,Bool.false_and,if_neg Bool.false_ne_true,Bool.not_false,if_pos rfl,Bool.not_true,
      if_neg Bool.false_ne_true,if_neg (by omega)] at ran
    cases congrArg CpOutcome.next ran

theorem authRead_treads (more : cpc.readBuffer.unread ≠ []) : Treads .auth (authRead env key sel g cpc) := by
  refine ⟨?_,?_⟩
  · rcases @authRead_forward cpc env key sel g more with stays | ⟨fails,_⟩
    · exact .inl stays
    · rw [fails]
      exact .inr .refused
  · unfold authRead
    split
    · rfl
    · dsimp only
      split
      · rfl
      · split
        · rfl
        · rfl

theorem authWrite_treads : Treads .auth (authWrite env key sel g cpc) := by
  rcases authWrite_cases env key sel g cpc with ⟨_,_,ran⟩ | ⟨_,_,ran⟩ | ⟨_,_,ran⟩ | ⟨_,_,_,ran⟩ | ⟨_,_,_,ran⟩
  · rw [ran]; exact ⟨.inr .admitted,rfl⟩
  all_goals rw [ran]; exact ⟨.inl rfl,rfl⟩

theorem executeRead_treads (more : cpc.readBuffer.unread ≠ []) : Treads .execute (executeRead env key sel g cpc) := by
  refine ⟨?_,?_⟩
  · rcases @executeRead_forward cpc env key sel g more with stays | fails
    · exact .inl stays
    · rw [fails]
      exact .inr .broken
  · unfold executeRead
    split
    · rfl
    · dsimp only
      split
      · rfl
      · split
        · rfl
        · rfl

theorem executeAnswer_treads (answer : List UInt8) (silent : entered called = []) :
    Treads .execute (executeAnswer env sel g cpc answer called) := by
  rcases executeAnswer_cases env sel g cpc answer called with ⟨_,ran⟩ | ⟨_,ran⟩
  · rw [ran]
    exact ⟨.inl rfl,silent⟩
  · rw [ran]
    refine ⟨.inl rfl,?_⟩
    dsimp only
    rw [entered_append,silent]
    rfl

theorem executeWrite_treads : Treads .execute (executeWrite env key sel g cpc) := by
  rcases executeWrite_cases env key sel g cpc with ⟨_,_,ran⟩ | ⟨_,_,ran⟩ | ⟨answer,_,_,ran⟩ | ⟨_,_,_,ran⟩ |
    ⟨command,_,_,_,ran⟩
  · rw [ran]; exact ⟨.inl rfl,rfl⟩
  · rw [ran]; exact ⟨.inl rfl,rfl⟩
  · rw [ran]; exact executeAnswer_treads answer rfl
  · rw [ran]; exact ⟨.inr .broken,rfl⟩
  · rw [ran]
    cases (command env.malloc g cpc.commandParser).1 with
    | none => exact ⟨.inr .broken,rfl⟩
    | some answer => exact executeAnswer_treads answer rfl

theorem handler_treads {handler : CpStateHandler} (found : cpStateHandler kind state = some handler)
    (readable : kind = .read → cpc.readBuffer.unread ≠ [])
    (fits : state = .hello → cpc.helloWritten = false → helloMsg.length ≤ cpc.writeBuffer.space) :
    Treads state (handler env key sel g cpc) := by
  rcases cpStateHandler_cases found with ⟨rfl,_,rfl⟩ | ⟨rfl,⟨read,rfl⟩ | ⟨_,rfl⟩⟩ | ⟨rfl,⟨read,rfl⟩ | ⟨_,rfl⟩⟩ | ⟨rfl,rfl⟩
  · exact (helloWrite_treads (fits rfl)).1
  · exact authRead_treads (readable read)
  · exact authWrite_treads
  · exact executeRead_treads (readable read)
  · exact executeWrite_treads
  · exact ⟨.inl rfl,rfl⟩

structure ControlSession.Forward (s : ControlSession) : Prop where
  chain : (.hello :: entered s.trace).IsChain Onward
  here : ∀ cpc, s.cpc = some cpc → cpc.current = reachedState s.trace
  fits : ∀ cpc, s.cpc = some cpc → cpc.current = .hello → cpc.helloWritten = false →
    helloMsg.length ≤ cpc.writeBuffer.space

theorem last_cons (state : ControlProtStmState) (states : List ControlProtStmState) :
    (state::states).getLast? = some (states.getLast?.getD state) := by
  induction states generalizing state with
  | nil => rfl
  | cons next rest ih => rw [List.getLast?_cons_cons,ih next]; rfl

theorem path_onward (chain : (.hello :: entered trace).IsChain Onward) {next : ControlProtStmState}
    (onward : next = reachedState trace ∨ Onward (reachedState trace) next)
    (new : entered effects = if reachedState trace = next then [] else [next]) :
    (.hello :: entered (trace ++ effects)).IsChain Onward ∧ reachedState (trace ++ effects) = next := by
  rw [reachedState,entered_append,new]
  by_cases same : reachedState trace = next
  · rw [if_pos same,List.append_nil]
    exact ⟨chain,same⟩
  · rw [if_neg same]
    have moves := onward.resolve_left fun contrary => same contrary.symm
    refine ⟨?_,by rw [List.getLast?_append,List.getLast?_singleton]; rfl⟩
    rw [← List.cons_append]
    refine chain.append (List.isChain_singleton _) ?_
    intro before last after first
    rw [last_cons] at last
    cases last
    cases first
    exact moves

theorem arrives_silent {buff : CertifiedBuffer} (arrives : Arrives env cpc called buff) : entered called = [] := by
  cases arrives with
  | segment => rfl
  | full => rfl

theorem flushes_silent {served : CpServed} (flushes : Flushes env sel g cpc served) : entered served.effects = [] := by
  cases flushes with
  | stopped => rfl
  | idle => rfl
  | sent => rfl
  | broken => rfl

theorem flushes_kept {served : CpServed} {after : ControlProtConn} (flushes : Flushes env sel g cpc served)
    (left : served.cpc = some after) : after.current = cpc.current ∧ after.helloWritten = cpc.helloWritten := by
  cases flushes with
  | stopped => cases left; exact ⟨rfl,rfl⟩
  | idle => cases left; exact ⟨rfl,rfl⟩
  | sent => cases left; exact ⟨rfl,rfl⟩
  | broken => cases left

theorem freed_forward (chain : (.hello :: entered s.trace).IsChain Onward) (gone : s.cpc = none) : s.Forward := by
  refine ⟨chain,?_,?_⟩
  · intro cpc live
    cases gone.symm.trans live
  · intro cpc live
    cases gone.symm.trans live

theorem preserves_forward (guarded : s.Guarded data) (forward : s.Forward) (ran : controlStep data s e = some next) :
    next.Forward := by
  obtain ⟨chain,here,fits⟩ := forward
  cases e with
  | event kind env =>
      obtain ⟨cpc,live,_,handled⟩ := controlStep_handled ran
      have room := (guarded.guard cpc live).room
      have state := here cpc live
      cases handled with
      | ended result =>
          have silent : entered (s.trace ++ ([] ++ [.recv result,.removeFromList,.close cpc.fd])) = entered s.trace :=
            (entered_append _ _).trans (List.append_nil _)
          refine freed_forward ?_ rfl
          change (.hello :: entered (s.trace ++ ([] ++ [.recv result,.removeFromList,.close cpc.fd]))).IsChain Onward
          rw [silent]
          exact chain
      | read called buff handler out arrives found gave =>
          obtain ⟨more,_⟩ := arrives_parts arrives room (by decide)
          obtain ⟨onward,silent⟩ := @handler_treads (cpc.handed buff) env ⟨cpc.fd,data⟩ s.sel s.globals .read _
            handler found (fun _ => more) (fun hello => fits cpc live hello)
          rw [gave] at onward silent
          rw [state] at onward
          have new : entered (called ++ (out.effects ++ entering cpc.current out.next)) =
              if reachedState s.trace = out.next then [] else [out.next] := by
            rw [entered_append,entered_append,arrives_silent arrives,silent,entered_entering,state]
            rfl
          obtain ⟨longer,reached⟩ := path_onward chain onward new
          refine ⟨longer,?_,?_⟩
          · intro after left
            obtain ⟨middle,_,same⟩ := Option.map_eq_some_iff.mp left
            rw [← same]
            exact reached.symm
          · intro after left hello
            obtain ⟨middle,_,same⟩ := Option.map_eq_some_iff.mp left
            rw [← same] at hello
            rw [← gave] at hello
            exact absurd (handler_hello found hello).1 (by simp)
      | dropped handler out found gave gone =>
          obtain ⟨onward,silent⟩ := @handler_treads (cpc.handed cpc.readBuffer) env ⟨cpc.fd,data⟩ s.sel s.globals .write _
            handler found (fun read => by cases read) (fun hello => fits cpc live hello)
          rw [gave] at onward silent
          rw [state] at onward
          have new : entered ([] ++ (out.effects ++ entering cpc.current out.next)) =
              if reachedState s.trace = out.next then [] else [out.next] := by
            rw [List.nil_append,entered_append,silent,entered_entering,state]
            rfl
          exact freed_forward (path_onward chain onward new).1 rfl
      | wrote handler out after served found gave stored flushes =>
          obtain ⟨onward,silent⟩ := @handler_treads (cpc.handed cpc.readBuffer) env ⟨cpc.fd,data⟩ s.sel s.globals .write _
            handler found (fun read => by cases read) (fun hello => fits cpc live hello)
          rw [gave] at onward silent
          rw [state] at onward
          have new : entered (out.effects ++ entering cpc.current out.next ++ served.effects) =
              if reachedState s.trace = out.next then [] else [out.next] := by
            rw [entered_append,entered_append,flushes_silent flushes,silent,entered_entering,state,List.append_nil]
            rfl
          obtain ⟨longer,reached⟩ := path_onward chain onward new
          refine ⟨longer,?_,?_⟩
          · intro last left
            exact (flushes_kept flushes left).1.trans reached.symm
          · intro last left hello unwritten
            obtain ⟨same,written⟩ := flushes_kept flushes left
            have stays : out.next = .hello := same.symm.trans hello
            rw [← gave] at stays
            obtain ⟨_,was,_⟩ := handler_hello found stays
            rw [was] at found
            cases found
            rw [← gave] at stored
            have greeted := (@helloWrite_treads (cpc.handed cpc.readBuffer) env ⟨cpc.fd,data⟩ s.sel s.globals
              (fun unwritten => fits cpc live was unwritten)).2 stays after stored
            rw [written] at unwritten
            exact absurd (greeted.symm.trans unwritten) (by simp)
  | elsewhere sel globals =>
      obtain ⟨_,rfl⟩ := elsewhere_spares ran
      exact ⟨chain,here,fits⟩

theorem accepted_forward (data : Nat) (sel : Selector) (g : Globals) (clientFd : Int) :
    (passiveCpSocketHandler data sel g clientFd).Forward := by
  unfold passiveCpSocketHandler
  dsimp only
  split
  · exact freed_forward (List.isChain_singleton _) rfl
  · refine ⟨List.isChain_singleton _,?_,?_⟩
    · intro cpc live
      cases live
      rfl
    · intro cpc live _ _
      cases live
      change helloMsg.length ≤ (CertifiedBuffer.init bufferSize).space
      decide

theorem runs_forward {events : List ControlEvent} {last : ControlSession}
    (path : ControlRuns data (passiveCpSocketHandler data sel g fd) events last) : last.Forward := by
  have both : last.Guarded data ∧ last.Forward := by
    refine @Transitions.Runs.invariant _ _ _ _ _ _ (fun s : ControlSession => s.Guarded data ∧ s.Forward) path
      ⟨accepted_guarded data sel g fd,accepted_forward data sel g fd⟩ ?_
    rintro before event next ⟨guarded,forward⟩ ran
    exact ⟨preserves_guarded guarded ran,preserves_forward guarded forward ran⟩
  exact both.2

theorem error_stm {out : CpOutcome} (failed : cpc.current = .error)
    (ran : cpStmHandler kind env key sel g cpc = some out) : out.cpc = none := by
  obtain ⟨handler,found,same⟩ := cpStm_some ran
  rw [failed] at found
  rw [← same]
  rcases cpStateHandler_cases found with ⟨other,_⟩ | ⟨other,_⟩ | ⟨other,_⟩ | ⟨_,rfl⟩
  · cases other
  · cases other
  · cases other
  · rfl

theorem error_freed (failed : cpc.current = .error) {served : CpServed}
    (ran : cpEvent kind env key sel g cpc = some served) : served.cpc = none := by
  cases kind with
  | read =>
      have ran := (cpReadHandler_receive env key sel g cpc).symm.trans ran
      cases received : cpReceive env cpc with
      | none =>
          rw [received] at ran
          cases ran
          rfl
      | some parts =>
          obtain ⟨held,got⟩ := parts
          have same : held.current = cpc.current := by
            unfold cpReceive at received
            split at received
            · split at received
              · cases received
                rfl
              · cases received
            · cases received
              rfl
          rw [received] at ran
          obtain ⟨out,handled,rfl⟩ := Option.map_eq_some_iff.mp ran
          exact error_stm (same.trans failed) handled
  | write =>
      obtain ⟨out,handled,same⟩ := Option.map_eq_some_iff.mp ran
      rw [error_stm failed handled] at same
      rw [← same]
  | block => cases ran

theorem control_moves_forward (data : Nat) (sel : Selector) (g : Globals) (fd : Int) (events : List ControlEvent)
    (last : ControlSession) (path : ControlRuns data (passiveCpSocketHandler data sel g fd) events last) :
    (.hello :: entered last.trace).IsChain Onward ∧ ∀ cpc, last.cpc = some cpc →
      cpc.current = reachedState last.trace ∧
      (cpc.current = .error → ∀ kind env key served, cpEvent kind env key last.sel last.globals cpc = some served →
        served.cpc = none) ∧
      ∀ env held got, cpReceive env cpc = some (held,got) → held.readBuffer.unread ≠ [] ∧
        ∀ key sel g, (executeRead env key sel g held).next ≠ .auth ∧
          ((authRead env key sel g held).next = .error → (parseBytes cpapParseByte CpAuthParser.failed
            CpAuthParser.finished held.readBuffer.unread.length held.authParser held.readBuffer).1.failed = true) := by
  obtain ⟨chain,here,_⟩ := runs_forward path
  refine ⟨chain,?_⟩
  intro cpc live
  refine ⟨here cpc live,fun failed _ _ _ _ ran => error_freed failed ran,?_⟩
  intro env held got received
  have more := receive_readable ((runs_guarded path).guard cpc live).room received
  refine ⟨more,fun key sel g => ⟨?_,?_⟩⟩
  · rcases @executeRead_forward held env key sel g more with stays | fails
    · rw [stays]; simp
    · rw [fails]; simp
  · intro fails
    rcases @authRead_forward held env key sel g more with stays | ⟨_,failed⟩
    · cases stays.symm.trans fails
    · exact failed

theorem adminSession_forward : ∃ last,
    Transitions.exec (controlStep 3) (passiveCpSocketHandler 3 mainSelector ⟨.empty,true,.start⟩ 7) adminSession =
      some last ∧ entered last.trace = [.auth,.execute] ∧ (.hello :: entered last.trace).IsChain Onward ∧
    ∀ cpc, last.cpc = some cpc → cpc.current = reachedState last.trace ∧
      ∀ env held got, cpReceive env cpc = some (held,got) → held.readBuffer.unread ≠ [] := by
  have facts : (Transitions.exec (controlStep 3) (passiveCpSocketHandler 3 mainSelector ⟨.empty,true,.start⟩ 7)
      adminSession).map (fun last => entered last.trace) = some [.auth,.execute] := by decide +kernel
  obtain ⟨last,ran,path⟩ := Option.map_eq_some_iff.mp facts
  obtain ⟨chain,live⟩ := control_moves_forward 3 mainSelector ⟨.empty,true,.start⟩ 7 adminSession last
    (Transitions.exec_runs ran)
  refine ⟨last,ran,path,chain,?_⟩
  intro cpc held
  obtain ⟨here,_,reads⟩ := live cpc held
  exact ⟨here,fun env held got received => (reads env held got received).1⟩

end Socks5d.ControlProtocol
