import Socks5d.ConnList
import Socks5d.CommandDecoding
import Socks5d.ControlPath
import Socks5d.Foundations.Lanes

namespace Socks5d.ControlProtocol
open Transitions

structure MgmtRecord where
  server : MgmtServer
  calls : List (Nat × CpEffect)

def MgmtServer.callsIn (s : MgmtServer) : MgmtEvent → List (Nat × CpEffect)
  | .accept clientFd nio memory =>
    if decide (clientFd < 0) || !nio || !memory then []
    else (passiveCpSocketHandler s.nextId s.sel s.globals clientFd).trace.map fun effect => (s.nextId,effect)
  | .event kind id env => ((controlStep id (s.session id) (.event kind env)).map fun after =>
      after.trace.map fun effect => (id,effect)).getD []
  | .elsewhere _ _ => []

def recordStep (r : MgmtRecord) (e : MgmtEvent) : Option MgmtRecord :=
  (mgmtStep r.server e).map fun next => ⟨next,r.calls ++ r.server.callsIn e⟩

def recordStart (sel : Selector) (g : Globals) : MgmtRecord := ⟨mgmtStart sel g,[]⟩

def MgmtRecord.session (r : MgmtRecord) (id : Nat) : ControlSession :=
  ⟨r.server.sel,r.server.globals,r.server.conns id,ownCalls id r.calls⟩

-- What an event is to the connection `id`: its own, or a change of what it shares.
def MgmtRecord.moves (id : Nat) (r : MgmtRecord) (e : MgmtEvent) : List ControlEvent :=
  match e,mgmtStep r.server e with
  | .event kind number env,some next =>
    if number = id then [.event kind env] else [.elsewhere next.sel next.globals]
  | _,some next => [.elsewhere next.sel next.globals]
  | _,none => []

variable {data : Nat} {s next : ControlSession} {cpc after : ControlProtConn} {env : CpEnv} {key : SelectorKey}
  {sel changed middle : Selector} {g : Globals} {kind : EventKind} {state : ControlProtStmState} {fd : Int}
  {r opened last : MgmtRecord} {e : MgmtEvent} {id : Nat} {events before : List MgmtEvent} {server : MgmtServer}

def OnlyAt (fd : Int) (sel changed : Selector) : Prop := ∀ other, other ≠ fd → changed.registered other = sel.registered other

theorem only_refl (fd : Int) (sel : Selector) : OnlyAt fd sel sel := fun _ _ => rfl

theorem only_trans (first : OnlyAt fd sel middle) (second : OnlyAt fd middle changed) : OnlyAt fd sel changed :=
  fun other differs => (second other differs).trans (first other differs)

theorem setInterest_only (sel : Selector) (fd : Int) (i : FdInterest) : OnlyAt fd sel (selectorSetInterest sel fd i).2 := by
  intro other differs
  rw [setInterest_registered,if_neg differs]

theorem freed_only (cpc : ControlProtConn) (sel : Selector) (g : Globals) (called : List CpEffect) :
    OnlyAt cpc.fd sel (freeControlProtConn cpc sel g called).sel := by
  intro other differs
  unfold freeControlProtConn
  dsimp only
  rw [unregister_registered,if_neg differs]

theorem executeAnswer_only (answer : List UInt8) (called : List CpEffect) :
    (executeAnswer env sel g cpc answer called).sel = sel := by
  rcases executeAnswer_cases env sel g cpc answer called with ⟨_,ran⟩ | ⟨_,ran⟩
  · rw [ran]
  · rw [ran]

theorem executeWrite_only : OnlyAt key.fd sel (executeWrite env key sel g cpc).sel := by
  rcases executeWrite_cases env key sel g cpc with ⟨_,_,ran⟩ | ⟨_,_,ran⟩ | ⟨answer,_,_,ran⟩ | ⟨_,_,_,ran⟩ |
    ⟨command,_,_,_,ran⟩
  · rw [ran]; exact setInterest_only _ _ _
  · rw [ran]; exact only_refl _ _
  · rw [ran,executeAnswer_only]; exact only_refl _ _
  · rw [ran]; exact only_refl _ _
  · rw [ran]
    cases (command env.malloc g cpc.commandParser).1 with
    | none => exact only_refl _ _
    | some answer =>
        dsimp only
        rw [executeAnswer_only]
        exact only_refl _ _

theorem handler_only {handler : CpStateHandler} (found : cpStateHandler kind state = some handler)
    (own : key.fd = cpc.fd) : OnlyAt cpc.fd sel (handler env key sel g cpc).sel := by
  rw [← own]
  rcases cpStateHandler_cases found with ⟨_,_,rfl⟩ | ⟨_,⟨_,rfl⟩ | ⟨_,rfl⟩⟩ | ⟨_,⟨_,rfl⟩ | ⟨_,rfl⟩⟩ | ⟨_,rfl⟩
  · rcases helloWrite_cases env key sel g cpc with ⟨_,_,ran⟩ | ⟨_,ran⟩ | ⟨_,_,ran⟩ | ⟨_,ran⟩
    · rw [ran]; exact setInterest_only _ _ _
    all_goals rw [ran]; exact only_refl _ _
  · unfold authRead
    split
    · exact only_refl _ _
    · dsimp only
      split
      · exact only_refl _ _
      · split
        · exact setInterest_only _ _ _
        · exact only_refl _ _
  · rcases authWrite_cases env key sel g cpc with ⟨_,_,ran⟩ | ⟨_,_,ran⟩ | ⟨_,_,ran⟩ | ⟨_,_,_,ran⟩ | ⟨_,_,_,ran⟩
    · rw [ran]; exact setInterest_only _ _ _
    · rw [ran]; exact only_refl _ _
    · rw [ran]; exact only_refl _ _
    · rw [ran]; exact setInterest_only _ _ _
    · rw [ran]; exact only_refl _ _
  · unfold executeRead
    split
    · exact only_refl _ _
    · dsimp only
      split
      · exact only_refl _ _
      · split
        · exact setInterest_only _ _ _
        · exact only_refl _ _
  · exact executeWrite_only
  · rw [own]
    exact freed_only cpc sel g []

theorem flush_only {served : CpServed} (flushes : Flushes env sel g cpc served) : OnlyAt cpc.fd sel served.sel := by
  cases flushes with
  | stopped => exact only_refl _ _
  | idle => exact only_refl _ _
  | sent => exact only_refl _ _
  | broken => exact freed_only cpc sel g _

theorem event_only (live : s.cpc = some cpc) (ran : controlStep data s (.event kind env) = some next) :
    OnlyAt cpc.fd s.sel next.sel := by
  obtain ⟨same,found_,_,handled⟩ := controlStep_handled ran
  cases live.symm.trans found_
  cases handled with
  | ended result => exact freed_only cpc s.sel s.globals [.recv result,.removeFromList]
  | read called buff handler out arrives found gave =>
      have only := @handler_only (cpc.handed buff) env ⟨cpc.fd,data⟩ s.sel s.globals _ _ handler found rfl
      rw [gave] at only
      exact only
  | dropped handler out found gave gone =>
      have only := @handler_only (cpc.handed cpc.readBuffer) env ⟨cpc.fd,data⟩ s.sel s.globals _ _ handler found rfl
      rw [gave] at only
      exact only
  | wrote handler out middle served found gave left flushes =>
      have only := @handler_only (cpc.handed cpc.readBuffer) env ⟨cpc.fd,data⟩ s.sel s.globals _ _ handler found rfl
      have going := kept_sane found ((congrArg _ gave).trans left)
      obtain ⟨⟨stays,kept,fd⟩,_⟩ := @handler_stays (cpc.handed cpc.readBuffer) env ⟨cpc.fd,data⟩ s.sel
        s.globals _ _ handler found going
      rw [gave] at only kept
      cases left.symm.trans kept
      have sent := flush_only flushes
      rw [show (middle.jumped out.next).fd = cpc.fd from fd] at sent
      exact only_trans only sent

theorem register_only (sel : Selector) (fd : Int) (i : FdInterest) (data : Option Nat) {other : Int} {item : Item}
    (differs : other ≠ fd) (found : (selectorRegister sel fd (some .cpFd) i data).2.registered other = some item) :
    sel.registered other = some item := by
  rcases register_registered found with kept | ⟨same,_⟩
  · exact kept
  · exact absurd same differs

theorem own_kept (kept : ∀ item, changed.registered cpc.fd = some item → sel.registered cpc.fd = some item) :
    ownEntry data cpc changed = none ∨ ownEntry data cpc changed = ownEntry data cpc sel := by
  cases found : changed.registered cpc.fd with
  | none =>
      left
      unfold ownEntry
      rw [found]
      rfl
  | some item =>
      right
      unfold ownEntry
      rw [found,kept item found]

theorem spares_kept (kept : ∀ cpc, s.cpc = some cpc → ∀ item, changed.registered cpc.fd = some item →
    s.sel.registered cpc.fd = some item) : s.spares data changed = true := by
  unfold ControlSession.spares
  cases live : s.cpc with
  | none => rfl
  | some cpc =>
      rw [Option.all_some,Bool.or_eq_true,decide_eq_true_eq,decide_eq_true_eq]
      exact own_kept (kept cpc live)

-- Two living connections have two descriptors, and those that called are among the numbers
-- given so far.
structure MgmtRecord.Apart (r : MgmtRecord) : Prop where
  apart : ∀ id other cpc after, r.server.conns id = some cpc → r.server.conns other = some after → cpc.fd = after.fd →
    id = other
  known : ∀ id, r.server.nextId ≤ id → r.server.conns id = none
  called : ∀ call ∈ r.calls, call.1 < r.server.nextId

theorem start_apart (sel : Selector) (g : Globals) : (recordStart sel g).Apart :=
  ⟨fun _ _ _ _ live => (by cases live),fun _ _ => rfl,fun _ member => absurd member List.not_mem_nil⟩

theorem fresh_fd (apart : r.Apart) (granted : r.server.grants fd = true) (live : r.server.conns id = some cpc) :
    cpc.fd ≠ fd := by
  simp only [MgmtServer.grants,Bool.and_eq_true,List.all_eq_true,List.mem_range] at granted
  have given : id < r.server.nextId := by
    by_contra above
    rw [apart.known id (Nat.le_of_not_lt above)] at live
    cases live
  have free := granted.2 id given
  rw [live,Option.all_some] at free
  exact of_decide_eq_true free

inductive Recorded (r : MgmtRecord) : MgmtEvent → MgmtRecord → Prop where
  | refused {clientFd nio memory} : (decide (clientFd < 0) || !nio || !memory) = true →
      Recorded r (.accept clientFd nio memory) r
  | accepted {clientFd} : r.server.grants clientFd = true → 0 ≤ clientFd →
      Recorded r (.accept clientFd true true)
        ⟨⟨(passiveCpSocketHandler r.server.nextId r.server.sel r.server.globals clientFd).sel,
          (passiveCpSocketHandler r.server.nextId r.server.sel r.server.globals clientFd).globals,
          Function.update r.server.conns r.server.nextId
            (passiveCpSocketHandler r.server.nextId r.server.sel r.server.globals clientFd).cpc,
          addToList r.server.connList (r.server.nextId,clientFd),r.server.nextId+1⟩,
          r.calls ++ (passiveCpSocketHandler r.server.nextId r.server.sel r.server.globals clientFd).trace.map
            fun effect => (r.server.nextId,effect)⟩
  | event {kind id env cpc after connList} : r.server.conns id = some cpc →
      controlStep id (r.server.session id) (.event kind env) = some after →
      Recorded r (.event kind id env)
        ⟨⟨after.sel,after.globals,Function.update r.server.conns id after.cpc,connList,r.server.nextId⟩,
          r.calls ++ after.trace.map fun effect => (id,effect)⟩
  | elsewhere {sel globals} : ((List.range r.server.nextId).all fun id => (r.server.session id).spares id sel) = true →
      Recorded r (.elsewhere sel globals) ⟨{r.server with sel:=sel,globals:=globals},r.calls⟩

theorem record_steps (ran : recordStep r e = some last) : Recorded r e last := by
  obtain ⟨next,step,rfl⟩ := Option.map_eq_some_iff.mp ran
  cases e with
  | accept clientFd nio memory =>
      unfold mgmtStep at step
      dsimp only at step
      split at step
      · rename_i granted
        unfold MgmtServer.callsIn
        dsimp only
        split at step
        · rename_i failed
          cases step
          rw [if_pos failed,List.append_nil]
          exact .refused failed
        · rename_i goes
          cases step
          rw [if_neg goes]
          simp only [Bool.or_eq_true,Bool.not_eq_true',not_or,decide_eq_true_eq,Bool.not_eq_false] at goes
          obtain ⟨⟨low,rfl⟩,rfl⟩ := goes
          exact .accepted granted (by omega)
      · cases step
  | event kind id env =>
      obtain ⟨cpc,live,step⟩ := Option.bind_eq_some_iff.mp step
      obtain ⟨after,served,rfl⟩ := Option.map_eq_some_iff.mp step
      unfold MgmtServer.callsIn
      dsimp only
      rw [served,Option.map_some,Option.getD_some]
      exact .event live served
  | elsewhere sel globals =>
      unfold mgmtStep at step
      dsimp only at step
      split at step
      · rename_i spared
        cases step
        unfold MgmtServer.callsIn
        rw [List.append_nil]
        exact .elsewhere spared
      · cases step

theorem step_apart (apart : r.Apart) (ran : recordStep r e = some last) : last.Apart := by
  cases record_steps ran with
  | refused _ => exact apart
  | @accepted clientFd granted low =>
      have kept : ∀ cpc, (passiveCpSocketHandler r.server.nextId r.server.sel r.server.globals clientFd).cpc = some cpc →
          cpc.fd = clientFd := by
        intro cpc live
        unfold passiveCpSocketHandler at live
        dsimp only at live
        split at live
        · cases live
        · cases live
          rfl
      refine ⟨?_,?_,?_⟩
      · intro id other cpc after live live' same
        dsimp only at live live'
        by_cases new : id = r.server.nextId
        · by_cases new' : other = r.server.nextId
          · rw [new,new']
          · rw [new,Function.update_self] at live
            rw [Function.update_of_ne new'] at live'
            exact absurd (same.symm.trans (kept cpc live)) (fresh_fd apart granted live')
        · rw [Function.update_of_ne new] at live
          by_cases new' : other = r.server.nextId
          · rw [new',Function.update_self] at live'
            exact absurd (same.trans (kept after live')) (fresh_fd apart granted live)
          · rw [Function.update_of_ne new'] at live'
            exact apart.apart id other cpc after live live' same
      · intro id above
        have differs : id ≠ r.server.nextId := Nat.ne_of_gt above
        exact (Function.update_of_ne differs _ _).trans (apart.known id (Nat.le_of_succ_le above))
      · intro call member
        rcases List.mem_append.mp member with earlier | fresh
        · exact Nat.lt_succ_of_lt (apart.called call earlier)
        · obtain ⟨effect,_,rfl⟩ := List.mem_map.mp fresh
          exact Nat.lt_succ_self _
  | @event kind number env cpc after connList live served =>
      have fate : Fate cpc kind env after := event_fate (show (r.server.session number).cpc = some cpc from live) rfl served
      have kept : ∀ left, after.cpc = some left → left.fd = cpc.fd := by
        intro left stays
        cases fate with
        | stays middle stored same _ _ =>
            cases stored.symm.trans stays
            exact same
        | unlinked gone => cases gone.symm.trans stays
        | dangling gone => cases gone.symm.trans stays
      have given : number < r.server.nextId := by
        by_contra above
        rw [apart.known number (Nat.le_of_not_lt above)] at live
        cases live
      have was : ∀ id left, Function.update r.server.conns number after.cpc id = some left →
          ∃ old, r.server.conns id = some old ∧ old.fd = left.fd := by
        intro id left found
        by_cases own : id = number
        · rw [own,Function.update_self] at found
          exact ⟨cpc,own ▸ live,(kept left found).symm⟩
        · rw [Function.update_of_ne own] at found
          exact ⟨left,found,rfl⟩
      refine ⟨?_,?_,?_⟩
      · intro id other first second live' live'' same
        obtain ⟨old,found,fd⟩ := was id first live'
        obtain ⟨old',found',fd'⟩ := was other second live''
        exact apart.apart id other old old' found found' (fd.trans (same.trans fd'.symm))
      · intro id above
        have differs : id ≠ number := Nat.ne_of_gt (Nat.lt_of_lt_of_le given above)
        exact (Function.update_of_ne differs _ _).trans (apart.known id above)
      · intro call member
        rcases List.mem_append.mp member with earlier | fresh
        · exact apart.called call earlier
        · obtain ⟨effect,_,rfl⟩ := List.mem_map.mp fresh
          exact given
  | elsewhere _ => exact ⟨apart.apart,apart.known,apart.called⟩

theorem elsewhere_followed {sel : Selector} {globals : Globals} (moved : r.moves id e = [.elsewhere sel globals])
    (spared : (r.session id).spares id sel = true)
    (kept : last.session id = {r.session id with sel:=sel,globals:=globals}) :
    exec (controlStep id) (r.session id) (r.moves id e) = some (last.session id) := by
  rw [moved,exec_one,controlStep,if_pos spared,kept]

theorem moves_elsewhere (ran : recordStep r e = some last) (other : ∀ kind env, e ≠ .event kind id env) :
    r.moves id e = [.elsewhere last.server.sel last.server.globals] := by
  obtain ⟨next,step,rfl⟩ := Option.map_eq_some_iff.mp ran
  unfold MgmtRecord.moves
  rw [step]
  cases e with
  | event kind number env =>
      by_cases same : number = id
      · exact absurd (same ▸ rfl) (other kind env)
      · dsimp only
        rw [if_neg same]
  | accept clientFd nio memory => rfl
  | elsewhere sel globals => rfl

theorem event_onto {trace : List CpEffect} (quiet : s.trace = [])
    (ran : controlStep data s (.event kind env) = some next) :
    controlStep data {s with trace:=trace} (.event kind env) = some {next with trace:=trace ++ next.trace} := by
  obtain ⟨cpc,live,ran⟩ := Option.bind_eq_some_iff.mp ran
  split at ran
  · rename_i wanted
    obtain ⟨served,handled,rfl⟩ := Option.map_eq_some_iff.mp ran
    unfold controlStep
    dsimp only
    rw [live,Option.bind_some,if_pos wanted,handled,Option.map_some,quiet,List.nil_append]
  · cases ran

theorem record_followed (apart : r.Apart) (given : id < r.server.nextId) (ran : recordStep r e = some last) :
    id < last.server.nextId ∧ exec (controlStep id) (r.session id) (r.moves id e) = some (last.session id) := by
  cases record_steps ran with
  | refused _ =>
      refine ⟨given,elsewhere_followed (moves_elsewhere ran (fun _ _ same => by cases same)) ?_ rfl⟩
      exact spares_kept fun _ _ _ found => found
  | @accepted clientFd granted low =>
      have differs : r.server.nextId ≠ id := Nat.ne_of_gt given
      refine ⟨Nat.lt_succ_of_lt given,
        elsewhere_followed (moves_elsewhere ran (fun _ _ same => by cases same)) ?_ ?_⟩
      · refine spares_kept ?_
        intro cpc live item found
        have fresh := fresh_fd apart granted live
        unfold passiveCpSocketHandler at found
        dsimp only at found
        split at found
        · rw [freed_only _ _ _ _ _ fresh] at found
          exact register_only _ _ _ _ fresh found
        · exact register_only _ _ _ _ fresh found
      · unfold MgmtRecord.session
        dsimp only
        rw [ownCalls_other differs,Function.update_of_ne (Ne.symm differs)]
  | @event kind number env cpc after connList live served =>
      refine ⟨given,?_⟩
      by_cases own : number = id
      · subst own
        have moved : r.moves number (.event kind number env) = [.event kind env] := by
          obtain ⟨next,step,_⟩ := Option.map_eq_some_iff.mp ran
          unfold MgmtRecord.moves
          rw [step]
          dsimp only
          rw [if_pos rfl]
        have onto := @event_onto number (r.server.session number) after env kind (ownCalls number r.calls) rfl served
        rw [moved,exec_one]
        refine onto.trans ?_
        unfold MgmtRecord.session
        dsimp only
        rw [ownCalls_same,Function.update_self]
      · refine elsewhere_followed (moves_elsewhere ran ?_) ?_ ?_
        · intro kind' env' same
          cases same
          exact own rfl
        · refine spares_kept ?_
          intro mine found item registered
          have differs : mine.fd ≠ cpc.fd := fun same => own (apart.apart _ _ _ _ live found same.symm)
          have only := event_only (show (r.server.session number).cpc = some cpc from live) served mine.fd differs
          exact only.symm.trans registered
        · unfold MgmtRecord.session
          dsimp only
          rw [ownCalls_other own,Function.update_of_ne (Ne.symm own)]
  | @elsewhere sel globals spared =>
      refine ⟨given,elsewhere_followed (moves_elsewhere ran (fun _ _ same => by cases same)) ?_ rfl⟩
      rw [List.all_eq_true] at spared
      exact spared id (List.mem_range.mpr given)

theorem record_apart {sel : Selector} {g : Globals} (ran : exec recordStep (recordStart sel g) events = some r) :
    r.Apart :=
  (exec_runs ran).invariant (start_apart sel g) (fun _ _ _ apart ran => step_apart apart ran)

theorem control_isolated {sel : Selector} {g : Globals} {clientFd : Int} {nio memory : Bool}
    (path : exec recordStep (recordStart sel g) before = some r)
    (accepted : recordStep r (.accept clientFd nio memory) = some opened)
    (made : r.server.nextId < opened.server.nextId) (rest : exec recordStep opened events = some last) :
    ControlRuns r.server.nextId (passiveCpSocketHandler r.server.nextId r.server.sel r.server.globals clientFd)
      (lane recordStep (MgmtRecord.moves r.server.nextId) opened events) (last.session r.server.nextId) ∧
    (.hello :: entered (ownCalls r.server.nextId last.calls)).IsChain Onward ∧
    (∀ past parser future, ownCalls r.server.nextId last.calls = past ++ .run parser :: future → Entered past) ∧
    ∀ earlier turns later, ownCalls r.server.nextId last.calls = earlier ++ .enter .execute :: (turns ++ later) →
      Orderly turns := by
  have apart := record_apart path
  have after := step_apart apart accepted
  obtain ⟨_,ran⟩ := @exec_lane _ _ _ _ recordStep _ _ _ (fun r => r.session _) (controlStep r.server.nextId)
    (MgmtRecord.moves r.server.nextId) (fun r' => r'.Apart ∧ r.server.nextId < r'.server.nextId) (fun _ => True)
    (fun _ _ _ _ => trivial)
    (fun before label next held _ ran => by
      obtain ⟨given,moved⟩ := record_followed held.1 held.2 ran
      exact ⟨⟨step_apart held.1 ran,given⟩,moved⟩)
    ⟨after,made⟩ rest trivial
  have opens : opened.session r.server.nextId =
      passiveCpSocketHandler r.server.nextId r.server.sel r.server.globals clientFd := by
    cases record_steps accepted with
    | refused _ => exact absurd made (Nat.lt_irrefl _)
    | accepted _ _ =>
        unfold MgmtRecord.session
        dsimp only
        rw [ownCalls_same,Function.update_self,ownCalls_silent fun call member => Nat.ne_of_lt (apart.called call member),
          List.nil_append]
  rw [opens] at ran
  have alone := exec_runs ran
  refine ⟨alone,(runs_forward alone).chain,?_,fun _ _ _ split => turning_orderly (runs_turning alone).2 split⟩
  intro past parser future split
  exact (Trace.each_at (runs_guarded alone).lawful split parser rfl).1

-- Two admins log in and ask for the users, step by step in turn.
def twoAdmins : List MgmtEvent :=
  [.accept 8 true true,serves 0 .write .closed 7,serves 1 .write .closed 3,serves 0 .write .closed 0,
    serves 1 .write .closed 4,serves 1 .write .closed 0,serves 0 .read (.data (passwordLine adminPassword)) 0,
    serves 1 .read (.data (passwordLine adminPassword)) 0,serves 1 .write .closed 2,serves 0 .write .closed 2,
    serves 0 .write .closed 0,serves 1 .write .closed 0,serves 0 .read (.data [0x34]) 0,
    serves 1 .read (.data [0x34,0x00]) 0,serves 0 .read (.data [0x00]) 0,serves 0 .write .closed 5,
    serves 1 .write .closed 99]

theorem two_admins_apart : ∃ opened last,
    recordStep (recordStart mainSelector ⟨.empty,true,.start⟩) (.accept 7 true true) = some opened ∧
    exec recordStep opened twoAdmins = some last ∧
    (commandRuns (ownCalls 0 last.calls)).length = 1 ∧ (commandRuns (ownCalls 1 last.calls)).length = 1 ∧
    ControlRuns 0 (passiveCpSocketHandler 0 mainSelector ⟨.empty,true,.start⟩ 7)
      (lane recordStep (MgmtRecord.moves 0) opened twoAdmins) (last.session 0) := by
  have facts : (recordStep (recordStart mainSelector ⟨.empty,true,.start⟩) (.accept 7 true true)).bind (fun opened =>
      (exec recordStep opened twoAdmins).map fun last => (opened.server.nextId,
        (commandRuns (ownCalls 0 last.calls)).length,(commandRuns (ownCalls 1 last.calls)).length)) =
      some (1,1,1) := by decide +kernel
  obtain ⟨opened,accepted,facts⟩ := Option.bind_eq_some_iff.mp facts
  obtain ⟨last,rest,facts⟩ := Option.map_eq_some_iff.mp facts
  obtain ⟨made,facts⟩ := Prod.mk.inj facts
  obtain ⟨first,second⟩ := Prod.mk.inj facts
  have given : 0 < opened.server.nextId := by
    rw [made]
    exact Nat.one_pos
  exact ⟨opened,last,accepted,rest,first,second,
    (control_isolated (show exec recordStep _ [] = some _ from rfl) accepted given rest).1⟩

end Socks5d.ControlProtocol
