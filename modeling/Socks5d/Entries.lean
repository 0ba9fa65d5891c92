import Socks5d.ControlMetering

namespace Socks5d
open Gauges

def Inherits (sel later : Selector) : Prop :=
  ∀ fd item, later.registered fd = some item →
    ∃ old, sel.registered fd = some old ∧ old.handler = item.handler ∧ old.data = item.data

def Links {α : Type} (table : FdHandler) (objects : Nat → Option α) (names : α → Int → Prop) (sel : Selector) : Prop :=
  ∀ fd item, sel.registered fd = some item → item.handler = some table →
    ∃ id object, item.data = some id ∧ objects id = some object ∧ names object fd

variable {α : Type} {table other : FdHandler} {objects : Nat → Option α} {names : α → Int → Prop}
  {sel later last : Selector} {id data : Nat} {object new : α} {fd : Int} {i : FdInterest}

theorem inherits_refl (sel : Selector) : Inherits sel sel := fun _ item found => ⟨item,found,rfl,rfl⟩

theorem inherits_trans (first : Inherits sel later) (second : Inherits later last) : Inherits sel last := by
  intro fd item found
  obtain ⟨middle,held,table,object⟩ := second fd item found
  obtain ⟨old,was,table',object'⟩ := first fd middle held
  exact ⟨old,was,table'.trans table,object'.trans object⟩

theorem inherits_told (sel : Selector) (fd : Int) (i : FdInterest) : Inherits sel (selectorSetInterest sel fd i).2 := by
  intro other item found
  rw [setInterest_registered] at found
  split at found
  · rename_i same
    obtain ⟨old,held,rfl⟩ := Option.map_eq_some_iff.mp found
    exact ⟨old,by rw [same]; exact held,rfl,rfl⟩
  · exact ⟨item,found,rfl,rfl⟩

theorem inherits_unregistered (sel : Selector) (fd : Int) : Inherits sel (selectorUnregisterFd sel fd).2 := by
  intro other item found
  rw [unregister_registered] at found
  split at found
  · cases found
  · exact ⟨item,found,rfl,rfl⟩

theorem inherits_closed (sel : Selector) (socks : SocksConnModel) : Inherits sel (closeSocksConn sel socks).1 := by
  intro fd item found
  rw [close_entries] at found
  split at found
  · cases found
  · exact ⟨item,found,rfl,rfl⟩

theorem links_inherits (links : Links table objects names sel) (inherits : Inherits sel later) :
    Links table objects names later := by
  intro fd item found handled
  obtain ⟨old,held,table_,object_⟩ := inherits fd item found
  obtain ⟨id,object,leads,live,named⟩ := links fd old held (table_.trans handled)
  exact ⟨id,object,object_.symm.trans leads,live,named⟩

theorem links_moved (links : Links table objects names sel)
    (moved : ∀ fd item, later.registered fd = some item → item.handler = some table →
      (item.data = some id ∧ names new fd) ∨ (item.data ≠ some id ∧
        ∃ old, sel.registered fd = some old ∧ old.handler = item.handler ∧ old.data = item.data)) :
    Links table (Function.update objects id (some new)) names later := by
  intro fd item found handled
  rcases moved fd item found handled with ⟨own,named⟩ | ⟨other,old,held,table_,object_⟩
  · exact ⟨id,new,own,Function.update_self _ _ _,named⟩
  · obtain ⟨number,object,leads,live,named⟩ := links fd old held (table_.trans handled)
    have apart : number ≠ id := by
      rintro rfl
      exact other (object_.symm.trans leads)
    exact ⟨number,object,object_.symm.trans leads,by rw [Function.update_of_ne apart]; exact live,named⟩

theorem links_stays (links : Links table objects names sel) (live : objects id = some object)
    (kept : ∀ fd, names object fd → names new fd) : Links table (Function.update objects id (some new)) names sel := by
  apply links_moved links
  intro fd item found handled
  obtain ⟨number,stored,leads,there,named⟩ := links fd item found handled
  by_cases own : number = id
  · subst own
    cases there.symm.trans live
    exact .inl ⟨leads,kept fd named⟩
  · exact .inr ⟨fun same => own (Option.some.inj (leads.symm.trans same)),item,found,rfl,rfl⟩

theorem links_gone (links : Links table objects names sel)
    (gone : ∀ object fd, objects id = some object → names object fd → sel.registered fd = none) :
    Links table (Function.update objects id none) names sel := by
  intro fd item found handled
  obtain ⟨number,stored,leads,there,named⟩ := links fd item found handled
  have apart : number ≠ id := by
    rintro rfl
    have absent := gone stored fd there named
    cases absent.symm.trans found
  exact ⟨number,stored,leads,by rw [Function.update_of_ne apart]; exact there,named⟩

theorem links_fresh (links : Links table objects names sel) (fresh : objects id = none) (new : α) :
    Links table (Function.update objects id (some new)) names sel := by
  apply links_moved links
  intro fd item found handled
  refine .inr ⟨?_,item,found,rfl,rfl⟩
  intro own
  obtain ⟨number,stored,leads,there,_⟩ := links fd item found handled
  cases leads.symm.trans own
  cases there.symm.trans fresh

theorem links_added (links : Links table objects names sel) (fresh : objects id = none) (named : names new fd) :
    Links table (Function.update objects id (some new)) names (selectorRegister sel fd (some table) i (some id)).2 := by
  intro other item found handled
  rcases register_registered found with old | ⟨rfl,rfl⟩
  · exact links_fresh links fresh new other item old handled
  · exact ⟨id,new,rfl,Function.update_self _ _ _,named⟩

theorem links_foreign (links : Links table objects names sel) (apart : other ≠ table) (data : Option Nat) :
    Links table objects names (selectorRegister sel fd (some other) i data).2 := by
  intro number item found handled
  rcases register_registered found with old | ⟨rfl,rfl⟩
  · exact links number item old handled
  · exact absurd (Option.some.inj handled) apart

def SocksState.dialled : SocksState → Bool
  | .reqWrite | .reqConnect | .copy | .error | .done => true
  | _ => false

def Names (socks : SocksConnModel) (state : SocksState) (fd : Int) : Prop :=
  fd = socks.cliConn.socket ∨ (fd = socks.srcConn.socket ∧ state.dialled = true)

def Adopts (data : Nat) (sel : Selector) (out : Outcome) : Prop :=
  ∀ fd item, out.sel.registered fd = some item →
    (∃ old, sel.registered fd = some old ∧ old.handler = item.handler ∧ old.data = item.data) ∨
    (fd = out.socks.srcConn.socket ∧ out.next.dialled = true ∧ item.handler = some .connActions ∧ item.data = some data)

variable {π : Type} {env : Env} {key : SelectorKey} {socks : SocksConnModel} {called : List Effect} {out : Outcome}
  {state : SocksState} {kind : EventKind}

theorem inherits_adopts (inherits : Inherits sel out.sel) : Adopts data sel out :=
  fun fd item found => .inl (inherits fd item found)

theorem same_adopts (sel : Selector) (socks : SocksConnModel) (called : List Effect) (next : SocksState) :
    Adopts data sel ⟨sel,socks,called,next⟩ := inherits_adopts (inherits_refl sel)

theorem told_adopts (sel : Selector) (fd : Int) (i : FdInterest) (socks : SocksConnModel) (called : List Effect)
    (next : SocksState) : Adopts data sel ⟨(selectorSetInterest sel fd i).2,socks,called,next⟩ :=
  inherits_adopts (inherits_told sel fd i)

theorem readMessage_adopts {r : Reader π} {finish : Env → SelectorKey → Selector → SocksConnModel → List Effect → Outcome}
    (finishes : ∀ parsed called, Adopts data sel (finish env key sel parsed called)) :
    Adopts data sel (readMessage r finish env key sel socks) := by
  rcases readMessage_cases r finish env key sel socks with ⟨_,none⟩ | ⟨bytes,buff,_,_,_,out⟩
  · rw [none]
    exact same_adopts _ _ _ _
  · rw [out]
    split
    · exact same_adopts _ _ _ _
    · split
      · exact finishes _ _
      · exact same_adopts _ _ _ _

theorem writeReply_adopts {stay : SocksState} {logged : Env → SocksConnModel → List Effect}
    {finish : SelectorKey → Selector → SocksConnModel → List Effect → Outcome}
    (finishes : ∀ sent called, Adopts data sel (finish key sel sent called)) :
    Adopts data sel (writeReply stay logged finish env key sel socks) := by
  rcases writeReply_cases stay logged finish env key sel socks with none | ⟨count,_,out⟩
  · rw [none]
    exact same_adopts _ _ _ _
  · rw [out]
    split
    · exact same_adopts _ _ _ _
    · exact finishes _ _

theorem replyTwo_adopts (next : SocksState) (reply : List UInt8) :
    Adopts data sel (replyTwo next reply key sel socks called) := by
  unfold replyTwo
  dsimp only
  split
  · exact told_adopts _ _ _ _ _ _
  · split
    · exact told_adopts _ _ _ _ _ _
    · exact told_adopts _ _ _ _ _ _

theorem helloSent_adopts : Adopts data sel (helloSent key sel socks called) := by
  unfold helloSent
  dsimp only
  split
  · exact told_adopts _ _ _ _ _ _
  · split
    · exact told_adopts _ _ _ _ _ _
    · split
      · exact told_adopts _ _ _ _ _ _
      · split
        · exact told_adopts _ _ _ _ _ _
        · split
          · exact told_adopts _ _ _ _ _ _
          · exact told_adopts _ _ _ _ _ _

theorem manageReqError_adopts (state : UInt8) : Adopts data sel (manageReqError state sel socks called) := by
  unfold manageReqError
  dsimp only
  split
  · exact told_adopts _ _ _ _ _ _
  · exact told_adopts _ _ _ _ _ _

theorem reqSent_adopts : Adopts data sel (reqSent key sel socks called) := by
  unfold reqSent
  split
  · exact same_adopts _ _ _ _
  · dsimp only
    split
    · exact told_adopts _ _ _ _ _ _
    · exact inherits_adopts (inherits_trans (inherits_told _ _ _) (inherits_told _ _ _))

theorem initConnection_adopts : Adopts key.data sel (initConnection env key sel socks called) := by
  have registers : ∀ next : SocksState, next.dialled = true → ∀ addr, Adopts key.data sel
      ⟨(selectorRegister (selectorSetInterest sel socks.cliConn.socket opNoop).2 env.socket (some .connActions) opWrite
        (some key.data)).2,{socks with srcConn.socket:=env.socket},
        called ++ [.socket env.socket,.connect env.socket addr],next⟩ := by
    intro next late addr fd item found
    rcases register_registered found with old | ⟨same,rfl⟩
    · exact .inl (inherits_told sel _ _ fd item old)
    · exact .inr ⟨same,late,rfl,rfl⟩
  unfold initConnection
  dsimp only
  split
  · exact same_adopts _ _ _ _
  · split
    · split
      · exact told_adopts _ _ _ _ _ _
      · split
        · exact registers .error rfl _
        · exact registers .reqConnect rfl _
    · exact manageReqError_adopts _

theorem setConnection_adopts : Adopts key.data sel (setConnection env key sel socks called) := by
  unfold setConnection
  dsimp only
  split
  · exact initConnection_adopts
  · split
    · exact initConnection_adopts
    · split
      · split
        · exact manageReqError_adopts _
        · split
          · exact manageReqError_adopts _
          · exact told_adopts _ _ _ _ _ _
      · exact same_adopts _ _ _ _

theorem reqFinish_adopts : Adopts key.data sel (reqFinish env key sel socks called) := by
  unfold reqFinish
  dsimp only
  split
  · exact setConnection_adopts
  · split
    · exact manageReqError_adopts _
    · split
      · exact same_adopts _ _ _ _
      · exact same_adopts _ _ _ _

theorem reqDns_adopts : Adopts key.data sel (reqDns env key sel socks called) := by
  unfold reqDns
  split
  · split
    · exact manageReqError_adopts _
    · exact manageReqError_adopts _
  · exact initConnection_adopts

theorem adopts_from (inherits : Inherits sel later) (adopts : Adopts data later out) : Adopts data sel out := by
  intro fd item found
  rcases adopts fd item found with ⟨old,held,table,object⟩ | new
  · obtain ⟨first,was,table',object'⟩ := inherits fd old held
    exact .inl ⟨first,was,table'.trans table,object'.trans object⟩
  · exact .inr new

theorem reqConnect_adopts : Adopts key.data sel (reqConnect env key sel socks) := by
  unfold reqConnect
  split
  · split
    · split
      · exact adopts_from (inherits_unregistered _ _) reqDns_adopts
      · exact manageReqError_adopts _
    · dsimp only
      split
      · exact manageReqError_adopts _
      · have twice := inherits_trans (inherits_told sel key.fd opNoop)
          (inherits_told _ (cleanResolvedAddr socks).1.cliConn.socket opWrite)
        split
        · split
          · split
            · exact inherits_adopts twice
            · exact inherits_adopts twice
          · exact inherits_adopts twice
        · exact told_adopts _ _ _ _ _ _
  · exact manageReqError_adopts _

theorem copyEnded_adopts (side : Side) : Adopts data sel (copyEnded side sel socks called) := by
  unfold copyEnded
  dsimp only
  split
  · exact inherits_adopts (inherits_trans (inherits_told _ _ _) (inherits_told _ _ _))
  · exact told_adopts _ _ _ _ _ _

theorem copyRead_adopts : Adopts data sel (copyRead env key sel socks) := by
  unfold copyRead
  split
  · exact same_adopts _ _ _ _
  · dsimp only
    split
    · split
      · exact same_adopts _ _ _ _
      · split
        · exact told_adopts _ _ _ _ _ _
        · exact copyEnded_adopts _
    · exact told_adopts _ _ _ _ _ _

theorem copyWrite_adopts : Adopts data sel (copyWrite env key sel socks) := by
  unfold copyWrite
  split
  · exact same_adopts _ _ _ _
  · dsimp only
    split
    · split
      · exact same_adopts _ _ _ _
      · exact same_adopts _ _ _ _
    · split
      · exact inherits_adopts (inherits_trans (inherits_told _ _ _) (inherits_told _ _ _))
      · exact told_adopts _ _ _ _ _ _

def Rewires (data : Nat) (sel : Selector) (out : Outcome) : Prop :=
  ∀ fd item, out.sel.registered fd = some item →
    (item.handler = some .connActions ∧ item.data = some data ∧ Names out.socks out.next fd) ∨
    (¬ (item.handler = some .connActions ∧ item.data = some data) ∧
      ∃ old, sel.registered fd = some old ∧ old.handler = item.handler ∧ old.data = item.data)

theorem adopts_rewires (inherits : Inherits sel later) (adopts : Adopts data later out)
    (named : ∀ fd item, later.registered fd = some item → item.handler = some .connActions → item.data = some data →
      Names out.socks out.next fd) : Rewires data sel out := by
  intro fd item found
  by_cases own : item.handler = some .connActions ∧ item.data = some data
  · obtain ⟨handled,mine⟩ := own
    refine .inl ⟨handled,mine,?_⟩
    rcases adopts fd item found with ⟨old,held,table,object⟩ | ⟨same,late,_⟩
    · exact named fd old held (table.trans handled) (object.trans mine)
    · exact .inr ⟨same,late⟩
  · refine .inr ⟨own,?_⟩
    rcases adopts_from inherits adopts fd item found with old | ⟨_,_,new⟩
    · exact old
    · exact absurd new own

theorem reqWrite_settled : (reqWrite env key sel socks).socks.srcConn.socket = socks.srcConn.socket ∧
    (reqWrite env key sel socks).next.dialled = true := by
  unfold reqWrite
  rcases writeReply_cases .reqWrite (fun env socks => [connInformation env socks]) reqSent env key sel socks with
    none | ⟨count,_,out⟩
  · rw [none]
    exact ⟨rfl,rfl⟩
  · rw [out]
    split
    · exact ⟨rfl,rfl⟩
    · obtain ⟨inert,next | next | next⟩ := @reqSent_inert key sel {socks with writeBuff:=socks.writeBuff.consume count}
        ([.send socks.cliConn.socket (socks.writeBuff.unread.take count)] ++
          [connInformation env {socks with writeBuff:=socks.writeBuff.consume count}])
      all_goals exact ⟨inert.origin,by rw [next]; rfl⟩

-- Before REQ_CONNECT only the client has an entry, and from there on the names stay, but
-- for an origin that is dialled again once its entry is gone.
theorem handler_rewires {handler : StateHandler} (found : stateHandler kind socks.current = some handler)
    (own : ∀ fd item, sel.registered fd = some item → item.handler = some .connActions → item.data = some key.data →
      Names socks socks.current fd) : Rewires key.data sel (handler env key sel socks) := by
  have client := (@handler_attests env key sel socks kind handler _ found).client
  have early : socks.current.dialled = false → Adopts key.data sel (handler env key sel socks) →
      Rewires key.data sel (handler env key sel socks) := by
    intro before adopts
    apply adopts_rewires (inherits_refl sel) adopts
    intro fd item held handled mine
    rcases own fd item held handled mine with same | ⟨_,late⟩
    · exact .inl (by rw [client]; exact same)
    · exact absurd (before.symm.trans late) (by simp)
  have settled : (handler env key sel socks).socks.srcConn.socket = socks.srcConn.socket →
      (handler env key sel socks).next.dialled = true → Adopts key.data sel (handler env key sel socks) →
      Rewires key.data sel (handler env key sel socks) := by
    intro origin late adopts
    apply adopts_rewires (inherits_refl sel) adopts
    intro fd item held handled mine
    rcases own fd item held handled mine with same | ⟨same,_⟩
    · exact .inl (by rw [client]; exact same)
    · exact .inr ⟨by rw [origin]; exact same,late⟩
  rcases stateHandler_cases found with ⟨was,_,rfl⟩ | ⟨was,_,rfl⟩ | ⟨was,_,rfl⟩ | ⟨was,_,rfl⟩ | ⟨was,_,rfl⟩ | ⟨_,_,rfl⟩ |
    ⟨was,_,rfl⟩ | ⟨_,_,rfl⟩ | ⟨_,⟨_,rfl⟩ | ⟨_,rfl⟩⟩
  · exact early (by rw [was]; rfl) (readMessage_adopts fun _ _ => replyTwo_adopts _ _)
  · exact early (by rw [was]; rfl) (writeReply_adopts fun _ _ => helloSent_adopts)
  · exact early (by rw [was]; rfl) (readMessage_adopts fun _ _ => replyTwo_adopts _ _)
  · exact early (by rw [was]; rfl) (writeReply_adopts fun _ _ => told_adopts _ _ _ _ _ _)
  · exact early (by rw [was]; rfl) (readMessage_adopts fun _ _ => reqFinish_adopts)
  · obtain ⟨origin,late⟩ := @reqWrite_settled sel env key socks
    exact settled origin late (writeReply_adopts fun _ _ => reqSent_adopts)
  · exact early (by rw [was]; rfl) reqDns_adopts
  · rcases @reqConnect_cases env key sel socks with ⟨_,_,_,_,out⟩ | ⟨inert,next⟩
    · rw [out] at client ⊢
      apply adopts_rewires (inherits_unregistered sel socks.srcConn.socket) reqDns_adopts
      intro fd item held handled mine
      rw [unregister_registered] at held
      split at held
      · cases held
      · rename_i apart
        rcases own fd item held handled mine with same | ⟨same,_⟩
        · exact .inl (by rw [client]; exact same)
        · exact absurd same apart
    · refine settled inert.origin ?_ reqConnect_adopts
      rcases next with next | next
      all_goals rw [next]; rfl
  · refine settled copyRead_keeps.origin ?_ copyRead_adopts
    rcases @copyRead_next env key sel socks with next | next | next
    all_goals rw [next]; rfl
  · refine settled copyWrite_keeps.origin ?_ copyWrite_adopts
    rcases @copyWrite_next env key sel socks with next | next | next
    all_goals rw [next]; rfl

end Socks5d

namespace Socks5d.ControlProtocol

variable {env : CpEnv} {key : SelectorKey} {sel later : Selector} {g : Globals} {cpc left : ControlProtConn}
  {kind : EventKind} {state : ControlProtStmState} {session after : ControlSession} {data : Nat} {fd : Int}

theorem executeAnswer_sel (answer : List UInt8) (called : List CpEffect) :
    (executeAnswer env sel g cpc answer called).sel = sel := by
  rcases executeAnswer_cases env sel g cpc answer called with ⟨_,ran⟩ | ⟨_,ran⟩
  · rw [ran]
  · rw [ran]

theorem handler_inherits {handler : CpStateHandler} (found : cpStateHandler kind state = some handler) :
    Inherits sel (handler env key sel g cpc).sel := by
  have same := inherits_refl sel
  have told := inherits_told sel key.fd
  rcases cpStateHandler_cases found with ⟨_,_,rfl⟩ | ⟨_,⟨_,rfl⟩ | ⟨_,rfl⟩⟩ | ⟨_,⟨_,rfl⟩ | ⟨_,rfl⟩⟩ | ⟨_,rfl⟩
  · rcases helloWrite_cases env key sel g cpc with ⟨_,_,ran⟩ | ⟨_,ran⟩ | ⟨_,_,ran⟩ | ⟨_,ran⟩
    · rw [ran]
      exact told opRead
    all_goals rw [ran]; exact same
  · unfold authRead
    split
    · exact same
    · dsimp only
      split
      · exact same
      · split
        · exact told opWrite
        · exact same
  · rcases authWrite_cases env key sel g cpc with ⟨_,_,ran⟩ | ⟨_,_,ran⟩ | ⟨_,_,ran⟩ | ⟨_,_,_,ran⟩ | ⟨_,_,_,ran⟩
    · rw [ran]
      exact told opRead
    · rw [ran]
      exact same
    · rw [ran]
      exact same
    · rw [ran]
      exact told opRead
    · rw [ran]
      exact same
  · unfold executeRead
    split
    · exact same
    · dsimp only
      split
      · exact same
      · split
        · exact told opWrite
        · exact same
  · rcases executeWrite_cases env key sel g cpc with ⟨_,_,ran⟩ | ⟨_,_,ran⟩ | ⟨answer,_,_,ran⟩ | ⟨_,_,_,ran⟩ |
      ⟨command,_,_,_,ran⟩
    · rw [ran]
      exact told opRead
    · rw [ran]
      exact same
    · rw [ran,executeAnswer_sel]
      exact same
    · rw [ran]
      exact same
    · rw [ran]
      cases (command env.malloc g cpc.commandParser).1 with
      | none => exact same
      | some answer =>
          dsimp only
          rw [executeAnswer_sel]
          exact same
  · exact inherits_unregistered sel cpc.fd

structure Unhooks (sel : Selector) (fd : Int) (later : Selector) (left : Option ControlProtConn) : Prop where
  inherits : Inherits sel later
  kept : ∀ cpc, left = some cpc → cpc.fd = fd
  freed : left = none → later.registered fd = none

theorem unhooks_stays (inherits : Inherits sel later) (same : left.fd = fd) : Unhooks sel fd later (some left) := by
  refine ⟨inherits,?_,fun gone => (by cases gone)⟩
  intro cpc live
  cases live
  exact same

theorem unhooks_freed (inherits : Inherits sel later) (same : cpc.fd = fd) :
    Unhooks sel fd (selectorUnregisterFd later cpc.fd).2 none := by
  refine ⟨inherits_trans inherits (inherits_unregistered later cpc.fd),fun _ live => (by cases live),fun _ => ?_⟩
  rw [same,unregister_registered,if_pos rfl]

theorem event_unhooks (live : session.cpc = some cpc) (ran : controlStep data session (.event kind env) = some after) :
    Unhooks session.sel cpc.fd after.sel after.cpc := by
  obtain ⟨same,found_,_,handled⟩ := controlStep_handled ran
  cases live.symm.trans found_
  cases handled with
  | ended result _ _ _ => exact unhooks_freed (inherits_refl _) rfl
  | read called buff handler out _ found gave =>
      have inherits := @handler_inherits env ⟨cpc.fd,data⟩ session.sel session.globals (cpc.handed buff) _ _ handler found
      by_cases error : cpc.current = .error
      · rw [error] at found
        cases found
        subst gave
        exact unhooks_freed (inherits_refl _) rfl
      · obtain ⟨⟨left,stays,own⟩,_⟩ := @handler_stays (cpc.handed buff) env ⟨cpc.fd,data⟩ session.sel session.globals
          _ _ handler found error
        rw [gave] at stays inherits
        change Unhooks _ _ _ (out.cpc.map _)
        rw [stays]
        exact unhooks_stays inherits own
  | dropped handler out found gave gone =>
      obtain ⟨_,rfl⟩ := dropped_error found ((congrArg _ gave).trans gone)
      subst gave
      exact unhooks_freed (inherits_refl _) rfl
  | wrote handler out middle served found gave left flushes =>
      have inherits := @handler_inherits env ⟨cpc.fd,data⟩ session.sel session.globals (cpc.handed cpc.readBuffer) _ _
        handler found
      obtain ⟨⟨stayed,stays,own⟩,_⟩ := @handler_stays (cpc.handed cpc.readBuffer) env ⟨cpc.fd,data⟩ session.sel
        session.globals _ _ handler found (kept_sane found ((congrArg _ gave).trans left))
      rw [gave] at stays inherits
      cases left.symm.trans stays
      cases flushes with
      | stopped => exact unhooks_stays inherits own
      | idle => exact unhooks_stays inherits own
      | sent bytes => exact unhooks_stays inherits own
      | broken => exact @unhooks_freed _ out.sel (middle.jumped out.next) cpc.fd inherits own

end Socks5d.ControlProtocol

namespace Socks5d
open Gauges
open ControlProtocol (ControlProtConn MgmtServer MgmtEvent CpEnv mgmtStep mgmtStart passiveCpSocketHandler
  freeControlProtConn cpCloseHandler freeNode freeRec freeCpConnList event_unhooks Unhooks)

def SocksConnModel.named (socks : SocksConnModel) (fd : Int) : Prop := Names socks socks.current fd
def ControlProtocol.ControlProtConn.named (cpc : ControlProtConn) (fd : Int) : Prop := cpc.fd = fd

structure Daemon.Linked (d : Daemon) : Prop where
  fresh : ∀ id, d.nextId ≤ id → d.conn id = none
  freshMgmt : ∀ id, d.mgmt.nextId ≤ id → d.mgmt.conns id = none
  socks : Links .connActions d.conn SocksConnModel.named d.mgmt.sel
  mgmt : Links .cpFd d.mgmt.conns ControlProtConn.named d.mgmt.sel

variable {sel later : Selector} {conn : Nat → Option SocksConnModel} {conns : Nat → Option ControlProtConn} {id : Nat}
  {socks : SocksConnModel} {cpc : ControlProtConn} {out : Outcome} {d next : Daemon} {env : Env} {kind : EventKind}
  {fd : Int} {served : Served} {e : DaemonEvent}

theorem closed_links (links : Links .connActions (Function.update conn id (some socks)) SocksConnModel.named sel) :
    Links .connActions (Function.update conn id none) SocksConnModel.named (closeSocksConn sel socks).1 := by
  rw [← Function.update_idem (a := id) (some socks) none conn]
  apply links_gone (links_inherits links (inherits_closed sel socks))
  intro object fd live named
  rw [Function.update_self] at live
  cases live
  rw [close_entries,if_pos (named.imp_right And.left)]

theorem handled_links (links : Links .connActions conn SocksConnModel.named sel) (live : conn id = some socks)
    {handler : StateHandler} (found : stateHandler kind (handleFirst socks).current = some handler) :
    Rewires id sel (handler env ⟨fd,id⟩ sel (handleFirst socks)) := by
  apply @handler_rewires sel env ⟨fd,id⟩ (handleFirst socks) kind handler found
  intro number item held handled mine
  obtain ⟨other,stored,leads,there,named⟩ := links number item held handled
  cases leads.symm.trans mine
  cases there.symm.trans live
  exact named

theorem rewires_links (links : Links .connActions conn SocksConnModel.named sel) (rewires : Rewires id sel out)
    (client : socks.cliConn = out.socks.cliConn) (origin : socks.srcConn = out.socks.srcConn)
    (stm : socks.stm = some out.next) :
    Links .connActions (Function.update conn id (some socks)) SocksConnModel.named out.sel := by
  apply links_moved links
  intro fd item found handled
  rcases rewires fd item found with ⟨_,mine,named⟩ | ⟨other,old⟩
  · refine .inl ⟨mine,?_⟩
    rw [SocksConnModel.named,SocksConnModel.current,stm,Names,client,origin]
    exact named
  · exact .inr ⟨fun mine => other ⟨handled,mine⟩,old⟩

theorem rewires_spares (links : Links .cpFd conns ControlProtConn.named sel) (rewires : Rewires id sel out) :
    Links .cpFd conns ControlProtConn.named out.sel := by
  intro fd item found handled
  rcases rewires fd item found with ⟨actions,_⟩ | ⟨_,old,held,table,object⟩
  · cases handled.symm.trans actions
  · obtain ⟨number,stored,leads,there,named⟩ := links fd old held (table.trans handled)
    exact ⟨number,stored,object.symm.trans leads,there,named⟩

theorem event_linked (linked : d.Linked) (live : d.conn id = some socks)
    (ran : socksConnEvent kind env ⟨fd,id⟩ d.mgmt.sel socks = some served) :
    (d.after id served.sel served.socks served.effects).Linked := by
  obtain ⟨_,handled,rfl⟩ := Option.map_eq_some_iff.mp ran
  obtain ⟨handler,found,rfl⟩ := Option.map_eq_some_iff.mp handled
  have rewires := @handled_links d.mgmt.sel d.conn id socks env kind fd linked.socks live handler found
  generalize handler env ⟨fd,id⟩ d.mgmt.sel (handleFirst socks) = out at rewires
  obtain ⟨sel,_,_,stm,_,_,_,client,origin,_⟩ := jump_parts env out
  have inside := fresh_below linked.fresh live
  have links := rewires_links linked.socks rewires client origin stm
  have mgmt := rewires_spares linked.mgmt rewires
  unfold checkState
  split
  · refine ⟨fresh_update linked.fresh inside _,linked.freshMgmt,?_,?_⟩
    · rw [← sel] at links
      exact closed_links links
    · rw [← sel] at mgmt
      exact links_inherits mgmt (inherits_closed _ _)
  · refine ⟨fresh_update linked.fresh inside _,linked.freshMgmt,?_,?_⟩
    · rw [← sel] at links
      exact links
    · rw [← sel] at mgmt
      exact mgmt

theorem close_linked (linked : d.Linked) (live : d.conn id = some socks) : (d.close id d.mgmt.sel socks).Linked := by
  have same : Function.update d.conn id (some socks) = d.conn := by
    rw [← live]
    exact Function.update_eq_self id d.conn
  refine ⟨fresh_update linked.fresh (fresh_below linked.fresh live) _,linked.freshMgmt,?_,?_⟩
  · apply closed_links
    rw [same]
    exact linked.socks
  · exact links_inherits linked.mgmt (inherits_closed _ _)

-- The new connection may be closed at once; it is the same as if it had been there.
theorem accept_linked (linked : d.Linked) (socket : Int) (nio : Bool) : (d.accept socket nio).Linked := by
  have unused := linked.fresh d.nextId (Nat.le_refl _)
  have client : (acceptedConn socket).named socket := .inl rfl
  have quiet := links_fresh linked.socks unused (acceptedConn socket)
  have added := @links_added _ _ _ _ _ _ _ socket opRead linked.socks unused client
  have spared := @links_foreign _ .cpFd .connActions _ _ _ socket opRead linked.mgmt (by decide) (some d.nextId)
  have closes : ∀ sel, Links .connActions (Function.update d.conn d.nextId (some (acceptedConn socket)))
      SocksConnModel.named sel → Links .cpFd d.mgmt.conns ControlProtConn.named sel →
      ({d with nextId:=d.nextId+1}.close d.nextId sel (acceptedConn socket)).Linked := fun sel links mgmt =>
    ⟨fresh_next linked.fresh none,linked.freshMgmt,closed_links links,links_inherits mgmt (inherits_closed _ _)⟩
  unfold Daemon.accept passiveSocksSocketHandler
  by_cases failed : socket = -1
  · rw [if_pos failed]
    exact closes _ quiet linked.mgmt
  · rw [if_neg failed]
    cases nio with
    | false => exact closes _ quiet linked.mgmt
    | true =>
        rw [Bool.not_true,if_neg Bool.false_ne_true]
        dsimp only
        split
        · exact closes _ added spared
        · exact ⟨fresh_next linked.fresh _,linked.freshMgmt,added,spared⟩

theorem freed_links (links : Links .cpFd conns ControlProtConn.named sel)
    (gone : ∀ cpc, conns id = some cpc → cpc.fd = fd) :
    Links .cpFd (Function.update conns id none) ControlProtConn.named (selectorUnregisterFd sel fd).2 := by
  apply links_gone (links_inherits links (inherits_unregistered sel fd))
  intro cpc number live named
  rw [unregister_registered,if_pos (named.symm.trans (gone cpc live))]

theorem mgmtAccept_linked {clientFd : Int} {nio memory : Bool} {mgmt : MgmtServer} (linked : d.Linked)
    (ran : mgmtStep d.mgmt (.accept clientFd nio memory) = some mgmt) : ({d with mgmt:=mgmt} : Daemon).Linked := by
  have unused := linked.freshMgmt d.mgmt.nextId (Nat.le_refl _)
  have added := @links_added _ _ _ _ _ _ (ControlProtocol.newControlProtConn clientFd) clientFd opWrite linked.mgmt unused
    rfl
  have spared := @links_foreign _ .connActions .cpFd _ _ _ clientFd opWrite linked.socks (by decide) (some d.mgmt.nextId)
  unfold mgmtStep at ran
  dsimp only at ran
  split at ran
  · split at ran
    · cases ran
      exact linked
    · cases ran
      by_cases refused : (selectorRegister d.mgmt.sel clientFd (some .cpFd) opWrite (some d.mgmt.nextId)).1 ≠ .success
      · have gave : passiveCpSocketHandler d.mgmt.nextId d.mgmt.sel d.mgmt.globals clientFd = _ := if_pos refused
        rw [gave]
        refine ⟨linked.fresh,fresh_next linked.freshMgmt _,links_inherits spared (inherits_unregistered _ _),?_⟩
        have freed := @freed_links _ _ d.mgmt.nextId clientFd added ?_
        · rw [Function.update_idem] at freed
          exact freed
        · intro cpc live
          rw [Function.update_self] at live
          cases live
          rfl
      · have gave : passiveCpSocketHandler d.mgmt.nextId d.mgmt.sel d.mgmt.globals clientFd = _ := if_neg refused
        rw [gave]
        exact ⟨linked.fresh,fresh_next linked.freshMgmt _,spared,added⟩
  · cases ran

theorem mgmtEvent_linked {cpEnv : CpEnv} {mgmt : MgmtServer} (linked : d.Linked)
    (ran : mgmtStep d.mgmt (.event kind id cpEnv) = some mgmt) : ({d with mgmt:=mgmt} : Daemon).Linked := by
  obtain ⟨cpc,live,ran⟩ := Option.bind_eq_some_iff.mp ran
  obtain ⟨after,served,rfl⟩ := Option.map_eq_some_iff.mp ran
  obtain ⟨inherits,kept,freed⟩ := event_unhooks (show (d.mgmt.session id).cpc = some cpc from live) served
  refine ⟨linked.fresh,fresh_update linked.freshMgmt (fresh_below linked.freshMgmt live) _,
    links_inherits linked.socks inherits,?_⟩
  have mgmt := links_inherits linked.mgmt inherits
  cases left : after.cpc with
  | some stays =>
      apply links_stays mgmt live
      intro fd named
      exact (kept stays left).trans named
  | none =>
      apply links_gone mgmt
      intro object fd there named
      cases there.symm.trans live
      rw [← named]
      exact freed left

theorem freeNode_linked (linked : d.Linked) (node : Nat × Int) : ({d with mgmt:=freeNode d.mgmt node} : Daemon).Linked := by
  refine ⟨linked.fresh,?_,links_inherits linked.socks (inherits_unregistered _ _),?_⟩
  · intro other above
    by_cases same : other = node.1
    · subst same
      exact Function.update_self _ _ _
    · exact (Function.update_of_ne same _ _).trans (linked.freshMgmt other above)
  · apply freed_links linked.mgmt
    intro cpc live
    rw [live,Option.getD_some]

theorem freeRec_linked (linked : d.Linked) (nodes : List (Nat × Int)) :
    ({d with mgmt:=freeRec d.mgmt nodes} : Daemon).Linked := by
  induction nodes with
  | nil => exact linked
  | cons current nextConn ih => exact freeNode_linked ih current

theorem handleClose_linked (linked : d.Linked) (item : Item) : (d.handleClose item).Linked := by
  unfold Daemon.handleClose
  split
  · split
    · rename_i live
      exact close_linked linked live
    · exact linked
  · split
    · rename_i id _ _ cpc live
      refine ⟨linked.fresh,fresh_update linked.freshMgmt (fresh_below linked.freshMgmt live) _,
        links_inherits linked.socks (inherits_unregistered _ _),freed_links linked.mgmt ?_⟩
      intro other there
      cases there.symm.trans live
      rfl
    · exact linked
  · exact linked

theorem unregisterClosing_linked (linked : d.Linked) (fd : Nat) : (d.unregisterClosing fd).Linked := by
  unfold Daemon.unregisterClosing
  split
  · rename_i item _
    obtain ⟨fresh,freshMgmt,socks,mgmt⟩ := handleClose_linked linked item
    exact ⟨fresh,freshMgmt,links_inherits socks (inherits_unregistered _ _),
      links_inherits mgmt (inherits_unregistered _ _)⟩
  · exact linked

theorem destroyed_linked (numbers : List Nat) (linked : d.Linked) : (numbers.foldl Daemon.unregisterClosing d).Linked := by
  induction numbers generalizing d with
  | nil => exact linked
  | cons fd rest ih => exact ih (unregisterClosing_linked linked fd)

theorem step_linked (linked : d.Linked) (ran : daemonStep d e = some next) : next.Linked := by
  cases daemon_steps ran with
  | @accept listener socket nio _ _ => exact accept_linked linked socket nio
  | acceptMgmt _ accepted => exact mgmtAccept_linked linked accepted
  | event _ found handled => exact event_linked linked (entry_open found) handled
  | mgmtEvent handled => exact mgmtEvent_linked linked handled
  | @resolved id addrs socks live _ =>
      refine ⟨fresh_update linked.fresh (fresh_below linked.fresh live) _,linked.freshMgmt,?_,linked.mgmt⟩
      apply links_stays linked.socks live
      intro fd named
      exact named
  | sigterm =>
      have freed := freeRec_linked linked d.mgmt.connList.nodes
      obtain ⟨fresh,freshMgmt,socks,mgmt⟩ := destroyed_linked (List.range (freeCpConnList d.mgmt).sel.fds.length) freed
      exact ⟨fresh,freshMgmt,socks,mgmt⟩

theorem listening_links {α : Type} {table : FdHandler} {objects : Nat → Option α} {names : α → Int → Prop}
    (sockets : List Int) (links : Links table objects names sel) {passive : FdHandler} (apart : passive ≠ table) :
    Links table objects names
      (sockets.foldl (fun sel fd => (selectorRegister sel fd (some passive) opRead none).2) sel) := by
  induction sockets generalizing sel with
  | nil => exact links
  | cons fd rest ih => exact ih (links_foreign links apart none)

theorem start_linked (socks mng : List Int) (users : UserTable) (sniffer : Bool) :
    (daemonStart socks mng users sniffer).Linked := by
  have empty : ∀ {α : Type} {table : FdHandler} {objects : Nat → Option α} {names : α → Int → Prop},
      Links table objects names mainSelector := by
    intro α table objects names fd item found
    have created : selectorNew itemsMaxSize = some mainSelector := rfl
    rw [selectorNew_registered created] at found
    cases found
  exact ⟨fun _ _ => rfl,fun _ _ => rfl,listening_links mng (listening_links socks empty (by decide)) (by decide),
    listening_links mng (listening_links socks empty (by decide)) (by decide)⟩

theorem runs_linked {socks mng : List Int} {users : UserTable} {sniffer : Bool} {events : List DaemonEvent}
    (path : DaemonRuns (daemonStart socks mng users sniffer) events d) : d.Linked :=
  path.invariant (start_linked socks mng users sniffer) (fun _ _ _ linked ran => step_linked linked ran)

theorem entries_live {socks mng : List Int} {users : UserTable} {sniffer : Bool} {events : List DaemonEvent} {item : Item}
    (path : DaemonRuns (daemonStart socks mng users sniffer) events d) (found : d.mgmt.sel.registered fd = some item) :
    (item.handler = some .connActions → ∃ id stored, d.entry fd = some (id,stored)) ∧
    (item.handler = some .cpFd → ∃ id cpc, item.data = some id ∧ d.mgmt.conns id = some cpc ∧ cpc.fd = fd) := by
  have linked := runs_linked path
  refine ⟨?_,linked.mgmt fd item found⟩
  intro handled
  obtain ⟨id,stored,leads,live,_⟩ := linked.socks fd item found handled
  refine ⟨id,stored,?_⟩
  rw [Daemon.entry,found,Option.bind_some,if_pos handled,leads,Option.bind_some,live]
  rfl

end Socks5d
