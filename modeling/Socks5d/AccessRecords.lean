import Socks5d.Drains

namespace Socks5d

def Effect.isRecord : Effect → Bool
  | .connInformation _ => true
  | _ => false

def records (effects : List Effect) : Nat := effects.countP Effect.isRecord

-- A connection that has just come to REQ_WRITE with a reply to send.
structure Replying (out : Outcome) : Prop where
  next : out.next = .reqWrite
  fresh : out.effects = []
  reply : out.socks.writeBuff.unread ≠ []

def WriteEvent.registered (e : WriteEvent) (socks : SocksConnModel) : Prop :=
  let ret := selectorSetInterest e.sel e.key.fd opRead
  ret.1 = .success ∧ (selectorSetInterest ret.2 socks.srcConn.socket opRead).1 = .success

def afterReply (socks : SocksConnModel) : SocksState :=
  if socks.parsers.reqParser.resParser.state = resSuccess then .copy else .done

structure RepliesOnce (out : Outcome) (events : List WriteEvent) : Prop where
  sent : bytesTo out.socks.cliConn.socket (drain reqWrite .reqWrite events out).effects = out.socks.writeBuff.unread
  ordered : ∀ earlier later, events = earlier ++ later →
    let now := drain reqWrite .reqWrite earlier out
    bytesTo out.socks.cliConn.socket now.effects ++ now.socks.writeBuff.unread = out.socks.writeBuff.unread ∧
    (now.next ≠ .reqWrite → now.socks.writeBuff.unread = [])
  next : (drain reqWrite .reqWrite events out).next = afterReply out.socks
  record : records (drain reqWrite .reqWrite events out).effects = 1

def WholeAtOnce (out : Outcome) (events : List WriteEvent) : Prop :=
  ∃ e later count, events = e::later ∧ e.env.send = .sent count ∧ out.socks.writeBuff.unread.length ≤ count

variable {out : Outcome} {e : WriteEvent} {events : List WriteEvent} {socks : SocksConnModel} {key : SelectorKey}
  {sel : Selector} {called : List Effect}

@[simp] theorem records_append (one two : List Effect) : records (one ++ two) = records one + records two :=
  List.countP_append

theorem reqSent_finishes : Finishes .reqWrite reqSent := by
  have parts : ∀ key sel socks called, (reqSent key sel socks called).next ≠ .reqWrite ∧
      (reqSent key sel socks called).socks = socks ∧ (reqSent key sel socks called).effects = called := by
    intro key sel socks called
    unfold reqSent
    dsimp only
    split
    · exact ⟨SocksState.noConfusion,rfl,rfl⟩
    · split
      · exact ⟨SocksState.noConfusion,rfl,rfl⟩
      · refine ⟨?_,rfl,rfl⟩
        dsimp only
        split
        · exact SocksState.noConfusion
        · exact SocksState.noConfusion
  exact ⟨fun key sel socks called => (parts key sel socks called).1,
    fun key sel socks called => (parts key sel socks called).2.1,
    fun key sel socks called => (parts key sel socks called).2.2⟩

theorem reqSent_next (registered : socks.parsers.reqParser.resParser.state = resSuccess → e.registered socks) :
    (reqSent e.key e.sel socks called).next = afterReply socks := by
  unfold reqSent afterReply
  dsimp only
  by_cases success : socks.parsers.reqParser.resParser.state = resSuccess
  · obtain ⟨own,origin⟩ := registered success
    rw [if_neg (not_not.mpr success),if_neg (not_not.mpr own),if_pos success]
    exact if_pos origin
  · rw [if_pos success,if_neg success]

theorem reqWrite_silent (fd : Int) (env : Env) (socks : SocksConnModel) : bytesTo fd [connInformation env socks] = [] := rfl

theorem drain_records (delivers : ∀ e ∈ events, e.delivers) (waiting : out.next = .reqWrite)
    (more : out.socks.writeBuff.unread ≠ []) :
    records out.effects ≤ records (drain reqWrite .reqWrite events out).effects ∧
    ((drain reqWrite .reqWrite events out).socks.writeBuff.unread = [] →
      records out.effects < records (drain reqWrite .reqWrite events out).effects) := by
  induction events generalizing out with
  | nil => exact ⟨Nat.le_refl _,fun empty => absurd empty more⟩
  | cons e later ih =>
      obtain ⟨count,served,_,⟨socksNow,effectsNow,next⟩,same⟩ :=
        @drain_cons .reqWrite (fun env socks => [connInformation env socks]) reqSent e later out reqSent_finishes
          (delivers e List.mem_cons_self) waiting
      change drain reqWrite .reqWrite (e::later) out = drain reqWrite .reqWrite later served at same
      have one : records served.effects = records out.effects + 1 := by
        rw [effectsNow,records_append]
        rfl
      rw [same]
      dsimp only at next
      by_cases left_ : (out.socks.writeBuff.consume count).unread ≠ []
      · rw [if_pos left_] at next
        obtain ⟨grows,_⟩ := ih (fun e member => delivers e (List.mem_cons_of_mem _ member)) next
          (by rw [socksNow]; exact left_)
        exact ⟨by omega,fun _ => by omega⟩
      · rw [if_neg left_] at next
        obtain ⟨called,went⟩ := next
        have gone : served.next ≠ .reqWrite := by
          rw [went]
          exact reqSent_finishes.leaves _ _ _ _
        rw [drain_left gone]
        exact ⟨by omega,fun _ => by omega⟩

theorem consume_empty (buff : CertifiedBuffer) (count : Nat) :
    (buff.consume count).unread = [] ↔ buff.unread.length ≤ count := by
  rw [CertifiedBuffer.consume_unread,List.drop_eq_nil_iff]

theorem one_record (replying : Replying out) (delivers : ∀ e ∈ events, e.delivers)
    (drained : (drain reqWrite .reqWrite events out).socks.writeBuff.unread = []) :
    records (drain reqWrite .reqWrite events out).effects = 1 ↔ WholeAtOnce out events := by
  cases events with
  | nil => exact absurd drained replying.reply
  | cons e later =>
      obtain ⟨count,served,gave,⟨socksNow,effectsNow,next⟩,same⟩ :=
        @drain_cons .reqWrite (fun env socks => [connInformation env socks]) reqSent e later out reqSent_finishes
          (delivers e List.mem_cons_self) replying.next
      change drain reqWrite .reqWrite (e::later) out = drain reqWrite .reqWrite later served at same
      have one : records served.effects = 1 := by
        rw [effectsNow,replying.fresh]
        rfl
      have first : WholeAtOnce out (e::later) ↔ (out.socks.writeBuff.consume count).unread = [] := by
        rw [consume_empty]
        constructor
        · rintro ⟨_,_,other,split,gaveToo,whole⟩
          cases split
          cases gave.symm.trans gaveToo
          exact whole
        · exact fun whole => ⟨e,later,count,rfl,gave,whole⟩
      rw [same] at drained ⊢
      rw [first]
      dsimp only at next
      by_cases left_ : (out.socks.writeBuff.consume count).unread ≠ []
      · rw [if_pos left_] at next
        have more := (drain_records (fun e member => delivers e (List.mem_cons_of_mem _ member)) next
          (by rw [socksNow]; exact left_)).2 drained
        exact iff_of_false (by omega) left_
      · rw [if_neg left_] at next
        obtain ⟨called,went⟩ := next
        have gone : served.next ≠ .reqWrite := by
          rw [went]
          exact reqSent_finishes.leaves _ _ _ _
        rw [drain_left gone]
        exact iff_of_true one (not_not.mp left_)

theorem replies_once_exact (replying : Replying out) (delivers : ∀ e ∈ events, e.delivers)
    (registered : out.socks.parsers.reqParser.resParser.state = resSuccess → ∀ e ∈ events, e.registered out.socks)
    (drained : (drain reqWrite .reqWrite events out).socks.writeBuff.unread = []) :
    RepliesOnce out events ↔ WholeAtOnce out events := by
  have run : ∀ earlier, (∀ e ∈ earlier, e ∈ events) → _ := fun earlier within =>
    @drain_run .reqWrite (fun env socks => [connInformation env socks]) reqSent earlier out out.socks.cliConn.socket
      reqWrite rfl reqSent_finishes (reqWrite_silent _) (fun e member => delivers e (within e member)) replying.next
      replying.reply rfl
  rw [← one_record replying delivers drained]
  constructor
  · exact fun once => once.record
  · intro record
    obtain ⟨bytes,⟨rest,kept⟩,ends⟩ := run events (fun _ member => member)
    rw [drained,List.append_nil,replying.fresh] at bytes
    rw [if_neg (not_not.mpr drained)] at ends
    obtain ⟨e,member,called,went⟩ := ends
    refine ⟨bytes,?_,?_,record⟩
    · intro earlier later split
      obtain ⟨some,_,waits⟩ := run earlier (fun e member => by rw [split]; exact List.mem_append_left _ member)
      rw [replying.fresh] at some
      refine ⟨some,?_⟩
      intro left_
      by_contra more
      rw [if_pos more] at waits
      exact left_ waits
    · rw [went,kept]
      exact reqSent_next fun success => registered success e member

def openReply : Outcome :=
  ⟨⟨[⟨0,opWrite,some .connActions,some 1⟩,⟨1,opNoop,some .connActions,some 1⟩],1,fun _ => false,fun _ => false⟩,
    {newSocksConn with
      srcConn.socket:=1
      writeBuff:=(CertifiedBuffer.init 10).fill [5,0,0,1,10,0,0,1,0,80]},[],.reqWrite⟩

def replySends (count : Nat) : WriteEvent := ⟨{quiet with send:=.sent count},⟨0,1⟩,openReply.sel⟩

theorem openReply_once : RepliesOnce openReply [replySends 10] := by
  refine (replies_once_exact ⟨rfl,rfl,by decide +kernel⟩ ?_ ?_ (by decide +kernel)).mpr
    ⟨replySends 10,[],10,rfl,rfl,by decide +kernel⟩
  · intro e member
    exact ⟨10,by rw [List.mem_singleton.mp member]; rfl⟩
  · intro _ e member
    rw [List.mem_singleton.mp member]
    exact ⟨by decide +kernel,by decide +kernel⟩

-- The kernel takes four bytes and then the other six: two records for one request.
theorem shortSend_recorded_twice : Replying openReply ∧
    (drain reqWrite .reqWrite [replySends 4,replySends 6] openReply).socks.writeBuff.unread = [] ∧
    ¬ RepliesOnce openReply [replySends 4,replySends 6] := by
  refine ⟨⟨rfl,rfl,by decide +kernel⟩,by decide +kernel,?_⟩
  intro once
  have twice : records (drain reqWrite .reqWrite [replySends 4,replySends 6] openReply).effects = 2 := by
    decide +kernel
  rw [once.record] at twice
  cases twice

end Socks5d
