import Socks5d.Handlers

namespace Socks5d

-- A write event on one of the descriptors of a connection, with the selector as the other
-- connections left it.
structure WriteEvent where
  env : Env
  key : SelectorKey
  sel : Selector

def WriteEvent.delivers (e : WriteEvent) : Prop := ∃ count, e.env.send = .sent count

def drain (handler : StateHandler) (stay : SocksState) : List WriteEvent → Outcome → Outcome
  | [],out => out
  | e::later,out =>
    if out.next = stay then
      let served := handler e.env e.key e.sel out.socks
      drain handler stay later {served with effects:=out.effects ++ served.effects}
    else out

def bytesTo (fd : Int) (effects : List Effect) : List UInt8 := effects.flatMap fun effect => match effect with
  | .send to_ bytes => if to_ = fd then bytes else []
  | _ => []

structure Finishes (stay : SocksState)
    (finish : SelectorKey → Selector → SocksConnModel → List Effect → Outcome) : Prop where
  leaves : ∀ key sel socks called, (finish key sel socks called).next ≠ stay
  keeps : ∀ key sel socks called, (finish key sel socks called).socks = socks
  adds : ∀ key sel socks called, (finish key sel socks called).effects = called

variable {stay : SocksState} {logged : Env → SocksConnModel → List Effect}
  {finish : SelectorKey → Selector → SocksConnModel → List Effect → Outcome} {e : WriteEvent} {events : List WriteEvent}
  {socks : SocksConnModel} {sel : Selector} {called : List Effect} {out : Outcome}

@[simp] theorem bytesTo_append (fd : Int) (one two : List Effect) :
    bytesTo fd (one ++ two) = bytesTo fd one ++ bytesTo fd two := List.flatMap_append

theorem drain_left {handler : StateHandler} (left_ : out.next ≠ stay) : drain handler stay events out = out := by
  cases events with
  | nil => rfl
  | cons e later => rw [drain,if_neg left_]

def Sends (stay : SocksState) (logged : Env → SocksConnModel → List Effect)
    (finish : SelectorKey → Selector → SocksConnModel → List Effect → Outcome) (e : WriteEvent) (count : Nat)
    (out served : Outcome) : Prop :=
  let sent := {out.socks with writeBuff:=out.socks.writeBuff.consume count}
  served.socks = sent ∧
  served.effects = out.effects ++ ([Effect.send out.socks.cliConn.socket (out.socks.writeBuff.unread.take count)] ++
    logged e.env sent) ∧
  if sent.writeBuff.unread ≠ [] then served.next = stay
  else ∃ called, served.next = (finish e.key e.sel sent called).next

theorem drain_cons (finishes : Finishes stay finish) (delivers : e.delivers) (waiting : out.next = stay) :
    ∃ count served, e.env.send = .sent count ∧ Sends stay logged finish e count out served ∧
      drain (writeReply stay logged finish) stay (e::events) out = drain (writeReply stay logged finish) stay events served := by
  obtain ⟨count,gave⟩ := delivers
  have ran := writeReply_sent stay logged finish e.env e.key e.sel out.socks gave
  refine ⟨count,_,gave,?_,by rw [drain,if_pos waiting]⟩
  dsimp only at ran
  rw [ran,Sends]
  split
  · rename_i more
    exact ⟨rfl,rfl,rfl⟩
  · rename_i whole
    refine ⟨finishes.keeps _ _ _ _,?_,_,rfl⟩
    rw [finishes.adds]

theorem consume_split (buff : CertifiedBuffer) (count : Nat) :
    buff.unread.take count ++ (buff.consume count).unread = buff.unread := by
  rw [CertifiedBuffer.consume_unread]
  exact List.take_append_drop count buff.unread

-- Any number of write events, by induction on them: the reply goes out byte by byte, and the
-- connection goes on with the event that takes the last of it.
theorem drain_run {fd : Int} {handler : StateHandler} (made : handler = writeReply stay logged finish)
    (finishes : Finishes stay finish) (silent : ∀ env socks, bytesTo fd (logged env socks) = [])
    (delivers : ∀ e ∈ events, e.delivers) (waiting : out.next = stay) (more : out.socks.writeBuff.unread ≠ [])
    (client : out.socks.cliConn.socket = fd) :
    let last := drain handler stay events out
    bytesTo fd last.effects ++ last.socks.writeBuff.unread = bytesTo fd out.effects ++ out.socks.writeBuff.unread ∧
    (∃ rest, last.socks = {out.socks with writeBuff:=rest}) ∧
    if last.socks.writeBuff.unread ≠ [] then last.next = stay
    else ∃ e ∈ events, ∃ called, last.next = (finish e.key e.sel last.socks called).next := by
  subst made
  induction events generalizing out with
  | nil => exact ⟨rfl,⟨_,rfl⟩,by rw [drain,if_pos more]; exact waiting⟩
  | cons e later ih =>
      obtain ⟨count,served,_,⟨socksNow,effectsNow,next⟩,same⟩ :=
        @drain_cons stay logged finish e later out finishes (delivers e List.mem_cons_self) waiting
      dsimp only at socksNow effectsNow next
      have moved : bytesTo fd served.effects ++ served.socks.writeBuff.unread =
          bytesTo fd out.effects ++ out.socks.writeBuff.unread := by
        have now : bytesTo fd [Effect.send out.socks.cliConn.socket (out.socks.writeBuff.unread.take count)] =
            out.socks.writeBuff.unread.take count := by simp [bytesTo,client]
        rw [effectsNow,bytesTo_append,bytesTo_append,now,silent,List.append_nil,socksNow,List.append_assoc,consume_split]
      dsimp only
      rw [same]
      by_cases left_ : (out.socks.writeBuff.consume count).unread ≠ []
      · rw [if_pos left_] at next
        obtain ⟨bytes,⟨rest,kept⟩,ends⟩ := ih (fun e member => delivers e (List.mem_cons_of_mem _ member)) next
          (by rw [socksNow]; exact left_) (by rw [socksNow]; exact client)
        refine ⟨bytes.trans moved,⟨rest,by rw [kept,socksNow]⟩,?_⟩
        split
        · rename_i some
          rwa [if_pos some] at ends
        · rename_i none_
          rw [if_neg none_] at ends
          obtain ⟨last,member,called,went⟩ := ends
          exact ⟨last,List.mem_cons_of_mem _ member,called,went⟩
      · rw [if_neg left_] at next
        obtain ⟨called,went⟩ := next
        have gone : served.next ≠ stay := by
          rw [went]
          exact finishes.leaves _ _ _ _
        rw [drain_left gone,socksNow]
        refine ⟨by rw [← socksNow]; exact moved,⟨_,rfl⟩,?_⟩
        rw [if_neg left_]
        exact ⟨e,List.mem_cons_self,called,went⟩

end Socks5d
