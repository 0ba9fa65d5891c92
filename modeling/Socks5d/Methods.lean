import Socks5d.Drains
import Socks5d.SessionInput

namespace Socks5d
open Scan

def helloMessage (methods : List UInt8) : List UInt8 := 5 :: UInt8.ofNat methods.length :: methods

-- The method that the server is documented to pick: the password if it is offered, nothing
-- if that is offered and allowed, and no method otherwise.
def chosenMethod (needsAuth : Bool) (methods : List UInt8) : UInt8 :=
  if 2 ∈ methods then 2 else if 0 ∈ methods ∧ needsAuth = false then 0 else 0xFF

def chosenState (needsAuth : Bool) (methods : List UInt8) : SocksState :=
  if 2 ∈ methods then .authRead else if 0 ∈ methods ∧ needsAuth = false then .reqRead else .done

def connCalls (needsAuth : Bool) (parser : ConnParser) (buffs : List CertifiedBuffer) :
    ConnParser × List CertifiedBuffer :=
  parseCalls (connParseFull needsAuth) parser buffs

variable {needsAuth : Bool} {methods taken front extra : List UInt8} {parser : ConnParser}

theorem chosen_next (method : UInt8) (chosen : parser.auth = chosenMethod needsAuth taken) :
    (setNewMethod needsAuth parser method).auth = chosenMethod needsAuth (taken ++ [method]) := by
  unfold setNewMethod
  by_cases password : method = 2
  · rw [if_pos (by simp [password,userPass]),password]
    simp [chosenMethod]
  · have kept : 2 ∈ taken ++ [method] ↔ 2 ∈ taken := by simp [Ne.symm password]
    have other : (2 ∈ taken ∧ parser.auth = userPass) ∨ (2 ∉ taken ∧ parser.auth ≠ userPass) := by
      rw [chosen,chosenMethod]
      by_cases offered : 2 ∈ taken
      · exact .inl ⟨offered,if_pos offered⟩
      · refine .inr ⟨offered,?_⟩
        rw [if_neg offered]
        split
        · decide
        · decide
    by_cases none_ : method = 0 ∧ needsAuth = false
    · obtain ⟨open_,free⟩ := none_
      rcases other with ⟨offered,same⟩ | ⟨missing,differs⟩
      · rw [if_neg (by simp [same,open_,userPass,noAuth]),chosen,chosenMethod,chosenMethod]
        rw [if_pos offered,if_pos (kept.mpr offered)]
      · rw [if_pos (by simp [differs,open_,free,noAuth])]
        dsimp only
        rw [chosenMethod,if_neg (fun member => missing (kept.mp member)),if_pos ⟨by simp [open_],free⟩,open_]
    · have still : (0 ∈ taken ++ [method] ∧ needsAuth = false) ↔ (0 ∈ taken ∧ needsAuth = false) := by
        constructor
        · rintro ⟨member,free⟩
          refine ⟨?_,free⟩
          rcases List.mem_append.mp member with old | new
          · exact old
          · exact absurd ⟨(List.mem_singleton.mp new).symm,free⟩ none_
        · rintro ⟨member,free⟩
          exact ⟨List.mem_append_left _ member,free⟩
      rw [if_neg]
      · rw [chosen,chosenMethod,chosenMethod]
        simp only [kept,still]
      · intro takes
        simp [password,userPass,noAuth] at takes
        exact none_ ⟨of_decide_eq_true takes.1.2,takes.1.1⟩

theorem setNewMethod_kept (method : UInt8) : (setNewMethod needsAuth parser method).toParse = parser.toParse ∧
    (setNewMethod needsAuth parser method).state = parser.state := by
  unfold setNewMethod
  split
  · exact ⟨rfl,rfl⟩
  · exact ⟨rfl,rfl⟩

theorem methods_fold (state : parser.state = .methods) (count : parser.toParse = methods.length) (some : methods ≠ [])
    (chosen : parser.auth = chosenMethod needsAuth taken) :
    methods.foldl (connParseByte needsAuth) parser = ⟨chosenMethod needsAuth (taken ++ methods),.done,0⟩ := by
  induction methods generalizing parser taken with
  | nil => exact absurd rfl some
  | cons method rest ih =>
      obtain ⟨keptCount,keptState⟩ := @setNewMethod_kept needsAuth parser method
      have next := chosen_next method chosen
      rw [List.length_cons] at count
      rw [List.foldl_cons,List.append_cons]
      simp only [connParseByte,state]
      rw [keptCount]
      cases rest with
      | nil =>
          have last : parser.toParse - 1 = 0 := by
            rw [count]
            rfl
          rw [if_pos last,List.foldl_nil,last,next,List.append_nil]
      | cons other others =>
          have more : parser.toParse - 1 = ((other::others).length : Int) := by
            rw [count]
            push_cast
            omega
          rw [if_neg (by rw [more,List.length_cons]; omega)]
          exact ih (keptState.trans state) more (by simp) next

theorem hello_fold (prior : ConnParser) (short : methods.length ≤ 255) :
    (helloMessage methods).foldl (connParseByte needsAuth) (startConnectionParser prior) =
      ⟨chosenMethod needsAuth methods,.done,0⟩ := by
  have size : (UInt8.ofNat methods.length).toNat = methods.length := by
    rw [UInt8.toNat_ofNat']
    exact Nat.mod_eq_of_lt (by omega)
  rw [helloMessage,List.foldl_cons,List.foldl_cons]
  have version : connParseByte needsAuth (startConnectionParser prior) 5 = ⟨noMethods,.nmethods,0⟩ := rfl
  rw [version]
  by_cases none_ : methods = []
  · rw [none_]
    rfl
  · have nonzero : UInt8.ofNat methods.length ≠ 0 := by
      intro zero
      rw [zero] at size
      exact none_ (List.length_eq_zero_iff.mp size.symm)
    have counted : connParseByte needsAuth ⟨noMethods,.nmethods,0⟩ (UInt8.ofNat methods.length) =
        ⟨noMethods,.methods,methods.length⟩ := by
      change (if UInt8.ofNat methods.length = 0 then _ else _) = _
      rw [if_neg nonzero,size]
    rw [counted]
    exact @methods_fold needsAuth methods [] ⟨noMethods,.methods,methods.length⟩ rfl rfl none_ rfl

theorem helloMessage_length (short : methods.length ≤ 255) :
    helloFormat.length (helloMessage methods) = some (helloMessage methods).length := by
  have size : (UInt8.ofNat methods.length).toNat = methods.length := by
    rw [UInt8.toNat_ofNat']
    exact Nat.mod_eq_of_lt (by omega)
  change (if (5 : UInt8) = socksVersion then some (2 + (UInt8.ofNat methods.length).toNat) else none) = _
  rw [show (5 : UInt8) = socksVersion from rfl,if_pos rfl,size,helloMessage,List.length_cons,List.length_cons]
  congr 1
  omega

theorem helloSent_finishes : Finishes .helloWrite helloSent where
  leaves := by
    intro key sel socks called
    obtain ⟨_,_,_,⟨next,_⟩ | ⟨next,_⟩ | next | next⟩ := @helloSent_inert key sel socks called
    · rw [next]; exact SocksState.noConfusion
    · rw [next]; exact SocksState.noConfusion
    · rw [next]; exact SocksState.noConfusion
    · rw [next]; exact SocksState.noConfusion
  keeps := fun _ _ _ _ => helloSent_inert.2.2.1
  adds := fun _ _ _ _ => helloSent_inert.2.1

theorem helloSent_next {key : SelectorKey} {sel : Selector} {socks : SocksConnModel} {called : List Effect}
    (registered : (selectorSetInterest sel key.fd opRead).1 = .success)
    (chosen : socks.parsers.connectParser.auth = chosenMethod needsAuth methods) :
    (helloSent key sel socks called).next = chosenState needsAuth methods := by
  unfold helloSent
  dsimp only
  rw [if_neg (not_not.mpr registered),chosen,chosenMethod,chosenState]
  by_cases password : 2 ∈ methods
  · rw [if_pos password,if_pos password]
    rfl
  · rw [if_neg password,if_neg password]
    split
    · rfl
    · rfl

structure Greeting (needsAuth : Bool) (methods : List UInt8) (out : Outcome) : Prop where
  next : out.next = .helloWrite
  reply : out.socks.writeBuff.unread = [5,chosenMethod needsAuth methods]
  auth : out.socks.parsers.connectParser.auth = chosenMethod needsAuth methods

theorem greeting_sent {out : Outcome} {events : List WriteEvent} (greeting : Greeting needsAuth methods out)
    (delivers : ∀ e ∈ events, e.delivers)
    (registered : ∀ e ∈ events, (selectorSetInterest e.sel e.key.fd opRead).1 = .success) :
    let last := drain helloWrite .helloWrite events out
    let fd := out.socks.cliConn.socket
    if last.socks.writeBuff.unread ≠ [] then last.next = .helloWrite
    else last.next = chosenState needsAuth methods ∧
      bytesTo fd last.effects = bytesTo fd out.effects ++ [5,chosenMethod needsAuth methods] := by
  obtain ⟨bytes,⟨rest,kept⟩,ends⟩ := @drain_run .helloWrite (fun _ _ => []) helloSent events out
    out.socks.cliConn.socket helloWrite rfl helloSent_finishes (fun _ _ => rfl) delivers greeting.next (by rw [greeting.reply]; simp) rfl
  dsimp only
  split
  · rename_i some
    rwa [if_pos some] at ends
  · rename_i none_
    rw [if_neg none_] at ends
    obtain ⟨e,member,called,went⟩ := ends
    constructor
    · exact went.trans (helloSent_next (registered e member) (by rw [kept]; exact greeting.auth))
    · have empty : (drain helloWrite .helloWrite events out).socks.writeBuff.unread = [] := not_not.mp none_
      rw [empty,List.append_nil,greeting.reply] at bytes
      exact bytes

theorem method_negotiated (needsAuth : Bool) (methods : List UInt8) (short : methods.length ≤ 255) :
    (∀ prior earlier (last : CertifiedBuffer) front extra,
      helloMessage methods = unreadBytes earlier ++ front → front ≠ [] → last.unread = front ++ extra →
      let begun := connCalls needsAuth (startConnectionParser prior) earlier
      let ended := connParseFull needsAuth begun.1 last
      begun.1.halted = false ∧ unreadBytes begun.2 = [] ∧ ended.1.state = .done ∧ ended.2.unread = extra ∧
      ended.1.auth = chosenMethod needsAuth methods) ∧
    (∀ out events, Greeting needsAuth methods out → (∀ e ∈ events, e.delivers) →
      (∀ e ∈ events, (selectorSetInterest e.sel e.key.fd opRead).1 = .success) →
      let last := drain helloWrite .helloWrite events out
      let fd := out.socks.cliConn.socket
      if last.socks.writeBuff.unread ≠ [] then last.next = .helloWrite
      else last.next = chosenState needsAuth methods ∧
        bytesTo fd last.effects = bytesTo fd out.effects ++ [5,chosenMethod needsAuth methods]) ∧
    (chosenMethod needsAuth methods ∈ methods ∨ chosenMethod needsAuth methods = 0xFF) ∧
    ∀ other, other.Perm methods → chosenMethod needsAuth other = chosenMethod needsAuth methods := by
  refine ⟨?_,?_,?_,?_⟩
  · intro prior earlier last front extra cut more unread
    obtain ⟨running,cleared,state,left_⟩ := @calls_end _ (connParseByte needsAuth) ConnParser.halted helloFormat _ _ _
      (startConnectionParser prior) _ _ _ (helloReader_parses.reads needsAuth) (fun _ => rfl) rfl rfl
      (helloMessage_length short) earlier last cut more unread
    rw [hello_fold prior short] at state
    exact ⟨running,cleared,congrArg ConnParser.state state,left_,congrArg ConnParser.auth state⟩
  · intro out events greeting delivers registered
    exact greeting_sent greeting delivers registered
  · unfold chosenMethod
    split
    · rename_i offered
      exact .inl offered
    · split
      · rename_i offered
        exact .inl offered.1
      · exact .inr rfl
  · intro other same
    simp only [chosenMethod,same.mem_iff]

-- Methods 1, 0 and 2 offered in two calls, and a reply whose two bytes go out one by one.
def passwordGreeting : Outcome :=
  ⟨⟨[⟨0,opWrite,some .connActions,some 1⟩],0,fun _ => false,fun _ => false⟩,
    {newSocksConn with parsers.connectParser:=⟨2,.done,0⟩,writeBuff:=(CertifiedBuffer.init 2).fill [5,2]},[],.helloWrite⟩

def byteSent : WriteEvent := ⟨{quiet with send:=.sent 1},⟨0,1⟩,passwordGreeting.sel⟩

theorem three_negotiated : (∃ earlier last, (connParseFull true
      (connCalls true (startConnectionParser ⟨0,.version,0⟩) earlier).1 last).1.auth = 2) ∧
    (drain helloWrite .helloWrite [byteSent,byteSent] passwordGreeting).next = .authRead := by
  obtain ⟨parses,replies,_⟩ := method_negotiated true [1,0,2] (by decide)
  constructor
  · obtain ⟨_,_,_,_,auth⟩ := parses ⟨0,.version,0⟩ [(CertifiedBuffer.init 3).fill [5,3,1]]
      ((CertifiedBuffer.init 3).fill [0,2,9]) [0,2] [9] (by decide +kernel) (by decide) (by decide +kernel)
    exact ⟨_,_,auth⟩
  · have delivers : ∀ e ∈ [byteSent,byteSent], e.delivers := by
      intro e member
      exact ⟨1,by simp at member; rw [member]; rfl⟩
    have registered : ∀ e ∈ [byteSent,byteSent], (selectorSetInterest e.sel e.key.fd opRead).1 = .success := by
      decide +kernel
    have ends := replies passwordGreeting [byteSent,byteSent] ⟨rfl,by decide +kernel,rfl⟩ delivers registered
    have whole : (drain helloWrite .helloWrite [byteSent,byteSent] passwordGreeting).socks.writeBuff.unread = [] := by
      decide +kernel
    exact ((if_neg (not_not.mpr whole)).mp ends).1

end Socks5d
