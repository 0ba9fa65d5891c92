import Socks5d.Fallback
import Socks5d.Methods
import Socks5d.Credentials
import Socks5d.Requests
import Socks5d.Conversation

namespace Socks5d
open Scan

def watched (table : Int → Option Item) (data : Nat) (fd : Int) (i : FdInterest) : Int → Option Item :=
  Function.update table fd (some ⟨fd,i,some .connActions,some data⟩)

-- A connection between two messages: nothing unread, `reply` unsent, and the rest of it as
-- in `first`, whose buffers do not count.
structure Stands (table : Int → Option Item) (reply : List UInt8) (first : SocksConnModel) (s : Session) : Prop where
  conn : ∃ input output, s.conn = some {first with readBuff:=input,writeBuff:=output} ∧
    input.unread = [] ∧ input.capacity = buffSize ∧ output.unread = reply ∧ output.capacity = buffSize
  room : itemsMaxSize ≤ s.sel.fds.length
  entries : s.sel.registered = table

inductive Takes : Nat → List Env → Prop where
  | last {n count : Nat} {env : Env} (gave : env.send = .sent count) (whole : n ≤ count) : Takes n [env]
  | more {n count : Nat} {env : Env} {later : List Env} (gave : env.send = .sent count) (part : count < n)
      (rest : Takes (n-count) later) : Takes n (env::later)

variable {data : Nat} {table : Int → Option Item} {fd other : Int} {i j : FdInterest} {sel : Selector} {s : Session}
  {env : Env} {key : SelectorKey} {socks first : SocksConnModel} {kind : EventKind} {state : SocksState} {π : Type}
  {message reply : List UInt8} {called : List Effect}

theorem watched_self : watched table data fd i fd = some ⟨fd,i,some .connActions,some data⟩ := Function.update_self ..

theorem watched_ne (apart : other ≠ fd) : watched table data fd i other = table other := Function.update_of_ne apart ..

theorem watched_set (entries : sel.registered = watched table data fd j) (i : FdInterest) :
    (selectorSetInterest sel fd i).1 = .success ∧
    (selectorSetInterest sel fd i).2.registered = watched table data fd i := by
  have found : sel.registered fd = some ⟨fd,j,some .connActions,some data⟩ := by rw [entries,watched_self]
  obtain ⟨told,changed⟩ := setInterest_found found i
  refine ⟨told,funext fun other => ?_⟩
  rw [changed]
  split
  · rename_i same
    rw [same,watched_self]
  · rename_i apart
    rw [entries,watched_ne apart,watched_ne apart]

theorem watched_comm (apart : fd ≠ other) :
    watched (watched table data fd i) data other j = watched (watched table data other j) data fd i :=
  Function.update_comm apart ..

theorem served_goes {handler : StateHandler} (live : s.conn = some socks) (asks : s.ready (.event kind fd env) = true)
    (serves : stateHandler kind socks.current = some handler) (outside : socks.current ≠ .copy)
    (kept : (handler env ⟨fd,data⟩ s.sel (handleFirst socks)).socks.stm = some socks.current)
    (goes : (handler env ⟨fd,data⟩ s.sel (handleFirst socks)).next ≠ .error ∧
      (handler env ⟨fd,data⟩ s.sel (handleFirst socks)).next ≠ .done) :
    let out := handler env ⟨fd,data⟩ s.sel (handleFirst socks)
    servedStep data s (.event kind fd env) =
      some ⟨out.sel,some (onArrival env out.next {out.socks with stm:=some out.next}),s.trace ++ out.effects⟩ := by
  dsimp only
  rw [servedStep,if_pos asks]
  unfold sessionStep socksConnEvent stmHandler
  rw [live]
  dsimp only
  rw [Option.bind_some,show socks.stm.getD .helloRead = socks.current from rfl,serves]
  simp only [Option.map_some]
  generalize handler env ⟨fd,data⟩ s.sel (handleFirst socks) = out at kept goes ⊢
  have jumped : jump env out = {out with socks:=onArrival env out.next {out.socks with stm:=some out.next}} := by
    unfold jump
    split
    · rename_i same
      have waits : out.next = socks.current := Option.some.inj (same.symm.trans kept)
      have still : onArrival env out.next {out.socks with stm:=some out.next} = out.socks := by
        rw [← same,waits]
        unfold onArrival
        split
        · rename_i copy
          exact absurd copy outside
        · rfl
      rw [still]
    · rfl
  rw [jumped]
  unfold checkState
  rw [if_neg (by simp [goes.1,goes.2])]

theorem message_read {r : Reader π} {format : Framing UInt8} {reading : List UInt8 → π → Prop}
    (parses : r.Parses format reading)
    {finish : Env → SelectorKey → Selector → SocksConnModel → List Effect → Outcome}
    (clear : socks.readBuff.unread = []) (room : message.length ≤ socks.readBuff.capacity) (some_ : message ≠ [])
    (known : format.length message = some message.length) (recv : env.recv = .data message) {parser : π}
    (parsed : message.foldl (r.advance env.users.requireAuth) (r.init (r.get socks.parsers)) = parser)
    (sound : r.failed parser = false) (whole : r.finished parser = true) :
    ∃ input, input.unread = [] ∧ input.capacity = socks.readBuff.capacity ∧
      readMessage r finish env key sel socks = finish env key sel
        {socks with parsers:=r.put socks.parsers parser,readBuff:=input} [.recv socks.cliConn.socket (.data message)] := by
  have fits : message.take socks.readBuff.space = message := by
    rw [List.take_of_length_le]
    rw [socks.readBuff.empty_space clear]
    exact room
  have clipped : env.recv.clip socks.readBuff.space = .data message := by
    rw [recv,Recv.clip,fits,if_neg some_]
  obtain ⟨awake,start⟩ := parses.fresh (r.get socks.parsers)
  rcases readMessage_cases r finish env key sel socks with ⟨none_,_⟩ | ⟨bytes,input,got,unread,capacity,out⟩
  · exact absurd clipped (none_ message)
  · cases clipped.symm.trans got
    rw [clear,List.nil_append] at unread out
    have filled : ((CertifiedBuffer.init message.length).fill message).unread = message ++ [] := by
      rw [CertifiedBuffer.fill_unread,CertifiedBuffer.init_unread,List.nil_append,List.append_nil,
        CertifiedBuffer.empty_space _ (CertifiedBuffer.init_unread _),CertifiedBuffer.init_capacity,List.take_length]
    obtain ⟨_,_,state,rest⟩ := @calls_end _ (r.advance env.users.requireAuth) r.halted format r.failed r.finished reading
      (r.init (r.get socks.parsers)) message message [] (parses.reads env.users.requireAuth) (fun _ => rfl) awake start
      known [] _ rfl some_ filled
    rw [parseCalls,parseFull_state,filled,List.append_nil,parsed] at state
    rw [parseCalls,parseFull_unread,filled,List.append_nil] at rest
    refine ⟨input,unread.trans rest,capacity,?_⟩
    dsimp only at out
    rw [out,state,sound,whole]
    rfl

theorem replyTwo_made {next : SocksState} (entries : sel.registered = watched table data fd j)
    (empty : socks.writeBuff.unread = []) (room : socks.writeBuff.capacity = buffSize) (two : reply.length = 2) :
    ∃ output after, output.unread = reply ∧ output.capacity = buffSize ∧
      after.registered = watched table data fd opWrite ∧ after.fds.length = sel.fds.length ∧
      replyTwo next reply ⟨fd,data⟩ sel socks called = ⟨after,{socks with writeBuff:=output},called,next⟩ := by
  obtain ⟨told,changed⟩ := watched_set entries opWrite
  have space : socks.writeBuff.space = buffSize := (socks.writeBuff.empty_space empty).trans room
  refine ⟨socks.writeBuff.fill reply,(selectorSetInterest sel fd opWrite).2,?_,?_,changed,setInterest_length _ _ _,?_⟩
  · rw [CertifiedBuffer.fill_unread,empty,space,List.nil_append,List.take_of_length_le]
    rw [two]
    decide
  · rw [CertifiedBuffer.fill_capacity,room]
  · unfold replyTwo
    dsimp only
    rw [if_neg (not_not.mpr told),if_neg (by rw [space]; decide)]

theorem asks_read (entries : s.sel.registered = watched table data fd i) (wants : i.read = true) :
    s.ready (.event .read fd env) = true := by
  change (s.sel.registered fd).any _ = true
  rw [entries,watched_self]
  exact wants

theorem asks_write (entries : s.sel.registered = watched table data fd i) (wants : i.write = true) :
    s.ready (.event .write fd env) = true := by
  change (s.sel.registered fd).any _ = true
  rw [entries,watched_self]
  exact wants

theorem exchange {r : Reader π} {format : Framing UInt8} {reading : List UInt8 → π → Prop} (parses : r.Parses format reading)
    {finish : Env → SelectorKey → Selector → SocksConnModel → List Effect → Outcome} {next : SocksState} {parser : π}
    {said : List Effect} (stands : Stands (watched table data fd opRead) [] first s) (client : first.cliConn.socket = fd)
    (serves : stateHandler .read first.current = some (readMessage r finish)) (outside : first.current ≠ .copy)
    (goes : next = .helloWrite ∨ next = .authWrite) (room : message.length ≤ buffSize) (some_ : message ≠ [])
    (known : format.length message = some message.length) (recv : env.recv = .data message)
    (parsed : message.foldl (r.advance env.users.requireAuth) (r.init (r.get first.parsers)) = parser)
    (sound : r.failed parser = false) (whole : r.finished parser = true) (two : reply.length = 2)
    (replies : ∀ input output sel, finish env ⟨fd,data⟩ sel {handleFirst first with
        parsers:=r.put first.parsers parser,readBuff:=input,writeBuff:=output} [.recv fd (.data message)] =
      replyTwo next reply ⟨fd,data⟩ sel {handleFirst first with
        parsers:=r.put first.parsers parser,readBuff:=input,writeBuff:=output} (.recv fd (.data message)::said)) :
    ∃ after, servedStep data s (.event .read fd env) = some after ∧
      Stands (watched table data fd opWrite) reply
        {first with parsers:=r.put first.parsers parser,stm:=some next} after ∧
      after.trace = s.trace ++ .recv fd (.data message)::said := by
  obtain ⟨⟨input,output,live,clear,inRoom,empty,outRoom⟩,length,entries⟩ := stands
  obtain ⟨rest,unread,capacity,read⟩ := @message_read s.sel env ⟨fd,data⟩
    (handleFirst {first with readBuff:=input,writeBuff:=output}) π message r format reading parses finish clear
    (by rw [show (handleFirst {first with readBuff:=input,writeBuff:=output}).readBuff.capacity = buffSize from inRoom]; exact room)
    some_ known recv parser parsed sound whole
  obtain ⟨stored,selector,unsent,kept,changed,same,made⟩ := @replyTwo_made data table fd opRead s.sel
    {handleFirst first with parsers:=r.put first.parsers parser,readBuff:=rest,writeBuff:=output} reply
    (.recv fd (.data message)::said) next entries empty outRoom two
  have ran : readMessage r finish env ⟨fd,data⟩ s.sel (handleFirst {first with readBuff:=input,writeBuff:=output}) =
      ⟨selector,{handleFirst first with parsers:=r.put first.parsers parser,readBuff:=rest,writeBuff:=stored},
        .recv fd (.data message)::said,next⟩ := by
    rw [read]
    change finish env ⟨fd,data⟩ s.sel _ [.recv first.cliConn.socket (.data message)] = _
    rw [client]
    exact (replies rest output s.sel).trans made
  have open_ : next ≠ .error ∧ next ≠ .done := by rcases goes with rfl | rfl <;> decide
  have served := @served_goes data fd s env {first with readBuff:=input,writeBuff:=output} .read (readMessage r finish)
    live (asks_read entries rfl) serves outside (by rw [ran]; rfl) (by rw [ran]; exact open_)
  dsimp only at served
  rw [ran] at served
  refine ⟨_,served,⟨⟨rest,stored,?_,unread,capacity.trans inRoom,unsent,kept⟩,Nat.le_trans length (Nat.le_of_eq same.symm),changed⟩,rfl⟩
  rcases goes with rfl | rfl
  · rfl
  · rfl

theorem reply_served {stay : SocksState} {logged : Env → SocksConnModel → List Effect}
    {finish : SelectorKey → Selector → SocksConnModel → List Effect → Outcome} {count : Nat}
    (serves : stateHandler .write stay = some (writeReply stay logged finish)) (outside : stay ≠ .copy)
    (waits : first.stm = some stay) (client : first.cliConn.socket = fd) (gave : env.send = .sent count)
    (stands : Stands (watched table data fd opWrite) reply first s) :
    ∃ input output, input.unread = [] ∧ input.capacity = buffSize ∧ output.unread = reply.drop count ∧
      output.capacity = buffSize ∧
      let sent := {first with readBuff:=input,writeBuff:=output}
      let called := [Effect.send fd (reply.take count)] ++ logged env sent
      let out := if reply.drop count ≠ [] then ⟨s.sel,sent,called,stay⟩ else finish ⟨fd,data⟩ s.sel sent called
      (out.socks.stm = some stay → out.next ≠ .error ∧ out.next ≠ .done →
        servedStep data s (.event .write fd env) =
          some ⟨out.sel,some (onArrival env out.next {out.socks with stm:=some out.next}),s.trace ++ out.effects⟩) := by
  obtain ⟨⟨input,output,live,clear,inRoom,unsent,outRoom⟩,length,entries⟩ := stands
  have left_ : (output.consume count).unread = reply.drop count := by rw [CertifiedBuffer.consume_unread,unsent]
  have awake : handleFirst {first with readBuff:=input,writeBuff:=output} = {first with readBuff:=input,writeBuff:=output} := by
    unfold handleFirst
    rw [waits]
    rfl
  have current : SocksConnModel.current {first with readBuff:=input,writeBuff:=output} = stay := by
    rw [SocksConnModel.current,waits]
    rfl
  have sent := writeReply_sent stay logged finish env ⟨fd,data⟩ s.sel {first with readBuff:=input,writeBuff:=output} gave
  dsimp only at sent
  rw [left_,unsent,client] at sent
  refine ⟨input,output.consume count,clear,inRoom,left_,by rw [CertifiedBuffer.consume_capacity,outRoom],?_⟩
  dsimp only
  intro kept open_
  have served := @served_goes data fd s env {first with readBuff:=input,writeBuff:=output} .write
    (writeReply stay logged finish) live (asks_write entries rfl) (by rw [current]; exact serves)
    (by rw [current]; exact outside)
  rw [awake,sent,current] at served
  exact served kept open_

-- All sends of a reply but the last one, by induction on them.
theorem front_taken {stay : SocksState} {logged : Env → SocksConnModel → List Effect}
    {finish : SelectorKey → Selector → SocksConnModel → List Effect → Outcome} {envs : List Env} {n : Nat}
    (serves : stateHandler .write stay = some (writeReply stay logged finish)) (outside : stay ≠ .copy)
    (waits : first.stm = some stay) (client : first.cliConn.socket = fd)
    (silent : ∀ env socks, sentTo fd (logged env socks) = [] ∧ tried (logged env socks) = [])
    (takes : Takes n envs) (size : reply.length = n)
    (stands : Stands (watched table data fd opWrite) reply first s) :
    ∃ front env count left middle, envs = front ++ [env] ∧ env.send = .sent count ∧ left.length ≤ count ∧
      Transitions.exec (servedStep data) s (front.map (.event .write fd)) = some middle ∧
      Stands (watched table data fd opWrite) left first middle ∧
      sentTo fd middle.trace ++ left = sentTo fd s.trace ++ reply ∧ tried middle.trace = tried s.trace := by
  induction takes generalizing s reply with
  | last gave whole => exact ⟨[],_,_,reply,s,rfl,gave,by omega,rfl,stands,rfl,rfl⟩
  | @more n count env later gave part rest ih =>
      have left_ : (reply.drop count).length = n - count := by rw [List.length_drop,size]
      have more : reply.drop count ≠ [] := by
        rw [← List.length_pos_iff]
        omega
      obtain ⟨input,output,clear,inRoom,unsent,outRoom,served⟩ := reply_served serves outside waits client gave stands
      dsimp only at served
      rw [if_pos more] at served
      have open_ : stay ≠ .error ∧ stay ≠ .done := by
        constructor
        · rintro rfl
          cases serves
        · rintro rfl
          cases serves
      have served := served waits open_
      dsimp only at served
      have arrived : onArrival env stay {first with readBuff:=input,writeBuff:=output,stm:=some stay} =
          {first with readBuff:=input,writeBuff:=output} := by
        rw [← waits]
        unfold onArrival
        split
        · exact absurd rfl outside
        · rfl
      rw [arrived] at served
      have after : Stands (watched table data fd opWrite) (reply.drop count) first
          ⟨s.sel,some {first with readBuff:=input,writeBuff:=output},s.trace ++ ([Effect.send fd (reply.take count)] ++
            logged env {first with readBuff:=input,writeBuff:=output})⟩ :=
        ⟨⟨input,output,rfl,clear,inRoom,unsent,outRoom⟩,stands.room,stands.entries⟩
      obtain ⟨front,last,final,some_,middle,cut,gave,enough,ran,later,sent,same⟩ := ih left_ after
      obtain ⟨noBytes,noDial⟩ := silent env {first with readBuff:=input,writeBuff:=output}
      refine ⟨env::front,last,final,some_,middle,by rw [cut]; rfl,gave,enough,?_,later,?_,?_⟩
      · change (servedStep data s (.event .write fd env)).bind _ = _
        rw [served,Option.bind_some]
        exact ran
      · rw [sent,sentTo_append,sentTo_append,noBytes,List.append_nil,List.append_assoc]
        congr 1
        change (if fd = fd then reply.take count else []) ++ [] ++ reply.drop count = reply
        rw [if_pos rfl,List.append_nil,List.take_append_drop]
      · rw [same,tried_append,tried_append,noDial]
        exact List.append_nil _

theorem reply_over {stay next : SocksState} {logged : Env → SocksConnModel → List Effect}
    {finish : SelectorKey → Selector → SocksConnModel → List Effect → Outcome} {envs : List Env}
    {later : Int → Option Item} (serves : stateHandler .write stay = some (writeReply stay logged finish))
    (outside : stay ≠ .copy) (waits : first.stm = some stay) (client : first.cliConn.socket = fd)
    (silent : ∀ env socks, sentTo fd (logged env socks) = [] ∧ tried (logged env socks) = [])
    (finishes : ∀ input output sel called, sel.registered = watched table data fd opWrite →
      ∃ after, finish ⟨fd,data⟩ sel {first with readBuff:=input,writeBuff:=output} called =
          ⟨after,{first with readBuff:=input,writeBuff:=output},called,next⟩ ∧
        after.registered = later ∧ after.fds.length = sel.fds.length)
    (goes : next ≠ .error ∧ next ≠ .done) (takes : Takes reply.length envs)
    (stands : Stands (watched table data fd opWrite) reply first s) :
    ∃ env input output last, Transitions.exec (servedStep data) s (envs.map (.event .write fd)) = some last ∧
      last.conn = some (onArrival env next {first with readBuff:=input,writeBuff:=output,stm:=some next}) ∧
      input.unread = [] ∧ input.capacity = buffSize ∧ output.unread = [] ∧ output.capacity = buffSize ∧
      itemsMaxSize ≤ last.sel.fds.length ∧ last.sel.registered = later ∧
      sentTo fd last.trace = sentTo fd s.trace ++ reply ∧ tried last.trace = tried s.trace := by
  obtain ⟨front,env,count,left_,middle,cut,gave,enough,ran,stands,sent,same⟩ :=
    front_taken serves outside waits client silent takes rfl stands
  have empty : left_.drop count = [] := List.drop_eq_nil_of_le enough
  obtain ⟨input,output,clear,inRoom,unsent,outRoom,served⟩ := reply_served serves outside waits client gave stands
  obtain ⟨after,finished,entries,length⟩ := finishes input output middle.sel ([Effect.send fd (left_.take count)] ++
    logged env {first with readBuff:=input,writeBuff:=output}) stands.entries
  dsimp only at served
  rw [if_neg (not_not.mpr empty),finished] at served
  have served := served waits goes
  obtain ⟨noBytes,noDial⟩ := silent env {first with readBuff:=input,writeBuff:=output}
  refine ⟨env,input,output,⟨after,some (onArrival env next {first with readBuff:=input,writeBuff:=output,stm:=some next}),
    middle.trace ++ ([Effect.send fd (left_.take count)] ++
      logged env {first with readBuff:=input,writeBuff:=output})⟩,?_,rfl,clear,inRoom,unsent.trans empty,outRoom,
    Nat.le_trans stands.room (Nat.le_of_eq length.symm),entries,?_,?_⟩
  · rw [cut,List.map_append,Transitions.exec_append,ran,Option.bind_some]
    exact Transitions.exec_one.trans served
  · rw [sentTo_append,sentTo_append,noBytes,List.append_nil,← sent]
    congr 1
    change (if fd = fd then left_.take count else []) ++ [] = left_
    rw [if_pos rfl,List.append_nil,List.take_of_length_le enough]
  · rw [tried_append,tried_append,noDial]
    exact (List.append_nil _).trans same

theorem reply_taken {stay next : SocksState} {finish : SelectorKey → Selector → SocksConnModel → List Effect → Outcome}
    {envs : List Env} (serves : stateHandler .write stay = some (writeReply stay (fun _ _ => []) finish))
    (outside : stay ≠ .copy) (waits : first.stm = some stay) (client : first.cliConn.socket = fd)
    (finishes : ∀ input output sel called, sel.registered = watched table data fd opWrite →
      ∃ after, finish ⟨fd,data⟩ sel {first with readBuff:=input,writeBuff:=output} called =
          ⟨after,{first with readBuff:=input,writeBuff:=output},called,next⟩ ∧
        after.registered = watched table data fd opRead ∧ after.fds.length = sel.fds.length)
    (goes : next = .authRead ∨ next = .reqRead) (takes : Takes reply.length envs)
    (stands : Stands (watched table data fd opWrite) reply first s) :
    ∃ last, Transitions.exec (servedStep data) s (envs.map (.event .write fd)) = some last ∧
      Stands (watched table data fd opRead) [] {first with stm:=some next} last ∧
      sentTo fd last.trace = sentTo fd s.trace ++ reply ∧ tried last.trace = tried s.trace := by
  have open_ : next ≠ .error ∧ next ≠ .done := by rcases goes with rfl | rfl <;> decide
  obtain ⟨env,input,output,last,ran,live,clear,inRoom,unsent,outRoom,length,entries,sent,same⟩ :=
    reply_over serves outside waits client (fun _ _ => ⟨rfl,rfl⟩) finishes open_ takes stands
  refine ⟨last,ran,⟨⟨input,output,?_,clear,inRoom,unsent,outRoom⟩,length,entries⟩,sent,same⟩
  rw [live]
  rcases goes with rfl | rfl
  · rfl
  · rfl

theorem helloSent_goes {methods : List UInt8} {needsAuth : Bool} {next : SocksState}
    (entries : sel.registered = watched table data fd opWrite)
    (auth : socks.parsers.connectParser.auth = chosenMethod needsAuth methods)
    (chosen : chosenState needsAuth methods = next) (goes : next = .authRead ∨ next = .reqRead) :
    ∃ after, helloSent ⟨fd,data⟩ sel socks called = ⟨after,socks,called,next⟩ ∧
      after.registered = watched table data fd opRead ∧ after.fds.length = sel.fds.length := by
  obtain ⟨told,changed⟩ := watched_set entries opRead
  refine ⟨(selectorSetInterest sel fd opRead).2,?_,changed,setInterest_length _ _ _⟩
  subst chosen
  unfold helloSent
  dsimp only
  rw [if_neg (not_not.mpr told),auth]
  unfold chosenMethod
  unfold chosenState at goes ⊢
  by_cases password : 2 ∈ methods
  · rw [if_pos password,if_pos password]
    rfl
  · rw [if_neg password] at goes
    rw [if_neg password,if_neg password]
    by_cases free : 0 ∈ methods ∧ needsAuth = false
    · rw [if_pos free,if_pos free]
      rfl
    · rw [if_neg free] at goes
      rcases goes with wrong | wrong
      · cases wrong
      · cases wrong

theorem hello_through {methods : List UInt8} {envs : List Env} {next : SocksState} (short : methods.length ≤ 255)
    (stands : Stands (watched table data fd opRead) [] (acceptedConn fd) s)
    (recv : env.recv = .data (helloMessage methods)) (chosen : chosenState env.users.requireAuth methods = next)
    (goes : next = .authRead ∨ next = .reqRead) (takes : Takes 2 envs) :
    ∃ last, Transitions.exec (servedStep data) s (.event .read fd env::envs.map (.event .write fd)) = some last ∧
      Stands (watched table data fd opRead) [] {acceptedConn fd with
        parsers.connectParser:=⟨chosenMethod env.users.requireAuth methods,.done,0⟩,stm:=some next} last ∧
      sentTo fd last.trace = sentTo fd s.trace ++ [5,chosenMethod env.users.requireAuth methods] ∧
      tried last.trace = tried s.trace := by
  obtain ⟨after,heard,waiting,trace⟩ := @exchange data table fd s env (acceptedConn fd) ConnParser (helloMessage methods)
    [5,chosenMethod env.users.requireAuth methods] helloReader helloFormat HelloReads helloReader_parses helloFinish
    .helloWrite ⟨chosenMethod env.users.requireAuth methods,.done,0⟩ [] stands rfl rfl SocksState.noConfusion (.inl rfl)
    (by unfold helloMessage buffSize; rw [List.length_cons,List.length_cons]; omega) (by unfold helloMessage; simp)
    (helloMessage_length short) recv (hello_fold (acceptedConn fd).parsers.connectParser short) rfl rfl rfl (fun _ _ _ => rfl)
  obtain ⟨last,ran,stands,sent,same⟩ := @reply_taken data table fd after _
    [5,chosenMethod env.users.requireAuth methods] .helloWrite next helloSent envs rfl SocksState.noConfusion rfl rfl
    (fun _ _ _ _ entries => helloSent_goes entries rfl chosen goes) goes takes waiting
  refine ⟨last,?_,stands,?_,?_⟩
  · change (servedStep data s (.event .read fd env)).bind _ = _
    rw [heard,Option.bind_some]
    exact ran
  · rw [sent,trace,sentTo_append]
    congr 1
    exact List.append_nil _
  · rw [same,trace,tried_append]
    exact List.append_nil _

structure Presentable (username password : List UInt8) : Prop where
  nameString : ∀ byte ∈ username, byte ≠ 0
  passString : ∀ byte ∈ password, byte ≠ 0
  shortName : username.length ≤ maxLen
  shortPass : password.length ≤ maxLen
  terminated : username.length = maxLen → password = []

theorem presented {username password : List UInt8} (good : Presentable username password) :
    let parser : AuthParser := ⟨.done,0,none,storedFields .zeroed username password⟩
    parser.username = username ∧ parser.password = password := by
  have clear : ∀ i, AuthParser.zeroed.fields.getD i 0 = 0 := by
    intro i
    rw [List.getD_eq_getElem?_getD]
    change ((List.replicate (maxLen+maxLen+2) (0 : UInt8))[i]?).getD 0 = 0
    rw [List.getElem?_replicate]
    split
    · rfl
    · rfl
  constructor
  · exact (username_exact zeroed_sized good.nameString good.passString good.shortName good.shortPass).mpr
      ⟨fun _ => clear _,good.terminated⟩
  · exact (password_exact zeroed_sized good.passString good.shortName good.shortPass).mpr fun _ => .inr (clear _)

theorem authSent_goes (entries : sel.registered = watched table data fd opWrite) :
    ∃ after, authSent ⟨fd,data⟩ sel socks called = ⟨after,socks,called,.reqRead⟩ ∧
      after.registered = watched table data fd opRead ∧ after.fds.length = sel.fds.length := by
  obtain ⟨told,changed⟩ := watched_set entries opRead
  refine ⟨(selectorSetInterest sel fd opRead).2,?_,changed,setInterest_length _ _ _⟩
  unfold authSent
  dsimp only
  rw [if_pos told]

theorem login_through {username password : List UInt8} {envs : List Env} (good : Presentable username password)
    (stands : Stands (watched table data fd opRead) [] first s) (client : first.cliConn.socket = fd)
    (waits : first.stm = some .authRead) (blank : first.parsers.authParser = .zeroed)
    (recv : env.recv = .data (authMessage username password))
    (accepts : processAuthenticationRequest env.users username password = 0) (takes : Takes 2 envs) :
    ∃ last, Transitions.exec (servedStep data) s (.event .read fd env::envs.map (.event .write fd)) = some last ∧
      Stands (watched table data fd opRead) [] {first with
        parsers.authParser:=⟨.done,0,none,storedFields .zeroed username password⟩,stm:=some .reqRead} last ∧
      sentTo fd last.trace = sentTo fd s.trace ++ [authVersion,0] ∧ tried last.trace = tried s.trace := by
  obtain ⟨named,spelled⟩ := presented good
  have size : (authMessage username password).length = username.length + password.length + 3 := by
    unfold authMessage
    simp only [List.length_append,List.length_cons]
    omega
  have awake : first.current = .authRead := by
    rw [SocksConnModel.current,waits]
    rfl
  have still : handleFirst first = first := by
    unfold handleFirst
    rw [waits]
    exact congrArg (fun stm => {first with stm:=stm}) waits.symm
  obtain ⟨after,heard,waiting,trace⟩ := @exchange data table fd s env first AuthParser (authMessage username password)
    [authVersion,0] authReader authFormat AuthReads authReader_parses authFinish .authWrite
    ⟨.done,0,none,storedFields .zeroed username password⟩ [.verdict username password 0,.setCurrUser username] stands
    client (by rw [awake]; rfl) (by rw [awake]; exact SocksState.noConfusion) (.inr rfl)
    (by
      have name := good.shortName
      have pass := good.shortPass
      unfold maxLen at name pass
      unfold buffSize
      omega)
    (by intro none_; rw [none_] at size; cases size)
    (authMessage_length good.shortName good.shortPass) recv
    (by
      change (authMessage username password).foldl authParseByte (authParserInit first.parsers.authParser) = _
      rw [blank]
      exact message_fold zeroed_sized good.shortName good.shortPass)
    rfl rfl rfl
    (by
      intro input output sel
      unfold authFinish
      dsimp only [authReader]
      rw [named,spelled,accepts]
      rfl)
  obtain ⟨last,ran,stands,sent,same⟩ := @reply_taken data table fd after {first with
      parsers:=authReader.put first.parsers ⟨.done,0,none,storedFields .zeroed username password⟩,stm:=some .authWrite}
    [authVersion,0] .authWrite .reqRead authSent envs rfl SocksState.noConfusion rfl client
    (fun _ _ _ _ entries => authSent_goes entries) (.inr rfl) takes waiting
  refine ⟨last,?_,stands,?_,?_⟩
  · change (servedStep data s (.event .read fd env)).bind _ = _
    rw [heard,Option.bind_some]
    exact ran
  · rw [sent,trace,sentTo_append]
    congr 1
    exact List.append_nil _
  · rw [same,trace,tried_append]
    exact List.append_nil _

structure Hop where
  info : AddrInfo
  socket : Int

def SocksConnModel.toward (socks : SocksConnModel) (hop : Hop) : SocksConnModel :=
  {socks with
    srcAddrFamily:=hop.info.family
    srcConn:={socks.srcConn with addr:=hop.info.addr,addrLen:=hop.info.addrlen,socket:=hop.socket}}

-- What socket() promises of its descriptor, and getaddrinfo of the family.
structure Hop.Fits (hop : Hop) (table : Int → Option Item) (fd : Int) : Prop where
  valid : invalidFd hop.socket = false
  apart : hop.socket ≠ fd
  unused : table hop.socket = none
  family : hop.info.family = afInet ∨ hop.info.family = afInet6

def dialTable (table : Int → Option Item) (data : Nat) (fd : Int) (hop : Hop) : Int → Option Item :=
  watched (watched table data fd opNoop) data hop.socket opWrite

variable {hop goal : Hop} {later spare : List Hop}

theorem watched_table {item : Item} (changed : ∀ other, sel.registered other = if other = fd then some item else table other)
    (same : item = ⟨fd,i,some .connActions,some data⟩) : sel.registered = watched table data fd i := by
  funext other
  rw [changed]
  split
  · rename_i here
    rw [here,watched_self,same]
  · rename_i apart
    rw [watched_ne apart]

theorem dial_started {k : Int} (entries : sel.registered = watched table data fd j) (room : itemsMaxSize ≤ sel.fds.length)
    (fits : hop.Fits table fd) (client : socks.cliConn.socket = fd) (socket : env.socket = hop.socket)
    (pending : env.connect.pending = true) :
    ∃ after, initConnection env ⟨k,data⟩ sel socks called = ⟨after,{socks with srcConn.socket:=hop.socket},
        called ++ [.socket hop.socket,.connect hop.socket socks.srcConn.addr],.reqConnect⟩ ∧
      after.registered = dialTable table data fd hop ∧ itemsMaxSize ≤ after.fds.length := by
  obtain ⟨told,changed⟩ := watched_set entries opNoop
  have length : itemsMaxSize ≤ (selectorSetInterest sel fd opNoop).2.fds.length := by
    rw [setInterest_length]
    exact room
  have absent : (selectorSetInterest sel fd opNoop).2.registered hop.socket = none := by
    rw [changed,watched_ne fits.apart,fits.unused]
  obtain ⟨registered,added⟩ := register_fresh length fits.valid absent .connActions opWrite (some data)
  refine ⟨(selectorRegister (selectorSetInterest sel fd opNoop).2 hop.socket (some .connActions) opWrite (some data)).2,
    ?_,watched_table (fun other => ?_) rfl,Nat.le_trans length (register_length _ _ _ _ _)⟩
  · unfold initConnection
    dsimp only
    rw [socket,client,if_neg (valid_socket fits.valid),if_pos pending,if_neg (not_not.mpr told),
      if_neg (not_not.mpr registered)]
  · rw [added,changed]

-- The reply to a request that was granted. Its address is what strncpy takes of the one that
-- was connected to.
def addressType (family : Nat) : UInt8 := if family = afInet then ipv4 else ipv6
def addressSize (family : Nat) : Nat := if family = afInet then ipv4Bytes else ipv6Bytes

def grantMessage (info : AddrInfo) (port : List UInt8) : List UInt8 :=
  [socksVersion,resSuccess,0,addressType info.family] ++ strncpy info.addr.addr (addressSize info.family) ++ port

theorem addressSize_bound (family : Nat) : addressSize family ≤ ipv6Bytes := by
  unfold addressSize
  split
  · decide
  · exact Nat.le_refl _

theorem grantMessage_length {port : List UInt8} (two : port.length = 2) :
    (grantMessage hop.info port).length ≤ ipv6Bytes + fixedResBytes := by
  have size := addressSize_bound hop.info.family
  simp only [grantMessage,List.length_append,List.length_cons,List.length_nil,strncpy_size,two]
  unfold fixedResBytes
  omega

theorem response_granted (family : hop.info.family = afInet ∨ hop.info.family = afInet6) :
    ∃ parser, setResponse (socks.toward hop) = some parser ∧
      setResponse (cleanResolvedAddr (socks.toward hop)).1 = some parser ∧
      parser.resParser.state = resSuccess ∧ parser.type = socks.parsers.reqParser.type ∧
      ∀ buff : CertifiedBuffer, buff.unread = [] → buff.capacity = buffSize →
        socks.parsers.reqParser.port.length = 2 →
        ∃ n, reqResponseMessage buff parser.resParser =
          some (buff.fill (grantMessage hop.info socks.parsers.reqParser.port),n) := by
  have cleaned : setResponse (cleanResolvedAddr (socks.toward hop)).1 = setResponse (socks.toward hop) := by
    unfold cleanResolvedAddr
    split
    · rfl
    · rfl
  rw [cleaned]
  rcases family with four | six
  · refine ⟨_,if_pos four,if_pos four,rfl,rfl,?_⟩
    intro buff empty capacity port
    have space : buff.space = buffSize := (buff.empty_space empty).trans capacity
    refine ⟨10,?_⟩
    unfold reqResponseMessage grantMessage addressType addressSize
    dsimp only
    rw [if_pos rfl,if_pos rfl,if_pos four,if_pos four,space]
    rfl
  · have other : hop.info.family ≠ afInet := by rw [six]; decide
    refine ⟨_,(if_neg other).trans (if_pos six),(if_neg other).trans (if_pos six),rfl,rfl,?_⟩
    intro buff empty capacity port
    have space : buff.space = buffSize := (buff.empty_space empty).trans capacity
    refine ⟨22,?_⟩
    unfold reqResponseMessage grantMessage addressType addressSize
    dsimp only
    rw [if_neg other,if_neg other,space]
    rfl

theorem effects_quiet {effects : List Effect} (quiet : effects = [] ∨ effects = [.freeAddrInfo]) (trace : List Effect) :
    sentTo fd (trace ++ effects) = sentTo fd trace ∧ tried (trace ++ effects) = tried trace := by
  rw [sentTo_append,tried_append]
  rcases quiet with rfl | rfl
  · exact ⟨List.append_nil _,List.append_nil _⟩
  · exact ⟨List.append_nil _,List.append_nil _⟩

theorem connect_reached (fits : hop.Fits table fd) (client : first.cliConn.socket = fd)
    (port : first.parsers.reqParser.port.length = 2) (told : env.soError = some 0)
    (stands : Stands (dialTable table data fd hop) [] {first.toward hop with stm:=some .reqConnect} s) :
    ∃ resolved parser after, servedStep data s (.event .write hop.socket env) = some after ∧
      parser.resParser.state = resSuccess ∧
      Stands (watched (watched table data hop.socket opNoop) data fd opWrite)
        (grantMessage hop.info first.parsers.reqParser.port)
        {first.toward hop with parsers.reqParser:=parser,resolvedAddr:=resolved,stm:=some .reqWrite} after ∧
      sentTo fd after.trace = sentTo fd s.trace ∧ tried after.trace = tried s.trace := by
  obtain ⟨⟨input,output,live,clear,inRoom,empty,outRoom⟩,length,entries⟩ := stands
  let socks : SocksConnModel := {first with readBuff:=input,writeBuff:=output,stm:=some .reqConnect}
  have held : s.conn = some (socks.toward hop) := live
  obtain ⟨parser,responds,cleaned,success,_,message⟩ := @response_granted socks hop fits.family
  obtain ⟨n,made⟩ := message output empty outRoom port
  obtain ⟨resolved,freed,cleans,plain⟩ : ∃ resolved freed, cleanResolvedAddr (socks.toward hop) =
      ({socks.toward hop with resolvedAddr:=resolved},freed) ∧ (freed = [] ∨ freed = [.freeAddrInfo]) := by
    unfold cleanResolvedAddr
    split
    · exact ⟨_,_,rfl,.inr rfl⟩
    · exact ⟨_,_,rfl,.inl rfl⟩
  obtain ⟨toldOrigin,silenced⟩ := watched_set entries opNoop
  rw [watched_comm fits.apart.symm] at silenced
  obtain ⟨toldClient,woken⟩ := watched_set silenced opWrite
  have ran : reqConnect env ⟨hop.socket,data⟩ s.sel (socks.toward hop) =
      ⟨(selectorSetInterest (selectorSetInterest s.sel hop.socket opNoop).2 fd opWrite).2,
        {socks.toward hop with resolvedAddr:=resolved,parsers.reqParser:=parser
                               writeBuff:=output.fill (grantMessage hop.info first.parsers.reqParser.port)},
        freed,.reqWrite⟩ := by
    unfold reqConnect
    rw [told]
    dsimp only
    rw [if_neg (fun wrong => wrong rfl)]
    rw [cleans] at cleaned ⊢
    dsimp only at cleaned ⊢
    rw [cleaned]
    dsimp only
    rw [if_pos toldOrigin]
    have mine : (socks.toward hop).cliConn.socket = fd := client
    rw [mine,if_pos toldClient]
    have stored : reqResponseMessage (socks.toward hop).writeBuff parser.resParser = _ := made
    rw [stored]
  have awake : handleFirst (socks.toward hop) = socks.toward hop := rfl
  have served := @served_goes data hop.socket s env (socks.toward hop) .write reqConnect held (asks_write entries rfl) rfl
    SocksState.noConfusion (by rw [awake,ran]; rfl)
    (by rw [awake,ran]; exact ⟨SocksState.noConfusion,SocksState.noConfusion⟩)
  rw [awake,ran] at served
  have space : output.space = buffSize := (output.empty_space empty).trans outRoom
  have stored : (output.fill (grantMessage hop.info first.parsers.reqParser.port)).unread =
      grantMessage hop.info first.parsers.reqParser.port := by
    rw [CertifiedBuffer.fill_unread,empty,space,List.nil_append,List.take_of_length_le]
    exact Nat.le_trans (grantMessage_length port) (by decide)
  obtain ⟨noBytes,noDial⟩ := @effects_quiet fd freed plain s.trace
  refine ⟨resolved,parser,_,served,success,⟨⟨input,_,rfl,clear,inRoom,stored,?_⟩,?_,woken⟩,noBytes,noDial⟩
  · rw [CertifiedBuffer.fill_capacity,outRoom]
  · dsimp only
    rw [setInterest_length,setInterest_length]
    exact length

theorem dns_started {k : Int} {rest : List AddrInfo} (entries : sel.registered = watched table data fd j)
    (room : itemsMaxSize ≤ sel.fds.length) (fits : hop.Fits table fd) (client : socks.cliConn.socket = fd)
    (listed : socks.currAddr = hop.info::rest) (socket : env.socket = hop.socket) (pending : env.connect.pending = true) :
    ∃ after, reqDns env ⟨k,data⟩ sel socks called = ⟨after,{socks.toward hop with currAddr:=rest},
        called ++ [.socket hop.socket,.connect hop.socket hop.info.addr],.reqConnect⟩ ∧
      after.registered = dialTable table data fd hop ∧ itemsMaxSize ≤ after.fds.length := by
  unfold reqDns
  rw [listed]
  exact dial_started entries room fits client socket pending

theorem hop_lost {after : Hop} {rest : List AddrInfo} {code : Nat} (fits : hop.Fits table fd) (next : after.Fits table fd)
    (client : first.cliConn.socket = fd) (named : first.parsers.reqParser.type = fqdn) (told : env.soError = some code)
    (lost : code ≠ 0) (socket : env.socket = after.socket) (pending : env.connect.pending = true)
    (stands : Stands (dialTable table data fd hop) []
      {first.toward hop with currAddr:=after.info::rest,stm:=some .reqConnect} s) :
    ∃ dialled, servedStep data s (.event .write hop.socket env) = some dialled ∧
      Stands (dialTable table data fd after) [] {first.toward after with currAddr:=rest,stm:=some .reqConnect} dialled ∧
      sentTo fd dialled.trace = sentTo fd s.trace ∧ tried dialled.trace = tried s.trace ++ [after.info.addr] := by
  obtain ⟨⟨input,output,live,clear,inRoom,empty,outRoom⟩,length,entries⟩ := stands
  let socks : SocksConnModel := {first.toward hop with
    currAddr:=after.info::rest,stm:=some .reqConnect,readBuff:=input,writeBuff:=output}
  have held : s.conn = some socks := live
  have freed : (selectorUnregisterFd s.sel hop.socket).2.registered = watched table data fd opNoop := by
    funext other
    rw [unregister_registered,entries]
    split
    · rename_i same
      rw [same,watched_ne fits.apart,fits.unused]
    · rename_i apart
      exact watched_ne apart
  have room : itemsMaxSize ≤ (selectorUnregisterFd s.sel hop.socket).2.fds.length := by
    rw [unregister_length]
    exact length
  obtain ⟨sel,dials,changed,large⟩ := @dns_started data table fd opNoop (selectorUnregisterFd s.sel hop.socket).2 env socks
    [.close hop.socket] after hop.socket rest freed room next client rfl socket pending
  have ran : reqConnect env ⟨hop.socket,data⟩ s.sel (handleFirst socks) = ⟨sel,{socks.toward after with currAddr:=rest},
      [.close hop.socket,.socket after.socket,.connect after.socket after.info.addr],.reqConnect⟩ := by
    change reqConnect env ⟨hop.socket,data⟩ s.sel socks = _
    unfold reqConnect
    rw [told]
    dsimp only
    rw [if_pos lost,if_pos (show socks.parsers.reqParser.type = fqdn from named)]
    exact dials
  have served := @served_goes data hop.socket s env socks .write reqConnect held (asks_write entries rfl) rfl
    SocksState.noConfusion (by rw [ran]; rfl) (by rw [ran]; exact ⟨SocksState.noConfusion,SocksState.noConfusion⟩)
  rw [ran] at served
  refine ⟨_,served,⟨⟨input,output,rfl,clear,inRoom,empty,outRoom⟩,large,changed⟩,?_,?_⟩
  · rw [sentTo_append]
    exact List.append_nil _
  · rw [tried_append]
    rfl

inductive Reaches : Hop → List Hop → Hop → List SessionEvent → Prop where
  | here {hop : Hop} {env : Env} (told : env.soError = some 0) : Reaches hop [] hop [.event .write hop.socket env]
  | lost {hop after goal : Hop} {later : List Hop} {env : Env} {code : Nat} {events : List SessionEvent}
      (told : env.soError = some code) (fails : code ≠ 0) (socket : env.socket = after.socket)
      (pending : env.connect.pending = true) (rest : Reaches after later goal events) :
      Reaches hop (after::later) goal (.event .write hop.socket env::events)

theorem hops_reached {events : List SessionEvent} {spare : List AddrInfo} (reaches : Reaches hop later goal events)
    (fits : ∀ each ∈ hop::later, each.Fits table fd) (client : first.cliConn.socket = fd)
    (named : later ≠ [] → first.parsers.reqParser.type = fqdn) (port : first.parsers.reqParser.port.length = 2)
    (stands : Stands (dialTable table data fd hop) []
      {first.toward hop with currAddr:=later.map Hop.info ++ spare,stm:=some .reqConnect} s) :
    ∃ resolved parser last, Transitions.exec (servedStep data) s events = some last ∧ parser.resParser.state = resSuccess ∧
      Stands (watched (watched table data goal.socket opNoop) data fd opWrite)
        (grantMessage goal.info first.parsers.reqParser.port)
        {first.toward goal with
          parsers.reqParser:=parser,resolvedAddr:=resolved,currAddr:=spare,stm:=some .reqWrite} last ∧
      sentTo fd last.trace = sentTo fd s.trace ∧
      tried last.trace = tried s.trace ++ later.map fun hop => hop.info.addr := by
  induction reaches generalizing s with
  | @here hop env told =>
      obtain ⟨resolved,parser,last,ran,success,granted,sent,same⟩ := @connect_reached data table fd s env
        {first with currAddr:=spare} hop (fits hop List.mem_cons_self) client port told stands
      exact ⟨resolved,parser,last,Transitions.exec_one.trans ran,success,granted,sent,same.trans (List.append_nil _).symm⟩
  | @lost hop after goal later env code events told fails socket pending rest ih =>
      obtain ⟨dialled,ran,next,sent,went⟩ := hop_lost (fits hop List.mem_cons_self)
        (fits after (List.mem_cons_of_mem hop List.mem_cons_self)) client (named (List.cons_ne_nil _ _)) told fails socket
        pending stands
      obtain ⟨resolved,parser,last,rested,success,granted,toldAll,went_⟩ := ih
        (fun each member => fits each (List.mem_cons_of_mem hop member)) (fun _ => named (List.cons_ne_nil _ _)) next
      refine ⟨resolved,parser,last,?_,success,granted,toldAll.trans sent,?_⟩
      · change (servedStep data s (.event .write hop.socket env)).bind _ = _
        rw [ran,Option.bind_some]
        exact rested
      · rw [went_,went,List.append_assoc]
        rfl

theorem afInet_stated : afInet ≠ afUnspec := by decide
theorem afInet6_stated : afInet6 ≠ afUnspec := by decide

def Request.direct (r : Request) : Option AddrInfo :=
  match r.address with
  | .four bytes _ => some ⟨afInet,⟨afInet,[r.high,r.low],bytes⟩,sizeofSockaddrIn,afInet_stated⟩
  | .six bytes _ => some ⟨afInet6,⟨afInet6,[r.high,r.low],bytes⟩,sizeofSockaddrIn6,afInet6_stated⟩
  | .name _ _ => none

variable {r : Request}

def ReqParser.holding (prior : ReqParser) (r : Request) : ReqParser :=
  {reqParserInit prior with
    state:=.done,toParse:=0,whereTo:=.port 2,cmd:=r.cmd,type:=r.address.type
    addr:=storedAddr prior.addr r.address,port:=[r.high,r.low]}

theorem request_small (r : Request) : r.encode.length ≤ buffSize := by
  obtain ⟨cmd,address,high,low,known⟩ := r
  simp only [Request.encode,List.length_append,List.length_cons,List.length_nil]
  unfold buffSize
  cases address with
  | four bytes whole =>
      rw [Address.encode,whole]
      decide
  | six bytes whole =>
      rw [Address.encode,whole]
      decide
  | name bytes short =>
      rw [Address.encode,List.length_cons]
      omega

theorem request_read (connects : r.cmd = reqCmdConnect) (client : first.cliConn.socket = fd) (waits : first.stm = some .reqRead)
    (sized : first.parsers.reqParser.addr.fqdn.length = maxFqdnSize+1) (recv : env.recv = .data r.encode)
    (stands : Stands (watched table data fd opRead) [] first s) :
    ∃ input output, input.unread = [] ∧ input.capacity = buffSize ∧ output.unread = [] ∧ output.capacity = buffSize ∧
      let read := {first with
        parsers.reqParser:=first.parsers.reqParser.holding r,readBuff:=input,writeBuff:=output}
      let out := setConnection env ⟨fd,data⟩ s.sel read [.recv fd (.data r.encode)]
      (out.socks.stm = some .reqRead → out.next = .reqDns ∨ out.next = .reqConnect →
        servedStep data s (.event .read fd env) =
          some ⟨out.sel,some {out.socks with stm:=some out.next},s.trace ++ out.effects⟩) := by
  obtain ⟨⟨input,output,live,clear,inRoom,empty,outRoom⟩,length,entries⟩ := stands
  have awake : handleFirst {first with readBuff:=input,writeBuff:=output} = {first with readBuff:=input,writeBuff:=output} := by
    unfold handleFirst
    rw [waits]
    rfl
  have current : SocksConnModel.current {first with readBuff:=input,writeBuff:=output} = .reqRead := by
    rw [SocksConnModel.current,waits]
    rfl
  obtain ⟨rest,unread,capacity,read⟩ := @message_read s.sel env ⟨fd,data⟩
    {first with readBuff:=input,writeBuff:=output} ReqParser r.encode reqReader requestFormat RequestReads reqReader_parses
    reqFinish clear (Nat.le_trans (request_small r) (Nat.le_of_eq inRoom.symm)) (List.cons_ne_nil _ _)
    (request_length r) recv (first.parsers.reqParser.holding r) (request_fold sized r) rfl rfl
  refine ⟨rest,output,unread,capacity.trans inRoom,empty,outRoom,?_⟩
  dsimp only
  intro kept goes
  have ran : reqRead env ⟨fd,data⟩ s.sel {first with readBuff:=input,writeBuff:=output} =
      setConnection env ⟨fd,data⟩ s.sel {first with
        parsers.reqParser:=first.parsers.reqParser.holding r,readBuff:=rest,writeBuff:=output}
        [.recv fd (.data r.encode)] := by
    refine read.trans ?_
    rw [show StdConnModel.socket _ = fd from client]
    unfold reqFinish
    exact if_pos connects
  have served := @served_goes data fd s env {first with readBuff:=input,writeBuff:=output} .read reqRead live
    (asks_read entries rfl) (by rw [current]; rfl) (by rw [current]; exact SocksState.noConfusion)
  rw [awake,ran,current] at served
  generalize setConnection env ⟨fd,data⟩ s.sel {first with
    parsers.reqParser:=first.parsers.reqParser.holding r,readBuff:=rest,writeBuff:=output}
    [.recv fd (.data r.encode)] = out at kept goes served ⊢
  have open_ : out.next ≠ .error ∧ out.next ≠ .done := by
    rcases goes with next | next
    · rw [next]
      decide
    · rw [next]
      decide
  have served := served kept open_
  have still : onArrival env out.next {out.socks with stm:=some out.next} = {out.socks with stm:=some out.next} := by
    rcases goes with next | next
    · rw [next]
      rfl
    · rw [next]
      rfl
  dsimp only at served
  rwa [still] at served

theorem literal_dialled (connects : r.cmd = reqCmdConnect) (client : first.cliConn.socket = fd)
    (waits : first.stm = some .reqRead) (sized : first.parsers.reqParser.addr.fqdn.length = maxFqdnSize+1)
    (recv : env.recv = .data r.encode) (literal : r.direct = some hop.info) (fits : hop.Fits table fd)
    (socket : env.socket = hop.socket) (pending : env.connect.pending = true)
    (stands : Stands (watched table data fd opRead) [] first s) :
    ∃ parser after, parser.port = [r.high,r.low] ∧ servedStep data s (.event .read fd env) = some after ∧
      Stands (dialTable table data fd hop) [] {({first with parsers.reqParser:=parser}).toward hop with
        currAddr:=first.currAddr,stm:=some .reqConnect} after ∧
      sentTo fd after.trace = sentTo fd s.trace ∧ tried after.trace = tried s.trace ++ [hop.info.addr] := by
  obtain ⟨input,output,clear,inRoom,empty,outRoom,served⟩ := request_read connects client waits sized recv stands
  obtain ⟨parser,made⟩ : ∃ parser : ReqParser, parser.port = [r.high,r.low] ∧
      setConnection env ⟨fd,data⟩ s.sel {first with
          parsers.reqParser:=first.parsers.reqParser.holding r,readBuff:=input,writeBuff:=output}
          [.recv fd (.data r.encode)] =
        initConnection env ⟨fd,data⟩ s.sel {first with
          parsers.reqParser:=parser,readBuff:=input,writeBuff:=output,srcAddrFamily:=hop.info.family
          srcConn:={first.srcConn with addr:=hop.info.addr,addrLen:=hop.info.addrlen}} [.recv fd (.data r.encode)] := by
    obtain ⟨cmd,address,high,low,known⟩ := r
    cases address with
    | four bytes whole =>
        rw [← Option.some.inj literal]
        exact ⟨_,rfl,rfl⟩
    | six bytes whole =>
        rw [← Option.some.inj literal]
        exact ⟨_,rfl,rfl⟩
    | name bytes short => cases literal
  obtain ⟨port,made⟩ := made
  obtain ⟨sel,dials,changed,large⟩ := @dial_started data table fd opRead s.sel env {first with
      parsers.reqParser:=parser,readBuff:=input,writeBuff:=output,srcAddrFamily:=hop.info.family
      srcConn:={first.srcConn with addr:=hop.info.addr,addrLen:=hop.info.addrlen}} [.recv fd (.data r.encode)] hop fd
    stands.entries stands.room fits client socket pending
  dsimp only at served
  rw [made,dials] at served
  refine ⟨parser,_,port,served waits (.inr rfl),⟨⟨input,output,rfl,clear,inRoom,empty,outRoom⟩,large,changed⟩,?_,?_⟩
  · rw [sentTo_append]
    exact List.append_nil _
  · rw [tried_append]
    rfl

theorem name_dialled {resolvedEnv : Env} {infos : List AddrInfo} (connects : r.cmd = reqCmdConnect)
    (client : first.cliConn.socket = fd) (waits : first.stm = some .reqRead)
    (sized : first.parsers.reqParser.addr.fqdn.length = maxFqdnSize+1) (recv : env.recv = .data r.encode)
    (named : r.direct = none) (memory : env.malloc = true) (thread : env.pthreadCreate = true) (fits : hop.Fits table fd)
    (socket : resolvedEnv.socket = hop.socket) (pending : resolvedEnv.connect.pending = true)
    (stands : Stands (watched table data fd opRead) [] first s) :
    ∃ parser after, parser.type = fqdn ∧ parser.port = [r.high,r.low] ∧ Transitions.exec (servedStep data) s
        [.event .read fd env,.resolved (hop.info::infos),.event .block fd resolvedEnv] = some after ∧
      Stands (dialTable table data fd hop) [] {({first with parsers.reqParser:=parser}).toward hop with
        resolvedAddr:=hop.info::infos,currAddr:=infos,stm:=some .reqConnect} after ∧
      sentTo fd after.trace = sentTo fd s.trace ∧ tried after.trace = tried s.trace ++ [hop.info.addr] := by
  obtain ⟨input,output,clear,inRoom,empty,outRoom,served⟩ := request_read connects client waits sized recv stands
  have type : r.address.type = fqdn := by
    unfold Request.direct at named
    cases shape : r.address with
    | four bytes whole =>
        rw [shape] at named
        cases named
    | six bytes whole =>
        rw [shape] at named
        cases named
    | name bytes short => rfl
  obtain ⟨told,quiet⟩ := watched_set stands.entries opNoop
  let asked : SocksConnModel :=
    {first with parsers.reqParser:=first.parsers.reqParser.holding r,readBuff:=input,writeBuff:=output}
  have asks : setConnection env ⟨fd,data⟩ s.sel asked [.recv fd (.data r.encode)] =
      ⟨(selectorSetInterest s.sel fd opNoop).2,asked,
        [.recv fd (.data r.encode),.resolve (cString asked.parsers.reqParser.addr.fqdn) [r.high,r.low]],.reqDns⟩ := by
    unfold setConnection
    dsimp only
    rw [show asked.parsers.reqParser.type = fqdn from type,if_neg (by decide),if_neg (by decide),if_pos rfl,memory,thread,
      if_pos told]
    rfl
  dsimp only at served
  rw [asks] at served
  have first_ := served waits (.inl rfl)
  let waiting : SocksConnModel := {asked with stm:=some .reqDns,resolvedAddr:=hop.info::infos,currAddr:=hop.info::infos}
  have room : itemsMaxSize ≤ (selectorSetInterest s.sel fd opNoop).2.fds.length := by
    rw [setInterest_length]
    exact stands.room
  obtain ⟨sel,dials,changed,large⟩ := @dns_started data table fd opNoop _ resolvedEnv waiting [] hop fd infos quiet room
    fits client rfl socket pending
  let notified : Session := ⟨(selectorSetInterest s.sel fd opNoop).2,some waiting,s.trace ++
    [.recv fd (.data r.encode),.resolve (cString asked.parsers.reqParser.addr.fqdn) [r.high,r.low]]⟩
  have last := @served_goes data fd notified resolvedEnv waiting .block _ rfl rfl rfl SocksState.noConfusion
    (by rw [show handleFirst waiting = waiting from rfl,dials]; rfl)
    (by rw [show handleFirst waiting = waiting from rfl,dials]; exact ⟨SocksState.noConfusion,SocksState.noConfusion⟩)
  rw [show handleFirst waiting = waiting from rfl,dials] at last
  refine ⟨first.parsers.reqParser.holding r,⟨sel,some {waiting.toward hop with currAddr:=infos,stm:=some .reqConnect},
    notified.trace ++ ([] ++ [.socket hop.socket,.connect hop.socket hop.info.addr])⟩,type,rfl,?_,⟨⟨input,output,rfl,clear,inRoom,empty,outRoom⟩,large,changed⟩,
    ?_,?_⟩
  · change (servedStep data s (.event .read fd env)).bind _ = _
    rw [first_,Option.bind_some]
    exact Transitions.exec_one.trans last
  · dsimp only
    rw [sentTo_append,sentTo_append]
    exact (List.append_nil _).trans (List.append_nil _)
  · dsimp only
    rw [tried_append,tried_append]
    exact congrArg (· ++ [hop.info.addr]) (List.append_nil _)

theorem reqSent_goes (entries : sel.registered = watched (watched table data hop.socket opNoop) data fd opWrite)
    (apart : hop.socket ≠ fd) (origin : socks.srcConn.socket = hop.socket)
    (success : socks.parsers.reqParser.resParser.state = resSuccess) :
    ∃ after, reqSent ⟨fd,data⟩ sel socks called = ⟨after,socks,called,.copy⟩ ∧
      after.registered = watched (watched table data fd opRead) data hop.socket opRead ∧
      after.fds.length = sel.fds.length := by
  obtain ⟨toldClient,woken⟩ := watched_set entries opRead
  rw [watched_comm apart] at woken
  obtain ⟨toldOrigin,changed⟩ := watched_set woken opRead
  refine ⟨(selectorSetInterest (selectorSetInterest sel fd opRead).2 hop.socket opRead).2,?_,changed,?_⟩
  · unfold reqSent
    dsimp only
    rw [if_neg (not_not.mpr success),if_neg (not_not.mpr toldClient),origin,if_pos toldOrigin]
  · rw [setInterest_length,setInterest_length]

theorem arrival_entered {input output : CertifiedBuffer} (apart : first.cliConn.socket ≠ first.srcConn.socket)
    (clear : input.unread = []) (inRoom : input.capacity = buffSize) (empty : output.unread = [])
    (outRoom : output.capacity = buffSize)
    (entries : sel.registered =
      watched (watched table data first.cliConn.socket opRead) data first.srcConn.socket opRead) :
    Relay.Entered ⟨sel,onArrival env .copy {first with readBuff:=input,writeBuff:=output,stm:=some .copy},[]⟩ := by
  let socks : SocksConnModel := {first with readBuff:=input,writeBuff:=output,stm:=some .copy}
  have wired := arrival_wired env socks
  have shape : copyOnArrival env socks = {socks with
      cliCopy:=initCopyStructure socks .cli,srcCopy:=initCopyStructure socks .src
      pop3Parser:=if env.sniffer then some (pop3ParserInit .raw) else socks.pop3Parser} := by
    unfold copyOnArrival
    dsimp only
    split
    · rfl
    · rfl
  change Relay.Entered ⟨sel,copyOnArrival env socks,[]⟩
  rw [shape] at wired ⊢
  refine ⟨⟨apart,wired⟩,⟨rfl,?_,?_,?_,?_,?_,rfl⟩⟩
  · intro side
    cases side with
    | cli => rfl
    | src => rfl
  · intro side
    cases side with
    | cli => rfl
    | src => rfl
  · intro side
    cases side with
    | cli =>
        change (sel.registered first.cliConn.socket).map Item.interest = _
        rw [entries,watched_ne apart,watched_self]
        rfl
    | src =>
        change (sel.registered first.srcConn.socket).map Item.interest = _
        rw [entries,watched_self]
        rfl
  · intro side
    cases side with
    | cli => exact empty
    | src => exact clear
  · intro side
    cases side with
    | cli => exact Nat.lt_of_lt_of_eq (by decide) outRoom.symm
    | src => exact Nat.lt_of_lt_of_eq (by decide) inRoom.symm

theorem granted_taken {envs : List Env} (fits : goal.Fits table fd)
    (client : first.cliConn.socket = fd) (origin : first.srcConn.socket = goal.socket) (waits : first.stm = some .reqWrite)
    (success : first.parsers.reqParser.resParser.state = resSuccess) (takes : Takes reply.length envs)
    (stands : Stands (watched (watched table data goal.socket opNoop) data fd opWrite) reply first s) :
    ∃ last socks, Transitions.exec (servedStep data) s (envs.map (.event .write fd)) = some last ∧
      last.conn = some socks ∧ Relay.Entered ⟨last.sel,socks,[]⟩ ∧ socks.cliConn = first.cliConn ∧
      socks.srcConn = first.srcConn ∧ sentTo fd last.trace = sentTo fd s.trace ++ reply ∧
      tried last.trace = tried s.trace := by
  obtain ⟨env,input,output,last,ran,live,clear,inRoom,unsent,outRoom,_,entries,sent,same⟩ :=
    @reply_over data _ fd s first reply .reqWrite .copy (fun env socks => [connInformation env socks]) reqSent envs _ rfl
      SocksState.noConfusion waits client (fun _ _ => ⟨rfl,rfl⟩)
      (fun _ _ _ _ entries => reqSent_goes entries fits.apart origin success)
      ⟨SocksState.noConfusion,SocksState.noConfusion⟩ takes stands
  rw [← client,← origin] at entries
  refine ⟨last,_,ran,live,?_,?_,?_,sent,same⟩
  · refine arrival_entered ?_ clear inRoom unsent outRoom entries
    rw [client,origin]
    exact fits.apart.symm
  · change (copyOnArrival env _).cliConn = _
    unfold copyOnArrival
    dsimp only
    split
    · rfl
    · rfl
  · change (copyOnArrival env _).srcConn = _
    unfold copyOnArrival
    dsimp only
    split
    · rfl
    · rfl

-- What a client and its kernel do until the server asks for the request, each message in one
-- segment and each reply taken in any pieces. The second index is what the client gets.
inductive Admits (fd : Int) : List SessionEvent → List UInt8 → Prop where
  | anonymous {methods : List UInt8} {env : Env} {envs : List Env} (short : methods.length ≤ 255)
      (recv : env.recv = .data (helloMessage methods)) (chosen : chosenState env.users.requireAuth methods = .reqRead)
      (takes : Takes 2 envs) :
      Admits fd (.event .read fd env::envs.map (.event .write fd)) [5,chosenMethod env.users.requireAuth methods]
  | login {methods username password : List UInt8} {env asked : Env} {envs later : List Env}
      (short : methods.length ≤ 255) (recv : env.recv = .data (helloMessage methods))
      (chosen : chosenState env.users.requireAuth methods = .authRead) (takes : Takes 2 envs)
      (good : Presentable username password) (spoken : asked.recv = .data (authMessage username password))
      (accepts : processAuthenticationRequest asked.users username password = 0) (told : Takes 2 later) :
      Admits fd ((.event .read fd env::envs.map (.event .write fd)) ++
        (.event .read fd asked::later.map (.event .write fd)))
        ([5,chosenMethod env.users.requireAuth methods] ++ [authVersion,0])

-- The request, and what the resolver and the kernel do until one of its addresses answers: the
-- addresses that are dialled, and the last of them, which is the one that answers.
inductive Connects (table : Int → Option Item) (fd : Int) (r : Request) : List Hop → Hop → List SessionEvent → Prop where
  | literal {hop goal : Hop} {env : Env} {events : List SessionEvent} (recv : env.recv = .data r.encode)
      (direct : r.direct = some hop.info) (fits : hop.Fits table fd) (socket : env.socket = hop.socket)
      (pending : env.connect.pending = true) (reaches : Reaches hop [] goal events) :
      Connects table fd r [hop] goal (.event .read fd env::events)
  | name {hop goal : Hop} {later : List Hop} {spare : List AddrInfo} {env resolvedEnv : Env} {events : List SessionEvent}
      (recv : env.recv = .data r.encode) (named : r.direct = none) (memory : env.malloc = true)
      (thread : env.pthreadCreate = true) (fits : ∀ each ∈ hop::later, each.Fits table fd)
      (socket : resolvedEnv.socket = hop.socket) (pending : resolvedEnv.connect.pending = true)
      (reaches : Reaches hop later goal events) :
      Connects table fd r (hop::later) goal ([.event .read fd env,.resolved (hop.info::(later.map Hop.info ++ spare)),
        .event .block fd resolvedEnv] ++ events)

theorem reaches_goal {events : List SessionEvent} (reaches : Reaches hop later goal events) : goal ∈ hop::later := by
  induction reaches with
  | here => exact List.mem_cons_self
  | lost _ _ _ _ _ ih => exact List.mem_cons_of_mem _ ih

theorem admits_through {events : List SessionEvent} {greeting : List UInt8} (admits : Admits fd events greeting)
    (stands : Stands (watched table data fd opRead) [] (acceptedConn fd) s) :
    ∃ first last, Transitions.exec (servedStep data) s events = some last ∧
      Stands (watched table data fd opRead) [] first last ∧ first.cliConn.socket = fd ∧ first.stm = some .reqRead ∧
      first.parsers.reqParser = .zeroed ∧ sentTo fd last.trace = sentTo fd s.trace ++ greeting ∧
      tried last.trace = tried s.trace := by
  cases admits with
  | anonymous short recv chosen takes =>
      obtain ⟨last,ran,stands,sent,same⟩ := hello_through short stands recv chosen (.inr rfl) takes
      exact ⟨_,last,ran,stands,rfl,rfl,rfl,sent,same⟩
  | login short recv chosen takes good spoken accepts told =>
      obtain ⟨middle,ran,stands,sent,same⟩ := hello_through short stands recv chosen (.inl rfl) takes
      obtain ⟨last,rested,stands,answered,kept⟩ := login_through good stands rfl rfl rfl spoken accepts told
      refine ⟨_,last,?_,stands,rfl,rfl,rfl,?_,kept.trans same⟩
      · rw [Transitions.exec_append,ran,Option.bind_some]
        exact rested
      · rw [answered,sent,List.append_assoc]

theorem connects_through {events : List SessionEvent} {dialled : List Hop}
    (connects : Connects table fd r dialled goal events) (command : r.cmd = reqCmdConnect)
    (client : first.cliConn.socket = fd) (waits : first.stm = some .reqRead) (blank : first.parsers.reqParser = .zeroed)
    (stands : Stands (watched table data fd opRead) [] first s) :
    ∃ after last, Transitions.exec (servedStep data) s events = some last ∧ goal.Fits table fd ∧
      Stands (watched (watched table data goal.socket opNoop) data fd opWrite) (grantMessage goal.info [r.high,r.low])
        after last ∧
      after.cliConn.socket = fd ∧ after.srcConn.socket = goal.socket ∧ after.srcConn.addr = goal.info.addr ∧
      after.stm = some .reqWrite ∧ after.parsers.reqParser.resParser.state = resSuccess ∧
      sentTo fd last.trace = sentTo fd s.trace ∧
      tried last.trace = tried s.trace ++ dialled.map fun hop => hop.info.addr := by
  have sized : first.parsers.reqParser.addr.fqdn.length = maxFqdnSize+1 := by
    rw [blank]
    exact List.length_replicate
  cases connects with
  | @literal hop _ env events recv direct fits socket pending reaches =>
      obtain ⟨parser,middle,port,ran,dials,sent,went⟩ :=
        literal_dialled command client waits sized recv direct fits socket pending stands
      have fine : ∀ each ∈ [hop], each.Fits table fd := fun each member => List.mem_singleton.mp member ▸ fits
      obtain ⟨resolved,answer,last,rested,success,granted,told,kept⟩ := @hops_reached data table fd middle
        {first with parsers.reqParser:=parser} hop goal [] events first.currAddr reaches fine client
        (fun some_ => absurd rfl some_) (by rw [port]; rfl) dials
      rw [port] at granted
      refine ⟨_,last,?_,fine goal (reaches_goal reaches),granted,client,rfl,rfl,rfl,success,told.trans sent,?_⟩
      · change (servedStep data s (.event .read fd env)).bind _ = _
        rw [ran,Option.bind_some]
        exact rested
      · rw [kept,went]
        exact List.append_nil _
  | @name hop _ later spare env resolvedEnv events recv named memory thread fits socket pending reaches =>
      obtain ⟨parser,middle,type,port,ran,dials,sent,went⟩ := @name_dialled data table fd s env first hop r resolvedEnv
        (later.map Hop.info ++ spare) command client waits sized recv named memory thread (fits hop List.mem_cons_self)
        socket pending stands
      obtain ⟨resolved,answer,last,rested,success,granted,told,kept⟩ := @hops_reached data table fd middle
        {first with parsers.reqParser:=parser,resolvedAddr:=hop.info::(later.map Hop.info ++ spare)} hop goal later events
        spare reaches fits client (fun _ => type) (by rw [port]; rfl) dials
      rw [port] at granted
      refine ⟨_,last,?_,fits goal (reaches_goal reaches),granted,client,rfl,rfl,rfl,success,told.trans sent,?_⟩
      · rw [Transitions.exec_append,ran,Option.bind_some]
        exact rested
      · rw [kept,went,List.append_assoc]
        rfl

theorem tunnel_opened {sel : Selector} {fd : Int} {data : Nat} {r : Request} {dialled : List Hop} {goal : Hop}
    {early events : List SessionEvent} {greeting : List UInt8} {envs : List Env}
    (accepted : sel.registered fd = some ⟨fd,opRead,some .connActions,some data⟩) (room : itemsMaxSize ≤ sel.fds.length)
    (command : r.cmd = reqCmdConnect) (admits : Admits fd early greeting)
    (connects : Connects sel.registered fd r dialled goal events)
    (takes : Takes (grantMessage goal.info [r.high,r.low]).length envs) :
    ∃ last socks, Transitions.exec (servedStep data) (newSession sel fd)
        (early ++ events ++ envs.map (.event .write fd)) = some last ∧
      last.conn = some socks ∧ Relay.Entered ⟨last.sel,socks,[]⟩ ∧ socks.srcConn.socket = goal.socket ∧
      socks.srcConn.addr = goal.info.addr ∧
      sentTo fd last.trace = greeting ++ grantMessage goal.info [r.high,r.low] ∧
      tried last.trace = dialled.map fun hop => hop.info.addr := by
  have entries : sel.registered = watched sel.registered data fd opRead := by
    rw [watched,← accepted,Function.update_eq_self]
  have start : Stands (watched sel.registered data fd opRead) [] (acceptedConn fd) (newSession sel fd) :=
    ⟨⟨.init buffSize,.init buffSize,rfl,CertifiedBuffer.init_unread _,rfl,CertifiedBuffer.init_unread _,rfl⟩,room,entries⟩
  obtain ⟨first,asked,ran,stands,client,waits,blank,greeted,quiet⟩ := admits_through admits start
  obtain ⟨after,granted,dialled_,fits,stands,mine,origin,addr,writes,success,silent,went⟩ :=
    connects_through connects command client waits blank stands
  obtain ⟨last,socks,taken,live,entered,_,kept,sent,same⟩ := @granted_taken data sel.registered fd granted after _ goal
    envs fits mine origin writes success takes stands
  refine ⟨last,socks,?_,live,entered,by rw [kept,origin],by rw [kept,addr],?_,?_⟩
  · rw [Transitions.exec_append,Transitions.exec_append,ran,Option.bind_some,dialled_,Option.bind_some]
    exact taken
  · rw [sent,silent,greeted]
    rfl
  · rw [same,went,quiet]
    rfl

-- A client with a password asks for the name "a". The first of its addresses is lost after a
-- while, the second one accepts on the descriptor that was given back.
def hopAt (host : UInt8) : Hop := ⟨hostAt host,6⟩

def nameRequest : Request := ⟨0x01,.name [0x61] (by decide),0,80,.inl rfl⟩

def alSays (bytes : List UInt8) : Env := {quiet with recv:=.data bytes,users:=oneUser}
def alTakes (count : Nat) : Env := {quiet with send:=.sent count}
def alDials (told : Nat) : Env := {quiet with soError:=some told,socket:=6,connect:=.failed einprogress}

def alEnters : List SessionEvent :=
  (.event .read 5 (alSays (helloMessage [0,2]))::[alTakes 1,alTakes 1].map (.event .write 5)) ++
    (.event .read 5 (alSays (authMessage [0x61,0x6c] [0x73,0x65]))::[alTakes 2].map (.event .write 5))

def alAsks : List SessionEvent :=
  [.event .read 5 (alSays nameRequest.encode),.resolved [hostAt 1,hostAt 2],.event .block 5 (alDials 0)] ++
    [.event .write 6 (alDials etimedout),.event .write 6 (alDials 0)]

theorem name_tunnelled : ∃ last socks, Transitions.exec (servedStep 1) (newSession acceptedSelector 5)
      (alEnters ++ alAsks ++ [alTakes 4,alTakes 6].map (.event .write 5)) = some last ∧
    last.conn = some socks ∧ Relay.Entered ⟨last.sel,socks,[]⟩ ∧ socks.srcConn.socket = 6 ∧
    socks.srcConn.addr = (hostAt 2).addr ∧
    sentTo 5 last.trace = ([5,2] ++ [authVersion,0]) ++ grantMessage (hostAt 2) [0,80] ∧
    tried last.trace = [(hostAt 1).addr,(hostAt 2).addr] := by
  have good : Presentable [0x61,0x6c] [0x73,0x65] :=
    ⟨by simp,by simp,by decide +kernel,by decide +kernel,by decide +kernel⟩
  have once : Takes 2 [alTakes 2] := .last rfl (by decide)
  have twice : Takes 2 [alTakes 1,alTakes 1] := .more rfl (by decide) (.last rfl (by decide))
  have admits : Admits 5 alEnters ([5,2] ++ [authVersion,0]) :=
    @Admits.login 5 [0,2] _ _ _ _ _ _ (by decide) rfl rfl twice good rfl (by decide +kernel) once
  have fits : ∀ each ∈ [hopAt 1,hopAt 2], each.Fits acceptedSelector.registered 5 := by
    intro each member
    simp only [List.mem_cons,List.not_mem_nil,or_false] at member
    rcases member with rfl | rfl
    · exact ⟨rfl,by decide,by decide +kernel,.inl rfl⟩
    · exact ⟨rfl,by decide,by decide +kernel,.inl rfl⟩
  have connects : Connects acceptedSelector.registered 5 nameRequest [hopAt 1,hopAt 2] (hopAt 2) alAsks :=
    @Connects.name _ _ _ _ _ _ [] _ _ _ rfl rfl rfl rfl fits rfl rfl (.lost rfl (by decide) rfl rfl (.here rfl))
  exact tunnel_opened (by decide +kernel) (by decide +kernel) rfl admits connects
    (.more rfl (by decide) (.last rfl (by decide)))

end Socks5d
