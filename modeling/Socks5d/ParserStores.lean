import Socks5d.Foundations.Watch
import Socks5d.Messages
import Socks5d.CpParsers

namespace Socks5d
open Scan Watch ControlProtocol

-- The indices of username or password that a byte makes auth_parse_byte store at. The length
-- byte stores the terminator of its array.
def authStores (parser : AuthParser) (toParse : UInt8) : List Nat :=
  match parser.state with
  | .ulen | .plen => if toParse ≠ 0 then [toParse.toNat] else []
  | .uname => parser.whereTo.toList.map (· - usernameAt)
  | .passwd => parser.whereTo.toList.map (· - passwordAt)
  | .ver | .done | .error => []

def fqdnStores (parser : ReqParser) (toParse : UInt8) : List Nat :=
  let through := match parser.whereTo with
    | .fqdn i => [i]
    | _ => []
  match parser.state with
  | .dstAddr =>
    if parser.type = fqdn && parser.toParse = firstFqdnByteParse then
      if toParse = 0 then [] else [toParse.toNat]
    else through
  | .dstPort => through
  | _ => []

def passwordStores (parser : CpAuthParser) (byte : UInt8) : List Nat :=
  match parser.currentState with
  | .readPassword => if byte = newline then [parser.passLen] else if parser.passLen = maxPassLen then [] else [parser.passLen]
  | _ => []

def dataStores (parser : CpCommandParser) (_ : UInt8) : List Nat :=
  match parser.currentState with
  | .readData => if parser.dataSize = maxDataSize then [] else [parser.dataSize]
  | _ => []

def callStores (advance : σ → UInt8 → σ) (stores : σ → UInt8 → List Nat) (halted : σ → Bool) (parser : σ)
    (buffs : List CertifiedBuffer) : List Nat :=
  (parseCalls (parseFull (watched advance stores) fun watch => halted watch.1) (parser,[]) buffs).1.2

def loopCalls (advance : σ → UInt8 → σ) (failed finished : σ → Bool) : σ → List CertifiedBuffer → σ
  | parser,[] => parser
  | parser,buff::later =>
    if failed parser || finished parser then parser
    else loopCalls advance failed finished (parseBytes advance failed finished buff.unread.length parser buff).1 later

def loopStores (advance : σ → UInt8 → σ) (stores : σ → UInt8 → List Nat) (failed finished : σ → Bool) (parser : σ)
    (buffs : List CertifiedBuffer) : List Nat :=
  (loopCalls (watched advance stores) (fun watch => failed watch.1) (fun watch => finished watch.1) (parser,[]) buffs).2

def LongCredential (bytes : List UInt8) : Prop :=
  ∃ ulen fields, bytes = 1::ulen::fields ∧ (ulen = 255 ∨ fields[ulen.toNat]? = some 255)

def LongName (bytes : List UInt8) : Prop := ∃ cmd, (cmd = 1 ∨ cmd = 2 ∨ cmd = 3) ∧ [5,cmd,0,3,255] <+: bytes

def LongPassword (bytes : List UInt8) : Prop :=
  ∃ line, line.length = 256 ∧ newline ∉ line ∧ passwordLine line <+: bytes

variable {σ ι : Type} {advance : σ → UInt8 → σ} {stores : σ → UInt8 → List Nat} {halted failed finished : σ → Bool}
  {taken rest : List UInt8} {byte : UInt8}

theorem callStores_fold (quiet : Quiet advance stores halted) (parser : σ) (buffs : List CertifiedBuffer) :
    callStores advance stores halted parser buffs =
      ((unreadBytes buffs).foldl (watched advance stores) (parser,[])).2 := by
  rw [callStores,(parseCalls_scans _ _).1,watched_scans quiet,unreadBytes_flatten]

theorem loopStores_fold (quiet : Quiet advance stores fun state => failed state || finished state) (parser : σ)
    (buffs : List CertifiedBuffer) : loopStores advance stores failed finished parser buffs =
      ((unreadBytes buffs).foldl (watched advance stores) (parser,[])).2 := by
  unfold loopStores
  generalize (parser,([] : List Nat)) = watch
  induction buffs generalizing watch with
  | nil => rfl
  | cons buff later ih =>
      rw [loopCalls]
      cases stopped : failed watch.1 || finished watch.1 with
      | true =>
          rw [if_pos rfl]
          exact (quiet_fold quiet stopped).2.symm
      | false =>
          have cut : unreadBytes (buff::later) = buff.unread ++ unreadBytes later := List.flatMap_cons
          rw [if_neg Bool.false_ne_true,ih,cut,List.foldl_append]
          obtain ⟨parsed,_⟩ := @parseBytes_scan _ (watched advance stores) (fun watch => failed watch.1)
            (fun watch => finished watch.1) watch buff buff.unread rfl (Bool.or_eq_false_iff.mp stopped).2
          rw [parsed]
          rcases @watched_scan _ _ _ _ _ (fun state => failed state || finished state) watch buff.unread quiet with
            all | ⟨gone,overAll,log⟩
          · rw [all]
          · refine (quiet_fold quiet gone).2.trans ?_
            rw [log]
            exact (quiet_fold quiet overAll).2.symm

def AuthPoints (taken : List UInt8) (parser : AuthParser) : Prop :=
  match parser.state with
  | .ver => taken = []
  | .ulen => taken = [1]
  | .uname => ∃ ulen name, taken = 1::ulen::name ∧ 0 < parser.toParse.toNat ∧
      name.length + parser.toParse.toNat = ulen.toNat ∧ parser.whereTo = some (usernameAt + name.length)
  | .plen => ∃ ulen name, taken = 1::ulen::name ∧ name.length = ulen.toNat
  | .passwd => ∃ ulen name plen pass, taken = 1::ulen::(name ++ plen::pass) ∧ name.length = ulen.toNat ∧
      0 < parser.toParse.toNat ∧ pass.length + parser.toParse.toNat = plen.toNat ∧
      parser.whereTo = some (passwordAt + pass.length)
  | .done | .error => Settled LongCredential taken

theorem long_settled {ulen plen : UInt8} {name : List UInt8} (whole : name.length = ulen.toNat) (pass : List UInt8) :
    LongCredential (1::ulen::(name ++ plen::pass)) ↔ ulen = 255 ∨ plen = 255 := by
  have at_ : (name ++ plen::pass)[ulen.toNat]? = some plen := by
    rw [List.getElem?_append_right (by omega),whole,Nat.sub_self]
    rfl
  constructor
  · rintro ⟨_,_,same,long⟩
    cases same
    rcases long with first | second
    · exact .inl first
    · exact .inr (Option.some.inj (at_.symm.trans second))
  · rintro (first | second)
    · exact ⟨ulen,_,rfl,.inl first⟩
    · exact ⟨ulen,_,rfl,.inr (by rw [at_,second])⟩

theorem long_early {ulen : UInt8} {name : List UInt8} (short : name.length ≤ ulen.toNat) :
    LongCredential (1::ulen::name) ↔ ulen = 255 := by
  constructor
  · rintro ⟨_,_,same,long⟩
    cases same
    rcases long with first | second
    · exact first
    · have inside := (List.getElem?_eq_some_iff.mp second).1
      omega
  · exact fun first => ⟨ulen,name,rfl,.inl first⟩

theorem credential_settled {ulen plen : UInt8} {name pass : List UInt8} (whole : name.length = ulen.toNat) :
    Settled LongCredential (1::ulen::(name ++ plen::pass)) := by
  intro rest
  have split : 1::ulen::(name ++ plen::pass) ++ rest = 1::ulen::(name ++ plen::(pass ++ rest)) := by simp
  rw [split,long_settled whole,long_settled whole]

theorem byte_long : ¬ byte.toNat < 255 ↔ byte = 255 := by
  have small := byte.toNat_lt
  constructor
  · intro long
    exact UInt8.toNat_inj.mp (by change byte.toNat = 255; omega)
  · rintro rfl
    decide

def AuthStep (taken : List UInt8) (byte : UInt8) (parser : AuthParser) : Prop :=
  AuthPoints (taken++[byte]) (authParseByte parser byte) ∧
  (LongCredential (taken++[byte]) ↔ LongCredential taken ∨ ∃ i ∈ authStores parser byte, ¬ i < 255)

theorem auth_ver {parser : AuthParser} (state : parser.state = .ver) (points : AuthPoints taken parser) :
    AuthStep taken byte parser := by
  unfold AuthStep
  rw [AuthPoints,state] at points
  subst points
  have clean : ∀ first : UInt8, ¬ LongCredential [first] := by
    rintro first ⟨_,_,same,_⟩
    cases same
  have none_ : ¬ LongCredential [] := by
    rintro ⟨_,_,same,_⟩
    cases same
  simp only [authParseByte,authStores,state]
  refine ⟨?_,by simp [clean,none_]⟩
  split
  · rename_i version
    rw [version]
    rfl
  · rename_i other
    have never : ∀ rest, ¬ LongCredential (byte::rest) := by
      rintro rest ⟨_,_,same,_⟩
      exact other (List.cons.inj same).1
    exact fun rest => iff_of_false (never rest) (never [])

theorem auth_ulen {parser : AuthParser} (state : parser.state = .ulen) (points : AuthPoints taken parser) :
    AuthStep taken byte parser := by
  unfold AuthStep
  rw [AuthPoints,state] at points
  subst points
  have before : ¬ LongCredential [1] := by
    rintro ⟨_,_,same,_⟩
    cases same
  have now := @long_early byte [] (Nat.zero_le _)
  simp only [authParseByte,authStores,setLenToParse,state]
  change _ ∧ (LongCredential [1,byte] ↔ _)
  rw [now]
  split
  · rename_i some
    refine ⟨⟨byte,[],rfl,positive_byte some,Nat.zero_add _,rfl⟩,?_⟩
    simp only [before,false_or,List.mem_singleton,exists_eq_left,byte_long]
  · rename_i zero
    refine ⟨⟨byte,[],rfl,by rw [not_not.mp zero]; rfl⟩,?_⟩
    simp [before,not_not.mp zero]

theorem auth_uname {parser : AuthParser} (state : parser.state = .uname) (points : AuthPoints taken parser) :
    AuthStep taken byte parser := by
  unfold AuthStep
  rw [AuthPoints,state] at points
  obtain ⟨ulen,name,split_,positive,left_,pointed⟩ := points
  have small := ulen.toNat_lt
  have pred := toNat_pred positive
  have next : taken ++ [byte] = 1::ulen::(name ++ [byte]) := by rw [split_]; rfl
  have size : (name ++ [byte]).length = name.length + 1 := List.length_append
  constructor
  · simp only [authParseByte,plainParseByte,state,pointed]
    split
    · rename_i last
      rw [last,show (0 : UInt8).toNat = 0 from rfl] at pred
      exact ⟨ulen,name ++ [byte],next,by rw [size]; omega⟩
    · rename_i more
      refine ⟨ulen,name ++ [byte],next,positive_byte more,?_,?_⟩
      · dsimp only
        rw [size]
        omega
      · rw [size,Nat.add_assoc]
  · rw [next,long_early (by rw [size]; omega),split_,long_early (by omega)]
    simp only [authStores,state,pointed,usernameAt,Option.toList_some,List.map_cons,List.map_nil,List.mem_singleton,
      exists_eq_left]
    exact ⟨.inl,fun long => long.resolve_right (by omega)⟩

theorem auth_plen {parser : AuthParser} (state : parser.state = .plen) (points : AuthPoints taken parser) :
    AuthStep taken byte parser := by
  unfold AuthStep
  rw [AuthPoints,state] at points
  obtain ⟨ulen,name,split_,whole⟩ := points
  have next : taken ++ [byte] = 1::ulen::(name ++ byte::[]) := by rw [split_]; rfl
  have now := @long_settled ulen byte name whole []
  rw [next,now,split_,long_early (by omega)]
  have settled := @credential_settled ulen byte name [] whole
  simp only [authParseByte,authStores,setLenToParse,state]
  split
  · rename_i some
    refine ⟨⟨ulen,name,byte,[],rfl,whole,positive_byte some,Nat.zero_add _,rfl⟩,?_⟩
    simp only [List.mem_singleton,exists_eq_left,byte_long]
  · rename_i zero
    refine ⟨settled,?_⟩
    simp [not_not.mp zero]

theorem auth_passwd {parser : AuthParser} (state : parser.state = .passwd) (points : AuthPoints taken parser) :
    AuthStep taken byte parser := by
  unfold AuthStep
  rw [AuthPoints,state] at points
  obtain ⟨ulen,name,plen,pass,split_,whole,positive,left_,pointed⟩ := points
  have small := plen.toNat_lt
  have pred := toNat_pred positive
  have next : taken ++ [byte] = 1::ulen::(name ++ plen::(pass ++ [byte])) := by rw [split_]; simp
  have size : (pass ++ [byte]).length = pass.length + 1 := List.length_append
  constructor
  · simp only [authParseByte,plainParseByte,state,pointed]
    split
    · rename_i last
      rw [next]
      exact credential_settled whole
    · rename_i more
      refine ⟨ulen,name,plen,pass ++ [byte],next,whole,positive_byte more,?_,?_⟩
      · dsimp only
        rw [size]
        omega
      · rw [size,Nat.add_assoc]
  · rw [next,long_settled whole,split_,long_settled whole]
    simp only [authStores,state,pointed,Option.toList_some,List.map_cons,List.map_nil,List.mem_singleton,
      exists_eq_left,Nat.add_sub_cancel_left]
    exact ⟨.inl,fun long => long.resolve_right (by omega)⟩

theorem auth_over {parser : AuthParser} (state : parser.state = .done ∨ parser.state = .error)
    (points : AuthPoints taken parser) : AuthStep taken byte parser := by
  unfold AuthStep
  rcases state with state | state
  · rw [AuthPoints,state] at points
    simp only [authParseByte,authStores,state]
    refine ⟨?_,?_⟩
    · rw [AuthPoints,state]
      exact settled_append points [byte]
    · rw [points [byte]]
      simp
  · rw [AuthPoints,state] at points
    simp only [authParseByte,authStores,state]
    refine ⟨?_,?_⟩
    · rw [AuthPoints,state]
      exact settled_append points [byte]
    · rw [points [byte]]
      simp

theorem auth_points (parser : AuthParser) (points : AuthPoints taken parser) :
    AuthPoints (taken++[byte]) (authParseByte parser byte) ∧
    (LongCredential (taken++[byte]) ↔ LongCredential taken ∨ ∃ i ∈ authStores parser byte, ¬ i < 255) := by
  cases state : parser.state with
  | ver => exact auth_ver state points
  | ulen => exact auth_ulen state points
  | uname => exact auth_uname state points
  | plen => exact auth_plen state points
  | passwd => exact auth_passwd state points
  | done => exact auth_over (.inl state) points
  | error => exact auth_over (.inr state) points

-- Where the pointer of req_parser stands in addr.fqdn. Behind the length of a name nothing
-- can make the request long.
def NamePoints (taken : List UInt8) (parser : ReqParser) : Prop :=
  match parser.state with
  | .ver => taken = []
  | .cmd => taken = [5]
  | .rsv => ∃ cmd, (cmd = 1 ∨ cmd = 2 ∨ cmd = 3) ∧ taken = [5,cmd]
  | .atyp => ∃ cmd, (cmd = 1 ∨ cmd = 2 ∨ cmd = 3) ∧ taken = [5,cmd,0]
  | .dstAddr =>
    (parser.type = fqdn ∧ parser.toParse = firstFqdnByteParse ∧ parser.whereTo = .fqdn 0 ∧
      ∃ cmd, (cmd = 1 ∨ cmd = 2 ∨ cmd = 3) ∧ taken = [5,cmd,0,3]) ∨
    (0 < parser.toParse ∧ Settled LongName taken ∧ ∀ i, parser.whereTo = .fqdn i → (i : Int) + parser.toParse ≤ 255)
  | .dstPort => Settled LongName taken ∧ ∀ i, parser.whereTo ≠ .fqdn i
  | .done | .error => Settled LongName taken

theorem name_differs {i : Nat} (inside : i < 5) (at_ : taken[i]? = some byte)
    (differs : ∀ cmd, (cmd = 1 ∨ cmd = 2 ∨ cmd = 3) → [5,cmd,0,3,255][i]? ≠ some byte) :
    ¬ LongName taken ∧ Settled LongName taken := by
  have within := (List.getElem?_eq_some_iff.mp at_).1
  have never : ∀ rest, ¬ LongName (taken ++ rest) := by
    rintro rest ⟨cmd,known,front⟩
    obtain ⟨behind,same⟩ := front
    have here : ([5,cmd,0,3,255] ++ behind)[i]? = (taken ++ rest)[i]? := by rw [same]
    rw [List.getElem?_append_left inside,List.getElem?_append_left within,at_] at here
    exact differs cmd known here
  have alone := never []
  rw [List.append_nil] at alone
  exact ⟨alone,fun rest => iff_of_false (never rest) alone⟩

theorem name_short (short : taken.length < 5) : ¬ LongName taken := by
  rintro ⟨cmd,_,front⟩
  have size := front.length_le
  simp only [List.length_cons,List.length_nil] at size
  omega

theorem name_size (rest : List UInt8) {cmd : UInt8} (known : cmd = 1 ∨ cmd = 2 ∨ cmd = 3) :
    LongName (5::cmd::0::3::byte::rest) ↔ byte = 255 := by
  constructor
  · rintro ⟨_,_,behind,same⟩
    simp only [List.cons_append,List.nil_append,List.cons.injEq] at same
    exact same.2.2.2.2.1.symm
  · rintro rfl
    exact ⟨cmd,known,rest,rfl⟩

theorem name_step {stored : List Nat} (none_ : ¬ LongName taken) (still : ¬ LongName (taken ++ [byte]))
    (silent : ∀ i ∈ stored, i < 255) : LongName (taken ++ [byte]) ↔ LongName taken ∨ ∃ i ∈ stored, ¬ i < 255 := by
  refine iff_of_false still ?_
  rintro (long | ⟨i,member,long⟩)
  · exact none_ long
  · exact long (silent i member)

theorem put_where {parser : ReqParser} {i : Nat} (pointed : (parser.put byte).whereTo = .fqdn i) :
    ∃ j, i = j+1 ∧ parser.whereTo = .fqdn j := by
  unfold ReqParser.put at pointed
  split at pointed
  · rename_i nowhere
    rw [nowhere] at pointed
    cases pointed
  · cases pointed
  · cases pointed
  · rename_i j at_
    cases pointed
    exact ⟨j,rfl,at_⟩
  · cases pointed

def NameStep (taken : List UInt8) (byte : UInt8) (parser : ReqParser) : Prop :=
  NamePoints (taken++[byte]) (reqParseByte parser byte) ∧
  (LongName (taken++[byte]) ↔ LongName taken ∨ ∃ i ∈ fqdnStores parser byte, ¬ i < 255)

theorem name_ver {parser : ReqParser} (state : parser.state = .ver) (points : NamePoints taken parser) :
    NameStep taken byte parser := by
  unfold NameStep
  rw [NamePoints,state] at points
  subst points
  simp only [reqParseByte,fqdnStores,state]
  refine ⟨?_,name_step (name_short (by decide)) (name_short (by simp)) (by simp)⟩
  split
  · rename_i version
    rw [version]
    rfl
  · rename_i other
    exact (@name_differs ([] ++ [byte]) byte 0 (by decide) rfl
      (fun _ _ same => other (Option.some.inj same).symm)).2

theorem name_cmd {parser : ReqParser} (state : parser.state = .cmd) (points : NamePoints taken parser) :
    NameStep taken byte parser := by
  unfold NameStep
  rw [NamePoints,state] at points
  subst points
  simp only [reqParseByte,fqdnStores,state]
  refine ⟨?_,name_step (name_short (by decide)) (name_short (by simp)) (by simp)⟩
  split
  · rename_i command
    exact ⟨byte,(command_known byte).mp command,rfl⟩
  · rename_i other
    refine (@name_differs ([5] ++ [byte]) byte 1 (by decide) rfl ?_).2
    intro cmd known same
    rw [← Option.some.inj same] at other
    rcases known with rfl | rfl | rfl
    · exact other rfl
    · exact other rfl
    · exact other rfl

theorem name_rsv {parser : ReqParser} (state : parser.state = .rsv) (points : NamePoints taken parser) :
    NameStep taken byte parser := by
  unfold NameStep
  rw [NamePoints,state] at points
  obtain ⟨cmd,known,rfl⟩ := points
  simp only [reqParseByte,fqdnStores,state]
  refine ⟨?_,name_step (name_short (by simp)) (name_short (by simp)) (by simp)⟩
  split
  · rename_i zero
    exact ⟨cmd,known,by rw [zero]; rfl⟩
  · rename_i other
    exact (@name_differs ([5,cmd] ++ [byte]) byte 2 (by decide) rfl
      (fun _ _ same => other (Option.some.inj same).symm)).2

theorem name_atyp {parser : ReqParser} (state : parser.state = .atyp) (points : NamePoints taken parser) :
    NameStep taken byte parser := by
  unfold NameStep
  rw [NamePoints,state] at points
  obtain ⟨cmd,known,rfl⟩ := points
  have other : byte ≠ 3 → Settled LongName ([5,cmd,0] ++ [byte]) := fun differs =>
    (@name_differs ([5,cmd,0] ++ [byte]) byte 3 (by decide) rfl
      (fun _ _ same => differs (Option.some.inj same).symm)).2
  simp only [reqParseByte,fqdnStores,state]
  refine ⟨?_,name_step (name_short (by simp)) (name_short (by simp)) (by simp)⟩
  split
  · rename_i four
    refine .inr ⟨Int.natCast_pos.mpr (by decide),other (by rw [four]; decide),?_⟩
    intro i pointed
    cases pointed
  · split
    · rename_i six
      refine .inr ⟨Int.natCast_pos.mpr (by decide),other (by rw [six]; decide),?_⟩
      intro i pointed
      cases pointed
    · split
      · rename_i named
        exact .inl ⟨named,rfl,rfl,cmd,known,by rw [named]; rfl⟩
      · rename_i notNamed
        exact other notNamed

theorem name_length {parser : ReqParser} {cmd : UInt8} (state : parser.state = .dstAddr) (named : parser.type = fqdn)
    (first : parser.toParse = firstFqdnByteParse) (start : parser.whereTo = .fqdn 0)
    (known : cmd = 1 ∨ cmd = 2 ∨ cmd = 3) : NameStep [5,cmd,0,3] byte parser := by
  unfold NameStep
  have now : LongName ([5,cmd,0,3] ++ [byte]) ↔ byte = 255 := name_size [] known
  have settled : Settled LongName ([5,cmd,0,3] ++ [byte]) := by
    intro rest
    exact (name_size rest known).trans now.symm
  have sizing : (decide (parser.type = fqdn) && decide (parser.toParse = firstFqdnByteParse)) = true := by
    simp [named,first]
  simp only [reqParseByte,fqdnStores,state]
  rw [if_pos sizing,if_pos sizing]
  split
  · rename_i zero
    refine ⟨⟨settled,by intro i pointed; cases pointed⟩,name_step (name_short (by simp)) ?_ (by simp)⟩
    rw [now,zero]
    decide
  · rename_i some
    have small := byte.toNat_lt
    have size := positive_byte some
    refine ⟨.inr ⟨by dsimp only; omega,settled,?_⟩,?_⟩
    · intro i pointed
      rw [start] at pointed
      cases pointed
      dsimp only
      omega
    · have before : ¬ LongName [5,cmd,0,3] := name_short (by simp)
      rw [now,← byte_long]
      simp [before]

theorem name_through {parser : ReqParser} (state : parser.state = .dstAddr) (positive : 0 < parser.toParse)
    (settled : Settled LongName taken) (fits : ∀ i, parser.whereTo = .fqdn i → (i : Int) + parser.toParse ≤ 255) :
    NameStep taken byte parser := by
  unfold NameStep
  have later : parser.toParse ≠ firstFqdnByteParse := by
    unfold firstFqdnByteParse
    omega
  have through : (decide (parser.type = fqdn) && decide (parser.toParse = firstFqdnByteParse)) = false := by
    simp [later]
  have settledNow := settled_append settled [byte]
  obtain ⟨putState,putCount⟩ := @put_kept byte parser
  simp only [reqParseByte,fqdnStores,state]
  rw [through,if_neg Bool.false_ne_true,if_neg Bool.false_ne_true]
  constructor
  · unfold parseAddrByte
    dsimp only
    rw [putCount]
    split
    · exact ⟨settledNow,by intro i pointed; cases pointed⟩
    · rename_i more
      rw [NamePoints,putState,state]
      refine .inr ⟨by dsimp only; omega,settledNow,?_⟩
      intro i pointed
      obtain ⟨j,next,before⟩ := put_where pointed
      have room := fits j before
      dsimp only
      omega
  · rw [settled [byte]]
    refine ⟨.inl,?_⟩
    rintro (long | ⟨i,member,long⟩)
    · exact long
    · split at member
      · rename_i j pointed
        have room := fits j pointed
        rw [List.mem_singleton.mp member] at long
        omega
      · cases member

theorem name_address {parser : ReqParser} (state : parser.state = .dstAddr) (points : NamePoints taken parser) :
    NameStep taken byte parser := by
  rw [NamePoints,state] at points
  rcases points with ⟨named,first,start,cmd,known,rfl⟩ | ⟨positive,settled,fits⟩
  · exact name_length state named first start known
  · exact name_through state positive settled fits

theorem name_port {parser : ReqParser} (state : parser.state = .dstPort) (points : NamePoints taken parser) :
    NameStep taken byte parser := by
  unfold NameStep
  rw [NamePoints,state] at points
  obtain ⟨settled,elsewhere⟩ := points
  have settledNow := settled_append settled [byte]
  obtain ⟨putState,_⟩ := @put_kept byte parser
  simp only [reqParseByte,fqdnStores,state]
  constructor
  · split
    · exact settledNow
    · rw [NamePoints,putState,state]
      refine ⟨settledNow,?_⟩
      intro i pointed
      obtain ⟨j,_,before⟩ := put_where pointed
      exact elsewhere j before
  · rw [settled [byte]]
    refine ⟨.inl,?_⟩
    rintro (long | ⟨i,member,_⟩)
    · exact long
    · exact absurd member List.not_mem_nil

theorem name_over {parser : ReqParser} (state : parser.state = .done ∨ parser.state = .error)
    (points : NamePoints taken parser) : NameStep taken byte parser := by
  unfold NameStep
  rcases state with state | state
  · rw [NamePoints,state] at points
    simp only [reqParseByte,fqdnStores,state]
    rw [points [byte]]
    refine ⟨?_,by simp⟩
    rw [NamePoints,state]
    exact settled_append points [byte]
  · rw [NamePoints,state] at points
    simp only [reqParseByte,fqdnStores,state]
    rw [points [byte]]
    refine ⟨?_,by simp⟩
    rw [NamePoints,state]
    exact settled_append points [byte]

theorem name_points (parser : ReqParser) (points : NamePoints taken parser) :
    NamePoints (taken++[byte]) (reqParseByte parser byte) ∧
    (LongName (taken++[byte]) ↔ LongName taken ∨ ∃ i ∈ fqdnStores parser byte, ¬ i < 255) := by
  cases state : parser.state with
  | ver => exact name_ver state points
  | cmd => exact name_cmd state points
  | rsv => exact name_rsv state points
  | atyp => exact name_atyp state points
  | dstAddr => exact name_address state points
  | dstPort => exact name_port state points
  | done => exact name_over (.inl state) points
  | error => exact name_over (.inr state) points

def PasswordPoints (taken : List UInt8) (parser : CpAuthParser) : Prop :=
  match parser.currentState with
  | .checkAuthCommand => taken = [] ∧ parser.passLen = 0
  | .hasData => taken = [0x30] ∧ parser.passLen = 0
  | .readPassword => ∃ line, taken = [0x30,0x01] ++ line ∧ newline ∉ line ∧ parser.passLen = line.length ∧
      line.length ≤ 256
  | .done | .error => Settled LongPassword taken

theorem line_unique {line other rest behind : List UInt8} (ends : newline ∉ line) (inside : newline ∉ other)
    (same : line ++ newline::rest = other ++ newline::behind) : line = other := by
  have front : ∀ {text : List UInt8}, newline ∉ text → ∀ after,
      (text ++ newline::after).takeWhile (fun byte => decide (byte ≠ newline)) = text := by
    intro text free after
    have kept : ∀ byte ∈ text, decide (byte ≠ newline) = true := by
      intro byte member
      exact decide_eq_true (fun ends => free (ends ▸ member))
    rw [List.takeWhile_append_of_pos kept]
    simp
  rw [← front ends rest,same,front inside behind]

theorem password_open {line : List UInt8} (free : newline ∉ line) : ¬ LongPassword ([0x30,0x01] ++ line) := by
  rintro ⟨other,_,_,behind,same⟩
  refine free ?_
  have tail : other ++ newline::behind = line := by simpa [passwordLine,CpCommandCode.byte] using same
  rw [← tail]
  exact List.mem_append_right _ List.mem_cons_self

theorem password_closed {line : List UInt8} (free : newline ∉ line) (rest : List UInt8) :
    LongPassword (passwordLine line ++ rest) ↔ line.length = 256 := by
  constructor
  · rintro ⟨other,size,ends,behind,same⟩
    have tails : other ++ newline::behind = line ++ newline::rest := by simpa [passwordLine] using same
    rw [← line_unique ends free tails,size]
  · intro size
    exact ⟨line,size,free,List.prefix_append _ _⟩

theorem password_over {line : List UInt8} (whole : line.length = 256) (more : byte ≠ newline) (rest : List UInt8) :
    ¬ LongPassword ([0x30,0x01] ++ line ++ [byte] ++ rest) := by
  rintro ⟨other,size,_,behind,same⟩
  have tails : other ++ newline::behind = line ++ byte::rest := by
    simpa [passwordLine,CpCommandCode.byte] using same
  exact more (List.cons.inj (List.append_inj tails (size.trans whole.symm)).2).1.symm

theorem password_differs {front : List UInt8} (differs : ∀ rest, ¬ [0x30,0x01] <+: front ++ rest) :
    ¬ LongPassword front ∧ Settled LongPassword front := by
  have never : ∀ rest, ¬ LongPassword (front ++ rest) := by
    rintro rest ⟨other,_,_,long⟩
    refine differs rest (List.IsPrefix.trans ?_ long)
    exact ⟨other ++ [newline],by simp [passwordLine,CpCommandCode.byte]⟩
  have alone := never []
  rw [List.append_nil] at alone
  exact ⟨alone,fun rest => iff_of_false (never rest) alone⟩

theorem password_short (short : taken.length < 3) : ¬ LongPassword taken := by
  rintro ⟨other,_,_,front⟩
  have size := front.length_le
  simp only [passwordLine,List.length_append,List.length_cons,List.length_nil] at size
  omega

theorem password_read {parser : CpAuthParser} (state : parser.currentState = .readPassword)
    (points : PasswordPoints taken parser) :
    PasswordPoints (taken++[byte]) (cpapParseByte parser byte) ∧
    (LongPassword (taken++[byte]) ↔ LongPassword taken ∨ ∃ i ∈ passwordStores parser byte, ¬ i < 256) := by
  rw [PasswordPoints,state] at points
  obtain ⟨line,rfl,free,length,fits⟩ := points
  have before := password_open free
  simp only [cpapParseByte,passwordStores,state]
  by_cases ends : byte = newline
  · subst ends
    have closed : [0x30,0x01] ++ line ++ [newline] = passwordLine line := rfl
    have now := password_closed free []
    rw [List.append_nil] at now
    rw [if_pos rfl,if_pos rfl,closed]
    refine ⟨fun rest => (password_closed free rest).trans now.symm,?_⟩
    rw [now,length]
    simp only [before,false_or,List.mem_singleton,exists_eq_left]
    omega
  · rw [if_neg ends,if_neg ends]
    split
    · rename_i full
      have gone := password_over (length.symm.trans full) ends
      have now := gone []
      rw [List.append_nil] at now
      refine ⟨fun rest => iff_of_false (gone rest) now,iff_of_false now ?_⟩
      rintro (long | ⟨i,member,_⟩)
      · exact before long
      · cases member
    · rename_i room
      have more : newline ∉ line ++ [byte] := by
        rw [List.mem_append,not_or,List.mem_singleton]
        exact ⟨free,fun same => ends same.symm⟩
      have short : line.length < 256 := by
        unfold maxPassLen at room
        omega
      refine ⟨⟨line ++ [byte],List.append_assoc _ _ _,more,?_,?_⟩,iff_of_false ?_ ?_⟩
      · dsimp only
        rw [length,List.length_append,List.length_singleton]
      · rw [List.length_append,List.length_singleton]
        exact short
      · rw [List.append_assoc]
        exact password_open more
      · simp only [before,false_or,List.mem_singleton,exists_eq_left]
        omega

theorem password_points (parser : CpAuthParser) (points : PasswordPoints taken parser) :
    PasswordPoints (taken++[byte]) (cpapParseByte parser byte) ∧
    (LongPassword (taken++[byte]) ↔ LongPassword taken ∨ ∃ i ∈ passwordStores parser byte, ¬ i < 256) := by
  cases state : parser.currentState with
  | checkAuthCommand =>
      rw [PasswordPoints,state] at points
      obtain ⟨rfl,start⟩ := points
      have before : ¬ LongPassword [] := password_short (by decide)
      have after : ¬ LongPassword ([] ++ [byte]) := password_short (by simp)
      simp only [cpapParseByte,passwordStores,state]
      refine ⟨?_,iff_of_false after (by simp [before])⟩
      split
      · rename_i command
        exact ⟨by rw [command]; rfl,start⟩
      · rename_i other
        refine (password_differs ?_).2
        rintro rest ⟨_,same⟩
        exact other (List.cons.inj same).1.symm
  | hasData =>
      rw [PasswordPoints,state] at points
      obtain ⟨rfl,start⟩ := points
      have before : ¬ LongPassword [0x30] := password_short (by simp)
      have after : ¬ LongPassword ([0x30] ++ [byte]) := password_short (by simp)
      simp only [cpapParseByte,passwordStores,state]
      refine ⟨?_,iff_of_false after (by simp [before])⟩
      split
      · rename_i one
        exact ⟨[],by rw [one]; rfl,List.not_mem_nil,start,Nat.zero_le _⟩
      · rename_i other
        refine (password_differs ?_).2
        rintro rest ⟨_,same⟩
        exact other (List.cons.inj (List.cons.inj same).2).1.symm
  | readPassword => exact password_read state points
  | done =>
      rw [PasswordPoints,state] at points
      simp only [cpapParseByte,passwordStores,state]
      exact ⟨settled_append points [byte],by rw [points [byte]]; simp⟩
  | error =>
      rw [PasswordPoints,state] at points
      simp only [cpapParseByte,passwordStores,state]
      exact ⟨settled_append points [byte],by rw [points [byte]]; simp⟩

theorem data_points (parser : CpCommandParser) (fits : parser.dataSize ≤ maxDataSize) :
    (cpcpParseByte parser byte).dataSize ≤ maxDataSize ∧ ∀ i ∈ dataStores parser byte, i < maxDataSize := by
  cases state : parser.currentState with
  | commandCode =>
      simp only [cpcpParseByte,dataStores,state]
      refine ⟨?_,by simp⟩
      split
      · exact fits
      · exact fits
  | hasData =>
      simp only [cpcpParseByte,dataStores,state]
      refine ⟨?_,by simp⟩
      split
      · exact fits
      · split
        · exact fits
        · exact fits
  | readData =>
      simp only [cpcpParseByte,dataStores,state]
      split
      · exact ⟨fits,by simp⟩
      · rename_i room
        refine ⟨by dsimp only; omega,?_⟩
        intro i member
        rw [List.mem_singleton.mp member]
        omega
  | done =>
      simp only [cpcpParseByte,dataStores,state]
      exact ⟨fits,by simp⟩
  | error =>
      simp only [cpcpParseByte,dataStores,state]
      exact ⟨fits,by simp⟩

theorem auth_quiet : Quiet authParseByte authStores AuthParser.halted := by
  refine quiet_over ?_ ?_
  · intro parser byte error
    rw [authParseByte,authStores,of_decide_eq_true error]
    exact ⟨Bool.or_eq_true_iff.mpr (.inl error),rfl⟩
  · intro parser byte done
    rw [authParseByte,authStores,of_decide_eq_true done]
    exact ⟨Bool.or_eq_true_iff.mpr (.inr done),rfl⟩

theorem fqdn_quiet : Quiet reqParseByte fqdnStores ReqParser.halted := by
  refine quiet_over ?_ ?_
  · intro parser byte error
    rw [reqParseByte,fqdnStores,of_decide_eq_true error]
    exact ⟨Bool.or_eq_true_iff.mpr (.inl error),rfl⟩
  · intro parser byte done
    rw [reqParseByte,fqdnStores,of_decide_eq_true done]
    exact ⟨Bool.or_eq_true_iff.mpr (.inr done),rfl⟩

theorem password_quiet : Quiet cpapParseByte passwordStores fun parser => parser.failed || parser.finished := by
  refine quiet_over ?_ ?_
  · intro parser byte error
    rw [cpapParseByte,passwordStores,of_decide_eq_true error]
    exact ⟨rfl,rfl⟩
  · intro parser byte done
    rw [cpapParseByte,passwordStores,of_decide_eq_true done]
    exact ⟨rfl,rfl⟩

theorem data_quiet : Quiet cpcpParseByte dataStores fun parser => parser.failed || parser.finished := by
  refine quiet_over ?_ ?_
  · intro parser byte error
    rw [cpcpParseByte,dataStores,of_decide_eq_true error]
    exact ⟨rfl,rfl⟩
  · intro parser byte done
    rw [cpcpParseByte,dataStores,of_decide_eq_true done]
    exact ⟨rfl,rfl⟩

-- The lists leave no store out: what they do not name keeps its byte.
theorem authStores_only {parser : AuthParser} (points : AuthPoints taken parser) {j : Nat}
    (elsewhere : ∀ i ∈ authStores parser byte,
      j ≠ (if parser.state = .ulen ∨ parser.state = .uname then usernameAt else passwordAt) + i) :
    (authParseByte parser byte).fields[j]? = parser.fields[j]? := by
  cases state : parser.state with
  | ver =>
      simp only [authParseByte,state]
      split
      · rfl
      · rfl
  | ulen =>
      simp only [authParseByte,authStores,setLenToParse,state] at elsewhere ⊢
      split
      · rename_i some
        have away := elsewhere byte.toNat (by rw [if_pos some]; exact List.mem_singleton_self _)
        exact List.getElem?_set_ne (Ne.symm away)
      · rfl
  | uname =>
      rw [AuthPoints,state] at points
      obtain ⟨_,name,_,_,_,pointed⟩ := points
      simp only [authParseByte,authStores,plainParseByte,state,pointed] at elsewhere ⊢
      have away := elsewhere name.length (by simp [usernameAt])
      split
      · exact List.getElem?_set_ne (Ne.symm away)
      · exact List.getElem?_set_ne (Ne.symm away)
  | plen =>
      simp only [authParseByte,authStores,setLenToParse,state] at elsewhere ⊢
      split
      · rename_i some
        have away := elsewhere byte.toNat (by rw [if_pos some]; exact List.mem_singleton_self _)
        exact List.getElem?_set_ne (Ne.symm away)
      · rfl
  | passwd =>
      rw [AuthPoints,state] at points
      obtain ⟨_,_,_,pass,_,_,_,_,pointed⟩ := points
      simp only [authParseByte,authStores,plainParseByte,state,pointed] at elsewhere ⊢
      have away := elsewhere pass.length (by simp)
      split
      · exact List.getElem?_set_ne (Ne.symm away)
      · exact List.getElem?_set_ne (Ne.symm away)
  | done => simp only [authParseByte,state]
  | error => simp only [authParseByte,state]

theorem put_only {parser : ReqParser} {j : Nat} (elsewhere : parser.whereTo ≠ .fqdn j) :
    (parser.put byte).addr.fqdn[j]? = parser.addr.fqdn[j]? := by
  unfold ReqParser.put
  split
  · rfl
  · rfl
  · rfl
  · rename_i i pointed
    exact List.getElem?_set_ne (fun same => elsewhere (by rw [pointed,same]))
  · rfl

theorem fqdnStores_only {parser : ReqParser} {j : Nat} (elsewhere : j ∉ fqdnStores parser byte) :
    (reqParseByte parser byte).addr.fqdn[j]? = parser.addr.fqdn[j]? := by
  have through : (j ∉ match parser.whereTo with
      | .fqdn i => [i]
      | _ => []) → parser.whereTo ≠ .fqdn j := by
    intro away pointed
    rw [pointed] at away
    exact away (List.mem_singleton_self _)
  cases state : parser.state with
  | ver =>
      simp only [reqParseByte,state]
      split <;> rfl
  | cmd =>
      simp only [reqParseByte,state]
      split <;> rfl
  | rsv =>
      simp only [reqParseByte,state]
      split <;> rfl
  | atyp =>
      simp only [reqParseByte,state]
      split
      · rfl
      · split
        · rfl
        · split <;> rfl
  | dstAddr =>
      simp only [reqParseByte,fqdnStores,state] at elsewhere ⊢
      split at elsewhere
      · rename_i sizing
        rw [if_pos sizing]
        split
        · rfl
        · rename_i some
          rw [if_neg some,List.mem_singleton] at elsewhere
          exact List.getElem?_set_ne (Ne.symm elsewhere)
      · rename_i going
        have kept := @put_only byte parser j (through elsewhere)
        rw [if_neg going,parseAddrByte]
        dsimp only
        split
        · exact kept
        · exact kept
  | dstPort =>
      simp only [reqParseByte,fqdnStores,state] at elsewhere ⊢
      have kept := @put_only byte parser j (through elsewhere)
      split
      · exact kept
      · exact kept
  | done => simp only [reqParseByte,state]
  | error => simp only [reqParseByte,state]

theorem passwordStores_only {parser : CpAuthParser} {j : Nat} (elsewhere : j ∉ passwordStores parser byte) :
    (cpapParseByte parser byte).inputPassword[j]? = parser.inputPassword[j]? := by
  cases state : parser.currentState with
  | checkAuthCommand =>
      simp only [cpapParseByte,state]
      split <;> rfl
  | hasData =>
      simp only [cpapParseByte,state]
      split <;> rfl
  | readPassword =>
      simp only [cpapParseByte,passwordStores,state] at elsewhere ⊢
      split
      · rename_i ends
        rw [if_pos ends,List.mem_singleton] at elsewhere
        exact List.getElem?_set_ne (Ne.symm elsewhere)
      · rename_i more
        rw [if_neg more] at elsewhere
        split
        · rfl
        · rename_i room
          rw [if_neg room,List.mem_singleton] at elsewhere
          exact List.getElem?_set_ne (Ne.symm elsewhere)
  | done => simp only [cpapParseByte,state]
  | error => simp only [cpapParseByte,state]

theorem dataStores_only {parser : CpCommandParser} {j : Nat} (elsewhere : j ∉ dataStores parser byte) :
    (cpcpParseByte parser byte).data[j]? = parser.data[j]? := by
  cases state : parser.currentState with
  | commandCode =>
      simp only [cpcpParseByte,state]
      split <;> rfl
  | hasData =>
      simp only [cpcpParseByte,state]
      split
      · rfl
      · split <;> rfl
  | readData =>
      simp only [cpcpParseByte,dataStores,state] at elsewhere ⊢
      split
      · rfl
      · rename_i room
        rw [if_neg room,List.mem_singleton] at elsewhere
        exact List.getElem?_set_ne (Ne.symm elsewhere)
  | done => simp only [cpcpParseByte,state]
  | error => simp only [cpcpParseByte,state]

def AuthInside (prior : AuthParser) (buffs : List CertifiedBuffer) : Prop :=
  ∀ i ∈ callStores authParseByte authStores AuthParser.halted (authParserInit prior) buffs, i < maxLen

def NameInside (prior : ReqParser) (buffs : List CertifiedBuffer) : Prop :=
  ∀ i ∈ callStores reqParseByte fqdnStores ReqParser.halted (reqParserInit prior) buffs, i < maxFqdnSize

def PasswordInside (prior : CpAuthParser) (buffs : List CertifiedBuffer) : Prop :=
  ∀ i ∈ loopStores cpapParseByte passwordStores CpAuthParser.failed CpAuthParser.finished (initCpAuthParser prior) buffs,
    i < maxPassLen

-- With the terminator that executeRead stores behind a whole command.
def DataInside (prior : CpCommandParser) (buffs : List CertifiedBuffer) : Prop :=
  (∀ i ∈ loopStores cpcpParseByte dataStores CpCommandParser.failed CpCommandParser.finished (initCpCommandParser prior)
    buffs, i < maxDataSize+1) ∧
  let last := loopCalls cpcpParseByte CpCommandParser.failed CpCommandParser.finished (initCpCommandParser prior) buffs
  last.finished = true → last.dataSize < maxDataSize+1

theorem loopCalls_invariant {holds : σ → Prop} (parser : σ) (buffs : List CertifiedBuffer) (start : holds parser)
    (preserved : ∀ before byte, holds before → holds (advance before byte)) :
    holds (loopCalls advance failed finished parser buffs) := by
  induction buffs generalizing parser with
  | nil => exact start
  | cons buff later ih =>
      rw [loopCalls]
      split
      · exact start
      · rename_i going
        have running := (Bool.or_eq_false_iff.mp (by simpa using going)).2
        obtain ⟨parsed,_⟩ := @parseBytes_scan _ advance failed finished parser buff buff.unread rfl running
        apply ih
        rw [parsed]
        exact scan_invariant parser buff.unread start preserved

theorem stores_inside (auth : AuthParser) (req : ReqParser) (password : CpAuthParser) (command : CpCommandParser)
    (buffs : List CertifiedBuffer) :
    (AuthInside auth buffs ↔ ¬ LongCredential (unreadBytes buffs)) ∧
    (NameInside req buffs ↔ ¬ LongName (unreadBytes buffs)) ∧
    (PasswordInside password buffs ↔ ¬ LongPassword (unreadBytes buffs)) ∧
    DataInside command buffs := by
  have credential : ¬ LongCredential [] := by
    rintro ⟨_,_,same,_⟩
    cases same
  refine ⟨?_,?_,?_,?_,?_⟩
  · rw [AuthInside,callStores_fold auth_quiet]
    exact @watched_safe _ _ _ _ _ _ AuthPoints _ (· < maxLen) _ rfl credential
      fun taken before item points => auth_points before points
  · rw [NameInside,callStores_fold fqdn_quiet]
    exact @watched_safe _ _ _ _ _ _ NamePoints _ (· < maxFqdnSize) _ rfl (name_short (by decide))
      fun taken before item points => name_points before points
  · rw [PasswordInside,loopStores_fold password_quiet]
    exact @watched_safe _ _ _ _ _ _ PasswordPoints _ (· < maxPassLen) _ ⟨rfl,rfl⟩ (password_short (by decide))
      fun taken before item points => password_points before points
  · rw [loopStores_fold data_quiet]
    refine (@watched_safe _ _ _ _ _ _ (fun _ (parser : CpCommandParser) => parser.dataSize ≤ maxDataSize) (fun _ => False)
      (· < maxDataSize+1) _ (Nat.zero_le _) not_false ?_).mpr not_false
    intro taken before item fits
    obtain ⟨kept,inside⟩ := @data_points item before fits
    refine ⟨kept,iff_of_false not_false ?_⟩
    rintro (contrary | ⟨i,member,outside⟩)
    · exact contrary
    · exact outside (Nat.lt_succ_of_lt (inside i member))
  · have fits : (loopCalls cpcpParseByte CpCommandParser.failed CpCommandParser.finished (initCpCommandParser command)
        buffs).dataSize ≤ maxDataSize :=
      @loopCalls_invariant _ _ _ _ (fun parser => parser.dataSize ≤ maxDataSize) _ buffs (Nat.zero_le _)
        fun before byte small => (data_points before small).1
    exact fun _ => Nat.lt_succ_of_le fits

-- A username of 255 bytes: its terminator goes behind the array.
theorem longUsername_outside : ¬ AuthInside .zeroed [(CertifiedBuffer.init 2).fill [1,255]] := by
  intro inside
  have stored : 255 ∈ callStores authParseByte authStores AuthParser.halted (authParserInit .zeroed)
      [(CertifiedBuffer.init 2).fill [1,255]] := by
    decide +kernel
  exact absurd (inside 255 stored) (by decide)

end Socks5d
