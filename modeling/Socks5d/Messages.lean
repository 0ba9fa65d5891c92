import Socks5d.ConnParser
import Socks5d.AuthParser
import Socks5d.ReqParser

namespace Socks5d
open Scan

def helloLength : List UInt8 → Option Nat
  | ver::nmethods::_ => if ver = socksVersion then some (2+nmethods.toNat) else none
  | _ => none

def authLength : List UInt8 → Option Nat
  | ver::ulen::fields =>
    if ver = authVersion then fields[ulen.toNat]?.map fun plen => 3+ulen.toNat+plen.toNat else none
  | _ => none

def versionRefused (version : UInt8) : List UInt8 → Bool
  | ver::_ => decide (ver ≠ version)
  | [] => false

def commandByte (cmd : UInt8) : Bool := cmd = reqCmdConnect || cmd = reqCmdBind || cmd = reqCmdUdp
def typeByte (atyp : UInt8) : Bool := atyp = ipv4 || atyp = ipv6 || atyp = fqdn

def requestRefused (bytes : List UInt8) : Bool :=
  bytes[0]?.any (fun ver => decide (ver ≠ socksVersion)) || bytes[1]?.any (fun cmd => !commandByte cmd) ||
  bytes[2]?.any (fun rsv => decide (rsv ≠ 0x00)) || bytes[3]?.any fun atyp => !typeByte atyp

def requestLength : List UInt8 → Option Nat
  | ver::cmd::rsv::atyp::addr =>
    if requestRefused [ver,cmd,rsv,atyp] then none
    else if atyp = ipv4 then some (6+ipv4Bytes)
    else if atyp = ipv6 then some (6+ipv6Bytes)
    else addr.head?.map fun size => 7+size.toNat
  | _ => none

variable {bytes taken : List UInt8} {n : Nat} {byte : UInt8} {needsAuth : Bool}

theorem command_known (cmd : UInt8) : commandByte cmd = true ↔ cmd = 1 ∨ cmd = 2 ∨ cmd = 3 := by
  rw [commandByte,Bool.or_eq_true,Bool.or_eq_true,decide_eq_true_iff,decide_eq_true_iff,decide_eq_true_iff,or_assoc]
  rfl

theorem helloLength_append (known : helloLength bytes = some n) (rest : List UInt8) :
    helloLength (bytes++rest) = some n := by
  unfold helloLength at known
  split at known
  · exact known
  · cases known

theorem authLength_append (known : authLength bytes = some n) (rest : List UInt8) :
    authLength (bytes++rest) = some n := by
  unfold authLength at known
  split at known
  · rename_i ver ulen fields
    split at known
    · rename_i version
      obtain ⟨plen,found,sum⟩ := Option.map_eq_some_iff.mp known
      have inside : ulen.toNat < fields.length := (List.getElem?_eq_some_iff.mp found).1
      simp only [List.cons_append,authLength]
      rw [if_pos version,List.getElem?_append_left inside,found,Option.map_some,sum]
    · cases known
  · cases known

theorem versionRefused_append {version : UInt8} (refused : versionRefused version bytes = true) (rest : List UInt8) :
    versionRefused version (bytes++rest) = true := by
  cases bytes with
  | nil => cases refused
  | cons ver others => exact refused

theorem any_append {test : UInt8 → Bool} {i : Nat} (found : bytes[i]?.any test = true) (rest : List UInt8) :
    (bytes++rest)[i]?.any test = true := by
  obtain ⟨byte,at_,holds⟩ := (Option.any_eq_true _ _).mp found
  have inside := (List.getElem?_eq_some_iff.mp at_).1
  rw [List.getElem?_append_left inside,at_]
  exact holds

theorem requestRefused_append (refused : requestRefused bytes = true) (rest : List UInt8) :
    requestRefused (bytes++rest) = true := by
  simp only [requestRefused,Bool.or_eq_true] at refused ⊢
  rcases refused with ((ver | cmd) | rsv) | atyp
  · exact .inl (.inl (.inl (any_append ver rest)))
  · exact .inl (.inl (.inr (any_append cmd rest)))
  · exact .inl (.inr (any_append rsv rest))
  · exact .inr (any_append atyp rest)

theorem requestLength_cons {ver cmd rsv atyp : UInt8} (allowed : requestRefused [ver,cmd,rsv,atyp] = false)
    (addr : List UInt8) : requestLength (ver::cmd::rsv::atyp::addr) =
      if atyp = ipv4 then some (6+ipv4Bytes)
      else if atyp = ipv6 then some (6+ipv6Bytes)
      else addr.head?.map fun size => 7+size.toNat := by
  rw [requestLength,allowed]
  rfl

theorem requestLength_parts (known : requestLength bytes = some n) :
    ∃ ver cmd rsv atyp addr, bytes = ver::cmd::rsv::atyp::addr ∧ requestRefused [ver,cmd,rsv,atyp] = false := by
  unfold requestLength at known
  split at known
  · rename_i ver cmd rsv atyp addr
    refine ⟨ver,cmd,rsv,atyp,addr,rfl,?_⟩
    by_contra refused
    rw [if_pos (by simpa using refused)] at known
    cases known
  · cases known

theorem requestLength_append (known : requestLength bytes = some n) (rest : List UInt8) :
    requestLength (bytes++rest) = some n := by
  obtain ⟨ver,cmd,rsv,atyp,addr,rfl,allowed⟩ := requestLength_parts known
  rw [requestLength_cons allowed] at known
  simp only [List.cons_append]
  rw [requestLength_cons allowed]
  split at known
  · rename_i four
    rwa [if_pos four]
  · rename_i notFour
    rw [if_neg notFour]
    split at known
    · rename_i six
      rwa [if_pos six]
    · rename_i notSix
      rw [if_neg notSix]
      cases addr with
      | nil => cases known
      | cons first others => exact known

theorem helloLength_allowed (known : helloLength bytes = some n) : versionRefused socksVersion bytes = false := by
  unfold helloLength at known
  split at known
  · split at known
    · rename_i version
      simp [versionRefused,version]
    · cases known
  · cases known

theorem authLength_allowed (known : authLength bytes = some n) : versionRefused authVersion bytes = false := by
  unfold authLength at known
  split at known
  · split at known
    · rename_i version
      simp [versionRefused,version]
    · cases known
  · cases known

theorem requestLength_allowed (known : requestLength bytes = some n) : requestRefused bytes = false := by
  obtain ⟨ver,cmd,rsv,atyp,addr,rfl,allowed⟩ := requestLength_parts known
  exact allowed

def helloFormat : Framing UInt8 where
  refused := versionRefused socksVersion
  length := helloLength
  refused_append := fun _ rest refused => versionRefused_append refused rest
  length_append := fun _ rest _ known => helloLength_append known rest
  length_refused := fun _ _ known => helloLength_allowed known

def authFormat : Framing UInt8 where
  refused := versionRefused authVersion
  length := authLength
  refused_append := fun _ rest refused => versionRefused_append refused rest
  length_append := fun _ rest _ known => authLength_append known rest
  length_refused := fun _ _ known => authLength_allowed known

def requestFormat : Framing UInt8 where
  refused := requestRefused
  length := requestLength
  refused_append := fun _ rest refused => requestRefused_append refused rest
  length_append := fun _ rest _ known => requestLength_append known rest
  length_refused := fun _ _ known => requestLength_allowed known

def messageBound : Nat := 600

-- What a parser that has taken these bytes of a message is waiting for. Each message
-- ends where its length says.
def HelloReads (taken : List UInt8) (parser : ConnParser) : Prop :=
  match parser.state with
  | .version => taken = []
  | .nmethods => taken = [socksVersion]
  | .methods => 0 < parser.toParse ∧ ∃ n, helloLength taken = some n ∧ taken.length + parser.toParse = n
  | .done => helloLength taken = some taken.length
  | .error => versionRefused socksVersion taken = true

theorem positive_byte (some : byte ≠ 0) : 0 < byte.toNat :=
  Nat.pos_of_ne_zero fun zero => some (UInt8.toNat_inj.mp zero)

theorem hello_reads (parser : ConnParser) (running : parser.halted = false) (reads : HelloReads taken parser) :
    HelloReads (taken++[byte]) (connParseByte needsAuth parser byte) := by
  unfold HelloReads at reads
  unfold connParseByte
  cases state : parser.state with
  | version =>
      rw [state] at reads
      dsimp only
      split
      · rename_i version
        rw [reads,version]
        rfl
      · rename_i other
        change versionRefused socksVersion _ = true
        rw [reads]
        exact decide_eq_true other
  | nmethods =>
      rw [state] at reads
      dsimp only
      split
      · rename_i zero
        rw [reads,zero]
        exact (show helloLength [socksVersion,0] = some 2 from rfl)
      · rename_i some
        have positive := positive_byte some
        refine ⟨by dsimp only; omega,2+byte.toNat,by rw [reads]; rfl,?_⟩
        rw [reads]
        simp
  | methods =>
      rw [state] at reads
      obtain ⟨positive,n,known,left_⟩ := reads
      have kept : (setNewMethod needsAuth parser byte).toParse = parser.toParse ∧
          (setNewMethod needsAuth parser byte).state = .methods := by
        unfold setNewMethod
        split
        · exact ⟨rfl,state⟩
        · exact ⟨rfl,state⟩
      dsimp only
      rw [kept.1]
      split
      · rename_i last
        exact helloFormat.known_last known byte (by omega)
      · rename_i more
        rw [HelloReads,kept.2]
        refine ⟨by dsimp only; omega,n,helloLength_append known [byte],?_⟩
        rw [List.length_append,List.length_singleton]
        push_cast
        omega
  | done => simp [ConnParser.halted,state] at running
  | error => simp [ConnParser.halted,state] at running

def AuthReads (taken : List UInt8) (parser : AuthParser) : Prop :=
  match parser.state with
  | .ver => taken = []
  | .ulen => taken = [authVersion]
  | .uname => 0 < parser.toParse.toNat ∧ parser.whereTo.isSome ∧
      ∃ ulen name, taken = authVersion::ulen::name ∧ name.length + parser.toParse.toNat = ulen.toNat
  | .plen => ∃ ulen name, taken = authVersion::ulen::name ∧ name.length = ulen.toNat
  | .passwd => 0 < parser.toParse.toNat ∧ parser.whereTo.isSome ∧
      ∃ n, authLength taken = some n ∧ taken.length + parser.toParse.toNat = n
  | .done => authLength taken = some taken.length
  | .error => versionRefused authVersion taken = true

theorem authLength_plen {ulen plen : UInt8} {name : List UInt8} (whole : name.length = ulen.toNat) :
    authLength ((authVersion::ulen::name)++[plen]) = some (3+ulen.toNat+plen.toNat) := by
  change (if authVersion = authVersion then (name++[plen])[ulen.toNat]?.map fun plen =>
    3+ulen.toNat+plen.toNat else none) = _
  rw [if_pos rfl,List.getElem?_append_right (by omega),whole]
  simp

theorem toNat_pred (some : 0 < byte.toNat) : (byte - 1).toNat = byte.toNat - 1 := by
  rw [UInt8.toNat_sub_of_le]
  · rfl
  · rw [UInt8.le_iff_toNat_le]
    exact some

theorem plain_cases (parser : AuthParser) (target : Nat) (pointed : parser.whereTo = some target) :
    (parser.toParse - 1 = 0 ∧
      (plainParseByte parser byte).state = if parser.state = .uname then .plen else .done) ∨
    (parser.toParse - 1 ≠ 0 ∧ (plainParseByte parser byte).state = parser.state ∧
      (plainParseByte parser byte).toParse = parser.toParse - 1 ∧ (plainParseByte parser byte).whereTo.isSome) := by
  unfold plainParseByte
  rw [pointed]
  dsimp only
  split
  · rename_i last
    exact .inl ⟨last,rfl⟩
  · rename_i more
    exact .inr ⟨more,rfl,rfl,rfl⟩

theorem uname_reads (parser : AuthParser) (state : parser.state = .uname) (reads : AuthReads taken parser) :
    AuthReads (taken++[byte]) (plainParseByte parser byte) := by
  rw [AuthReads,state] at reads
  obtain ⟨positive,pointed,ulen,name,split_,left_⟩ := reads
  obtain ⟨target,pointed⟩ := Option.isSome_iff_exists.mp pointed
  have pred := toNat_pred positive
  have longer : (name++[byte]).length = name.length + 1 := by simp
  rcases @plain_cases byte parser target pointed with ⟨last,next⟩ | ⟨more,next,count,pointed⟩
  · rw [last] at pred
    rw [state,if_pos rfl] at next
    rw [AuthReads,next]
    refine ⟨ulen,name++[byte],by rw [split_]; rfl,?_⟩
    have zero : (0 : UInt8).toNat = 0 := rfl
    omega
  · have some := positive_byte more
    rw [AuthReads,next,state]
    exact ⟨by rw [count]; exact some,pointed,ulen,name++[byte],by rw [split_]; rfl,by rw [count]; omega⟩

theorem passwd_reads (parser : AuthParser) (state : parser.state = .passwd) (reads : AuthReads taken parser) :
    AuthReads (taken++[byte]) (plainParseByte parser byte) := by
  rw [AuthReads,state] at reads
  obtain ⟨positive,pointed,n,known,left_⟩ := reads
  obtain ⟨target,pointed⟩ := Option.isSome_iff_exists.mp pointed
  have pred := toNat_pred positive
  have longer : (taken++[byte]).length = taken.length + 1 := by simp
  rcases @plain_cases byte parser target pointed with ⟨last,next⟩ | ⟨more,next,count,pointed⟩
  · rw [last] at pred
    rw [state,if_neg (by decide)] at next
    rw [AuthReads,next]
    have zero : (0 : UInt8).toNat = 0 := rfl
    exact authFormat.known_last known byte (by omega)
  · have some := positive_byte more
    rw [AuthReads,next,state]
    exact ⟨by rw [count]; exact some,pointed,n,authLength_append known [byte],by rw [count]; omega⟩

theorem auth_reads (parser : AuthParser) (running : parser.halted = false) (reads : AuthReads taken parser) :
    AuthReads (taken++[byte]) (authParseByte parser byte) := by
  cases state : parser.state with
  | ver =>
      rw [AuthReads,state] at reads
      simp only [authParseByte,state]
      split
      · rename_i version
        rw [reads,version]
        rfl
      · rename_i other
        change versionRefused authVersion _ = true
        rw [reads]
        exact decide_eq_true other
  | ulen =>
      rw [AuthReads,state] at reads
      simp only [authParseByte,state,setLenToParse]
      split
      · rename_i some
        exact ⟨positive_byte some,rfl,byte,[],by rw [reads]; rfl,Nat.zero_add _⟩
      · rename_i zero
        exact ⟨byte,[],by rw [reads]; rfl,by simp [not_not.mp zero]⟩
  | uname =>
      simp only [authParseByte,state]
      exact uname_reads parser state reads
  | plen =>
      rw [AuthReads,state] at reads
      obtain ⟨ulen,name,split_,whole⟩ := reads
      have known : authLength (taken++[byte]) = some (3+ulen.toNat+byte.toNat) := by
        rw [split_]
        exact authLength_plen whole
      have size : (taken++[byte]).length = 3+ulen.toNat := by
        rw [split_]
        simp only [List.length_append,List.length_cons,List.length_nil]
        omega
      simp only [authParseByte,state,setLenToParse]
      split
      · rename_i some
        exact ⟨positive_byte some,rfl,_,known,by rw [size]⟩
      · rename_i zero
        change authLength (taken++[byte]) = some (taken++[byte]).length
        rw [known,size,not_not.mp zero]
        rfl
  | passwd =>
      simp only [authParseByte,state]
      exact passwd_reads parser state reads
  | done => simp [AuthParser.halted,state] at running
  | error => simp [AuthParser.halted,state] at running

def RequestReads (taken : List UInt8) (parser : ReqParser) : Prop :=
  match parser.state with
  | .ver => taken = []
  | .cmd => taken = [socksVersion]
  | .rsv => ∃ cmd, commandByte cmd = true ∧ taken = [socksVersion,cmd]
  | .atyp => ∃ cmd, commandByte cmd = true ∧ taken = [socksVersion,cmd,0x00]
  | .dstAddr =>
    (parser.type = fqdn ∧ parser.toParse = firstFqdnByteParse ∧
      ∃ cmd, commandByte cmd = true ∧ taken = [socksVersion,cmd,0x00,fqdn]) ∨
    (0 < parser.toParse ∧ ∃ n, requestLength taken = some n ∧ taken.length + parser.toParse + reqDstPortBytes = n)
  | .dstPort => 0 < parser.toParse ∧ ∃ n, requestLength taken = some n ∧ taken.length + parser.toParse = n
  | .done => requestLength taken = some taken.length
  | .error => requestRefused taken = true

theorem put_kept (parser : ReqParser) : (parser.put byte).state = parser.state ∧
    (parser.put byte).toParse = parser.toParse := by
  unfold ReqParser.put
  split
  · exact ⟨rfl,rfl⟩
  · exact ⟨rfl,rfl⟩
  · exact ⟨rfl,rfl⟩
  · exact ⟨rfl,rfl⟩
  · exact ⟨rfl,rfl⟩

theorem port_reads (parser : ReqParser) (known : requestLength taken = some n)
    (size : taken.length + reqDstPortBytes = n) : RequestReads taken (setDstPortConfig parser) :=
  ⟨Int.natCast_pos.mpr Nat.zero_lt_two,n,known,size⟩

theorem request_header {cmd atyp : UInt8} (command : commandByte cmd = true) (known : typeByte atyp = true) :
    requestRefused [socksVersion,cmd,0x00,atyp] = false := by
  simp [requestRefused,command,known]

theorem taken_longer : ((taken++[byte]).length : Int) = taken.length + 1 := by simp

theorem atyp_reads (parser : ReqParser) (state : parser.state = .atyp) (reads : RequestReads taken parser) :
    RequestReads (taken++[byte]) (reqParseByte parser byte) := by
  rw [RequestReads,state] at reads
  obtain ⟨cmd,command,split_⟩ := reads
  have size : taken.length = 3 := by rw [split_]; rfl
  have whole : typeByte byte = true → requestLength (taken++[byte]) =
      if byte = ipv4 then some (6+ipv4Bytes)
      else if byte = ipv6 then some (6+ipv6Bytes)
      else none := by
    intro known
    rw [split_]
    exact requestLength_cons (request_header command known) []
  simp only [reqParseByte,state]
  split
  · rename_i four
    have length := whole (by simp [typeByte,four])
    rw [if_pos four] at length
    exact .inr ⟨by dsimp only; decide,_,length,by rw [taken_longer,size]; rfl⟩
  · rename_i notFour
    split
    · rename_i six
      have length := whole (by simp [typeByte,six])
      rw [if_neg notFour,if_pos six] at length
      exact .inr ⟨by dsimp only; decide,_,length,by rw [taken_longer,size]; rfl⟩
    · rename_i notSix
      split
      · rename_i named
        exact .inl ⟨named,rfl,cmd,command,by rw [split_,named]; rfl⟩
      · rename_i notNamed
        change requestRefused _ = true
        rw [split_]
        simp [requestRefused,typeByte,notFour,notSix,notNamed]

theorem size_reads (parser : ReqParser) (state : parser.state = .dstAddr) (named : parser.type = fqdn)
    (first : parser.toParse = firstFqdnByteParse) {cmd : UInt8} (command : commandByte cmd = true)
    (split_ : taken = [socksVersion,cmd,0x00,fqdn]) :
    RequestReads (taken++[byte]) (reqParseByte parser byte) := by
  have whole : requestLength (taken++[byte]) = some (7+byte.toNat) := by
    rw [split_]
    exact requestLength_cons (request_header command rfl) [byte]
  have size : taken.length = 4 := by rw [split_]; rfl
  simp only [reqParseByte,state]
  rw [if_pos (by simp [named,first])]
  split
  · rename_i zero
    refine port_reads parser whole ?_
    rw [taken_longer,size,zero]
    rfl
  · rename_i some
    have positive := positive_byte some
    refine .inr ⟨by dsimp only; omega,_,whole,?_⟩
    rw [taken_longer,size]
    unfold reqDstPortBytes
    push_cast
    omega

theorem addr_reads (parser : ReqParser) (state : parser.state = .dstAddr) (positive : 0 < parser.toParse)
    (known : requestLength taken = some n) (left_ : taken.length + parser.toParse + reqDstPortBytes = n) :
    RequestReads (taken++[byte]) (parseAddrByte parser byte) := by
  obtain ⟨putState,putCount⟩ := @put_kept byte parser
  unfold parseAddrByte
  dsimp only
  rw [putCount]
  split
  · rename_i last
    refine port_reads _ (requestLength_append known [byte]) ?_
    rw [taken_longer]
    omega
  · rename_i more
    rw [RequestReads,putState,state]
    refine .inr ⟨by dsimp only; omega,n,requestLength_append known [byte],?_⟩
    rw [taken_longer]
    dsimp only
    omega

theorem request_reads (parser : ReqParser) (running : parser.halted = false) (reads : RequestReads taken parser) :
    RequestReads (taken++[byte]) (reqParseByte parser byte) := by
  cases state : parser.state with
  | ver =>
      rw [RequestReads,state] at reads
      simp only [reqParseByte,state]
      split
      · rename_i version
        rw [reads,version]
        rfl
      · rename_i other
        change requestRefused _ = true
        rw [reads]
        simp [requestRefused,other]
  | cmd =>
      rw [RequestReads,state] at reads
      simp only [reqParseByte,state]
      split
      · rename_i command
        exact ⟨byte,command,by rw [reads]; rfl⟩
      · rename_i other
        have unknown : commandByte byte = false := by simpa [commandByte] using other
        change requestRefused _ = true
        rw [reads]
        simp [requestRefused,unknown]
  | rsv =>
      rw [RequestReads,state] at reads
      obtain ⟨cmd,command,split_⟩ := reads
      simp only [reqParseByte,state]
      split
      · rename_i zero
        exact ⟨cmd,command,by rw [split_,zero]; rfl⟩
      · rename_i other
        change requestRefused _ = true
        rw [split_]
        simp [requestRefused,other]
  | atyp => exact atyp_reads parser state reads
  | dstAddr =>
      rw [RequestReads,state] at reads
      rcases reads with ⟨named,first,cmd,command,split_⟩ | ⟨positive,n,known,left_⟩
      · exact size_reads parser state named first command split_
      · have later : parser.toParse ≠ firstFqdnByteParse := by
          unfold firstFqdnByteParse
          omega
        simp only [reqParseByte,state]
        rw [if_neg (by simp [later])]
        exact addr_reads parser state positive known left_
  | dstPort =>
      rw [RequestReads,state] at reads
      obtain ⟨positive,n,known,left_⟩ := reads
      obtain ⟨putState,putCount⟩ := @put_kept byte parser
      simp only [reqParseByte,state]
      rw [putCount]
      split
      · rename_i last
        exact requestFormat.known_last known byte (by omega)
      · rename_i more
        rw [RequestReads,putState,state]
        refine ⟨by dsimp only; omega,n,requestLength_append known [byte],?_⟩
        rw [taken_longer]
        dsimp only
        omega
  | done => simp [ReqParser.halted,state] at running
  | error => simp [ReqParser.halted,state] at running

theorem helloLength_bound (known : helloLength bytes = some n) : n ≤ 257 := by
  unfold helloLength at known
  split at known
  · rename_i ver nmethods rest
    have byte := nmethods.toNat_lt
    split at known
    · cases known
      omega
    · cases known
  · cases known

theorem authLength_bound (known : authLength bytes = some n) : n ≤ 513 := by
  unfold authLength at known
  split at known
  · rename_i ver ulen fields
    have first := ulen.toNat_lt
    split at known
    · obtain ⟨plen,_,sum⟩ := Option.map_eq_some_iff.mp known
      have second := plen.toNat_lt
      omega
    · cases known
  · cases known

theorem requestLength_bound (known : requestLength bytes = some n) : n ≤ 262 := by
  obtain ⟨ver,cmd,rsv,atyp,addr,rfl,allowed⟩ := requestLength_parts known
  rw [requestLength_cons allowed] at known
  split at known
  · cases known
    decide
  · split at known
    · cases known
      decide
    · obtain ⟨size,_,sum⟩ := Option.map_eq_some_iff.mp known
      have byte := size.toNat_lt
      omega

theorem hello_waits (parser : ConnParser) (running : parser.halted = false) (reads : HelloReads taken parser) :
    helloFormat.decides taken = false ∧ taken.length < messageBound := by
  unfold HelloReads at reads
  cases state : parser.state with
  | version =>
      rw [state] at reads
      rw [reads]
      exact ⟨rfl,by decide⟩
  | nmethods =>
      rw [state] at reads
      rw [reads]
      exact ⟨rfl,by decide⟩
  | methods =>
      rw [state] at reads
      obtain ⟨positive,n,known,left_⟩ := reads
      have bound := helloLength_bound known
      exact ⟨helloFormat.known_waits known (by omega),by unfold messageBound; omega⟩
  | done => simp [ConnParser.halted,state] at running
  | error => simp [ConnParser.halted,state] at running

theorem name_waits {ulen : UInt8} {name : List UInt8} (short : name.length ≤ ulen.toNat) :
    authFormat.decides (authVersion::ulen::name) = false ∧ (authVersion::ulen::name).length < messageBound := by
  have byte := ulen.toNat_lt
  refine ⟨authFormat.open_waits rfl ?_,?_⟩
  · intro n known
    obtain ⟨plen,found,_⟩ := Option.map_eq_some_iff.mp known
    have inside := (List.getElem?_eq_some_iff.mp found).1
    omega
  · simp only [List.length_cons,messageBound]
    omega

theorem auth_waits (parser : AuthParser) (running : parser.halted = false) (reads : AuthReads taken parser) :
    authFormat.decides taken = false ∧ taken.length < messageBound := by
  unfold AuthReads at reads
  cases state : parser.state with
  | ver =>
      rw [state] at reads
      rw [reads]
      exact ⟨rfl,by decide⟩
  | ulen =>
      rw [state] at reads
      rw [reads]
      exact ⟨rfl,by decide⟩
  | uname =>
      rw [state] at reads
      obtain ⟨positive,_,ulen,name,split_,left_⟩ := reads
      rw [split_]
      exact name_waits (by omega)
  | plen =>
      rw [state] at reads
      obtain ⟨ulen,name,split_,whole⟩ := reads
      rw [split_]
      exact name_waits (by omega)
  | passwd =>
      rw [state] at reads
      obtain ⟨positive,_,n,known,left_⟩ := reads
      have bound := authLength_bound known
      exact ⟨authFormat.known_waits known (by omega),by unfold messageBound; omega⟩
  | done => simp [AuthParser.halted,state] at running
  | error => simp [AuthParser.halted,state] at running

theorem request_waits (parser : ReqParser) (running : parser.halted = false) (reads : RequestReads taken parser) :
    requestFormat.decides taken = false ∧ taken.length < messageBound := by
  unfold RequestReads at reads
  cases state : parser.state with
  | ver =>
      rw [state] at reads
      rw [reads]
      exact ⟨rfl,by decide⟩
  | cmd =>
      rw [state] at reads
      rw [reads]
      exact ⟨rfl,by decide⟩
  | rsv =>
      rw [state] at reads
      obtain ⟨cmd,command,split_⟩ := reads
      rw [split_]
      refine ⟨requestFormat.open_waits (by simp [requestFormat,requestRefused,command]) ?_,by simp [messageBound]⟩
      intro n known
      cases known
  | atyp =>
      rw [state] at reads
      obtain ⟨cmd,command,split_⟩ := reads
      rw [split_]
      refine ⟨requestFormat.open_waits (by simp [requestFormat,requestRefused,command]) ?_,by simp [messageBound]⟩
      intro n known
      cases known
  | dstAddr =>
      rw [state] at reads
      rcases reads with ⟨named,first,cmd,command,split_⟩ | ⟨positive,n,known,left_⟩
      · rw [split_]
        have allowed := request_header command (show typeByte fqdn = true from rfl)
        refine ⟨requestFormat.open_waits allowed ?_,by simp [messageBound]⟩
        intro n known
        have none := known.symm.trans (requestLength_cons allowed [])
        cases none
      · have bound := requestLength_bound known
        unfold reqDstPortBytes at left_
        exact ⟨requestFormat.known_waits known (by omega),by unfold messageBound; omega⟩
  | dstPort =>
      rw [state] at reads
      obtain ⟨positive,n,known,left_⟩ := reads
      have bound := requestLength_bound known
      exact ⟨requestFormat.known_waits known (by omega),by unfold messageBound; omega⟩
  | done => simp [ReqParser.halted,state] at running
  | error => simp [ReqParser.halted,state] at running

end Socks5d
