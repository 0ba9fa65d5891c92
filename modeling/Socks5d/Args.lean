import Socks5d.UserMgmt
import Socks5d.Foundations.Firsts

namespace Socks5d
open Firsts

structure Socks5Args where
  socksAddr : Option (List UInt8)
  socksPort : List UInt8
  mngAddr : Option (List UInt8)
  mngPort : List UInt8
  deriving DecidableEq, Repr

def isSpace (c : UInt8) : Bool := decide (c = 0x20) || (decide (0x09 ≤ c) && decide (c ≤ 0x0d))
def isDigit (c : UInt8) : Bool := decide (0x30 ≤ c) && decide (c ≤ 0x39)

def addDigit (value : Int) (c : UInt8) : Int := value*10 + ((c.toNat : Int) - 0x30)

def digitsValue (digits : List UInt8) : Int := digits.foldl addDigit 0

def longMin : Int := -9223372036854775808
def longMax : Int := 9223372036854775807
def ushrtMax : Int := 65535
def erange : Nat := 34

-- strtol with base 10. `stop` is where *end points into the string, its start if there is
-- no number.
structure Strtol where
  value : Int
  stop : Nat
  errno : Nat

def saturated (value : Int) (stop errno : Nat) : Strtol :=
  if value > longMax then ⟨longMax,stop,erange⟩
  else if value < longMin then ⟨longMin,stop,erange⟩
  else ⟨value,stop,errno⟩

def strtol (s : List UInt8) (errno : Nat) : Strtol :=
  let blanks := (s.takeWhile isSpace).length
  let body := s.drop blanks
  let negative := decide (body.head? = some 0x2d)
  let sign := if negative || decide (body.head? = some 0x2b) then 1 else 0
  let digits := (body.drop sign).takeWhile isDigit
  if digits = [] then ⟨0,0,errno⟩
  else
    saturated (if negative then -digitsValue digits else digitsValue digits) (blanks + sign + digits.length) errno

def Strtol.outside (sl : Strtol) : Bool :=
  ((longMin = sl.value || longMax = sl.value) && sl.errno = erange) || sl.value < 0 || sl.value > ushrtMax

def port (s : List UInt8) (errno : Nat) : Option (List UInt8) :=
  let sl := strtol s errno
  if sl.stop = 0 || sl.stop ≠ s.length || sl.outside then none else some s

-- strchr finds the first colon, and what add_user answers is not looked at.
def user (users : UserTable) (s : List UInt8) : Option UserTable :=
  if 0x3a ∈ s then
    let name := s.takeWhile fun c => c ≠ 0x3a
    some (addUser users name (s.drop (name.length+1))).2
  else none

structure Opt where
  c : Char
  optarg : List UInt8
  errno : Nat
  deriving DecidableEq, Repr

structure Parsed where
  args : Socks5Args
  users : UserTable
  snifferState : Bool
  log : Bool
  deriving DecidableEq, Repr

def parsedStart : Parsed := ⟨⟨none,[0x31,0x30,0x38,0x30],none,[0x38,0x30,0x38,0x30]⟩,.empty,true,false⟩

-- One turn of the loop; `none` is exit(1).
def parseOpt (p : Parsed) (o : Opt) : Option Parsed :=
  if o.c = 'h' then none
  else if o.c = 'l' then some {p with args.socksAddr:=some o.optarg}
  else if o.c = 'L' then some {p with args.mngAddr:=some o.optarg}
  else if o.c = 'N' then some {p with snifferState:=false}
  else if o.c = 'p' then (port o.optarg o.errno).map fun s => {p with args.socksPort:=s}
  else if o.c = 'P' then (port o.optarg o.errno).map fun s => {p with args.mngPort:=s}
  else if o.c = 'u' then (user p.users o.optarg).map fun users => {p with users:=users}
  else if o.c = 'v' then none
  else if o.c = 'm' then some {p with log:=true}
  else if o.c = 'n' then some {p with log:=false}
  else none

-- `operands` are the arguments that getopt leaves behind the options.
def parseArgs (opts : List Opt) (operands : List (List UInt8)) : Option Parsed :=
  (opts.foldlM parseOpt parsedStart).bind fun p => if operands = [] then some p else none

-- The texts of a port: a decimal number of 16 bits, with what strtol skips before it. With a
-- minus sign only zero is in the range.
def PortText (s : List UInt8) : Prop :=
  ∃ blanks sign digits, s = blanks ++ (sign ++ digits) ∧ (∀ c ∈ blanks, isSpace c = true) ∧
    (sign = [] ∨ sign = [0x2b] ∨ sign = [0x2d]) ∧ digits ≠ [] ∧ (∀ c ∈ digits, isDigit c = true) ∧
    if sign = [0x2d] then digitsValue digits = 0 else digitsValue digits ≤ ushrtMax

variable {s blanks sign digits rest : List UInt8} {errno : Nat}

theorem digit_least {c : UInt8} (digit : isDigit c = true) : 0x30 ≤ c.toNat := by
  obtain ⟨low,_⟩ := Bool.and_eq_true_iff.mp digit
  exact UInt8.le_iff_toNat_le.mp (of_decide_eq_true low)

theorem digit_plain {c : UInt8} (digit : isDigit c = true) : isSpace c = false ∧ c ≠ 0x2b ∧ c ≠ 0x2d := by
  have least := digit_least digit
  refine ⟨?_,?_,?_⟩
  · unfold isSpace
    rw [Bool.or_eq_false_iff,Bool.and_eq_false_iff]
    refine ⟨decide_eq_false fun same => ?_,.inr (decide_eq_false fun low => ?_)⟩
    · rw [same] at least
      exact absurd least (by decide)
    · have top := Nat.le_trans least (UInt8.le_iff_toNat_le.mp low)
      exact absurd top (by decide)
  · rintro rfl
    exact absurd least (by decide)
  · rintro rfl
    exact absurd least (by decide)

theorem digitsValue_natural (only : ∀ c ∈ digits, isDigit c = true) : 0 ≤ digitsValue digits := by
  unfold digitsValue
  have grows : ∀ value : Int, 0 ≤ value → 0 ≤ digits.foldl addDigit value := by
    induction digits with
    | nil => exact fun _ start => start
    | cons c rest ih =>
        intro value start
        have least := digit_least (only c List.mem_cons_self)
        exact ih (fun other member => only other (List.mem_cons_of_mem c member)) _ (by unfold addDigit; omega)
  exact grows 0 (Int.le_refl 0)

theorem takeWhile_all {p : UInt8 → Bool} (only : ∀ c ∈ digits, p c = true) : digits.takeWhile p = digits := by
  have whole := @List.takeWhile_append_of_pos _ p digits [] only
  rwa [List.append_nil,List.takeWhile_nil,List.append_nil] at whole

theorem saturated_stop (value : Int) (stop errno : Nat) : (saturated value stop errno).stop = stop := by
  unfold saturated
  split
  · rfl
  · split
    · rfl
    · rfl

theorem strtol_number (space : ∀ c ∈ blanks, isSpace c = true) (signs : sign = [] ∨ sign = [0x2b] ∨ sign = [0x2d])
    (some_ : digits ≠ []) (only : ∀ c ∈ digits, isDigit c = true) :
    strtol (blanks ++ (sign ++ digits)) errno =
      saturated (if sign = [0x2d] then -digitsValue digits else digitsValue digits) (blanks ++ (sign ++ digits)).length
        errno := by
  obtain ⟨first,others,rfl⟩ := List.exists_cons_of_ne_nil some_
  obtain ⟨plain,notPlus,notMinus⟩ := digit_plain (only first List.mem_cons_self)
  have stops : (blanks ++ (sign ++ first::others)).takeWhile isSpace = blanks := by
    rw [List.takeWhile_append_of_pos space]
    rcases signs with rfl | rfl | rfl
    · rw [List.nil_append,List.takeWhile_cons_of_neg (by rw [plain]; exact Bool.false_ne_true),List.append_nil]
    · exact List.append_nil _
    · exact List.append_nil _
  have whole : (first::others).takeWhile isDigit = first::others := takeWhile_all only
  have head : (sign ++ first::others).head? = some 0x2d ↔ sign = [0x2d] := by
    rcases signs with rfl | rfl | rfl
    · simp [notMinus]
    · simp
    · simp
  have size : (if (sign ++ first::others).head? = some 0x2d ∨ (sign ++ first::others).head? = some 0x2b then 1 else 0) =
      sign.length := by
    rcases signs with rfl | rfl | rfl
    · simp [notMinus,notPlus]
    · simp
    · simp
  unfold strtol
  rw [stops]
  dsimp only
  rw [List.drop_left]
  simp only [Bool.or_eq_true,decide_eq_true_eq]
  rw [size,List.drop_left,whole,if_neg some_]
  simp only [head]
  rw [List.length_append,List.length_append,Nat.add_assoc]

theorem sign_cut (body : List UInt8) : ∃ sign rest, body = sign ++ rest ∧ (sign = [] ∨ sign = [0x2b] ∨ sign = [0x2d]) ∧
    (if decide (body.head? = some 0x2d) || decide (body.head? = some 0x2b) then 1 else 0) = sign.length := by
  cases body with
  | nil => exact ⟨[],[],rfl,.inl rfl,rfl⟩
  | cons c rest =>
      by_cases minus : c = 0x2d
      · exact ⟨[0x2d],rest,by rw [minus]; rfl,.inr (.inr rfl),by rw [minus]; rfl⟩
      · by_cases plus : c = 0x2b
        · exact ⟨[0x2b],rest,by rw [plus]; rfl,.inr (.inl rfl),by rw [plus]; rfl⟩
        · exact ⟨[],c::rest,rfl,.inl rfl,by simp [minus,plus]⟩

theorem number_whole (moved : (strtol s errno).stop ≠ 0) (whole : (strtol s errno).stop = s.length) :
    ∃ blanks sign digits, s = blanks ++ (sign ++ digits) ∧ (∀ c ∈ blanks, isSpace c = true) ∧
      (sign = [] ∨ sign = [0x2b] ∨ sign = [0x2d]) ∧ digits ≠ [] ∧ ∀ c ∈ digits, isDigit c = true := by
  obtain ⟨body,cut⟩ := @List.takeWhile_prefix _ s isSpace
  obtain ⟨sign,rest,split_,signs,size⟩ := sign_cut body
  have dropped : s.drop (s.takeWhile isSpace).length = body := by
    conv_lhs => arg 2; rw [← cut]
    exact List.drop_left
  unfold strtol at moved whole
  dsimp only at moved whole
  rw [dropped,size] at moved whole
  have behind : body.drop sign.length = rest := by rw [split_,List.drop_left]
  rw [behind] at moved whole
  by_cases none_ : rest.takeWhile isDigit = []
  · rw [if_pos none_] at moved
    exact absurd rfl moved
  · rw [if_neg none_,saturated_stop] at whole
    have length : s.length = (s.takeWhile isSpace).length + (sign.length + rest.length) := by
      conv_lhs => rw [← cut,split_]
      rw [List.length_append,List.length_append]
    have all : rest.takeWhile isDigit = rest :=
      (List.takeWhile_prefix isDigit).eq_of_length (by omega)
    refine ⟨s.takeWhile isSpace,sign,rest,by rw [← split_,cut],?_,signs,by rw [← all]; exact none_,?_⟩
    · intro c member
      exact List.all_eq_true.mp List.all_takeWhile c member
    · intro c member
      rw [← all] at member
      exact List.all_eq_true.mp List.all_takeWhile c member

-- Saturated values are out of range anyway, so errno never decides.
theorem saturated_range (value : Int) (stop errno : Nat) :
    (saturated value stop errno).outside = false ↔ 0 ≤ value ∧ value ≤ ushrtMax := by
  have low : longMin < 0 := by decide
  have high : ushrtMax < longMax := by decide
  unfold Strtol.outside
  simp only [Bool.or_eq_false_iff,Bool.and_eq_false_iff,decide_eq_false_iff_not]
  unfold saturated
  split
  · dsimp only
    omega
  · split
    · dsimp only
      omega
    · dsimp only
      omega

theorem port_exact (errno : Nat) (t : List UInt8) : port s errno = some t ↔ PortText s ∧ t = s := by
  constructor
  · intro given
    unfold port at given
    dsimp only at given
    split at given
    · cases given
    · rename_i fine
      simp only [Bool.or_eq_true,decide_eq_true_eq,not_or,ne_eq,Decidable.not_not,Bool.not_eq_true] at fine
      obtain ⟨⟨moved,whole⟩,range⟩ := fine
      obtain ⟨blanks,sign,digits,rfl,space,signs,some_,only⟩ := number_whole moved whole
      have natural := digitsValue_natural only
      refine ⟨⟨blanks,sign,digits,rfl,space,signs,some_,only,?_⟩,(Option.some.inj given).symm⟩
      rw [strtol_number space signs some_ only] at range
      have bounds := (saturated_range _ _ _).mp range
      split
      · rename_i minus
        rw [if_pos minus] at bounds
        omega
      · rename_i plain
        rw [if_neg plain] at bounds
        exact bounds.2
  · rintro ⟨⟨blanks,sign,digits,rfl,space,signs,some_,only,bound⟩,rfl⟩
    have natural := digitsValue_natural only
    have positive := List.length_pos_iff.mpr some_
    have bounds : 0 ≤ (if sign = [0x2d] then -digitsValue digits else digitsValue digits) ∧
        (if sign = [0x2d] then -digitsValue digits else digitsValue digits) ≤ ushrtMax := by
      unfold ushrtMax at bound ⊢
      split at bound
      · rename_i minus
        rw [if_pos minus]
        omega
      · rename_i plain
        rw [if_neg plain]
        omega
    have moved : (blanks ++ (sign ++ digits)).length ≠ 0 := by
      rw [List.length_append,List.length_append]
      omega
    unfold port
    dsimp only
    rw [strtol_number space signs some_ only,saturated_stop,(saturated_range _ _ _).mpr bounds,decide_eq_false moved,
      decide_eq_false (not_not.mpr rfl)]
    rfl

def given (c : Char) (opts : List Opt) : List (List UInt8) := (opts.filter fun o => decide (o.c = c)).map Opt.optarg

def lastFlag (on off : Char) (opts : List Opt) : Option Bool :=
  ((opts.filter fun o => decide (o.c = on) || decide (o.c = off)).getLast?).map fun o => decide (o.c = on)

def Opt.Fine (o : Opt) : Prop :=
  o.c = 'l' ∨ o.c = 'L' ∨ o.c = 'N' ∨ o.c = 'm' ∨ o.c = 'n' ∨ ((o.c = 'p' ∨ o.c = 'P') ∧ PortText o.optarg) ∨
    (o.c = 'u' ∧ 0x3a ∈ o.optarg)

def nameAndPass (s : List UInt8) : List UInt8 × List UInt8 :=
  (s.takeWhile (fun c => c ≠ 0x3a),s.drop ((s.takeWhile fun c => c ≠ 0x3a).length+1))

def newUser (p : List UInt8 × List UInt8) : User := ⟨p.1,p.2,p.1.length+1,p.2.length+1⟩

-- What a command line asks for: the last of the repeated options, and the users in the order
-- in which their names appear first, each with its first password.
def commandLine (opts : List Opt) : Parsed where
  args := {
    socksAddr := (given 'l' opts).getLast?
    socksPort := (given 'p' opts).getLast?.getD parsedStart.args.socksPort
    mngAddr := (given 'L' opts).getLast?
    mngPort := (given 'P' opts).getLast?.getD parsedStart.args.mngPort }
  users := ⟨((firsts Prod.fst ((given 'u' opts).map nameAndPass)).take maxUsers).map newUser,decide (given 'u' opts ≠ [])⟩
  snifferState := decide (given 'N' opts = [])
  log := (lastFlag 'm' 'n' opts).getD false

variable {opts : List Opt} {o : Opt}

theorem given_snoc (c : Char) : given c (opts++[o]) = given c opts ++ if o.c = c then [o.optarg] else [] := by
  unfold given
  rw [List.filter_append,List.map_append]
  congr 1
  split
  · rename_i same
    simp [same]
  · rename_i other
    simp [other]

theorem lastFlag_snoc (on off : Char) : lastFlag on off (opts++[o]) =
    if o.c = on ∨ o.c = off then some (decide (o.c = on)) else lastFlag on off opts := by
  unfold lastFlag
  rw [List.filter_append]
  split
  · rename_i same
    rw [List.filter_cons_of_pos (by simpa using same),List.filter_nil,List.getLast?_append]
    rfl
  · rename_i other
    rw [List.filter_cons_of_neg (by simpa using other),List.filter_nil,List.append_nil]

theorem exists_users {kept : List (List UInt8 × List UInt8)} {auth : Bool} (name : List UInt8) :
    (userExistsByUsername ⟨kept.map newUser,auth⟩ name).isSome = kept.any fun other => decide (other.1 = name) := by
  rw [userExistsByUsername,List.findIdx?_isSome,List.any_map]
  congr 1
  funext other
  exact decide_eq_decide.mpr eq_comm

-- add_user is a table with room for ten that never replaces an entry.
theorem addUser_keeps {kept : List (List UInt8 × List UInt8)} {auth : Bool} (p : List UInt8 × List UInt8)
    (needs : kept ≠ [] → auth = true) :
    (addUser ⟨kept.map newUser,auth⟩ p.1 p.2).2 = ⟨(keep maxUsers Prod.fst kept p).map newUser,true⟩ := by
  unfold addUser keep
  dsimp only
  rw [List.length_map,exists_users]
  split
  · rename_i full
    rw [needs (by rintro rfl; cases full)]
  · split
    · rename_i seen
      rw [needs (by rintro rfl; cases seen)]
    · rw [List.map_append]
      rfl

theorem user_given {text : List UInt8} (colon : 0x3a ∈ text) :
    user (commandLine opts).users text =
      some ⟨((firsts Prod.fst ((given 'u' opts ++ [text]).map nameAndPass)).take maxUsers).map newUser,true⟩ := by
  rw [user,if_pos colon,List.map_append,show [text].map nameAndPass = [nameAndPass text] from rfl,firsts_snoc]
  refine congrArg some (addUser_keeps (nameAndPass text) fun some_ => decide_eq_true ?_)
  intro none_
  rw [none_] at some_
  exact firsts_some some_ rfl

theorem turn_fine {p q : Parsed} (fine : o.Fine) (line : q = commandLine (opts++[o])) :
    some q = some p ↔ o.Fine ∧ p = commandLine (opts++[o]) := by
  constructor
  · intro same
    exact ⟨fine,(Option.some.inj same).symm.trans line⟩
  · rintro ⟨_,rfl⟩
    exact congrArg some line

theorem turn_port {p q : Parsed} {set : List UInt8 → Parsed} (letter : o.c = 'p' ∨ o.c = 'P')
    (line : q = commandLine (opts++[o])) (same : set o.optarg = q) :
    (port o.optarg o.errno).map set = some p ↔ o.Fine ∧ p = commandLine (opts++[o]) := by
  have fine : o.Fine ↔ PortText o.optarg := by
    constructor
    · intro fine
      rcases letter with c | c
      · simpa [Opt.Fine,c] using fine
      · simpa [Opt.Fine,c] using fine
    · intro text
      exact .inr (.inr (.inr (.inr (.inr (.inl ⟨letter,text⟩)))))
  constructor
  · intro ran
    obtain ⟨text,read,rfl⟩ := Option.map_eq_some_iff.mp ran
    obtain ⟨number,rfl⟩ := (port_exact o.errno text).mp read
    exact ⟨fine.mpr number,same.trans line⟩
  · rintro ⟨number,rfl⟩
    rw [(port_exact o.errno o.optarg).mpr ⟨fine.mp number,rfl⟩,Option.map_some,same,line]

theorem turn_refused {p : Parsed} (bad : ¬ o.Fine) : none = some p ↔ o.Fine ∧ p = commandLine (opts++[o]) :=
  ⟨fun none_ => absurd none_ (Option.some_ne_none p).symm,fun fine => absurd fine.1 bad⟩

theorem line_snoc : commandLine (opts++[o]) = {
    args := {
      socksAddr := (given 'l' opts ++ if o.c = 'l' then [o.optarg] else []).getLast?
      socksPort := (given 'p' opts ++ if o.c = 'p' then [o.optarg] else []).getLast?.getD parsedStart.args.socksPort
      mngAddr := (given 'L' opts ++ if o.c = 'L' then [o.optarg] else []).getLast?
      mngPort := (given 'P' opts ++ if o.c = 'P' then [o.optarg] else []).getLast?.getD parsedStart.args.mngPort }
    users := ⟨((firsts Prod.fst ((given 'u' opts ++ if o.c = 'u' then [o.optarg] else []).map nameAndPass)).take
      maxUsers).map newUser,decide (given 'u' opts ++ (if o.c = 'u' then [o.optarg] else []) ≠ [])⟩
    snifferState := decide (given 'N' opts ++ (if o.c = 'N' then [o.optarg] else []) = [])
    log := (if o.c = 'm' ∨ o.c = 'n' then some (decide (o.c = 'm')) else lastFlag 'm' 'n' opts).getD false } := by
  unfold commandLine
  rw [given_snoc,given_snoc,given_snoc,given_snoc,given_snoc,given_snoc,lastFlag_snoc]

theorem parseOpt_line (p : Parsed) : parseOpt (commandLine opts) o = some p ↔ o.Fine ∧ p = commandLine (opts++[o]) := by
  have line := @line_snoc opts o
  unfold parseOpt
  split
  · rename_i c
    exact turn_refused (by simp [Opt.Fine,c])
  · split
    · rename_i c
      exact turn_fine (.inl c) (by rw [line]; simp [c,commandLine])
    · split
      · rename_i c
        exact turn_fine (.inr (.inl c)) (by rw [line]; simp [c,commandLine])
      · split
        · rename_i c
          exact turn_fine (.inr (.inr (.inl c))) (by rw [line]; simp [c,commandLine])
        · split
          · rename_i c
            exact turn_port (.inl c) rfl (by rw [line]; simp [c,commandLine])
          · split
            · rename_i c
              exact turn_port (.inr c) rfl (by rw [line]; simp [c,commandLine])
            · split
              · rename_i c
                by_cases colon : 0x3a ∈ o.optarg
                · rw [user_given colon,Option.map_some]
                  exact turn_fine (.inr (.inr (.inr (.inr (.inr (.inr ⟨c,colon⟩))))))
                    (by rw [line]; simp [c,commandLine])
                · rw [user,if_neg colon]
                  exact turn_refused (by simp [Opt.Fine,c,colon])
              · split
                · rename_i c
                  exact turn_refused (by simp [Opt.Fine,c])
                · split
                  · rename_i c
                    exact turn_fine (.inr (.inr (.inr (.inl c)))) (by rw [line]; simp [c,commandLine])
                  · split
                    · rename_i c
                      exact turn_fine (.inr (.inr (.inr (.inr (.inl c))))) (by rw [line]; simp [c,commandLine])
                    · refine turn_refused ?_
                      simp_all [Opt.Fine]

theorem args_exact (opts : List Opt) (operands : List (List UInt8)) (p : Parsed) :
    parseArgs opts operands = some p ↔ operands = [] ∧ (∀ o ∈ opts, o.Fine) ∧ p = commandLine opts := by
  have loop : ∀ earlier p, opts.foldlM parseOpt (commandLine earlier) = some p ↔
      (∀ o ∈ opts, o.Fine) ∧ p = commandLine (earlier++opts) := by
    induction opts with
    | nil =>
        intro earlier p
        rw [List.append_nil]
        constructor
        · intro same
          exact ⟨fun _ member => absurd member List.not_mem_nil,(Option.some.inj same).symm⟩
        · rintro ⟨_,rfl⟩
          rfl
    | cons o rest ih =>
        intro earlier p
        rw [List.foldlM_cons,← List.singleton_append,← List.append_assoc]
        constructor
        · intro ran
          obtain ⟨before,first,later⟩ := Option.bind_eq_some_iff.mp ran
          obtain ⟨fine,rfl⟩ := (parseOpt_line before).mp first
          obtain ⟨others,rfl⟩ := (ih (earlier++[o]) p).mp later
          exact ⟨List.forall_mem_cons.mpr ⟨fine,others⟩,rfl⟩
        · rintro ⟨fine,rfl⟩
          obtain ⟨first,others⟩ := List.forall_mem_cons.mp fine
          refine Option.bind_eq_some_iff.mpr ⟨_,(parseOpt_line _).mpr ⟨first,rfl⟩,?_⟩
          exact (ih (earlier++[o]) _).mpr ⟨others,rfl⟩
  unfold parseArgs
  constructor
  · intro ran
    obtain ⟨parsed,front,last⟩ := Option.bind_eq_some_iff.mp ran
    obtain ⟨fine,rfl⟩ := (loop [] parsed).mp front
    split at last
    · rename_i none_
      exact ⟨none_,fine,(Option.some.inj last).symm⟩
    · cases last
  · rintro ⟨none_,fine,rfl⟩
    refine Option.bind_eq_some_iff.mpr ⟨_,(loop [] _).mpr ⟨fine,rfl⟩,?_⟩
    exact if_pos none_

end Socks5d
