import Socks5d.SessionInput
import Socks5d.CpParsers

namespace Socks5d
open Scan ControlProtocol

def authMessage (username password : List UInt8) : List UInt8 :=
  (authVersion::UInt8.ofNat username.length::username) ++ UInt8.ofNat password.length::password

def authCalls (parser : AuthParser) : List CertifiedBuffer → AuthParser × List CertifiedBuffer
  | [] => (parser,[])
  | buff::later =>
    let (parsed,rest) := authParseFull parser buff
    let (last,rests) := authCalls parsed later
    (last,rest::rests)

def CredentialsRead (prior : AuthParser) (username password : List UInt8) : Prop :=
  ∀ earlier (last : CertifiedBuffer) front extra,
    authMessage username password = unreadBytes earlier ++ front → front ≠ [] → last.unread = front ++ extra →
    let begun := authCalls (authParserInit prior) earlier
    let ended := authParseFull begun.1 last
    begun.1.halted = false ∧ unreadBytes begun.2 = [] ∧
    ended.1.state = .done ∧ ended.2.unread = extra ∧
    ended.1.username = username ∧ ended.1.password = password

-- No terminator is stored for an empty string, and the one of a username that fills its
-- array is the first byte of the password.
def CredentialsFit (prior : AuthParser) (username password : List UInt8) : Prop :=
  (username = [] → prior.fields.getD usernameAt 0 = 0) ∧
  (password = [] → username.length = maxLen ∨ prior.fields.getD passwordAt 0 = 0) ∧
  (username.length = maxLen → password = [])

def splice (fields : List UInt8) (target : Nat) (bytes : List UInt8) : List UInt8 :=
  fields.take target ++ bytes ++ fields.drop (target+bytes.length)

-- The terminator goes first, and then the bytes before it.
def storeField (fields : List UInt8) (target : Nat) (bytes : List UInt8) : List UInt8 :=
  if bytes = [] then fields else splice (fields.set (target+bytes.length) 0) target bytes

variable {prior parser : AuthParser} {username password front extra fields bytes : List UInt8} {target : Nat}

theorem splice_set (inside : target < fields.length) (byte : UInt8) (rest : List UInt8) :
    splice (fields.set target byte) (target+1) rest = splice fields target (byte::rest) := by
  have stored : fields.set target byte = (fields.take target ++ [byte]) ++ fields.drop (target+1) := by
    rw [List.set_eq_take_append_cons_drop,if_pos inside,List.append_assoc]
    rfl
  have size : (fields.take target ++ [byte]).length = target+1 := by
    rw [List.length_append,List.length_take,List.length_singleton,Nat.min_eq_left (Nat.le_of_lt inside)]
  have head : (fields.set target byte).take (target+1) = fields.take target ++ [byte] := by
    rw [stored,← size,List.take_left]
  have tail : (fields.set target byte).drop (target+1+rest.length) = fields.drop (target+1+rest.length) := by
    rw [List.drop_set_of_lt (by omega)]
  rw [splice,splice,head,tail,List.length_cons,List.append_assoc (fields.take target) [byte] rest,
    Nat.add_right_comm target 1,Nat.add_assoc target rest.length 1]
  rfl

theorem plain_step {byte : UInt8} (state : parser.state = .uname ∨ parser.state = .passwd)
    (pointed : parser.whereTo = some target) :
    authParseByte parser byte = if parser.toParse - 1 = 0 then
        {parser with
          fields:=parser.fields.set target byte
          toParse:=0
          whereTo:=none
          state:=if parser.state = .uname then .plen else .done}
      else {parser with fields:=parser.fields.set target byte,toParse:=parser.toParse - 1,whereTo:=some (target+1)} := by
  have parsed : authParseByte parser byte = plainParseByte parser byte := by
    unfold authParseByte
    rcases state with uname | passwd
    · rw [uname]
    · rw [passwd]
  rw [parsed,plainParseByte,pointed]
  dsimp only
  split
  · rename_i last
    rw [last]
  · rfl

theorem field_fold (state : parser.state = .uname ∨ parser.state = .passwd) (pointed : parser.whereTo = some target)
    (some : bytes ≠ []) (count : parser.toParse.toNat = bytes.length)
    (room : target + bytes.length ≤ parser.fields.length) :
    bytes.foldl authParseByte parser = {parser with
      fields:=splice parser.fields target bytes
      toParse:=0
      whereTo:=none
      state:=if parser.state = .uname then .plen else .done} := by
  induction bytes generalizing parser target with
  | nil => exact absurd rfl some
  | cons byte rest ih =>
      have inside : target < parser.fields.length := by
        rw [List.length_cons] at room
        omega
      have pred := @toNat_pred parser.toParse (by rw [count]; simp)
      rw [count,List.length_cons,Nat.add_sub_cancel] at pred
      rw [List.foldl_cons,plain_step state pointed,← splice_set inside]
      cases rest with
      | nil =>
          have last : parser.toParse - 1 = 0 := UInt8.toNat_inj.mp pred
          rw [if_pos last]
          simp [splice]
      | cons next others =>
          have more : ¬ parser.toParse - 1 = 0 := by
            intro zero
            rw [zero] at pred
            cases pred
          rw [if_neg more]
          refine (ih ?_ rfl (by simp) pred ?_).trans rfl
          · exact state
          · rw [List.length_set]
            simp only [List.length_cons] at room ⊢
            omega

theorem length_fold (state : parser.state = .ulen ∨ parser.state = .plen) (cleared : parser.toParse = 0)
    (nowhere : parser.whereTo = none) (short : bytes.length ≤ maxLen)
    (room : maxLen + bytes.length ≤ parser.fields.length) :
    (UInt8.ofNat bytes.length::bytes).foldl authParseByte parser = {parser with
      fields:=storeField parser.fields (if parser.state = .ulen then usernameAt else passwordAt) bytes
      state:=if parser.state = .ulen then .plen else .done} := by
  have count : (UInt8.ofNat bytes.length).toNat = bytes.length := by
    rw [UInt8.toNat_ofNat']
    exact Nat.mod_eq_of_lt (Nat.lt_of_le_of_lt short (by decide))
  have parsed : authParseByte parser (UInt8.ofNat bytes.length) = setLenToParse parser (UInt8.ofNat bytes.length) := by
    unfold authParseByte
    rcases state with ulen | plen
    · rw [ulen]
    · rw [plen]
  rw [List.foldl_cons,parsed,setLenToParse,storeField]
  by_cases none_ : bytes = []
  · subst none_
    rw [if_neg (by simp),if_pos rfl]
    rcases state with ulen | plen
    · rw [if_pos ulen,if_pos ulen]
      rfl
    · rw [if_neg (by rw [plen]; decide),if_neg (by rw [plen]; decide)]
      rfl
  · have nonzero : UInt8.ofNat bytes.length ≠ 0 := by
      intro zero
      rw [zero] at count
      exact none_ (List.length_eq_zero_iff.mp count.symm)
    rw [if_pos nonzero,if_neg none_]
    refine (field_fold ?_ rfl none_ count ?_).trans ?_
    · dsimp only
      split
      · exact .inl rfl
      · exact .inr rfl
    · dsimp only
      rw [List.length_set]
      split
      · exact Nat.le_trans (Nat.add_le_add_right (Nat.zero_le _) _) room
      · exact room
    · dsimp only
      rw [count,← cleared,← nowhere]
      rcases state with ulen | plen
      · simp only [ulen,if_true]
      · simp only [plen,reduceCtorEq,if_false]

theorem storeField_length (room : target + bytes.length ≤ fields.length) :
    (storeField fields target bytes).length = fields.length := by
  unfold storeField
  split
  · rfl
  · simp only [splice,List.length_append,List.length_take,List.length_drop,List.length_set]
    omega

theorem storeField_some (some : bytes ≠ []) (room : target + bytes.length < fields.length) :
    storeField fields target bytes = fields.take target ++ (bytes ++ 0::fields.drop (target+bytes.length+1)) := by
  have positive := List.length_pos_iff.mpr some
  have stored : fields.set (target+bytes.length) 0 =
      fields.take (target+bytes.length) ++ 0::fields.drop (target+bytes.length+1) := by
    rw [List.set_eq_take_append_cons_drop,if_pos room]
  have head : (fields.set (target+bytes.length) 0).take target = fields.take target := by
    rw [List.take_set_of_le (by omega)]
  have tail : (fields.set (target+bytes.length) 0).drop (target+bytes.length) =
      0::fields.drop (target+bytes.length+1) := by
    rw [stored,List.drop_left' (by rw [List.length_take]; omega)]
  rw [storeField,if_neg some,splice,head,tail,List.append_assoc]

theorem storeField_before {i : Nat} (before : i < target) (room : target + bytes.length < fields.length) :
    (storeField fields target bytes).getD i 0 = fields.getD i 0 := by
  by_cases none_ : bytes = []
  · rw [storeField,if_pos none_]
  · rw [storeField_some none_ room,List.getD_eq_getElem?_getD,List.getD_eq_getElem?_getD,
      List.getElem?_append_left (by rw [List.length_take]; omega),List.getElem?_take,if_pos before]

theorem storeField_behind {i : Nat} (behind : target + bytes.length < i) (room : target + bytes.length < fields.length) :
    (storeField fields target bytes).getD i 0 = fields.getD i 0 := by
  by_cases none_ : bytes = []
  · rw [storeField,if_pos none_]
  · rw [storeField_some none_ room,List.getD_eq_getElem?_getD,List.getD_eq_getElem?_getD,← List.append_assoc,
      List.append_cons,List.getElem?_append_right (by simp only [List.length_append,List.length_take,List.length_singleton]; omega),
      List.getElem?_drop]
    congr 2
    simp only [List.length_append,List.length_take,List.length_singleton]
    omega

theorem cString_nil : cString bytes = [] ↔ bytes.getD 0 0 = 0 := by
  cases bytes with
  | nil => exact ⟨fun _ => rfl,fun _ => rfl⟩
  | cons byte rest =>
      by_cases zero : byte = 0
      · simp [cString,zero]
      · simp [cString,zero]

def storedFields (prior : AuthParser) (username password : List UInt8) : List UInt8 :=
  storeField (storeField prior.fields usernameAt username) passwordAt password

theorem message_fold (sized : prior.fields.length = maxLen+maxLen+2) (shortName : username.length ≤ maxLen)
    (shortPass : password.length ≤ maxLen) :
    (authMessage username password).foldl authParseByte (authParserInit prior) =
      ⟨.done,0,none,storedFields prior username password⟩ := by
  have nameFold := @length_fold {authParserInit prior with state:=.ulen} username (.inl rfl) rfl rfl shortName
    (by change maxLen + username.length ≤ prior.fields.length; omega)
  have passFold := @length_fold ⟨.plen,0,none,storeField prior.fields usernameAt username⟩ password
    (.inr rfl) rfl rfl shortPass (by
      change maxLen + password.length ≤ (storeField prior.fields usernameAt username).length
      rw [storeField_length (by rw [usernameAt]; omega)]
      omega)
  rw [authMessage,List.foldl_append,List.foldl_cons]
  change (UInt8.ofNat password.length::password).foldl authParseByte
    ((UInt8.ofNat username.length::username).foldl authParseByte {authParserInit prior with state:=.ulen}) = _
  rw [nameFold]
  exact passFold

theorem username_exact (sized : prior.fields.length = maxLen+maxLen+2) (nameString : ∀ byte ∈ username, byte ≠ 0)
    (passString : ∀ byte ∈ password, byte ≠ 0) (shortName : username.length ≤ maxLen)
    (shortPass : password.length ≤ maxLen) :
    cString (storedFields prior username password) = username ↔
      (username = [] → prior.fields.getD usernameAt 0 = 0) ∧ (username.length = maxLen → password = []) := by
  have nameRoom : usernameAt + username.length < prior.fields.length := by rw [usernameAt]; omega
  have size := @storeField_length prior.fields username usernameAt (by omega)
  have passRoom : passwordAt + password.length < (storeField prior.fields usernameAt username).length := by
    rw [size,passwordAt]
    omega
  by_cases empty : username = []
  · subst empty
    rw [cString_nil,storedFields,storeField_before (by decide) passRoom,storeField,if_pos rfl]
    exact ⟨fun clean => ⟨fun _ => clean,fun full => by cases full⟩,fun fits => fits.1 rfl⟩
  · have nameStored := storeField_some empty nameRoom
    have start : prior.fields.take usernameAt = [] := rfl
    rw [start,List.nil_append,usernameAt,Nat.zero_add] at nameStored
    by_cases none_ : password = []
    · rw [storedFields,usernameAt,storeField.eq_def _ passwordAt,if_pos none_,nameStored,cString_whole nameString]
      exact ⟨fun _ => ⟨fun contrary => absurd contrary empty,fun _ => none_⟩,fun _ => rfl⟩
    · rw [storedFields,storeField_some none_ passRoom,usernameAt,nameStored]
      by_cases full : username.length = maxLen
      · have all : (username ++ 0::prior.fields.drop (username.length+1)).take passwordAt = username :=
          List.take_left' full
        rw [all,cString_front nameString,cString_whole passString]
        constructor
        · intro same
          exact absurd (List.append_right_eq_self.mp same) none_
        · rintro ⟨_,blank⟩
          exact absurd (blank full) none_
      · have more : passwordAt - username.length = (passwordAt - username.length - 1) + 1 := by
          rw [passwordAt]
          omega
        have within : username.take passwordAt = username := List.take_of_length_le shortName
        rw [List.take_append,within,more,List.take_succ_cons,List.append_assoc,
          List.cons_append,cString_whole nameString]
        exact ⟨fun _ => ⟨fun contrary => absurd contrary empty,fun contrary => absurd contrary full⟩,fun _ => rfl⟩

theorem password_exact (sized : prior.fields.length = maxLen+maxLen+2) (passString : ∀ byte ∈ password, byte ≠ 0)
    (shortName : username.length ≤ maxLen) (shortPass : password.length ≤ maxLen) :
    cString ((storedFields prior username password).drop passwordAt) = password ↔
      (password = [] → username.length = maxLen ∨ prior.fields.getD passwordAt 0 = 0) := by
  have nameRoom : usernameAt + username.length < prior.fields.length := by rw [usernameAt]; omega
  have size := @storeField_length prior.fields username usernameAt (by omega)
  have passRoom : passwordAt + password.length < (storeField prior.fields usernameAt username).length := by
    rw [size,passwordAt]
    omega
  by_cases none_ : password = []
  · subst none_
    have head : ((storeField prior.fields usernameAt username).drop passwordAt).getD 0 0 =
        (storeField prior.fields usernameAt username).getD passwordAt 0 := by
      rw [List.getD_eq_getElem?_getD,List.getD_eq_getElem?_getD,List.getElem?_drop]
      rfl
    rw [storedFields,storeField.eq_def _ passwordAt,if_pos rfl,cString_nil,head]
    by_cases full : username.length = maxLen
    · have some : username ≠ [] := by
        rintro rfl
        cases full
      have terminator : (storeField prior.fields usernameAt username).getD passwordAt 0 = 0 := by
        have start : prior.fields.take usernameAt = [] := rfl
        rw [storeField_some some nameRoom,start,List.nil_append,List.getD_eq_getElem?_getD,passwordAt,
          List.getElem?_append_right (Nat.le_of_eq full),full]
        rfl
      exact ⟨fun _ _ => .inl full,fun _ => terminator⟩
    · rw [storeField_behind (by rw [usernameAt,passwordAt]; omega) nameRoom]
      constructor
      · intro clean _
        exact .inr clean
      · intro fits
        rcases fits rfl with contrary | clean
        · exact absurd contrary full
        · exact clean
  · have place : ((storeField prior.fields usernameAt username).take passwordAt).length = passwordAt := by
      rw [List.length_take]
      omega
    rw [storedFields,storeField_some none_ passRoom,List.drop_left' place,cString_whole passString]
    exact ⟨fun _ contrary => absurd contrary none_,fun _ => rfl⟩

theorem authMessage_length (shortName : username.length ≤ maxLen) (shortPass : password.length ≤ maxLen) :
    authLength (authMessage username password) = some (authMessage username password).length := by
  have size : ∀ field : List UInt8, field.length ≤ maxLen → (UInt8.ofNat field.length).toNat = field.length :=
    fun field short => by
      rw [UInt8.toNat_ofNat']
      exact Nat.mod_eq_of_lt (Nat.lt_of_le_of_lt short (by decide))
  have known := authLength_append
    (@authLength_plen _ (UInt8.ofNat password.length) _ (size username shortName).symm) password
  rw [List.append_assoc] at known
  refine known.trans (congrArg some ?_)
  rw [size username shortName,size password shortPass]
  simp only [authMessage,List.length_append,List.length_cons]
  omega

theorem authCalls_same (parser : AuthParser) (buffs : List CertifiedBuffer) :
    authCalls parser buffs = parseCalls authParseFull parser buffs := by
  induction buffs generalizing parser with
  | nil => rfl
  | cons buff later ih =>
      rw [parseCalls,← ih]
      rfl

theorem calls_read (sized : prior.fields.length = maxLen+maxLen+2) (shortName : username.length ≤ maxLen)
    (shortPass : password.length ≤ maxLen) (earlier : List CertifiedBuffer) (last : CertifiedBuffer)
    (cut : authMessage username password = unreadBytes earlier ++ front) (more : front ≠ [])
    (unread : last.unread = front ++ extra) :
    let begun := authCalls (authParserInit prior) earlier
    let ended := authParseFull begun.1 last
    begun.1.halted = false ∧ unreadBytes begun.2 = [] ∧
    ended.1 = ⟨.done,0,none,storedFields prior username password⟩ ∧ ended.2.unread = extra := by
  have known : authFormat.length (authMessage username password) = some _ := authMessage_length shortName shortPass
  obtain ⟨running,cleared,state,left_⟩ := @calls_end _ authParseByte AuthParser.halted authFormat _ _ _
    (authParserInit prior) _ _ _ (authReader_parses.reads false) (fun _ => rfl) rfl rfl known earlier last cut more unread
  rw [authCalls_same]
  exact ⟨running,cleared,state.trans (message_fold sized shortName shortPass),left_⟩

theorem read_fits (sized : prior.fields.length = maxLen+maxLen+2) (nameString : ∀ byte ∈ username, byte ≠ 0)
    (passString : ∀ byte ∈ password, byte ≠ 0) (shortName : username.length ≤ maxLen)
    (shortPass : password.length ≤ maxLen) (works : CredentialsRead prior username password) :
    CredentialsFit prior username password := by
  -- one call on a buffer that holds the message is enough
  let whole := (CertifiedBuffer.init (authMessage username password).length).fill (authMessage username password)
  have unread : whole.unread = authMessage username password ++ [] := by
    rw [CertifiedBuffer.fill_unread,List.append_nil]
    exact List.take_length
  obtain ⟨_,_,_,_,name,pass⟩ := works [] whole _ [] rfl (List.cons_ne_nil _ _) unread
  obtain ⟨_,_,ended,_⟩ := calls_read sized shortName shortPass [] whole rfl (List.cons_ne_nil _ _) unread
  rw [ended] at name pass
  obtain ⟨clean,blank⟩ := (username_exact sized nameString passString shortName shortPass).mp name
  exact ⟨clean,(password_exact sized passString shortName shortPass).mp pass,blank⟩

theorem credentials_exact (prior : AuthParser) (username password : List UInt8)
    (sized : prior.fields.length = maxLen+maxLen+2) (nameString : ∀ byte ∈ username, byte ≠ 0)
    (passString : ∀ byte ∈ password, byte ≠ 0) (shortName : username.length ≤ maxLen)
    (shortPass : password.length ≤ maxLen) :
    CredentialsRead prior username password ↔ CredentialsFit prior username password := by
  constructor
  · exact read_fits sized nameString passString shortName shortPass
  · rintro ⟨clean,cleanPass,blank⟩ earlier last front extra cut more unread
    obtain ⟨running,cleared,ended,left⟩ := calls_read sized shortName shortPass earlier last cut more unread
    dsimp only
    rw [ended]
    have name := (username_exact sized nameString passString shortName shortPass).mpr ⟨clean,blank⟩
    have pass := (password_exact sized passString shortName shortPass).mpr cleanPass
    exact ⟨running,cleared,rfl,left,name,pass⟩

theorem zeroed_sized : AuthParser.zeroed.fields.length = maxLen+maxLen+2 := List.length_replicate

theorem zeroed_credentials : CredentialsRead AuthParser.zeroed [0x75,0x73] [0x70] :=
  (credentials_exact AuthParser.zeroed [0x75,0x73] [0x70] zeroed_sized (by simp) (by simp) (by decide)
    (by decide)).mpr ⟨by decide,by decide,by decide⟩

-- The terminator of a username of 255 bytes is overwritten by the password, so the check
-- sees both in one string.
theorem fullName_misread : ¬ CredentialsRead AuthParser.zeroed (List.replicate maxLen 0x61) [0x62] := by
  intro works
  have fits := read_fits zeroed_sized (fun byte member => by rw [List.eq_of_mem_replicate member]; decide)
    (by simp) (Nat.le_of_eq List.length_replicate) (by decide) works
  exact absurd (fits.2.2 List.length_replicate) (List.cons_ne_nil _ _)

end Socks5d
