import Mathlib.Tactic.Common

namespace Socks5d

def cString (bytes : List UInt8) : List UInt8 := bytes.takeWhile (fun c => c ≠ 0)

-- The block sizes are those asked of malloc for the two strings.
structure User where
  name : List UInt8
  pass : List UInt8
  nameBlock : Nat
  passBlock : Nat
  deriving DecidableEq, Repr

-- `users` holds the first total_users slots of the array.
structure UserTable where
  users : List User
  requireAuth : Bool
  deriving DecidableEq, Repr

def UserTable.empty : UserTable := ⟨[],false⟩

def maxUsers : Nat := 10

inductive AddUserState where
  | addOk
  | addMaxUsers
  | addUserExists
  | addError
  deriving DecidableEq, Repr

def validCredentials (username password user2 pass2 : List UInt8) : Bool :=
  decide (username = user2) && decide (password = pass2)

def processAuthenticationRequest (t : UserTable) (username password : List UInt8) : Int :=
  if !t.requireAuth then 0
  else if t.users.any (fun u => validCredentials username password u.name u.pass) then 0
  else -1

def userExistsByUsername (t : UserTable) (username : List UInt8) : Option Nat :=
  t.users.findIdx? (fun u => decide (username = u.name))

def removeUser (t : UserTable) (username : List UInt8) : Int × UserTable :=
  match userExistsByUsername t username with
  | none => (-1,t)
  | some pos =>
    let users := match t.users.getLast? with
      | some last => (t.users.set pos last).dropLast
      | none => []
    (0,⟨users,if users.length = 0 then false else t.requireAuth⟩)

def addUser (t : UserTable) (name pass : List UInt8) : AddUserState × UserTable :=
  if t.users.length = maxUsers then (.addMaxUsers,t)
  else if (userExistsByUsername t name).isSome then (.addUserExists,t)
  else (.addOk,⟨t.users++[⟨name,pass,name.length+1,pass.length+1⟩],true⟩)

-- strlen of what follows the first byte. For the empty string that is what stands in
-- memory behind its terminator.
def strlenPastFirst (string behind : List UInt8) : Nat :=
  match string with
  | [] => (cString behind).length
  | _::rest => rest.length

-- The new block is malloc(strlen(new_password + 1)).
def changePassword (t : UserTable) (username newPassword behind : List UInt8) : Int × UserTable :=
  match userExistsByUsername t username with
  | none => (-1,t)
  | some pos =>
    (0,{t with users:=t.users.modify pos fun u =>
      {u with pass:=newPassword,passBlock:=strlenPastFirst newPassword behind}})

end Socks5d
