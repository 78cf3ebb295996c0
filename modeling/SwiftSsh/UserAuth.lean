import Mathlib.Data.List.AList
import SwiftSsh.WireBuffer

namespace SwiftSsh.UserAuth

open SwiftSsh.ByteWords
open SwiftSsh.RustOutcome
open SwiftSsh.WireTypes
open SwiftSsh.WireBuffer

/-- What a USERAUTH_REQUEST presents. -/
inductive Credential where
  | password (password : String)
  | publicKey (algorithm : String) (keyBlob : Bytes) (signature : Option Bytes)
  deriving DecidableEq

/-- The passwords and the listed keys of the users. -/
structure UserDatabase where
  passwords : AList fun _ : String => String
  publicKeys : AList fun _ : String => List Bytes

/-- No users. -/
def newUserDatabase : UserDatabase :=
  ⟨∅, ∅⟩

/-- A later password of a user replaces an earlier one. -/
def addPasswordUser (db : UserDatabase) (username password : String) : UserDatabase :=
  { db with passwords := db.passwords.insert username password }

/-- One key more for a user. -/
def addPublicKey (db : UserDatabase) (username : String) (keyBlob : Bytes) : UserDatabase :=
  let keys := (db.publicKeys.lookup username).getD []
  { db with publicKeys := db.publicKeys.insert username (keys ++ [keyBlob]) }

/-- Compare with the password of the user, if there is one. -/
def verifyPassword (db : UserDatabase) (username password : String) : Bool :=
  ((db.passwords.lookup username).map fun p => decide (p = password)).getD false

/-- Whether a key is listed for the user. -/
def isKeyAuthorized (db : UserDatabase) (username : String) (keyBlob : Bytes) : Bool :=
  ((db.publicKeys.lookup username).map fun keys => keys.any fun k => decide (k = keyBlob)).getD
    false

theorem verifyPassword_iff {db : UserDatabase} {username password : String} :
    verifyPassword db username password = true ↔
      db.passwords.lookup username = some password := by
  rw [verifyPassword]
  cases db.passwords.lookup username <;> simp

/-- An attempt with a password. -/
def buildPasswordAuthRequest (username service password : String) : SshPacket :=
  newPacket .userAuthRequest
    (writeUtf8 username ++ writeUtf8 service ++ writeUtf8 "password" ++ writeBool false ++
      writeUtf8 password)

/-- An attempt with a key, with or without a signature. -/
def buildPubkeyAuthRequest (username service algorithm : String) (keyBlob : Bytes)
    (signature : Option Bytes) : SshPacket :=
  newPacket .userAuthRequest
    (writeUtf8 username ++ writeUtf8 service ++ writeUtf8 "publickey" ++
      writeBool signature.isSome ++ writeUtf8 algorithm ++ writeString keyBlob ++
      (match signature with
        | some sig => writeString sig
        | none => []))

/-- A refusal, with the methods that may be tried. -/
def buildAuthFailure (methods : List String) (partialSuccess : Bool) : SshPacket :=
  newPacket .userAuthFailure (writeNameList methods ++ writeBool partialSuccess)

/-- The user is admitted. -/
def buildAuthSuccess : SshPacket :=
  newPacket .userAuthSuccess []

/-- Ask for a service. -/
def buildServiceRequest (serviceName : String) : SshPacket :=
  newPacket .serviceRequest (writeUtf8 serviceName)

/-- The service is granted. -/
def buildServiceAccept (serviceName : String) : SshPacket :=
  newPacket .serviceAccept (writeUtf8 serviceName)

/-- The fields of a USERAUTH_REQUEST. -/
structure AuthRequest where
  username : String
  service : String
  method : String
  credential : Credential
  deriving DecidableEq

/-- The fields that depend on the method. -/
def readCredential (method : String) : Cursor Credential :=
  if method = "password" then do
    let _change ← readBool
    let password ← readUtf8
    return .password password
  else if method = "publickey" then do
    let hasSig ← readBool
    let algorithm ← readUtf8
    let keyBlob ← readString
    if hasSig then do
      let signature ← readString
      return .publicKey algorithm keyBlob (some signature)
    else return .publicKey algorithm keyBlob none
  else cursorFail (.authFailed s!"Unsupported auth method: {method}")

/-- The common fields, and then those of the method. -/
def readAuthRequest : Cursor AuthRequest := do
  let username ← readUtf8
  let service ← readUtf8
  let method ← readUtf8
  let credential ← readCredential method
  return ⟨username, service, method, credential⟩

/-- `AuthRequest::parse`. A method other than the two is an error. -/
def AuthRequest.parse (payload : Bytes) : Outcome SshError AuthRequest :=
  WireBuffer.parse readAuthRequest payload

theorem readAuthRequest_eq {username service method : String} {credential : Credential}
    (body rest : Bytes) (husername : (utf8 username).length ≤ maxPacketSize)
    (hservice : (utf8 service).length ≤ maxPacketSize)
    (hmethod : (utf8 method).length ≤ maxPacketSize)
    (hbody : readCredential method body = .ok (credential, rest)) :
    readAuthRequest (writeUtf8 username ++ writeUtf8 service ++ writeUtf8 method ++ body) =
      .ok (⟨username, service, method, credential⟩, rest) := by
  rw [List.append_assoc, List.append_assoc, readAuthRequest,
    cursor_bind_ok _ (readUtf8_writeUtf8 _ husername),
    cursor_bind_ok _ (readUtf8_writeUtf8 _ hservice),
    cursor_bind_ok _ (readUtf8_writeUtf8 _ hmethod), cursor_bind_ok _ hbody, cursor_pure]

theorem readCredential_password {password : String} (change : Bool) (rest : Bytes)
    (hlength : (utf8 password).length ≤ maxPacketSize) :
    readCredential "password" (writeBool change ++ (writeUtf8 password ++ rest)) =
      .ok (.password password, rest) := by
  rw [readCredential, if_pos rfl, cursor_bind_ok _ (readBool_writeBool _ _),
    cursor_bind_ok _ (readUtf8_writeUtf8 _ hlength), cursor_pure]

theorem readCredential_publicKey {algorithm : String} {keyBlob : Bytes} (rest : Bytes)
    (halgorithm : (utf8 algorithm).length ≤ maxPacketSize)
    (hkey : keyBlob.length ≤ maxPacketSize) :
    readCredential "publickey"
        (writeBool false ++ (writeUtf8 algorithm ++ (writeString keyBlob ++ rest))) =
      .ok (.publicKey algorithm keyBlob none, rest) := by
  rw [readCredential, if_neg (by decide), if_pos rfl, cursor_bind_ok _ (readBool_writeBool _ _),
    cursor_bind_ok _ (readUtf8_writeUtf8 _ halgorithm),
    cursor_bind_ok _ (readString_writeString _ hkey)]
  rfl

theorem readCredential_signed {algorithm : String} {keyBlob signature : Bytes} (rest : Bytes)
    (halgorithm : (utf8 algorithm).length ≤ maxPacketSize)
    (hkey : keyBlob.length ≤ maxPacketSize) (hsignature : signature.length ≤ maxPacketSize) :
    readCredential "publickey" (writeBool true ++ (writeUtf8 algorithm ++
        (writeString keyBlob ++ (writeString signature ++ rest)))) =
      .ok (.publicKey algorithm keyBlob (some signature), rest) := by
  rw [readCredential, if_neg (by decide), if_pos rfl, cursor_bind_ok _ (readBool_writeBool _ _),
    cursor_bind_ok _ (readUtf8_writeUtf8 _ halgorithm),
    cursor_bind_ok _ (readString_writeString _ hkey), if_pos rfl,
    cursor_bind_ok _ (readString_writeString _ hsignature), cursor_pure]

end SwiftSsh.UserAuth
