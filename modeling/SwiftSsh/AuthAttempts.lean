import SwiftSsh.AuthenticationGate

namespace SwiftSsh.AuthAttempts

open SwiftSsh.ByteWords
open SwiftSsh.RustOutcome
open SwiftSsh.EventProgram
open SwiftSsh.WireTypes
open SwiftSsh.WireBuffer
open SwiftSsh.FileSystem
open SwiftSsh.SftpPaths
open SwiftSsh.UserAuth
open SwiftSsh.ServerLoop
open SwiftSsh.AuthenticationGate

/-- An authentication method with its data. A password may come with a new one
that is to replace it. -/
inductive Method where
  | password (password : String) (newPassword : Option String)
  | publicKey (algorithm : String) (keyBlob : Bytes) (signature : Option Bytes)
  | other (name : String) (data : Bytes) (hname : name ≠ "password" ∧ name ≠ "publickey")

/-- The name of a method on the wire. -/
def Method.name : Method → String
  | password _ _ => "password"
  | publicKey _ _ _ => "publickey"
  | other name _ _ => name

/-- A string where there is one, and no bytes where there is none. -/
def optionalString : Option Bytes → Bytes
  | some data => writeString data
  | none => []

/-- The bytes of a method after its name. -/
def Method.data : Method → Bytes
  | password text newPassword =>
      writeBool newPassword.isSome ++
        (writeUtf8 text ++ optionalString (newPassword.map utf8))
  | publicKey algorithm keyBlob signature =>
      writeBool signature.isSome ++
        (writeUtf8 algorithm ++ (writeString keyBlob ++ optionalString signature))
  | other _ data _ => data

/-- What the server takes from the data. -/
def Method.credential : Method → Option Credential
  | password text _ => some (.password text)
  | publicKey algorithm keyBlob signature => some (.publicKey algorithm keyBlob signature)
  | other _ _ _ => none

/-- The payload of a USERAUTH_REQUEST. -/
def attemptPayload (username service : String) (method : Method) : Bytes :=
  writeUtf8 username ++ writeUtf8 service ++ writeUtf8 method.name ++ method.data

/-- A well-formed USERAUTH_REQUEST. It is not larger than what `recv_packet`
returns. -/
structure Attempt where
  username : String
  service : String
  method : Method
  carried : (attemptPayload username service method).length ≤ maxPacketSize

/-- The packet in which an attempt is made. -/
def Attempt.packet (attempt : Attempt) : SshPacket :=
  newPacket .userAuthRequest (attemptPayload attempt.username attempt.service attempt.method)

/-- Attempts as the server receives them. -/
def received (attempts : List Attempt) : List Received :=
  attempts.map fun attempt => .ok attempt.packet

/-- The attempt identifies the user. -/
def Valid (verifies : Verifies) (sessionId : Bytes) (db : UserDatabase)
    (attempt : Attempt) : Prop :=
  ∃ credential, attempt.method.credential = some credential ∧
    Proves verifies sessionId db attempt.packet.payload
      ⟨attempt.username, attempt.service, attempt.method.name, credential⟩

/-- Each attempt is answered by one failure, and the login after them by
success. -/
def Answered (env : ServerEnv) (state : ServerState) (attempts : List Attempt)
    (login : Attempt) : Prop :=
  run (handleConnection env (received (attempts ++ [login]))) state =
    ⟨attempts.map (fun _ => .sent (buildAuthFailure ["password", "publickey"] false)) ++
        [.sent buildAuthSuccess], { state with phase := .channels }, .ok ()⟩

/-- The server knows the method, and an authorised key comes with a signature. -/
def Handled (verifies : Verifies) (sessionId : Bytes) (db : UserDatabase)
    (attempt : Attempt) : Prop :=
  (attempt.method.name = "password" ∨ attempt.method.name = "publickey") ∧
    ¬UnsignedKey verifies sessionId db attempt.packet

theorem optionalString_length (data : Option Bytes) :
    ∀ bytes, data = some bytes → bytes.length ≤ (optionalString data).length := by
  rintro bytes rfl
  rw [optionalString, writeString_length]
  omega

theorem lengths_le (attempt : Attempt) :
    (utf8 attempt.username).length ≤ maxPacketSize ∧
      (utf8 attempt.service).length ≤ maxPacketSize ∧
      (utf8 attempt.method.name).length ≤ maxPacketSize ∧
      attempt.method.data.length ≤ maxPacketSize := by
  have hcarried := attempt.carried
  simp only [attemptPayload, List.length_append, writeUtf8_length] at hcarried
  omega

theorem readCredential_data {method : Method} {credential : Credential}
    (hlength : method.data.length ≤ maxPacketSize)
    (hcredential : method.credential = some credential) :
    ∃ rest, readCredential method.name method.data = .ok (credential, rest) := by
  cases method with
  | password password newPassword =>
      cases hcredential
      simp only [Method.data, List.length_append, writeUtf8_length, writeBool_length] at hlength
      exact ⟨_, readCredential_password _ _ (by omega)⟩
  | publicKey algorithm keyBlob signature =>
      cases hcredential
      simp only [Method.data, List.length_append, writeUtf8_length, writeBool_length,
        writeString_length] at hlength
      cases signature with
      | none => exact ⟨_, readCredential_publicKey _ (by omega) (by omega)⟩
      | some signature =>
          have hsignature := optionalString_length (some signature) signature rfl
          have hread := @readCredential_signed algorithm keyBlob signature [] (by omega) (by omega)
            (by omega)
          rw [List.append_nil] at hread
          exact ⟨[], hread⟩
  | other name data hname => cases hcredential

theorem requests_packet {attempt : Attempt} {credential : Credential}
    (hcredential : attempt.method.credential = some credential) :
    Requests attempt.packet
      ⟨attempt.username, attempt.service, attempt.method.name, credential⟩ := by
  obtain ⟨husername, hservice, hname, hdata⟩ := lengths_le attempt
  obtain ⟨rest, hread⟩ := readCredential_data hdata hcredential
  exact ⟨rfl, parse_eq_ok (readAuthRequest_eq _ _ husername hservice hname hread)⟩

theorem parse_other {attempt : Attempt} {name : String} {data : Bytes}
    {hname : name ≠ "password" ∧ name ≠ "publickey"}
    (hmethod : attempt.method = .other name data hname) :
    AuthRequest.parse attempt.packet.payload =
      .err (.authFailed s!"Unsupported auth method: {name}") := by
  obtain ⟨husername, hservice, hlength, -⟩ := lengths_le attempt
  have hpayload : attempt.packet.payload = writeUtf8 attempt.username ++
      (writeUtf8 attempt.service ++ (writeUtf8 name ++ data)) := by
    rw [Attempt.packet, attemptPayload, hmethod]
    simp only [newPacket, Method.name, Method.data, List.append_assoc]
  rw [hmethod, Method.name] at hlength
  rw [hpayload, AuthRequest.parse, parse, readAuthRequest,
    cursor_bind_ok _ (readUtf8_writeUtf8 _ husername),
    cursor_bind_ok _ (readUtf8_writeUtf8 _ hservice),
    cursor_bind_ok _ (readUtf8_writeUtf8 _ hlength), cursor_bind, readCredential,
    if_neg hname.1, if_neg hname.2]
  rfl

variable {verifies : Verifies} {sessionId : Bytes} {env : ServerEnv} {state : ServerState}
  {attempt : Attempt}

theorem run_receive_failure (hphase : state.phase = .authentication)
    (hinvalid : ¬Valid verifies sessionId env.userDb attempt)
    (hhandled : Handled verifies sessionId env.userDb attempt) :
    run (receive env (.ok attempt.packet)) state =
      ⟨[.sent (buildAuthFailure ["password", "publickey"] false)], state, .ok ()⟩ := by
  obtain ⟨hname, hsigned⟩ := hhandled
  cases hcredential : attempt.method.credential with
  | none =>
      cases hmethod : attempt.method with
      | password password newPassword =>
          rw [hmethod] at hcredential
          cases hcredential
      | publicKey algorithm keyBlob signature =>
          rw [hmethod] at hcredential
          cases hcredential
      | other name data hother =>
          rw [hmethod, Method.name] at hname
          exact absurd hname (not_or.mpr hother)
  | some credential =>
      have hrequest := requests_packet hcredential
      have hreject : credentialAccepted env.userDb
          ⟨attempt.username, attempt.service, attempt.method.name, credential⟩ = false := by
        rw [Bool.eq_false_iff]
        intro haccept
        exact hinvalid ⟨credential, hcredential, proves_of_accepted hrequest haccept hsigned⟩
      rw [run_receive_authentication hphase, run_serveAuthRequest_of_rejected hrequest hreject]

theorem run_receive_success (hphase : state.phase = .authentication) {password : String}
    {newPassword : Option String} (hmethod : attempt.method = .password password newPassword)
    (hvalid : Valid verifies sessionId env.userDb attempt) :
    run (receive env (.ok attempt.packet)) state =
      ⟨[.sent buildAuthSuccess], { state with phase := .channels }, .ok ()⟩ := by
  obtain ⟨credential, hcredential, hproves⟩ := hvalid
  have hrequest := requests_packet hcredential
  rw [hmethod, Method.credential] at hcredential
  cases hcredential
  rw [run_receive_authentication hphase]
  exact run_serveAuthRequest_of_accepted hrequest (verifyPassword_iff.mpr hproves)

theorem events_of_not_handled (hphase : state.phase = .authentication)
    (hhandled : ¬Handled verifies sessionId env.userDb attempt) :
    (∃ error, run (receive env (.ok attempt.packet)) state = ⟨[], state, .err error⟩) ∨
      run (receive env (.ok attempt.packet)) state =
        ⟨[.sent buildAuthSuccess], { state with phase := .channels }, .ok ()⟩ := by
  rw [run_receive_authentication hphase]
  by_cases hname : attempt.method.name = "password" ∨ attempt.method.name = "publickey"
  · -- The method is known, so the key is the authorised one without a signature.
    right
    have hunsigned : UnsignedKey verifies sessionId env.userDb attempt.packet := by
      by_contra hsigned
      exact hhandled ⟨hname, hsigned⟩
    obtain ⟨request, algorithm, keyBlob, signature, hrequest, hcredential, hauthorised, -⟩ :=
      hunsigned
    apply run_serveAuthRequest_of_accepted hrequest
    rw [credentialAccepted, hcredential]
    exact isKeyAuthorized_iff.mpr hauthorised
  · left
    cases hmethod : attempt.method with
    | password password newPassword =>
        rw [hmethod] at hname
        exact absurd (.inl rfl) hname
    | publicKey algorithm keyBlob signature =>
        rw [hmethod] at hname
        exact absurd (.inr rfl) hname
    | other name data hother =>
        refine ⟨.authFailed s!"Unsupported auth method: {name}", ?_⟩
        have htype : attempt.packet.msgType = MessageType.userAuthRequest.toU8 := rfl
        rw [serveAuthRequest, if_neg (not_not_intro htype), parse_other hmethod]
        rfl

theorem answered_cons_iff (hphase : state.phase = .authentication)
    (hinvalid : ¬Valid verifies sessionId env.userDb attempt) (attempts : List Attempt)
    (login : Attempt) :
    Answered env state (attempt :: attempts) login ↔
      Handled verifies sessionId env.userDb attempt ∧ Answered env state attempts login := by
  rw [Answered, Answered, handleConnection, received, List.cons_append, List.map_cons,
    List.map_cons, List.cons_append]
  by_cases hhandled : Handled verifies sessionId env.userDb attempt
  · rw [run_forEach_cons_ok (run_receive_failure hphase hinvalid hhandled), Ran.after]
    simp only [Ran.mk.injEq, List.cons_append, List.nil_append, List.cons.injEq, true_and,
      hhandled, handleConnection, received]
    rw [← Ran.mk.injEq]
  · simp only [hhandled, false_and, iff_false]
    rcases events_of_not_handled hphase hhandled with ⟨error, hrun⟩ | hrun
    · rw [forEach, run_bind_err hrun]
      intro heq
      cases heq
    · rw [run_forEach_cons_ok hrun, Ran.after]
      intro heq
      have hevents := congrArg Ran.events heq
      simp only [List.cons_append, List.cons.injEq] at hevents
      exact absurd (ServerEvent.sent.inj hevents.1) (by decide +kernel)

/-- Attempts that fail are answered and leave the loop open exactly when the
server handles each of them. -/
theorem answered_iff (verifies : Verifies) (sessionId : Bytes) (env : ServerEnv)
    (state : ServerState) (attempts : List Attempt) (login : Attempt) (password : String)
    (newPassword : Option String) (hphase : state.phase = .authentication)
    (hinvalid : ∀ attempt ∈ attempts, ¬Valid verifies sessionId env.userDb attempt)
    (hmethod : login.method = .password password newPassword)
    (hvalid : Valid verifies sessionId env.userDb login) :
    Answered env state attempts login ↔
      ∀ attempt ∈ attempts, Handled verifies sessionId env.userDb attempt := by
  induction attempts with
  | nil =>
      have hlogin : Answered env state [] login := by
        rw [Answered, handleConnection, received, List.nil_append, List.map_cons, List.map_nil,
          run_forEach_cons_ok (run_receive_success hphase hmethod hvalid), run_forEach_nil]
        rfl
      simp [hlogin]
  | cons attempt attempts ih =>
      rw [List.forall_mem_cons] at hinvalid ⊢
      rw [answered_cons_iff hphase hinvalid.1, ih hinvalid.2]

/-- The sample server after the service request. -/
def sampleAuthenticating : ServerState :=
  { connected sampleEnv sampleWorld with phase := .authentication }

/-- An attempt that the sample server refuses. -/
def wrongPassword : Attempt :=
  ⟨"alice", "ssh-connection", .password "guess" none, by decide +kernel⟩

/-- An attempt that the sample server accepts. -/
def rightPassword : Attempt :=
  ⟨"alice", "ssh-connection", .password "secret123" none, by decide +kernel⟩

/-- A key that the server does not list, with a signature. -/
def unlistedKey : Attempt :=
  ⟨"bob", "ssh-connection", .publicKey "ssh-ed25519" [9] (some [7]), by decide +kernel⟩

/-- Attempts with both methods, none of which identifies its user. -/
def sampleAttempts : List Attempt :=
  [wrongPassword, unlistedKey, wrongPassword]

/-- The method that clients use to ask for the list of methods. -/
def noneAttempt : Attempt :=
  ⟨"alice", "ssh-connection", .other "none" [] (by decide), by decide +kernel⟩

theorem valid_rightPassword :
    Valid (fun _ _ _ _ => False) [] sampleEnv.userDb rightPassword := by
  refine ⟨.password "secret123", rfl, ?_⟩
  change sampleDb.passwords.lookup "alice" = some "secret123"
  decide +kernel

theorem not_valid_wrongPassword :
    ¬Valid (fun _ _ _ _ => False) [] sampleEnv.userDb wrongPassword := by
  rintro ⟨credential, hcredential, hproves⟩
  cases hcredential
  change sampleDb.passwords.lookup "alice" = some "guess" at hproves
  revert hproves
  decide +kernel

theorem not_valid_noneAttempt :
    ¬Valid (fun _ _ _ _ => False) [] sampleEnv.userDb noneAttempt := by
  rintro ⟨credential, hcredential, -⟩
  cases hcredential

theorem not_authorised_unlistedKey : ¬Authorised sampleEnv.userDb "bob" [9] := by
  rw [← isKeyAuthorized_iff]
  decide +kernel

theorem not_valid_unlistedKey :
    ¬Valid (fun _ _ _ _ => False) [] sampleEnv.userDb unlistedKey := by
  rintro ⟨credential, hcredential, hproves⟩
  cases hcredential
  exact not_authorised_unlistedKey hproves.1

theorem handled_wrongPassword :
    Handled (fun _ _ _ _ => False) [] sampleEnv.userDb wrongPassword := by
  refine ⟨.inl rfl, ?_⟩
  rintro ⟨request, algorithm, keyBlob, signature, hrequest, hcredential, -, -⟩
  have hparsed := (@requests_packet wrongPassword (.password "guess") rfl).2
  cases hparsed.symm.trans hrequest.2
  cases hcredential

theorem handled_unlistedKey :
    Handled (fun _ _ _ _ => False) [] sampleEnv.userDb unlistedKey := by
  refine ⟨.inr rfl, ?_⟩
  rintro ⟨request, algorithm, keyBlob, signature, hrequest, hcredential, hauthorised, -⟩
  have hparsed := (@requests_packet unlistedKey _ rfl).2
  cases hparsed.symm.trans hrequest.2
  cases hcredential
  exact not_authorised_unlistedKey hauthorised

theorem answered_sampleAttempts :
    Answered sampleEnv sampleAuthenticating sampleAttempts rightPassword := by
  refine (answered_iff (fun _ _ _ _ => False) [] sampleEnv sampleAuthenticating sampleAttempts
    rightPassword "secret123" none rfl ?_ rfl valid_rightPassword).mpr ?_
  · rw [sampleAttempts, List.forall_mem_cons, List.forall_mem_cons, List.forall_mem_singleton]
    exact ⟨not_valid_wrongPassword, not_valid_unlistedKey, not_valid_wrongPassword⟩
  · rw [sampleAttempts, List.forall_mem_cons, List.forall_mem_cons, List.forall_mem_singleton]
    exact ⟨handled_wrongPassword, handled_unlistedKey, handled_wrongPassword⟩

/-- After an attempt with the method "none" the right password comes too late. -/
theorem none_attempt_ends_connection :
    ¬Valid (fun _ _ _ _ => False) [] sampleEnv.userDb noneAttempt ∧
      Valid (fun _ _ _ _ => False) [] sampleEnv.userDb rightPassword ∧
      ¬Answered sampleEnv sampleAuthenticating [noneAttempt] rightPassword := by
  refine ⟨not_valid_noneAttempt, valid_rightPassword, ?_⟩
  rw [answered_cons_iff rfl not_valid_noneAttempt]
  rintro ⟨⟨hname, -⟩, -⟩
  revert hname
  decide

end SwiftSsh.AuthAttempts
