import SwiftSsh.AuthenticationGate

namespace SwiftSsh.AdmissionLaw

open SwiftSsh.ByteWords
open SwiftSsh.RustOutcome
open SwiftSsh.EventProgram
open SwiftSsh.WireTypes
open SwiftSsh.WireBuffer
open SwiftSsh.PacketCodec
open SwiftSsh.FileSystem
open SwiftSsh.SftpPaths
open SwiftSsh.UserAuth
open SwiftSsh.ServerLoop
open SwiftSsh.AuthenticationGate

/-- A call that adds to a database of users. -/
inductive Addition where
  | password (username password : String)
  | publicKey (username : String) (keyBlob : Bytes)

/-- The user database after one more addition. -/
def add (db : UserDatabase) : Addition → UserDatabase
  | .password username password => addPasswordUser db username password
  | .publicKey username keyBlob => addPublicKey db username keyBlob

/-- The user database that a list of additions leaves. -/
def databaseOf (additions : List Addition) : UserDatabase :=
  additions.foldl add newUserDatabase

/-- The last password that was added for a user. -/
def LastPassword (additions : List Addition) (username password : String) : Prop :=
  ∃ earlier later, additions = earlier ++ .password username password :: later ∧
    ∀ other, .password username other ∉ later

/-- What a request presents is in the list: the last password of the user, or any of the
user's keys, with or without a signature. -/
def Listed (additions : List Addition) (request : AuthRequest) : Prop :=
  match request.credential with
  | .password password => LastPassword additions request.username password
  | .publicKey _ keyBlob _ => .publicKey request.username keyBlob ∈ additions

variable {additions : List Addition} {username password : String} {keyBlob : Bytes}

theorem databaseOf_concat (additions : List Addition) (addition : Addition) :
    databaseOf (additions ++ [addition]) = add (databaseOf additions) addition :=
  List.foldl_concat ..

theorem not_lastPassword_nil : ¬LastPassword [] username password := by
  rintro ⟨earlier, later, heq, -⟩
  simp at heq

theorem lastPassword_concat_same (other : String) :
    LastPassword (additions ++ [.password username other]) username password ↔
      password = other := by
  constructor
  · rintro ⟨earlier, later, heq, hnone⟩
    rcases List.eq_nil_or_concat later with rfl | ⟨front, last, rfl⟩
    · obtain ⟨-, hlast⟩ := List.append_inj' heq rfl
      cases hlast
      rfl
    · rw [List.concat_eq_append, ← List.cons_append, ← List.append_assoc] at heq
      obtain ⟨-, hlast⟩ := List.append_inj' heq rfl
      cases hlast
      refine absurd ?_ (hnone other)
      rw [List.concat_eq_append]
      exact List.mem_append_right _ (List.mem_singleton_self _)
  · rintro rfl
    exact ⟨additions, [], rfl, fun _ => List.not_mem_nil⟩

theorem lastPassword_concat_other {addition : Addition}
    (hother : ∀ other, addition ≠ .password username other) :
    LastPassword (additions ++ [addition]) username password ↔
      LastPassword additions username password := by
  constructor
  · rintro ⟨earlier, later, heq, hnone⟩
    rcases List.eq_nil_or_concat later with rfl | ⟨front, last, rfl⟩
    · obtain ⟨-, hlast⟩ := List.append_inj' heq rfl
      cases hlast
      exact absurd rfl (hother password)
    · rw [List.concat_eq_append, ← List.cons_append, ← List.append_assoc] at heq
      obtain ⟨hfront, -⟩ := List.append_inj' heq rfl
      refine ⟨earlier, front, hfront, fun other hmem => hnone other ?_⟩
      rw [List.concat_eq_append]
      exact List.mem_append_left _ hmem
  · rintro ⟨earlier, later, rfl, hnone⟩
    refine ⟨earlier, later ++ [addition], ?_, ?_⟩
    · rw [List.append_assoc, List.cons_append]
    · intro other hmem
      rcases List.mem_append.mp hmem with hlater | hlast
      · exact hnone other hlater
      · exact hother other (List.mem_singleton.mp hlast).symm

theorem verifyPassword_databaseOf :
    verifyPassword (databaseOf additions) username password = true ↔
      LastPassword additions username password := by
  rw [verifyPassword_iff]
  induction additions using List.reverseRecOn with
  | nil => exact iff_of_false (by rintro ⟨⟩) not_lastPassword_nil
  | append_singleton additions addition ih =>
      rw [databaseOf_concat]
      cases addition with
      | publicKey other blob =>
          rw [lastPassword_concat_other (by rintro _ ⟨⟩)]
          exact ih
      | password other value =>
          change ((databaseOf additions).passwords.insert other value).lookup username = _ ↔ _
          by_cases hsame : username = other
          · subst hsame
            rw [AList.lookup_insert, Option.some_inj, lastPassword_concat_same]
            exact eq_comm
          · rw [AList.lookup_insert_ne hsame, lastPassword_concat_other]
            · exact ih
            · rintro _ ⟨⟩
              exact hsame rfl

theorem isKeyAuthorized_iff_mem {db : UserDatabase} :
    isKeyAuthorized db username keyBlob = true ↔
      keyBlob ∈ (db.publicKeys.lookup username).getD [] := by
  rw [isKeyAuthorized]
  cases db.publicKeys.lookup username <;> simp

theorem isKeyAuthorized_databaseOf :
    isKeyAuthorized (databaseOf additions) username keyBlob = true ↔
      .publicKey username keyBlob ∈ additions := by
  rw [isKeyAuthorized_iff_mem]
  induction additions using List.reverseRecOn with
  | nil => exact iff_of_false List.not_mem_nil List.not_mem_nil
  | append_singleton additions addition ih =>
      rw [databaseOf_concat, List.mem_append, List.mem_singleton, ← ih]
      cases addition with
      | password other value => exact ⟨.inl, fun hor => hor.resolve_right (by rintro ⟨⟩)⟩
      | publicKey other blob =>
          change _ ∈ (((databaseOf additions).publicKeys.insert other _).lookup username).getD []
            ↔ _
          by_cases hsame : username = other
          · subst hsame
            rw [AList.lookup_insert, Option.getD_some, List.mem_append, List.mem_singleton,
              Addition.publicKey.injEq]
            exact or_congr_right ⟨fun heq => ⟨rfl, heq⟩, And.right⟩
          · rw [AList.lookup_insert_ne hsame, Addition.publicKey.injEq]
            exact ⟨.inl, fun hor => hor.resolve_right fun hand => hsame hand.1⟩

theorem credentialAccepted_databaseOf (request : AuthRequest) :
    credentialAccepted (databaseOf additions) request = true ↔ Listed additions request := by
  rw [credentialAccepted, Listed]
  cases request.credential with
  | password password => exact verifyPassword_databaseOf
  | publicKey algorithm keyBlob signature => exact isKeyAuthorized_databaseOf

/-- A well-formed attempt that presents what is in the list. -/
def Presents (additions : List Addition) (packet : SshPacket) : Prop :=
  ∃ request, Requests packet request ∧ Listed additions request

/-- A well-formed attempt that presents something else. -/
def Misses (additions : List Addition) (packet : SshPacket) : Prop :=
  ∃ request, Requests packet request ∧ ¬Listed additions request

/-- Any number of attempts that miss, and one that does not. -/
def Authenticates (additions : List Addition) (received : List Received) : Prop :=
  ∃ (attempts : List SshPacket) (success : SshPacket) (more : List Received),
    received = attempts.map .ok ++ .ok success :: more ∧
      (∀ attempt ∈ attempts, Misses additions attempt) ∧ Presents additions success

variable {env : ServerEnv} {state : ServerState} {received : List Received}

theorem requests_unique {packet : SshPacket} {first second : AuthRequest}
    (hfirst : Requests packet first) (hsecond : Requests packet second) : first = second := by
  have heq := hfirst.2.symm.trans hsecond.2
  cases heq
  rfl

theorem not_authenticates_of_malformed {packet : SshPacket}
    (hnone : ∀ request, ¬Requests packet request) :
    ¬Authenticates additions (.ok packet :: received) := by
  rintro ⟨attempts, success, more, heq, hattempts, request, hrequest, -⟩
  cases attempts with
  | nil =>
      cases heq
      exact hnone request hrequest
  | cons attempt attempts =>
      cases heq
      obtain ⟨missed, hmissed, -⟩ := hattempts packet List.mem_cons_self
      exact hnone missed hmissed

theorem authenticates_cons {packet : SshPacket} (hmisses : Misses additions packet) :
    Authenticates additions (.ok packet :: received) ↔ Authenticates additions received := by
  constructor
  · rintro ⟨attempts, success, more, heq, hattempts, hpresents⟩
    cases attempts with
    | nil =>
        cases heq
        obtain ⟨missed, hmissed, hunlisted⟩ := hmisses
        obtain ⟨request, hrequest, hlisted⟩ := hpresents
        rw [requests_unique hmissed hrequest] at hunlisted
        exact absurd hlisted hunlisted
    | cons attempt attempts =>
        cases heq
        exact ⟨attempts, success, more, rfl,
          fun attempt hmem => hattempts attempt (List.mem_cons_of_mem _ hmem), hpresents⟩
  · rintro ⟨attempts, success, more, rfl, hattempts, hpresents⟩
    exact ⟨packet :: attempts, success, more, rfl,
      List.forall_mem_cons.mpr ⟨hmisses, hattempts⟩, hpresents⟩

theorem admitted_authentication (hdb : env.userDb = databaseOf additions)
    (hphase : state.phase = .authentication) :
    .sent buildAuthSuccess ∈ (run (handleConnection env received) state).events ↔
      Authenticates additions received := by
  rw [handleConnection]
  induction received with
  | nil =>
      refine iff_of_false List.not_mem_nil ?_
      rintro ⟨attempts, success, more, heq, -⟩
      simp at heq
  | cons item received ih =>
      rw [forEach, run_bind]
      cases item with
      | error error =>
          rw [receive, run_getState_bind, hphase]
          refine iff_of_false List.not_mem_nil ?_
          rintro ⟨attempts, success, more, heq, -⟩
          cases attempts <;> cases heq
      | ok packet =>
          rw [run_receive_authentication hphase]
          by_cases hrequests : ∃ request, Requests packet request
          · obtain ⟨request, hrequest⟩ := hrequests
            have hlisted := @credentialAccepted_databaseOf additions request
            rw [← hdb] at hlisted
            cases haccept : credentialAccepted env.userDb request with
            | true =>
                rw [run_serveAuthRequest_of_accepted hrequest haccept, Ran.andThen_ok]
                refine iff_of_true (List.mem_append_left _ (List.mem_singleton_self _)) ?_
                exact ⟨[], packet, received, rfl, List.forall_mem_nil _, request, hrequest,
                  hlisted.mp haccept⟩
            | false =>
                rw [run_serveAuthRequest_of_rejected hrequest haccept, Ran.andThen_ok]
                have hmisses : Misses additions packet := by
                  refine ⟨request, hrequest, fun hmem => ?_⟩
                  rw [hlisted.mpr hmem] at haccept
                  cases haccept
                rw [authenticates_cons hmisses, ← ih]
                refine ⟨fun hmem => ?_, List.mem_append_right _⟩
                rcases List.mem_append.mp hmem with hrefusal | hlater
                · have hsame := ServerEvent.sent.inj (List.mem_singleton.mp hrefusal)
                  exact absurd (congrArg SshPacket.msgType hsame) (by decide)
                · exact hlater
          · have hnone : ∀ request, ¬Requests packet request :=
              fun request hrequest => hrequests ⟨request, hrequest⟩
            obtain ⟨outcome, hfailed, hserved⟩ :=
              @run_serveAuthRequest_of_malformed env state packet hnone
            rw [hserved]
            refine iff_of_false ?_ (not_authenticates_of_malformed hnone)
            cases outcome with
            | ok value => exact absurd rfl hfailed
            | err error => exact List.not_mem_nil
            | panic => exact List.not_mem_nil

/-- The request for a service that the server can accept. -/
def Opens (packet : SshPacket) : Prop :=
  packet.msgType = MessageType.serviceRequest.toU8 ∧
    ∃ serviceName, parse readUtf8 packet.payload = .ok serviceName ∧
      packetLength (buildServiceAccept serviceName) aesBlockSize ≤ maxPacketSize

theorem run_serveServiceRequest_cases (state : ServerState) (service : SshPacket) :
    (Opens service ∧ ∃ serviceName, run (serveServiceRequest service) state =
      ⟨[.sent (buildServiceAccept serviceName)], { state with phase := .authentication },
        .ok ()⟩) ∨
    (¬Opens service ∧ ∃ outcome, outcome ≠ .ok () ∧
      run (serveServiceRequest service) state = ⟨[], state, outcome⟩) := by
  rw [serveServiceRequest]
  by_cases htype : service.msgType = MessageType.serviceRequest.toU8
  · rw [if_neg (not_not_intro htype)]
    rcases hparse : parse readUtf8 service.payload with serviceName | error | _
    · rw [run_lift_ok_bind]
      by_cases hfits : packetLength (buildServiceAccept serviceName) aesBlockSize ≤ maxPacketSize
      · rw [run_bind_ok (run_send_of_fits hfits)]
        exact .inl ⟨⟨htype, serviceName, hparse, hfits⟩, serviceName, rfl⟩
      · rw [run_bind_err (run_send_of_too_large (Nat.lt_of_not_le hfits))]
        refine .inr ⟨?_, _, by rintro ⟨⟩, rfl⟩
        rintro ⟨-, other, hother, hshort⟩
        rw [hparse] at hother
        cases hother
        exact hfits hshort
    · refine .inr ⟨?_, .err error, by rintro ⟨⟩, rfl⟩
      rintro ⟨-, other, hother, -⟩
      rw [hparse] at hother
      cases hother
    · refine .inr ⟨?_, .panic, by rintro ⟨⟩, rfl⟩
      rintro ⟨-, other, hother, -⟩
      rw [hparse] at hother
      cases hother
  · rw [if_pos htype]
    exact .inr ⟨fun hopens => htype hopens.1, _, by rintro ⟨⟩, rfl⟩

theorem admitted_connected (hdb : env.userDb = databaseOf additions) (world : World Name) :
    .sent buildAuthSuccess ∈ (run (handleConnection env received) (connected env world)).events ↔
      ∃ service rest, received = .ok service :: rest ∧ Opens service ∧
        Authenticates additions rest := by
  cases received with
  | nil =>
      refine iff_of_false List.not_mem_nil ?_
      rintro ⟨service, rest, heq, -⟩
      cases heq
  | cons item rest =>
      cases item with
      | error error =>
          refine iff_of_false List.not_mem_nil ?_
          rintro ⟨service, rest, heq, -⟩
          cases heq
      | ok service =>
          rw [handleConnection, forEach, run_bind, run_receive_serviceRequest rfl]
          rcases run_serveServiceRequest_cases (connected env world) service with
            ⟨hopens, serviceName, hserved⟩ | ⟨hopens, outcome, hfailed, hserved⟩
          · rw [hserved, Ran.andThen_ok]
            have hloop := @admitted_authentication additions env
              { connected env world with phase := .authentication } rest hdb rfl
            constructor
            · intro hmem
              rcases List.mem_append.mp hmem with haccept | hlater
              · have hsame := ServerEvent.sent.inj (List.mem_singleton.mp haccept)
                have htypes : buildAuthSuccess.msgType ≠ MessageType.serviceAccept.toU8 := by decide
                exact absurd (congrArg SshPacket.msgType hsame) htypes
              · exact ⟨service, rest, rfl, hopens, hloop.mp hlater⟩
            · rintro ⟨_, _, ⟨⟩, -, hauthenticates⟩
              exact List.mem_append_right _ (hloop.mpr hauthenticates)
          · rw [hserved]
            refine iff_of_false ?_ ?_
            · cases outcome with
              | ok value => exact absurd rfl hfailed
              | err error => exact List.not_mem_nil
              | panic => exact List.not_mem_nil
            · rintro ⟨_, _, ⟨⟩, hother, -⟩
              exact hopens hother

/-- A server that has been given its users by any sequence of calls admits a client exactly
when the client asks for a service it can accept, makes any number of well-formed attempts
that present neither the last password of the user nor one of the user's keys, and then a
well-formed attempt that does. What the client sends after this makes no difference. -/
theorem admitted_iff (env : ServerEnv) (additions : List Addition) (world : World Name)
    (received : List Received) :
    .sent buildAuthSuccess ∈
        (run (handleConnection { env with userDb := databaseOf additions } received)
          (connected env world)).events ↔
      ∃ service rest, received = .ok service :: rest ∧ Opens service ∧
        Authenticates additions rest :=
  admitted_connected rfl world

end SwiftSsh.AdmissionLaw
