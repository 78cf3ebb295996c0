import SwiftSsh.ChannelMessages
import SwiftSsh.UserAuth
import SwiftSsh.WireGrammar

namespace SwiftSsh.MessageGrammar

open SwiftSsh.ByteWords
open SwiftSsh.RustOutcome
open SwiftSsh.ReaderLaws
open SwiftSsh.WireTypes
open SwiftSsh.WireBuffer
open SwiftSsh.WireGrammar
open SwiftSsh.UserAuth
open SwiftSsh.ChannelMessages

/-- A text that fits in a string. -/
def Short (text : String) : Prop :=
  (utf8 text).length ≤ maxPacketSize

/-- The bytes of the fields that depend on the method. -/
inductive CredentialBytes : String → Credential → Bytes → Prop where
  | password (change : UInt8) {password : String} (hpassword : Short password) :
      CredentialBytes "password" (.password password) (change :: writeUtf8 password)
  | plain {algorithm : String} {keyBlob : Bytes} (halgorithm : Short algorithm)
      (hkey : keyBlob.length ≤ maxPacketSize) :
      CredentialBytes "publickey" (.publicKey algorithm keyBlob none)
        (0 :: (writeUtf8 algorithm ++ writeString keyBlob))
  | signed {hasSig : UInt8} {algorithm : String} {keyBlob signature : Bytes}
      (hsigned : hasSig ≠ 0) (halgorithm : Short algorithm)
      (hkey : keyBlob.length ≤ maxPacketSize) (hsignature : signature.length ≤ maxPacketSize) :
      CredentialBytes "publickey" (.publicKey algorithm keyBlob (some signature))
        (hasSig :: (writeUtf8 algorithm ++ (writeString keyBlob ++ writeString signature)))

theorem parse_iff {α : Type} {reader : Cursor α} {grammar : α → Bytes → Prop}
    (haccepts : Accepts reader grammar)
    (hreads : ∀ value bytes, grammar value bytes → Reads reader bytes value)
    (payload : Bytes) (value : α) :
    parse reader payload = .ok value ↔
      ∃ bytes rest, payload = bytes ++ rest ∧ grammar value bytes := by
  constructor
  · intro hparse
    obtain ⟨⟨found, rest⟩, hread, hfound⟩ := Outcome.bind_eq_ok hparse
    cases hfound
    obtain ⟨bytes, hpayload, hvalue⟩ := haccepts payload value rest hread
    exact ⟨bytes, rest, hpayload, hvalue⟩
  · rintro ⟨bytes, rest, rfl, hvalue⟩
    exact parse_eq_ok (hreads value bytes hvalue rest)

theorem accepts_readShort :
    Accepts readUtf8 fun text bytes => bytes = writeUtf8 text ∧ Short text := by
  refine accepts_readString.bind fun data => ?_
  split
  · rename_i text hsome
    apply Accepts.pure
    rintro _ ⟨rfl, hlength⟩
    rw [← utf8_of_fromUtf8 hsome] at hlength
    rw [writeUtf8, utf8_of_fromUtf8 hsome, List.append_nil]
    exact ⟨rfl, hlength⟩
  · exact Accepts.fail _

theorem accepts_readBool :
    Accepts readBool fun value bytes => ∃ byte, bytes = [byte] ∧ value = (byte != 0) := by
  intro input value rest hread
  cases input with
  | nil => cases hread
  | cons byte input =>
      cases hread
      exact ⟨[byte], rfl, byte, rfl, rfl⟩

theorem reads_readBool (byte : UInt8) : Reads readBool [byte] (byte != 0) :=
  fun _ => rfl

theorem accepts_readU32 : Accepts readU32 fun n bytes => bytes = writeU32 n :=
  accepts_cursorReadU32 _

theorem reads_readU32 (n : UInt32) : Reads readU32 (writeU32 n) n :=
  fun rest => readU32_writeU32 n rest

theorem reads_readString {data : Bytes} (hlength : data.length ≤ maxPacketSize) :
    Reads readString (writeString data) data :=
  fun rest => readString_writeString rest hlength

theorem accepts_readCredential (method : String) :
    Accepts (readCredential method) (CredentialBytes method) := by
  rw [readCredential]
  split
  · rename_i hpassword
    subst hpassword
    refine accepts_readBool.bind fun change => ?_
    refine accepts_readShort.bind fun password => ?_
    apply Accepts.pure
    rintro _ ⟨rfl, hshort⟩ _ ⟨byte, rfl, -⟩
    rw [List.append_nil]
    exact .password byte hshort
  split
  · rename_i hpublicKey
    subst hpublicKey
    refine accepts_readBool.bind fun hasSig => ?_
    refine accepts_readShort.bind fun algorithm => ?_
    refine accepts_readString.bind fun keyBlob => ?_
    cases hasSig with
    | true =>
        rw [if_pos rfl]
        refine accepts_readString.bind fun signature => ?_
        apply Accepts.pure
        rintro _ ⟨rfl, hsignature⟩ _ ⟨rfl, hkey⟩ _ ⟨rfl, halgorithm⟩ _ ⟨byte, rfl, hbyte⟩
        rw [List.append_nil]
        exact .signed (bne_iff_ne.mp hbyte.symm) halgorithm hkey hsignature
    | false =>
        rw [if_neg Bool.false_ne_true]
        apply Accepts.pure
        rintro _ ⟨rfl, hkey⟩ _ ⟨rfl, halgorithm⟩ _ ⟨byte, rfl, hbyte⟩
        rw [List.append_nil, bne_eq_false_iff_eq.mp hbyte.symm]
        exact .plain halgorithm hkey
  · exact Accepts.fail _

theorem reads_readCredential {method : String} {credential : Credential} {bytes : Bytes}
    (hbytes : CredentialBytes method credential bytes) :
    Reads (readCredential method) bytes credential := by
  cases hbytes with
  | @password change password hpassword =>
      rw [readCredential, if_pos rfl]
      exact (reads_readBool change).bind ((reads_readUtf8 hpassword).map _)
  | @plain algorithm keyBlob halgorithm hkey =>
      rw [readCredential, if_neg (by decide), if_pos rfl]
      refine (reads_readBool 0).bind ((reads_readUtf8 halgorithm).bind ?_)
      exact (reads_readString hkey).map _
  | @signed hasSig algorithm keyBlob signature hsigned halgorithm hkey hsignature =>
      rw [readCredential, if_neg (by decide), if_pos rfl]
      refine (reads_readBool hasSig).bind ((reads_readUtf8 halgorithm).bind
        ((reads_readString hkey).bind ?_))
      rw [if_pos (bne_iff_ne.mpr hsigned)]
      exact (reads_readString hsignature).map _

/-- The bytes of an authentication request. -/
def AuthBytes (request : AuthRequest) (bytes : Bytes) : Prop :=
  ∃ body, bytes = writeUtf8 request.username ++ (writeUtf8 request.service ++
      (writeUtf8 request.method ++ body)) ∧
    Short request.username ∧ Short request.service ∧ Short request.method ∧
    CredentialBytes request.method request.credential body

theorem accepts_readAuthRequest : Accepts readAuthRequest AuthBytes := by
  refine accepts_readShort.bind fun username => ?_
  refine accepts_readShort.bind fun service => ?_
  refine accepts_readShort.bind fun method => ?_
  refine (accepts_readCredential method).bind fun credential => ?_
  apply Accepts.pure
  rintro body hbody _ ⟨rfl, hmethod⟩ _ ⟨rfl, hservice⟩ _ ⟨rfl, husername⟩
  rw [List.append_nil]
  exact ⟨body, rfl, husername, hservice, hmethod, hbody⟩

theorem reads_readAuthRequest {request : AuthRequest} {bytes : Bytes}
    (hbytes : AuthBytes request bytes) : Reads readAuthRequest bytes request := by
  obtain ⟨body, rfl, husername, hservice, hmethod, hbody⟩ := hbytes
  refine (reads_readUtf8 husername).bind ((reads_readUtf8 hservice).bind
    ((reads_readUtf8 hmethod).bind ?_))
  exact (reads_readCredential hbody).map _

/-- The fields of a CHANNEL_OPEN. -/
def OpenBytes (msg : ChannelOpenMsg) (bytes : Bytes) : Prop :=
  bytes = writeUtf8 msg.channelType ++ (writeU32 msg.senderChannel ++
      (writeU32 msg.initialWindow ++ writeU32 msg.maxPacket)) ∧ Short msg.channelType

theorem accepts_readChannelOpen : Accepts readChannelOpen OpenBytes := by
  refine accepts_readShort.bind fun channelType => ?_
  refine accepts_readU32.bind fun senderChannel => ?_
  refine accepts_readU32.bind fun initialWindow => ?_
  refine accepts_readU32.bind fun maxPacket => ?_
  apply Accepts.pure
  rintro _ rfl _ rfl _ rfl _ ⟨rfl, hshort⟩
  rw [List.append_nil]
  exact ⟨rfl, hshort⟩

theorem reads_readChannelOpen {msg : ChannelOpenMsg} {bytes : Bytes}
    (hbytes : OpenBytes msg bytes) : Reads readChannelOpen bytes msg := by
  obtain ⟨rfl, hshort⟩ := hbytes
  refine (reads_readUtf8 hshort).bind ((reads_readU32 _).bind ((reads_readU32 _).bind ?_))
  exact (reads_readU32 msg.maxPacket).map _

/-- The fields of a CHANNEL_DATA. -/
def DataBytes (msg : ChannelDataMsg) (bytes : Bytes) : Prop :=
  bytes = writeU32 msg.recipientChannel ++ writeString msg.data ∧
    msg.data.length ≤ maxPacketSize

theorem accepts_readChannelData : Accepts readChannelData DataBytes := by
  refine accepts_readU32.bind fun recipientChannel => ?_
  refine accepts_readString.bind fun data => ?_
  apply Accepts.pure
  rintro _ ⟨rfl, hlength⟩ _ rfl
  rw [List.append_nil]
  exact ⟨rfl, hlength⟩

theorem reads_readChannelData {msg : ChannelDataMsg} {bytes : Bytes}
    (hbytes : DataBytes msg bytes) : Reads readChannelData bytes msg := by
  obtain ⟨rfl, hlength⟩ := hbytes
  exact (reads_readU32 _).bind ((reads_readString hlength).map _)

/-- What follows the common fields of a channel request is its data, whatever it is. -/
def RequestPayload (msg : ChannelRequestMsg) (payload : Bytes) : Prop :=
  ∃ byte : UInt8, payload = writeU32 msg.recipientChannel ++ (writeUtf8 msg.requestType ++
      ([byte] ++ msg.data)) ∧ msg.wantReply = (byte != 0) ∧ Short msg.requestType

theorem parse_channelRequest_iff (payload : Bytes) (msg : ChannelRequestMsg) :
    ChannelRequestMsg.parse payload = .ok msg ↔ RequestPayload msg payload := by
  constructor
  · intro hparse
    obtain ⟨⟨found, rest⟩, hread, hfound⟩ := Outcome.bind_eq_ok hparse
    obtain ⟨⟨recipientChannel, afterRecipient⟩, hrecipient, hread⟩ := Outcome.bind_eq_ok hread
    obtain ⟨⟨requestType, afterType⟩, htype, hread⟩ := Outcome.bind_eq_ok hread
    obtain ⟨⟨wantReply, data⟩, hwant, hread⟩ := Outcome.bind_eq_ok hread
    cases hread
    cases hfound
    obtain ⟨_, rfl, rfl⟩ := accepts_readU32 _ _ _ hrecipient
    obtain ⟨_, rfl, rfl, hshort⟩ := accepts_readShort _ _ _ htype
    obtain ⟨_, rfl, byte, rfl, hbyte⟩ := accepts_readBool _ _ _ hwant
    exact ⟨byte, rfl, hbyte, hshort⟩
  · obtain ⟨recipientChannel, requestType, wantReply, data⟩ := msg
    rintro ⟨byte, rfl, rfl, hshort⟩
    have hread : readChannelRequest (writeU32 recipientChannel ++ (writeUtf8 requestType ++
        ([byte] ++ data))) = .ok (⟨recipientChannel, requestType, byte != 0, data⟩, data) := by
      rw [readChannelRequest, cursor_bind_ok _ (readU32_writeU32 _ _),
        cursor_bind_ok _ (readUtf8_writeUtf8 _ hshort), cursor_bind_ok _ (reads_readBool byte data)]
      rfl
    exact parse_eq_ok hread

/-- The parsers accept exactly these payloads: the fields in their order, texts and strings
of at most the size limit, and anything after them; any byte but 0 stands for true. -/
theorem messages_grammar :
    (∀ payload request, AuthRequest.parse payload = .ok request ↔
      ∃ bytes rest, payload = bytes ++ rest ∧ AuthBytes request bytes) ∧
    (∀ payload msg, ChannelOpenMsg.parse payload = .ok msg ↔
      ∃ bytes rest, payload = bytes ++ rest ∧ OpenBytes msg bytes) ∧
    (∀ payload msg, ChannelDataMsg.parse payload = .ok msg ↔
      ∃ bytes rest, payload = bytes ++ rest ∧ DataBytes msg bytes) ∧
    (∀ payload msg, ChannelRequestMsg.parse payload = .ok msg ↔ RequestPayload msg payload) := by
  refine ⟨?_, ?_, ?_, parse_channelRequest_iff⟩
  · exact parse_iff accepts_readAuthRequest fun _ _ hbytes => reads_readAuthRequest hbytes
  · exact parse_iff accepts_readChannelOpen fun _ _ hbytes => reads_readChannelOpen hbytes
  · exact parse_iff accepts_readChannelData fun _ _ hbytes => reads_readChannelData hbytes

end SwiftSsh.MessageGrammar
