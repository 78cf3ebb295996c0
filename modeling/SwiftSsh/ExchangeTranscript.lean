import Mathlib.Data.Set.Function
import SwiftSsh.KeyExchange
import SwiftSsh.MpintCodec

namespace SwiftSsh.ExchangeTranscript

open SwiftSsh.ByteWords
open SwiftSsh.BigEndian
open SwiftSsh.WireBuffer
open SwiftSsh.SessionCrypto
open SwiftSsh.MpintCodec
open SwiftSsh.KeyExchange

/-- What enters the exchange hash. -/
structure Exchange where
  clientVersion : String
  serverVersion : String
  clientKexinit : Bytes
  serverKexinit : Bytes
  serverHostKeyBlob : Bytes
  clientEphemeralPub : Bytes
  serverEphemeralPub : Bytes
  sharedSecret : Bytes

namespace Exchange

/-- The bytes that are hashed for an exchange. -/
def transcript (exchange : Exchange) : Bytes :=
  exchangeTranscript exchange.clientVersion exchange.serverVersion exchange.clientKexinit
    exchange.serverKexinit exchange.serverHostKeyBlob exchange.clientEphemeralPub
    exchange.serverEphemeralPub exchange.sharedSecret

/-- The exchange hash. -/
def hash (P : Primitives) (exchange : Exchange) : Bytes :=
  computeExchangeHash P exchange.clientVersion exchange.serverVersion exchange.clientKexinit
    exchange.serverKexinit exchange.serverHostKeyBlob exchange.clientEphemeralPub
    exchange.serverEphemeralPub exchange.sharedSecret

/-- The eight parts of the transcript. -/
def components (exchange : Exchange) : List Bytes :=
  [utf8 exchange.clientVersion, utf8 exchange.serverVersion, exchange.clientKexinit,
    exchange.serverKexinit, exchange.serverHostKeyBlob, exchange.clientEphemeralPub,
    exchange.serverEphemeralPub, exchange.sharedSecret]

/-- The length of every component fits in a word. -/
def Fits (exchange : Exchange) : Prop :=
  ∀ component ∈ exchange.components, component.length < 2 ^ 32 - 1

instance (exchange : Exchange) : Decidable exchange.Fits :=
  inferInstanceAs (Decidable (∀ component ∈ exchange.components, component.length < 2 ^ 32 - 1))

/-- Both exchanges have the same messages, and the same secret as an integer. -/
structure Agrees (first second : Exchange) : Prop where
  clientVersion : first.clientVersion = second.clientVersion
  serverVersion : first.serverVersion = second.serverVersion
  clientKexinit : first.clientKexinit = second.clientKexinit
  serverKexinit : first.serverKexinit = second.serverKexinit
  serverHostKeyBlob : first.serverHostKeyBlob = second.serverHostKeyBlob
  clientEphemeralPub : first.clientEphemeralPub = second.clientEphemeralPub
  serverEphemeralPub : first.serverEphemeralPub = second.serverEphemeralPub
  sharedSecret : valueBe first.sharedSecret = valueBe second.sharedSecret

end Exchange

theorem writeString_append_inj {first second rest rest' : Bytes}
    (hfirst : first.length < 2 ^ 32 - 1) (hsecond : second.length < 2 ^ 32 - 1)
    (heq : writeString first ++ rest = writeString second ++ rest') :
    first = second ∧ rest = rest' := by
  rw [writeString, writeString, List.append_assoc, List.append_assoc] at heq
  obtain ⟨hwords, hbytes⟩ := List.append_inj heq (by rw [be32_length, be32_length])
  have hlength : first.length = second.length := by
    have hnat := congrArg UInt32.toNat (be32_injective hwords)
    rwa [UInt32.toNat_ofNat', UInt32.toNat_ofNat', Nat.mod_eq_of_lt (by omega),
      Nat.mod_eq_of_lt (by omega)] at hnat
  exact List.append_inj hbytes hlength

theorem transcript_eq (exchange : Exchange) :
    exchange.transcript =
      writeString (utf8 exchange.clientVersion) ++ (writeString (utf8 exchange.serverVersion) ++
        (writeString exchange.clientKexinit ++ (writeString exchange.serverKexinit ++
          (writeString exchange.serverHostKeyBlob ++ (writeString exchange.clientEphemeralPub ++
            (writeString exchange.serverEphemeralPub ++ writeMpint exchange.sharedSecret)))))) := by
  simp only [Exchange.transcript, exchangeTranscript, writeUtf8, List.append_assoc]

theorem agrees_of_transcript_eq {first second : Exchange} (hfirst : first.Fits)
    (hsecond : second.Fits) (heq : first.transcript = second.transcript) :
    first.Agrees second := by
  simp only [Exchange.Fits, Exchange.components, List.forall_mem_cons] at hfirst hsecond
  obtain ⟨hcv, hsv, hck, hsk, hblob, hcp, hsp, -⟩ := hfirst
  obtain ⟨hcv', hsv', hck', hsk', hblob', hcp', hsp', -⟩ := hsecond
  rw [transcript_eq, transcript_eq] at heq
  -- the components are cut off one after another
  obtain ⟨hclientVersion, heq⟩ := writeString_append_inj hcv hcv' heq
  obtain ⟨hserverVersion, heq⟩ := writeString_append_inj hsv hsv' heq
  obtain ⟨hclientKexinit, heq⟩ := writeString_append_inj hck hck' heq
  obtain ⟨hserverKexinit, heq⟩ := writeString_append_inj hsk hsk' heq
  obtain ⟨hserverHostKeyBlob, heq⟩ := writeString_append_inj hblob hblob' heq
  obtain ⟨hclientEphemeralPub, heq⟩ := writeString_append_inj hcp hcp' heq
  obtain ⟨hserverEphemeralPub, heq⟩ := writeString_append_inj hsp hsp' heq
  exact
    { clientVersion := utf8_injective hclientVersion
      serverVersion := utf8_injective hserverVersion
      clientKexinit := hclientKexinit
      serverKexinit := hserverKexinit
      serverHostKeyBlob := hserverHostKeyBlob
      clientEphemeralPub := hclientEphemeralPub
      serverEphemeralPub := hserverEphemeralPub
      sharedSecret := writeMpint_eq_iff.mp heq }

theorem transcript_eq_of_agrees {first second : Exchange} (hagrees : first.Agrees second) :
    first.transcript = second.transcript := by
  rw [transcript_eq, transcript_eq, hagrees.clientVersion, hagrees.serverVersion,
    hagrees.clientKexinit, hagrees.serverKexinit, hagrees.serverHostKeyBlob,
    hagrees.clientEphemeralPub, hagrees.serverEphemeralPub,
    writeMpint_eq_iff.mpr hagrees.sharedSecret]

/-- Equal transcripts are those of exchanges that agree. If the hash function has no
collision among the messages that it is applied to, then so are equal hashes. -/
theorem transcript_determines_exchange (first second : Exchange) (hfirst : first.Fits)
    (hsecond : second.Fits) :
    (first.transcript = second.transcript ↔ first.Agrees second) ∧
      ∀ (P : Primitives) (messages : Set Bytes), Set.InjOn P.sha256 messages →
        first.transcript ∈ messages → second.transcript ∈ messages →
        first.hash P = second.hash P → first.Agrees second := by
  constructor
  · exact ⟨agrees_of_transcript_eq hfirst hsecond, transcript_eq_of_agrees⟩
  · intro P messages hinjective hmem hmem' hhash
    exact agrees_of_transcript_eq hfirst hsecond (hinjective hmem hmem' hhash)

/-- The secret may come with a leading zero byte or without. -/
def sampleExchange (sharedSecret : Bytes) : Exchange :=
  ⟨"SSH-2.0-client", "SSH-2.0-server", [1], [2, 3], [], [4], [5], sharedSecret⟩

theorem transcript_determines_exchange_sample :
    (sampleExchange [0, 9]).Agrees (sampleExchange [9]) := by
  have htranscript : (sampleExchange [0, 9]).transcript = (sampleExchange [9]).transcript := by
    decide
  exact (transcript_determines_exchange _ _ (by decide) (by decide)).2 toyPrimitives
    {(sampleExchange [9]).transcript} (Set.injOn_singleton _ _) htranscript rfl
    (congrArg toyPrimitives.sha256 htranscript)

end SwiftSsh.ExchangeTranscript
