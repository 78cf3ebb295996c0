import SwiftSsh.Handshake

namespace SwiftSsh.SequenceNumbers

open SwiftSsh.ByteWords
open SwiftSsh.RustOutcome
open SwiftSsh.ByteProgram
open SwiftSsh.ByteProgram.Program
open SwiftSsh.WireTypes
open SwiftSsh.WireBuffer
open SwiftSsh.PacketCodec
open SwiftSsh.SessionCrypto
open SwiftSsh.PacketTransport
open SwiftSsh.VersionExchange
open SwiftSsh.KeyExchange
open SwiftSsh.Handshake

/-- Keys without encryption. -/
def withoutCiphers (keys : SessionKeys) : SessionKeys :=
  { keys with ciphers := none }

/-- The part of the keys that packet encryption does not touch. -/
def Fixed (fixed keys : SessionKeys) : Prop :=
  withoutCiphers keys = fixed

theorem Fixed.fields {fixed keys : SessionKeys} (hfixed : Fixed fixed keys) :
    keys.sendSeq = fixed.sendSeq ∧ keys.recvSeq = fixed.recvSeq ∧
      keys.sendMacKey = fixed.sendMacKey ∧ keys.recvMacKey = fixed.recvMacKey := by
  obtain rfl := hfixed
  exact ⟨rfl, rfl, rfl, rfl⟩

theorem ensures_getState (fixed : SessionKeys) :
    Ensures (getState : Program SessionKeys SshError SessionKeys) (Fixed fixed)
      (fun _ => Fixed fixed) := by
  intro keys input value hpre _
  exact hpre

theorem ensures_readExact (fixed : SessionKeys) (count : Nat) (eof : SshError) :
    Ensures (readExact count eof : Program SessionKeys SshError Bytes) (Fixed fixed)
      (fun _ => Fixed fixed) := by
  intro keys input value hpre hok
  have hstate : (run (readExact count eof : Program SessionKeys SshError Bytes)
      keys input).state = keys := by
    rw [readExact, run]
    split <;> rfl
  rw [hstate]
  exact hpre

theorem ensures_decryptData (P : Primitives) (fixed : SessionKeys) (data : Bytes) :
    Ensures (decryptData P data) (Fixed fixed) (fun _ => Fixed fixed) := by
  intro keys input value hpre _
  rw [run_decryptData]
  exact hpre

theorem ensures_fail {α : Type} {post : α → SessionKeys → Prop} (fixed : SessionKeys)
    (error : SshError) :
    Ensures (fail error : Program SessionKeys SshError α) (Fixed fixed) post := by
  intro keys input value _ hok
  simp at hok

theorem ensures_readRest (P : Primitives) (fixed : SessionKeys) (remaining : Nat) :
    Ensures (readRest P remaining) (Fixed fixed) (fun _ => Fixed fixed) := by
  rw [readRest]
  split
  · exact (ensures_readExact fixed _ _).bind fun rest => ensures_decryptData P fixed rest
  · exact Ensures.pure _ fun _ hfixed => hfixed

theorem ensures_recvBody (P : Primitives) (fixed : SessionKeys) (blockSize : Nat)
    (firstBlock : Bytes) (packetLength : Nat) :
    Ensures (recvBody P blockSize firstBlock packetLength) (Fixed fixed)
      (fun _ => Fixed fixed) := by
  rw [recvBody]
  split
  · exact ensures_fail fixed _
  · refine (Ensures.lift _ fun _ _ hfixed => hfixed).bind fun remaining => ?_
    refine (ensures_readRest P fixed remaining).bind fun rest => ?_
    exact Ensures.pure _ fun _ hfixed => hfixed

theorem ensures_recvFrame (P : Primitives) (fixed : SessionKeys) :
    Ensures (recvFrame P) (Fixed fixed) (fun _ => Fixed fixed) := by
  refine (ensures_getState fixed).bind fun keys => ?_
  refine (ensures_readExact fixed _ _).bind fun firstBlock => ?_
  refine (ensures_decryptData P fixed firstBlock).bind fun firstBlock => ?_
  refine (Ensures.lift _ fun _ _ hfixed => hfixed).bind fun packetLength => ?_
  exact ensures_recvBody P fixed _ firstBlock packetLength

/-- One packet more received. -/
def countRecv (fixed : SessionKeys) : SessionKeys :=
  { fixed with recvSeq := fixed.recvSeq + 1 }

/-- One packet more sent. -/
def countSend (fixed : SessionKeys) : SessionKeys :=
  { fixed with sendSeq := fixed.sendSeq + 1 }

theorem ensures_nextRecvSeq (fixed : SessionKeys) :
    Ensures nextRecvSeq (Fixed fixed)
      (fun seq keys => seq = fixed.recvSeq ∧ Fixed (countRecv fixed) keys) := by
  intro keys input seq hpre hok
  obtain rfl : keys.recvSeq = seq := Outcome.ok.inj hok
  obtain rfl := hpre
  exact ⟨rfl, rfl⟩

theorem ensures_checkMac (P : Primitives) (fixed : SessionKeys) (seq : UInt32)
    (fullData : Bytes) :
    Ensures (checkMac P seq fullData) (Fixed fixed) (fun _ => Fixed fixed) := by
  refine (ensures_getState fixed).bind fun keys => ?_
  split
  · refine (ensures_readExact fixed _ _).bind fun macBuf => ?_
    exact Ensures.lift _ fun _ _ hfixed => hfixed
  · exact Ensures.pure _ fun _ hfixed => hfixed

theorem ensures_recvPacket (P : Primitives) (fixed : SessionKeys) :
    Ensures (recvPacket P) (Fixed fixed) (fun _ => Fixed (countRecv fixed)) := by
  refine (ensures_recvFrame P fixed).bind fun fullData => ?_
  refine (ensures_nextRecvSeq fixed).bind fun seq => ?_
  have hcheck : Ensures (checkMac P seq fullData)
      (fun keys => seq = fixed.recvSeq ∧ Fixed (countRecv fixed) keys)
      (fun _ => Fixed (countRecv fixed)) := by
    intro keys input value hpre hok
    exact ensures_checkMac P (countRecv fixed) seq fullData keys input value hpre.2 hok
  exact hcheck.bind fun _ => Ensures.lift _ fun _ _ hfixed => hfixed

theorem ensures_sendPacket (P : Primitives) (fixed : SessionKeys) (rng : Nat → UInt8)
    (packet : SshPacket) :
    Ensures (sendPacket P rng packet) (Fixed fixed) (fun _ => Fixed (countSend fixed)) := by
  intro keys input value hpre hok
  cases hserialize : serialize packet (blockSizeOf keys) rng with
  | panic => exact absurd hserialize (serialize_ne_panic _ _ _)
  | err error =>
      rw [run_sendPacket_rejected input hserialize] at hok
      simp at hok
  | ok data =>
      rw [run_sendPacket_accepted input hserialize]
      obtain rfl := hpre
      rfl

theorem ensures_versionLoop (fixed : SessionKeys) (rounds : Nat) (buf : Bytes) :
    Ensures (versionLoop rounds buf) (Fixed fixed) (fun _ => Fixed fixed) := by
  induction rounds generalizing buf with
  | zero => exact ensures_fail fixed _
  | succ rounds ih =>
      refine (ensures_readExact fixed _ _).bind fun byte => ?_
      dsimp only
      split
      · exact ensures_fail fixed _
      · split
        · exact Ensures.pure _ fun _ hfixed => hfixed
        · exact ih _

theorem ensures_recvVersionString (fixed : SessionKeys) :
    Ensures recvVersionString (Fixed fixed) (fun _ => Fixed fixed) := by
  refine (ensures_versionLoop fixed _ _).bind fun buf => ?_
  split
  · exact ensures_fail fixed _
  · split
    · exact Ensures.pure _ fun _ hfixed => hfixed
    · exact ensures_fail fixed _

theorem ensures_sendVersionString (fixed : SessionKeys) (version : String) :
    Ensures (sendVersionString version) (Fixed fixed) (fun _ => Fixed fixed) := by
  intro keys input value hpre _
  exact hpre

/-- Activated with exactly three packets in each direction. -/
def Activated (keys : SessionKeys) : Prop :=
  keys.sendSeq = 3 ∧ keys.recvSeq = 3 ∧ (∃ macKey, keys.sendMacKey = some macKey) ∧
    ∃ macKey, keys.recvMacKey = some macKey

theorem ensures_activate (sessionId : Bytes) (cipherPair : CipherPair)
    (sendMacKey recvMacKey : Bytes) :
    Ensures (activate sessionId cipherPair sendMacKey recvMacKey)
      (Fixed (plainKeys 3 3)) (fun _ => Activated) := by
  intro keys input value hpre _
  rw [run_activate]
  exact ⟨hpre.fields.1, hpre.fields.2.1, ⟨_, rfl⟩, ⟨_, rfl⟩⟩

section Client

variable (P : Primitives) (R : HandshakeRandom)

theorem ensures_clientKexinit :
    Ensures (clientKexinit P R) (Fixed (plainKeys 0 0)) (fun _ => Fixed (plainKeys 2 1)) := by
  refine (ensures_recvVersionString _).bind fun serverVersion => ?_
  refine (ensures_recvPacket P _).bind fun serverKexinitPkt => ?_
  refine (Ensures.require _ _).bind fun _ => ?_
  refine (ensures_sendPacket P _ _ _).bind fun _ => ?_
  refine (ensures_sendPacket P _ _ _).bind fun _ => ?_
  exact Ensures.pure _ fun _ hfixed => hfixed

theorem ensures_clientReply (serverVersion : String) (serverKexinitPayload : Bytes) :
    Ensures (clientReply P R serverVersion serverKexinitPayload) (Fixed (plainKeys 2 1))
      (fun _ => Fixed (plainKeys 2 2)) := by
  refine (ensures_recvPacket P _).bind fun replyPkt => ?_
  refine (Ensures.require _ _).bind fun _ => ?_
  refine (Ensures.lift _ fun _ _ hfixed => hfixed).bind fun reply => ?_
  refine (Ensures.require _ _).bind fun _ => ?_
  refine (Ensures.lift _ fun _ _ hfixed => hfixed).bind fun completed => ?_
  exact Ensures.pure _ fun _ hfixed => hfixed

theorem ensures_clientNewkeys (kexResult : KexResult) :
    Ensures (clientNewkeys P R kexResult) (Fixed (plainKeys 2 2)) (fun _ => Activated) := by
  refine (ensures_recvPacket P _).bind fun newkeysPkt => ?_
  refine (Ensures.require _ _).bind fun _ => ?_
  refine (ensures_sendPacket P _ _ _).bind fun _ => ?_
  refine (Ensures.lift _ fun _ _ hfixed => hfixed).bind fun cipherPair => ?_
  refine (ensures_activate _ _ _ _).bind fun _ => ?_
  exact Ensures.pure _ fun _ hactivated => hactivated

theorem ensures_clientHandshake :
    Ensures (clientHandshake P R) (Fixed newSessionKeys) (fun _ => Activated) := by
  refine (ensures_sendVersionString _ _).bind fun _ => ?_
  refine (ensures_clientKexinit P R).bind fun hello => ?_
  refine (ensures_clientReply P R _ _).bind fun kexResult => ?_
  exact ensures_clientNewkeys P R kexResult

end Client

section Server

variable (P : Primitives) (R : HandshakeRandom)

theorem ensures_serverKexinit :
    Ensures (serverKexinit P R) (Fixed (plainKeys 0 0)) (fun _ => Fixed (plainKeys 1 0)) := by
  refine (ensures_recvVersionString _).bind fun clientVersion => ?_
  refine (ensures_sendPacket P _ _ _).bind fun _ => ?_
  exact Ensures.pure _ fun _ hfixed => hfixed

theorem ensures_serverReply (clientVersion : String) :
    Ensures (serverReply P R clientVersion) (Fixed (plainKeys 1 0))
      (fun _ => Fixed (plainKeys 3 2)) := by
  refine (ensures_recvPacket P _).bind fun clientKexinitPkt => ?_
  refine (Ensures.require _ _).bind fun _ => ?_
  refine (ensures_recvPacket P _).bind fun kexInitPkt => ?_
  refine (Ensures.require _ _).bind fun _ => ?_
  refine (Ensures.lift _ fun _ _ hfixed => hfixed).bind fun clientEphemeralPub => ?_
  refine (Ensures.require _ _).bind fun _ => ?_
  refine (Ensures.lift _ fun _ _ hfixed => hfixed).bind fun completed => ?_
  refine (ensures_sendPacket P _ _ _).bind fun _ => ?_
  refine (ensures_sendPacket P _ _ _).bind fun _ => ?_
  exact Ensures.pure _ fun _ hfixed => hfixed

theorem ensures_serverNewkeys (kexResult : KexResult) :
    Ensures (serverNewkeys P kexResult) (Fixed (plainKeys 3 2)) (fun _ => Activated) := by
  refine (ensures_recvPacket P _).bind fun clientNewkeys => ?_
  refine (Ensures.require _ _).bind fun _ => ?_
  refine (Ensures.lift _ fun _ _ hfixed => hfixed).bind fun cipherPair => ?_
  refine (ensures_activate _ _ _ _).bind fun _ => ?_
  exact Ensures.pure _ fun _ hactivated => hactivated

theorem ensures_serverHandshake :
    Ensures (serverHandshake P R) (Fixed newSessionKeys) (fun _ => Activated) := by
  refine (ensures_sendVersionString _ _).bind fun _ => ?_
  refine (ensures_serverKexinit P R).bind fun clientVersion => ?_
  refine (ensures_serverReply P R _).bind fun kexResult => ?_
  exact ensures_serverNewkeys P kexResult

end Server

end SwiftSsh.SequenceNumbers
