import SwiftSsh.PacketTransport

namespace SwiftSsh.VersionExchange

open SwiftSsh.ByteWords
open SwiftSsh.RustOutcome
open SwiftSsh.ByteProgram
open SwiftSsh.ByteProgram.Program
open SwiftSsh.WireTypes
open SwiftSsh.WireBuffer
open SwiftSsh.SessionCrypto

/-- The end of a line. -/
def crlf : Bytes := [13, 10]

/-- The version line. -/
def sendVersionString (version : String) : Program SessionKeys SshError Unit :=
  writeAll (utf8 version ++ crlf)

/-- Read single bytes until the line ends or grows too long. The first argument
bounds the remaining rounds; a buffer of 256 bytes always ends the loop. -/
def versionLoop : Nat → Bytes → Program SessionKeys SshError Bytes
  | 0, _ => fail (.protocol "Version string too long")
  | rounds + 1, buf => do
      let byte ← readExact 1 .connectionClosed
      let buf := buf ++ byte
      if buf.length > 255 then fail (.protocol "Version string too long")
      else if crlf.isSuffixOf buf then return buf
      else versionLoop rounds buf

/-- The peer's version without the trailing line end. -/
def recvVersionString : Program SessionKeys SshError String := do
  let buf ← versionLoop 256 []
  match fromUtf8 (buf.take (buf.length - 2)) with
  | none => fail (.protocol "Invalid UTF-8 in version string")
  | some version =>
      if (utf8 "SSH-2.0-").isPrefixOf (utf8 version) then return version
      else fail (.protocol s!"Unsupported protocol version: {version}")

theorem run_versionLoop_cons (rounds : Nat) (buf : Bytes) (byte : UInt8) (rest : Bytes)
    (keys : SessionKeys) :
    run (versionLoop (rounds + 1) buf) keys (byte :: rest) =
      if (buf ++ [byte]).length > 255 then
        ⟨.err (.protocol "Version string too long"), keys, rest, []⟩
      else if crlf.isSuffixOf (buf ++ [byte]) then ⟨.ok (buf ++ [byte]), keys, rest, []⟩
      else run (versionLoop rounds (buf ++ [byte])) keys rest := by
  have hsplit : byte :: rest = [byte] ++ rest := rfl
  rw [versionLoop, hsplit, run_readExact_append 1 _ _ _ [byte] rest rfl]
  dsimp only
  split
  · rfl
  · split
    · rfl
    · rfl

theorem run_versionLoop {rest : Bytes} (rounds : Nat) (buf tail : Bytes)
    (keys : SessionKeys) (hne : rest ≠ []) (hend : crlf <:+ buf ++ rest)
    (hearly : ∀ i < rest.length, 0 < i → ¬ crlf <:+ buf ++ rest.take i)
    (hlength : (buf ++ rest).length ≤ 255) (hrounds : rest.length ≤ rounds) :
    run (versionLoop rounds buf) keys (rest ++ tail) =
      ⟨.ok (buf ++ rest), keys, tail, []⟩ := by
  induction rest generalizing rounds buf with
  | nil => exact absurd rfl hne
  | cons byte rest ih =>
      obtain ⟨rounds, rfl⟩ : ∃ n, rounds = n + 1 :=
        ⟨rounds - 1, by simp only [List.length_cons] at hrounds; omega⟩
      have hbuf : buf ++ byte :: rest = buf ++ [byte] ++ rest := by simp
      rw [hbuf] at hend hlength ⊢
      rw [List.cons_append, run_versionLoop_cons, if_neg (by simp at hlength ⊢; omega)]
      rcases rest with _ | ⟨next, rest⟩
      · rw [List.append_nil] at hend ⊢
        rw [if_pos (List.isSuffixOf_iff_suffix.mpr hend)]
        rfl
      · have hnot : ¬ crlf <:+ buf ++ [byte] := by
          simpa using hearly 1 (by simp) (by omega)
        rw [if_neg (fun h => hnot (List.isSuffixOf_iff_suffix.mp h))]
        apply ih rounds (buf ++ [byte]) (by simp) hend
        · intro i hi hpos
          have hcons := hearly (i + 1) (by simpa using hi) (by omega)
          simpa using hcons
        · exact hlength
        · simpa using hrounds

theorem run_recvVersionString {version : String} (tail : Bytes) (keys : SessionKeys)
    (hfront : (utf8 "SSH-2.0-").isPrefixOf (utf8 version) = true)
    (hearly : ∀ i < (utf8 version ++ crlf).length, 0 < i →
      ¬ crlf <:+ (utf8 version ++ crlf).take i)
    (hlength : (utf8 version ++ crlf).length ≤ 255) :
    run recvVersionString keys (utf8 version ++ crlf ++ tail) =
      ⟨.ok version, keys, tail, []⟩ := by
  have hloop : run (versionLoop 256 []) keys (utf8 version ++ crlf ++ tail) =
      ⟨.ok (utf8 version ++ crlf), keys, tail, []⟩ := by
    apply run_versionLoop 256 [] tail keys _ _ hearly hlength
    · exact hlength.trans (by omega)
    · simp [crlf]
    · exact List.suffix_append (utf8 version) crlf
  have htake : (utf8 version ++ crlf).take ((utf8 version ++ crlf).length - 2) =
      utf8 version := by
    simp [crlf]
  rw [recvVersionString, run_bind_ok hloop]
  simp only [htake, fromUtf8_utf8, hfront, if_true, run_pure]
  rfl

theorem run_recvVersionString_sshVersionString (tail : Bytes) (keys : SessionKeys) :
    run recvVersionString keys (utf8 sshVersionString ++ crlf ++ tail) =
      ⟨.ok sshVersionString, keys, tail, []⟩ :=
  run_recvVersionString tail keys (by decide) (by decide) (by decide)

end SwiftSsh.VersionExchange
