import SwiftSsh.VersionExchange

namespace SwiftSsh.VersionGrammar

open SwiftSsh.ByteWords
open SwiftSsh.RustOutcome
open SwiftSsh.ByteProgram
open SwiftSsh.ByteProgram.Program
open SwiftSsh.WireBuffer
open SwiftSsh.WireTypes
open SwiftSsh.SessionCrypto
open SwiftSsh.VersionExchange

/-- A version whose line has its only line end at the end and is not too long. -/
structure VersionLine (version : String) : Prop where
  front : utf8 "SSH-2.0-" <+: utf8 version
  noEarlierEnd : ¬ crlf <:+: (utf8 version ++ crlf).dropLast
  short : (utf8 version ++ crlf).length ≤ 255

/-- The stream opens with the line of this version. -/
def OpensWith (stream : Bytes) (version : String) : Prop :=
  VersionLine version ∧ utf8 version ++ crlf <+: stream

/-- A pattern occurs before the end of a line when some shorter front of it ends with the
pattern. -/
theorem infix_dropLast_iff {pattern line : Bytes} (hne : line ≠ []) :
    pattern <:+: line.dropLast ↔ ∃ i < line.length, pattern <:+ line.take i := by
  have hpos := List.length_pos_iff.mpr hne
  rw [List.infix_iff_suffix_prefix, List.dropLast_eq_take]
  constructor
  · rintro ⟨front, hsuffix, hfront⟩
    have hle := hfront.length_le
    rw [List.length_take] at hle
    refine ⟨front.length, by omega, ?_⟩
    rwa [← List.prefix_iff_eq_take.mp (hfront.trans (List.take_prefix _ _))]
  · rintro ⟨i, hi, hsuffix⟩
    exact ⟨line.take i, hsuffix, List.take_prefix_take_left (by omega)⟩

/-- What the loop has read, and what it has then seen of the line. -/
theorem versionLoop_cases (rounds : Nat) (buf input : Bytes) (keys : SessionKeys) :
    ∃ consumed, input = consumed ++ (run (versionLoop rounds buf) keys input).rest ∧
      consumed.length ≤ rounds ∧
      ((∃ error, (run (versionLoop rounds buf) keys input).outcome = .err error) ∨
        (run (versionLoop rounds buf) keys input).outcome = .ok (buf ++ consumed) ∧
          crlf <:+ buf ++ consumed ∧ (buf ++ consumed).length ≤ 255 ∧
          ∀ i < consumed.length, 0 < i → ¬ crlf <:+ buf ++ consumed.take i) := by
  induction rounds generalizing buf input with
  | zero => exact ⟨[], rfl, le_rfl, Or.inl ⟨_, rfl⟩⟩
  | succ rounds ih =>
      obtain _ | ⟨byte, rest⟩ := input
      · rw [versionLoop, run_readExact_short 1 _ _ _ (by decide)]
        exact ⟨[], rfl, Nat.zero_le _, Or.inl ⟨_, rfl⟩⟩
      · rw [run_versionLoop_cons]
        split
        · exact ⟨[byte], rfl, Nat.le_add_left 1 rounds, Or.inl ⟨_, rfl⟩⟩
        · rename_i hlong
          split
          · rename_i hend
            refine ⟨[byte], rfl, Nat.le_add_left 1 rounds, Or.inr ⟨rfl, ?_, ?_, ?_⟩⟩
            · exact List.isSuffixOf_iff_suffix.mp hend
            · exact Nat.le_of_not_lt hlong
            · intro i hi hpos
              rw [List.length_singleton] at hi
              omega
          · rename_i hend
            obtain ⟨consumed, hinput, hlength, hcases⟩ := ih (buf ++ [byte]) rest
            refine ⟨byte :: consumed, congrArg (byte :: ·) hinput, Nat.succ_le_succ hlength, ?_⟩
            rcases hcases with herr | ⟨hok, hsuffix, hshort, hearly⟩
            · exact Or.inl herr
            · rw [List.append_assoc] at hok hsuffix hshort
              refine Or.inr ⟨hok, hsuffix, hshort, ?_⟩
              intro i hi hpos
              obtain ⟨i, rfl⟩ := Nat.exists_eq_succ_of_ne_zero hpos.ne'
              rw [List.take_succ_cons, ← List.singleton_append, ← List.append_assoc]
              by_cases hzero : i = 0
              · rw [hzero, List.take_zero, List.append_nil]
                exact fun hsuffix => hend (List.isSuffixOf_iff_suffix.mpr hsuffix)
              · exact hearly i (Nat.lt_of_succ_lt_succ hi) (Nat.pos_of_ne_zero hzero)

theorem line_ne_nil (version : String) : utf8 version ++ crlf ≠ [] := by
  simp [crlf]

theorem run_of_opensWith {stream tail : Bytes} {version : String} (keys : SessionKeys)
    (hline : VersionLine version) (hstream : stream = utf8 version ++ crlf ++ tail) :
    run recvVersionString keys stream = ⟨.ok version, keys, tail, []⟩ := by
  rw [hstream]
  apply run_recvVersionString tail keys (List.isPrefixOf_iff_prefix.mpr hline.front) _ hline.short
  intro i hi _ hsuffix
  exact hline.noEarlierEnd ((infix_dropLast_iff (line_ne_nil version)).mpr ⟨i, hi, hsuffix⟩)

theorem versionLine_of_loop {consumed : Bytes} {version : String} (hend : crlf <:+ consumed)
    (hshort : consumed.length ≤ 255)
    (hearly : ∀ i < consumed.length, 0 < i → ¬ crlf <:+ consumed.take i)
    (htext : fromUtf8 (consumed.take (consumed.length - 2)) = some version)
    (hfront : (utf8 "SSH-2.0-").isPrefixOf (utf8 version) = true) :
    VersionLine version ∧ consumed = utf8 version ++ crlf := by
  obtain ⟨front, rfl⟩ := hend
  have htake : (front ++ crlf).take ((front ++ crlf).length - 2) = front := by
    simp [crlf]
  rw [htake] at htext
  obtain rfl := utf8_of_fromUtf8 htext
  refine ⟨⟨List.isPrefixOf_iff_prefix.mp hfront, ?_, hshort⟩, rfl⟩
  rw [infix_dropLast_iff (line_ne_nil version)]
  rintro ⟨i, hi, hsuffix⟩
  rcases Nat.eq_zero_or_pos i with rfl | hpos
  · simp [crlf] at hsuffix
  · exact hearly i hi hpos hsuffix

theorem recvVersionString_cases (stream : Bytes) (keys : SessionKeys) :
    (∃ version, (run recvVersionString keys stream).outcome = .ok version ∧
      OpensWith stream version) ∨
    ∃ error consumed, (run recvVersionString keys stream).outcome = .err error ∧
      stream = consumed ++ (run recvVersionString keys stream).rest ∧ consumed.length ≤ 256 := by
  obtain ⟨consumed, hstream, hlength, hcases⟩ := versionLoop_cases 256 [] stream keys
  rw [recvVersionString, run_bind]
  generalize run (versionLoop 256 []) keys stream = loop at hstream hcases
  obtain ⟨outcome, state, rest, written⟩ := loop
  dsimp only at hstream hcases
  rcases hcases with ⟨error, rfl⟩ | ⟨rfl, hend, hshort, hearly⟩
  · exact Or.inr ⟨error, consumed, rfl, hstream, hlength⟩
  · rw [Run.andThen]
    dsimp only
    rw [List.nil_append] at hend hshort ⊢
    split
    · exact Or.inr ⟨_, consumed, rfl, hstream, hlength⟩
    · rename_i version htext
      split
      · rename_i hfront
        obtain ⟨hline, heq⟩ := versionLine_of_loop hend hshort hearly htext hfront
        exact Or.inl ⟨version, rfl, hline, ⟨rest, by rw [← heq, ← hstream]⟩⟩
      · exact Or.inr ⟨_, consumed, rfl, hstream, hlength⟩

/-- A version is received exactly from the streams that open with its line, and the line
is all that is read. Every other stream ends in an error after at most 256 bytes. -/
theorem recvVersionString_grammar (stream : Bytes) (keys : SessionKeys) :
    (∀ version, (run recvVersionString keys stream).outcome = .ok version ↔
      OpensWith stream version) ∧
    (∀ version tail, VersionLine version → stream = utf8 version ++ crlf ++ tail →
      run recvVersionString keys stream = ⟨.ok version, keys, tail, []⟩) ∧
    ((¬ ∃ version, OpensWith stream version) →
      ∃ error consumed, (run recvVersionString keys stream).outcome = .err error ∧
        stream = consumed ++ (run recvVersionString keys stream).rest ∧
        consumed.length ≤ 256) := by
  refine ⟨?_, ?_, ?_⟩
  · intro version
    constructor
    · intro hok
      rcases recvVersionString_cases stream keys with
        ⟨version', hok', hopens⟩ | ⟨error, consumed, herr, -⟩
      · obtain rfl : version' = version := by
          rw [hok'] at hok
          exact Outcome.ok.inj hok
        exact hopens
      · rw [herr] at hok
        cases hok
    · rintro ⟨hline, tail, htail⟩
      rw [run_of_opensWith keys hline htail.symm]
  · intro version tail hline hstream
    exact run_of_opensWith keys hline hstream
  · intro hnone
    rcases recvVersionString_cases stream keys with ⟨version, -, hopens⟩ | herr
    · exact absurd ⟨version, hopens⟩ hnone
    · exact herr

/-- A carriage return of its own belongs to the version. -/
theorem recvVersionString_grammar_sample :
    run recvVersionString newSessionKeys (utf8 "SSH-2.0-peer\r" ++ crlf ++ [0, 0]) =
      ⟨.ok "SSH-2.0-peer\r", newSessionKeys, [0, 0], []⟩ :=
  (recvVersionString_grammar _ newSessionKeys).2.1 "SSH-2.0-peer\r" [0, 0]
    ⟨by decide, by decide, by decide⟩ rfl

end SwiftSsh.VersionGrammar
