import SwiftSsh.ReaderLaws
import SwiftSsh.WireBuffer

namespace SwiftSsh.WireGrammar

open SwiftSsh.ByteWords
open SwiftSsh.RustOutcome
open SwiftSsh.ReaderLaws
open SwiftSsh.WireTypes
open SwiftSsh.WireBuffer

theorem reads_cursorReadU32 (error : SshError) (n : UInt32) :
    Reads (cursorReadU32 error) (be32 n) n :=
  cursorReadU32_be32 error n

theorem reads_cursorReadU64 (error : SshError) (n : UInt64) :
    Reads (cursorReadU64 error) (be64 n) n :=
  cursorReadU64_be64 error n

theorem reads_readUtf8 {s : String} (hlength : (utf8 s).length ≤ maxPacketSize) :
    Reads readUtf8 (writeUtf8 s) s :=
  fun rest => readUtf8_writeUtf8 rest hlength

theorem accepts_cursorReadU32 (error : SshError) :
    Accepts (cursorReadU32 error) fun n bytes => bytes = be32 n := by
  intro input n rest hread
  unfold cursorReadU32 at hread
  split at hread
  · cases hread
    exact ⟨_, rfl, (be32_ofBe32 _ _ _ _).symm⟩
  · cases hread

theorem accepts_cursorReadU64 (error : SshError) :
    Accepts (cursorReadU64 error) fun n bytes => bytes = be64 n := by
  refine (accepts_cursorReadU32 error).bind fun high => ?_
  refine (accepts_cursorReadU32 error).bind fun low => ?_
  apply Accepts.pure
  rintro _ rfl _ rfl
  rw [be64_ofBe64, List.append_nil]

theorem accepts_cursorReadExact (error : SshError) (count : Nat) :
    Accepts (cursorReadExact error count) fun data bytes => bytes = data ∧ data.length = count := by
  intro input data rest hread
  rw [cursorReadExact] at hread
  split at hread
  · rename_i hle
    cases hread
    exact ⟨_, (List.take_append_drop count input).symm, rfl, List.length_take_of_le hle⟩
  · cases hread

theorem accepts_readString :
    Accepts readString fun data bytes =>
      bytes = writeString data ∧ data.length ≤ maxPacketSize := by
  refine (accepts_cursorReadU32 _).bind fun len => ?_
  split
  · exact Accepts.fail _
  · rename_i hshort
    refine (accepts_cursorReadExact _ _).mono ?_
    rintro data _ ⟨rfl, hlength⟩ _ rfl
    rw [writeString, hlength, UInt32.ofNat_toNat]
    exact ⟨rfl, Nat.le_of_not_lt hshort⟩

theorem accepts_readUtf8 : Accepts readUtf8 fun s bytes => bytes = writeUtf8 s := by
  refine accepts_readString.bind fun data => ?_
  split
  · rename_i s hsome
    apply Accepts.pure
    rintro _ ⟨rfl, -⟩
    rw [writeUtf8, utf8_of_fromUtf8 hsome, List.append_nil]
  · exact Accepts.fail _

/-- The names between the commas of a text; none in an empty text. -/
def splitNames (s : String) : List String :=
  if s.isEmpty then [] else (s.toList.splitOn ',').map String.ofList

theorem readNameList_eq : readNameList = readUtf8 >>= fun s => pure (splitNames s) := by
  rw [readNameList]
  congr 1
  funext s
  rw [splitNames]
  split <;> rfl

theorem toList_intercalate_names (names : List String) :
    (String.intercalate "," names).toList = [','].intercalate (names.map String.toList) :=
  String.toList_intercalate

/-- Splitting a text at its commas and joining the parts gives the text back. -/
theorem intercalate_splitNames (s : String) : String.intercalate "," (splitNames s) = s := by
  apply String.toList_inj.mp
  rw [toList_intercalate_names, splitNames]
  split
  · rename_i hempty
    rw [String.isEmpty_iff.mp hempty]
    rfl
  · have hmap : ((s.toList.splitOn ',').map String.ofList).map String.toList =
        s.toList.splitOn ',' := by
      simp
    rw [hmap, List.intercalate_splitOn]

theorem splitNames_intercalate {names : List String}
    (hcommas : ∀ name ∈ names, ',' ∉ name.toList) (hne : names ≠ [""]) :
    splitNames (String.intercalate "," names) = names := by
  by_cases hnil : names = []
  · rw [hnil]
    rfl
  · have hsplit : ((String.intercalate "," names).toList.splitOn ',') =
        names.map String.toList := by
      rw [toList_intercalate_names]
      apply List.splitOn_intercalate
      · intro chars hchars
        obtain ⟨name, hname, rfl⟩ := List.mem_map.mp hchars
        exact hcommas name hname
      · simpa using hnil
    rw [splitNames, if_neg, hsplit]
    · simp
    · intro hempty
      -- an empty text would have come from the single empty name
      rw [String.isEmpty_iff.mp hempty] at hsplit
      have hparts : [[]] = names.map String.toList := hsplit
      obtain ⟨name, rfl, hname⟩ := List.map_eq_singleton_iff.mp hparts.symm
      rw [String.toList_eq_nil_iff.mp hname] at hne
      exact hne rfl

/-- Name lists are read back as they were written, and whatever is read as a name list is
what its writer produces. -/
theorem name_list_codec :
    (∀ names tail, (∀ name ∈ names, ',' ∉ name.toList) → names ≠ [""] →
      (utf8 (String.intercalate "," names)).length ≤ maxPacketSize →
      readNameList (writeNameList names ++ tail) = .ok (names, tail)) ∧
    (∀ input names rest, readNameList input = .ok (names, rest) →
      input = writeNameList names ++ rest) := by
  constructor
  · intro names tail hcommas hne hlength
    have hreads := (reads_readUtf8 hlength).map splitNames
    rw [splitNames_intercalate hcommas hne, ← readNameList_eq] at hreads
    exact hreads tail
  · have haccepts : Accepts readNameList fun names bytes => bytes = writeNameList names := by
      rw [readNameList_eq]
      refine accepts_readUtf8.bind fun s => ?_
      apply Accepts.pure
      rintro _ rfl
      rw [writeNameList, intercalate_splitNames, List.append_nil]
    intro input names rest hread
    obtain ⟨bytes, hinput, rfl⟩ := haccepts input names rest hread
    exact hinput

theorem name_list_codec_sample :
    readNameList (writeNameList ["", "aes256-ctr", ""] ++ [9]) =
      .ok (["", "aes256-ctr", ""], [9]) :=
  name_list_codec.1 ["", "aes256-ctr", ""] [9] (by decide) (by decide) (by decide)

end SwiftSsh.WireGrammar
