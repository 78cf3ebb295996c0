import SwiftSsh.SftpPaths

namespace SwiftSsh.LossyText

open SwiftSsh.ByteWords
open SwiftSsh.WireBuffer
open SwiftSsh.SftpPaths

theorem utf8_eq_flatMap (s : String) : utf8 s = s.toList.flatMap String.utf8EncodeChar := by
  have hencode : s.toUTF8 = s.toList.utf8Encode := by
    nth_rewrite 1 [← @String.ofList_toList s]
    rfl
  rw [utf8, hencode, List.utf8Encode]
  simp

theorem utf8_ofList (chars : List Char) :
    utf8 (String.ofList chars) = chars.flatMap String.utf8EncodeChar := by
  rw [utf8_eq_flatMap, String.toList_ofList]

/-- Bytes that are the text of a string. -/
def IsText (bytes : Bytes) : Prop :=
  ∃ s, utf8 s = bytes

theorem IsText.append {first second : Bytes} (hfirst : IsText first) (hsecond : IsText second) :
    IsText (first ++ second) := by
  obtain ⟨s, rfl⟩ := hfirst
  obtain ⟨t, rfl⟩ := hsecond
  exact ⟨s ++ t, utf8_append s t⟩

theorem utf8_fromUtf8Lossy {bytes : Bytes} (htext : IsText bytes) :
    utf8 (fromUtf8Lossy bytes) = bytes := by
  obtain ⟨s, rfl⟩ := htext
  rw [fromUtf8Lossy, fromUtf8_utf8]

section Characters

theorem exists_char_of_isValidChar {value : Nat} (hvalid : value.isValidChar) :
    ∃ c : Char, c.val.toNat = value :=
  ⟨Char.ofNatAux value hvalid, rfl⟩

theorem ofNat_eq_of_toNat {n : Nat} {byte : UInt8} (heq : n % 256 = byte.toNat) :
    UInt8.ofNat n = byte := by
  rw [← UInt8.toNat_inj, UInt8.toNat_ofNat']
  exact heq

theorem utf8EncodeChar_cases (c : Char) :
    (∃ byte, String.utf8EncodeChar c = [byte]) ∨
      ∀ byte ∈ String.utf8EncodeChar c, 128 ≤ byte.toNat := by
  rw [String.utf8EncodeChar]
  split
  · exact Or.inl ⟨_, rfl⟩
  · right
    split
    · simp only [List.mem_cons, List.not_mem_nil, or_false]
      rintro byte (rfl | rfl) <;> rw [UInt8.toNat_ofNat'] <;> omega
    · split
      · simp only [List.mem_cons, List.not_mem_nil, or_false]
        rintro byte (rfl | rfl | rfl) <;> rw [UInt8.toNat_ofNat'] <;> omega
      · simp only [List.mem_cons, List.not_mem_nil, or_false]
        rintro byte (rfl | rfl | rfl | rfl) <;> rw [UInt8.toNat_ofNat'] <;> omega

theorem exists_char_two {a b : UInt8} (ha : 0xC2 ≤ a.toNat ∧ a.toNat ≤ 0xDF)
    (hb : 0x80 ≤ b.toNat ∧ b.toNat ≤ 0xBF) : ∃ c, String.utf8EncodeChar c = [a, b] := by
  obtain ⟨c, hc⟩ := @exists_char_of_isValidChar
    ((a.toNat - 0xC0) * 64 + (b.toNat - 0x80)) (Or.inl (by omega))
  refine ⟨c, ?_⟩
  rw [String.utf8EncodeChar, hc, if_neg (by omega), if_pos (by omega)]
  simp only [List.cons.injEq, and_true]
  refine ⟨ofNat_eq_of_toNat ?_, ofNat_eq_of_toNat ?_⟩ <;> omega

theorem exists_char_three {a b d : UInt8} (ha : 0xE0 ≤ a.toNat ∧ a.toNat ≤ 0xEF)
    (hb : 0x80 ≤ b.toNat ∧ b.toNat ≤ 0xBF) (hd : 0x80 ≤ d.toNat ∧ d.toNat ≤ 0xBF)
    (hlow : a.toNat = 0xE0 → 0xA0 ≤ b.toNat) (hhigh : a.toNat = 0xED → b.toNat ≤ 0x9F) :
    ∃ c, String.utf8EncodeChar c = [a, b, d] := by
  obtain ⟨c, hc⟩ := @exists_char_of_isValidChar
    ((a.toNat - 0xE0) * 4096 + (b.toNat - 0x80) * 64 + (d.toNat - 0x80)) (by
      rw [Nat.isValidChar]
      omega)
  refine ⟨c, ?_⟩
  rw [String.utf8EncodeChar, hc, if_neg (by omega), if_neg (by omega), if_pos (by omega)]
  simp only [List.cons.injEq, and_true]
  refine ⟨ofNat_eq_of_toNat ?_, ofNat_eq_of_toNat ?_, ofNat_eq_of_toNat ?_⟩ <;> omega

theorem exists_char_four {a b d e : UInt8} (ha : 0xF0 ≤ a.toNat ∧ a.toNat ≤ 0xF4)
    (hb : 0x80 ≤ b.toNat ∧ b.toNat ≤ 0xBF) (hd : 0x80 ≤ d.toNat ∧ d.toNat ≤ 0xBF)
    (he : 0x80 ≤ e.toNat ∧ e.toNat ≤ 0xBF) (hlow : a.toNat = 0xF0 → 0x90 ≤ b.toNat)
    (hhigh : a.toNat = 0xF4 → b.toNat ≤ 0x8F) :
    ∃ c, String.utf8EncodeChar c = [a, b, d, e] := by
  obtain ⟨c, hc⟩ := @exists_char_of_isValidChar ((a.toNat - 0xF0) * 262144 +
      (b.toNat - 0x80) * 4096 + (d.toNat - 0x80) * 64 + (e.toNat - 0x80)) (by
    rw [Nat.isValidChar]
    omega)
  refine ⟨c, ?_⟩
  rw [String.utf8EncodeChar, hc, if_neg (by omega), if_neg (by omega), if_neg (by omega)]
  simp only [List.cons.injEq, and_true]
  refine ⟨ofNat_eq_of_toNat ?_, ofNat_eq_of_toNat ?_, ofNat_eq_of_toNat ?_,
    ofNat_eq_of_toNat ?_⟩ <;> omega

/-- A chunk that is taken from bytes: a character, or bytes that start none. -/
inductive Takes : Bytes → Bool × Nat → Prop where
  | character {chunk : Bytes} (c : Char) (hchunk : String.utf8EncodeChar c = chunk)
      (more : Bytes) : Takes (chunk ++ more) (true, chunk.length)
  | invalid {chunk : Bytes} (hne : chunk ≠ []) (hhigh : ∀ byte ∈ chunk, 128 ≤ byte.toNat)
      (more : Bytes) : Takes (chunk ++ more) (false, chunk.length)

theorem cons_of_getD {low high : UInt8} {rest : Bytes} (hlow : 128 ≤ low.toNat)
    (hrange : ¬(!(low ≤ rest.getD 0 0 && rest.getD 0 0 ≤ high)) = true) :
    ∃ byte more, rest = byte :: more ∧ low.toNat ≤ byte.toNat ∧ byte.toNat ≤ high.toNat := by
  rw [Bool.not_eq_true', Bool.not_eq_false, Bool.and_eq_true, decide_eq_true_iff,
    decide_eq_true_iff] at hrange
  cases rest with
  | nil =>
      have hzero : low.toNat ≤ 0 := hrange.1
      omega
  | cons byte more => exact ⟨byte, more, rfl, hrange.1, hrange.2⟩

theorem takes_one {a : UInt8} (rest : Bytes) (ha : a.toNat ≤ 0x7F) :
    Takes (a :: rest) (true, 1) := by
  obtain ⟨c, hc⟩ := @exists_char_of_isValidChar a.toNat (Or.inl (by omega))
  refine @Takes.character [a] c ?_ rest
  rw [String.utf8EncodeChar, hc, if_pos ha, UInt8.ofNat_toNat]

theorem takes_two {a : UInt8} (rest : Bytes) (ha : 0xC2 ≤ a.toNat ∧ a.toNat ≤ 0xDF) :
    Takes (a :: rest) (0x80 ≤ rest.getD 0 0 && rest.getD 0 0 ≤ 0xBF,
      if 0x80 ≤ rest.getD 0 0 && rest.getD 0 0 ≤ 0xBF then 2 else 1) := by
  have ha128 : 128 ≤ a.toNat := by omega
  cases htail : (0x80 ≤ rest.getD 0 0 && rest.getD 0 0 ≤ (0xBF : UInt8) : Bool) with
  | false => exact @Takes.invalid [a] (List.cons_ne_nil _ _) (by simp [ha128]) rest
  | true =>
      obtain ⟨b, more, rfl, hb⟩ := @cons_of_getD 0x80 0xBF rest (by decide) (by rw [htail]; decide)
      obtain ⟨c, hc⟩ := exists_char_two ha hb
      exact .character c hc more

theorem takes_three {a low high : UInt8} (rest : Bytes) (ha : 0xE0 ≤ a.toNat ∧ a.toNat ≤ 0xEF)
    (hlow : 0x80 ≤ low.toNat) (hhigh : high.toNat ≤ 0xBF)
    (hshort : a.toNat = 0xE0 → 0xA0 ≤ low.toNat)
    (hsurrogate : a.toNat = 0xED → high.toNat ≤ 0x9F) :
    Takes (a :: rest)
      (if !(low ≤ rest.getD 0 0 && rest.getD 0 0 ≤ high) then (false, 1)
        else if !(0x80 ≤ rest.getD 1 0 && rest.getD 1 0 ≤ 0xBF) then (false, 2)
        else (true, 3)) := by
  have ha128 : 128 ≤ a.toNat := by omega
  split
  · exact @Takes.invalid [a] (List.cons_ne_nil _ _) (by simp [ha128]) rest
  · rename_i hsecond
    obtain ⟨b, more, rfl, hb⟩ := cons_of_getD hlow hsecond
    have hb128 : 128 ≤ b.toNat := by omega
    split
    · exact @Takes.invalid [a, b] (List.cons_ne_nil _ _) (by simp [ha128, hb128]) more
    · rename_i hthird
      obtain ⟨d, more, rfl, hd⟩ := @cons_of_getD _ _ more (by decide) hthird
      obtain ⟨c, hc⟩ := @exists_char_three a b d ha (by omega) hd (by omega) (by omega)
      exact .character c hc more

theorem takes_four {a low high : UInt8} (rest : Bytes) (ha : 0xF0 ≤ a.toNat ∧ a.toNat ≤ 0xF4)
    (hlow : 0x80 ≤ low.toNat) (hhigh : high.toNat ≤ 0xBF)
    (hshort : a.toNat = 0xF0 → 0x90 ≤ low.toNat) (hlong : a.toNat = 0xF4 → high.toNat ≤ 0x8F) :
    Takes (a :: rest)
      (if !(low ≤ rest.getD 0 0 && rest.getD 0 0 ≤ high) then (false, 1)
        else if !(0x80 ≤ rest.getD 1 0 && rest.getD 1 0 ≤ 0xBF) then (false, 2)
        else if !(0x80 ≤ rest.getD 2 0 && rest.getD 2 0 ≤ 0xBF) then (false, 3)
        else (true, 4)) := by
  have ha128 : 128 ≤ a.toNat := by omega
  split
  · exact @Takes.invalid [a] (List.cons_ne_nil _ _) (by simp [ha128]) rest
  · rename_i hsecond
    obtain ⟨b, more, rfl, hb⟩ := cons_of_getD hlow hsecond
    have hb128 : 128 ≤ b.toNat := by omega
    split
    · exact @Takes.invalid [a, b] (List.cons_ne_nil _ _) (by simp [ha128, hb128]) more
    · rename_i hthird
      obtain ⟨d, more, rfl, hd⟩ := @cons_of_getD _ _ more (by decide) hthird
      have hd128 : 128 ≤ d.toNat := hd.1
      split
      · exact @Takes.invalid [a, b, d] (List.cons_ne_nil _ _) (by simp [ha128, hb128, hd128]) more
      · rename_i hfourth
        obtain ⟨e, more, rfl, he⟩ := @cons_of_getD _ _ more (by decide) hfourth
        obtain ⟨c, hc⟩ := @exists_char_four a b d e ha (by omega) hd he (by omega) (by omega)
        exact .character c hc more

theorem range_iff {low high byte : UInt8} :
    (low ≤ byte && byte ≤ high) = true ↔ low.toNat ≤ byte.toNat ∧ byte.toNat ≤ high.toNat := by
  rw [Bool.and_eq_true, decide_eq_true_iff, decide_eq_true_iff, UInt8.le_iff_toNat_le,
    UInt8.le_iff_toNat_le]

theorem takes_utf8Step (a : UInt8) (rest : Bytes) : Takes (a :: rest) (utf8Step (a :: rest)) := by
  rw [utf8Step]
  dsimp only
  split
  · rename_i hone
    exact takes_one rest hone
  · rename_i hone
    have hascii : ¬a.toNat ≤ 127 := hone
    split
    · rename_i htwo
      exact takes_two rest (range_iff.mp htwo)
    · split
      · rename_i hthree
        apply takes_three rest (range_iff.mp hthree)
        · split <;> decide
        · split <;> decide
        · intro heq
          rw [if_pos (UInt8.toNat_inj.mp heq)]
          decide
        · intro heq
          rw [if_pos (UInt8.toNat_inj.mp heq)]
          decide
      · split
        · rename_i hfour
          apply takes_four rest (range_iff.mp hfour)
          · split <;> decide
          · split <;> decide
          · intro heq
            rw [if_pos (UInt8.toNat_inj.mp heq)]
            decide
          · intro heq
            rw [if_pos (UInt8.toNat_inj.mp heq)]
            decide
        · refine @Takes.invalid [a] (List.cons_ne_nil _ _) ?_ rest
          rw [List.forall_mem_singleton]
          omega

end Characters

section Parts

variable {bytes out : Bytes}

theorem splitOn_append_of_notMem {chunk : Bytes} (hnone : separator ∉ chunk) (rest : Bytes) :
    (chunk ++ rest).splitOn separator =
      (rest.splitOn separator).modifyHead (chunk ++ ·) := by
  induction chunk with
  | nil =>
      exact (congrFun List.modifyHead_id _).symm
  | cons byte chunk ih =>
      rw [List.mem_cons, not_or] at hnone
      have hother : ¬(byte == separator) = true := by
        rw [beq_iff_eq]
        exact Ne.symm hnone.1
      rw [List.cons_append, List.splitOn_cons_eq_if_modifyHead, if_neg hother, ih hnone.2,
        List.modifyHead_modifyHead]
      rfl

theorem separator_notMem_of_mem_splitOn {text part : Bytes}
    (hmem : part ∈ text.splitOn separator) : separator ∉ part := by
  induction text generalizing part with
  | nil =>
      rw [List.splitOn_nil, List.mem_singleton] at hmem
      rw [hmem]
      exact List.not_mem_nil
  | cons byte text ih =>
      rw [List.splitOn_cons_eq_if_modifyHead] at hmem
      split at hmem
      · rcases List.mem_cons.mp hmem with rfl | hlater
        · exact List.not_mem_nil
        · exact ih hlater
      · rename_i hother
        obtain ⟨first, parts, hparts⟩ :=
          List.exists_cons_of_ne_nil (List.splitOn_ne_nil separator text)
        rw [hparts] at hmem ih
        rcases List.mem_cons.mp hmem with rfl | hlater
        · rw [List.mem_cons, not_or]
          exact ⟨fun heq => hother (beq_iff_eq.mpr heq.symm), ih List.mem_cons_self⟩
        · exact ih (List.mem_cons_of_mem _ hlater)

theorem isText_of_mem_splitOn {s : String} {part : Bytes}
    (hmem : part ∈ (utf8 s).splitOn separator) : IsText part := by
  rw [utf8_eq_flatMap] at hmem
  suffices hchars : ∃ chars : List Char, chars.flatMap String.utf8EncodeChar = part by
    obtain ⟨chars, rfl⟩ := hchars
    exact ⟨String.ofList chars, utf8_ofList chars⟩
  generalize s.toList = chars at hmem
  induction chars generalizing part with
  | nil =>
      rw [List.flatMap_nil, List.splitOn_nil, List.mem_singleton] at hmem
      exact ⟨[], hmem.symm⟩
  | cons c chars ih =>
      rw [List.flatMap_cons] at hmem
      by_cases hseparator : separator ∈ String.utf8EncodeChar c
      · have hchar : String.utf8EncodeChar c = [separator] := by
          rcases utf8EncodeChar_cases c with ⟨byte, hbyte⟩ | hhigh
          · rw [hbyte, List.mem_singleton] at hseparator
            rw [hbyte, hseparator]
          · exact absurd (hhigh separator hseparator) (by decide)
        rw [hchar, List.singleton_append, List.splitOn_cons_eq_if_modifyHead,
          if_pos (beq_self_eq_true separator)] at hmem
        rcases List.mem_cons.mp hmem with rfl | hlater
        · exact ⟨[], rfl⟩
        · exact ih hlater
      · rw [splitOn_append_of_notMem hseparator] at hmem
        obtain ⟨first, parts, hparts⟩ :=
          List.exists_cons_of_ne_nil (List.splitOn_ne_nil separator
            (chars.flatMap String.utf8EncodeChar))
        rw [hparts] at hmem ih
        rcases List.mem_cons.mp hmem with rfl | hlater
        · obtain ⟨front, rfl⟩ := ih List.mem_cons_self
          exact ⟨c :: front, rfl⟩
        · exact ih (List.mem_cons_of_mem _ hlater)

/-- The bytes of the replacement character. -/
def replacement : Bytes :=
  [0xEF, 0xBF, 0xBD]

/-- Bytes with replacement characters for some sequences without ASCII bytes. -/
inductive Blurred : Bytes → Bytes → Prop where
  | nil : Blurred [] []
  | keep (byte : UInt8) {bytes out : Bytes} (hrest : Blurred bytes out) :
      Blurred (byte :: bytes) (byte :: out)
  | replace {chunk bytes out : Bytes} (hne : chunk ≠ [])
      (hhigh : ∀ byte ∈ chunk, 128 ≤ byte.toNat) (hrest : Blurred bytes out) :
      Blurred (chunk ++ bytes) (replacement ++ out)

theorem Blurred.append (front : Bytes) (hrest : Blurred bytes out) :
    Blurred (front ++ bytes) (front ++ out) := by
  induction front with
  | nil => exact hrest
  | cons byte front ih => exact .keep byte ih

theorem Blurred.refl (bytes : Bytes) : Blurred bytes bytes := by
  have happend := Blurred.nil.append bytes
  rwa [List.append_nil] at happend

theorem lossyLoop_cons (rounds : Nat) (byte : UInt8) (rest : Bytes) :
    lossyLoop (rounds + 1) (byte :: rest) =
      (if (utf8Step (byte :: rest)).1 then
        (fromUtf8 ((byte :: rest).take (utf8Step (byte :: rest)).2)).getD "" else "\uFFFD") ++
        lossyLoop rounds ((byte :: rest).drop (utf8Step (byte :: rest)).2) :=
  rfl

theorem utf8_getD_fromUtf8 {chunk : Bytes} (htext : IsText chunk) :
    utf8 ((fromUtf8 chunk).getD "") = chunk := by
  obtain ⟨s, rfl⟩ := htext
  rw [fromUtf8_utf8, Option.getD_some]

/-- One round of the loop: the rest is shorter, and what is put out for the chunk
that was taken blurs it. -/
theorem blurred_of_takes {taken : Bool × Nat} (htakes : Takes bytes taken)
    (hrest : Blurred (bytes.drop taken.2) out) :
    Blurred bytes (utf8 (if taken.1 then (fromUtf8 (bytes.take taken.2)).getD "" else "\uFFFD") ++
      out) := by
  cases htakes with
  | @character chunk c hchunk more =>
      have htext : IsText chunk := ⟨String.ofList [c], by
        rw [utf8_ofList, List.flatMap_singleton, hchunk]⟩
      rw [List.drop_left] at hrest
      rw [if_pos rfl, List.take_left, utf8_getD_fromUtf8 htext]
      exact hrest.append chunk
  | @invalid chunk hne hhigh more =>
      have hreplacement : utf8 "\uFFFD" = replacement := by
        decide +kernel
      rw [List.drop_left] at hrest
      rw [if_neg Bool.false_ne_true, hreplacement]
      exact .replace hne hhigh hrest

theorem length_drop_lt_of_takes {taken : Bool × Nat} (htakes : Takes bytes taken) :
    (bytes.drop taken.2).length < bytes.length := by
  cases htakes with
  | @character chunk c hchunk more =>
      have hpos : 0 < chunk.length := by
        rw [← hchunk, String.length_utf8EncodeChar]
        exact c.utf8Size_pos
      rw [List.drop_left, List.length_append]
      omega
  | @invalid chunk hne hhigh more =>
      have hpos := List.length_pos_iff.mpr hne
      rw [List.drop_left, List.length_append]
      omega

theorem blurred_lossyLoop {rounds : Nat} (hrounds : bytes.length ≤ rounds) :
    Blurred bytes (utf8 (lossyLoop rounds bytes)) := by
  induction rounds generalizing bytes with
  | zero =>
      rw [List.length_eq_zero_iff.mp (Nat.le_zero.mp hrounds)]
      exact .nil
  | succ rounds ih =>
      cases bytes with
      | nil => exact .nil
      | cons byte rest =>
          have htakes := takes_utf8Step byte rest
          have hshorter := length_drop_lt_of_takes htakes
          rw [lossyLoop_cons, utf8_append]
          exact blurred_of_takes htakes (ih (by omega))

theorem blurred_fromUtf8Lossy (bytes : Bytes) : Blurred bytes (utf8 (fromUtf8Lossy bytes)) := by
  rw [fromUtf8Lossy]
  split
  · rename_i s hsome
    rw [utf8_of_fromUtf8 hsome]
    exact .refl bytes
  · exact blurred_lossyLoop (Nat.le_refl _)

theorem eq_nil_of_blurred (hblurred : Blurred [] out) : out = [] := by
  generalize hbytes : ([] : Bytes) = bytes at hblurred
  cases hblurred with
  | nil => rfl
  | keep byte hrest => cases hbytes
  | replace hne hhigh hrest => exact absurd (List.append_eq_nil_iff.mp hbytes.symm).1 hne

theorem exists_blurred_of_mem {parts blurred : List Bytes}
    (hall : List.Forall₂ Blurred parts blurred) (hmem : out ∈ blurred) :
    ∃ part ∈ parts, Blurred part out := by
  induction hall with
  | nil => cases hmem
  | cons hpart hrest ih =>
      rcases List.mem_cons.mp hmem with rfl | hlater
      · exact ⟨_, List.mem_cons_self, hpart⟩
      · obtain ⟨part, hpart, hblurred⟩ := ih hlater
        exact ⟨part, List.mem_cons_of_mem _ hpart, hblurred⟩

theorem forall₂_modifyHead {f g : Bytes → Bytes} {first second : List Bytes}
    (hall : List.Forall₂ Blurred first second)
    (hhead : ∀ part blurred, Blurred part blurred → Blurred (f part) (g blurred)) :
    List.Forall₂ Blurred (first.modifyHead f) (second.modifyHead g) := by
  cases hall with
  | nil => exact .nil
  | cons hpart hrest => exact .cons (hhead _ _ hpart) hrest

theorem Blurred.parts (hblurred : Blurred bytes out) :
    List.Forall₂ Blurred (bytes.splitOn separator) (out.splitOn separator) := by
  induction hblurred with
  | nil => exact .cons .nil .nil
  | keep byte hrest ih =>
      rw [List.splitOn_cons_eq_if_modifyHead, List.splitOn_cons_eq_if_modifyHead]
      split
      · exact .cons .nil ih
      · exact forall₂_modifyHead ih fun part blurred hpart => .keep byte hpart
  | @replace chunk bytes out hne hhigh hrest ih =>
      have hchunk : separator ∉ chunk := fun hmem => absurd (hhigh separator hmem) (by decide)
      have hreplacement : separator ∉ replacement := by
        decide
      rw [splitOn_append_of_notMem hchunk, splitOn_append_of_notMem hreplacement]
      exact forall₂_modifyHead ih fun part blurred hpart => .replace hne hhigh hpart

end Parts

end SwiftSsh.LossyText
