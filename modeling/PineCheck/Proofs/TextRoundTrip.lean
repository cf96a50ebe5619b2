import PineCheck.Workspace.Text
/-!
# Text files read back

What is written as UTF-8 reads back as the same text: each character's bytes are one
well-formed sequence for the decoder, which takes them back to the character. The decoder
works on byte values, so the lemmas below first restate its byte tables by `toNat` and then
take the encoder's four cases one at a time. Reading a text file then changes nothing more
when the text has no carriage return, whose line ends are already line feeds.
-/

namespace PineCheck.Utf8

/-- A number below 256 is a byte with that value. -/
theorem toNat_toUInt8 {k : Nat} (h : k < 256) : k.toUInt8.toNat = k := by
  simp [Nat.mod_eq_of_lt h]

/-- The lengths of sequences by the value of their first byte. -/
theorem sequenceLength_eq (b : UInt8) : sequenceLength b =
    if b.toNat < 0x80 then some 1 else if b.toNat < 0xC2 then none
    else if b.toNat < 0xE0 then some 2 else if b.toNat < 0xF0 then some 3
    else if b.toNat < 0xF5 then some 4 else none := by
  simp [sequenceLength, UInt8.lt_iff_toNat_lt]

/-- The second bytes allowed after a first byte, by their values. -/
theorem secondOk_iff (a b : UInt8) :
    ((secondRange a).1 ≤ b && b ≤ (secondRange a).2) = true ↔
      (if a.toNat = 0xE0 then 0xA0 ≤ b.toNat ∧ b.toNat ≤ 0xBF
       else if a.toNat = 0xED then 0x80 ≤ b.toNat ∧ b.toNat ≤ 0x9F
       else if a.toNat = 0xF0 then 0x90 ≤ b.toNat ∧ b.toNat ≤ 0xBF
       else if a.toNat = 0xF4 then 0x80 ≤ b.toNat ∧ b.toNat ≤ 0x8F
       else 0x80 ≤ b.toNat ∧ b.toNat ≤ 0xBF) := by
  unfold secondRange
  by_cases h1 : a.toNat = 0xE0
  · simp [h1, ← UInt8.toNat_inj, UInt8.le_iff_toNat_le]
  by_cases h2 : a.toNat = 0xED
  · simp [h2, ← UInt8.toNat_inj, UInt8.le_iff_toNat_le]
  by_cases h3 : a.toNat = 0xF0
  · simp [h3, ← UInt8.toNat_inj, UInt8.le_iff_toNat_le]
  by_cases h4 : a.toNat = 0xF4
  · simp [h4, ← UInt8.toNat_inj, UInt8.le_iff_toNat_le]
  simp [h1, h2, h3, h4, ← UInt8.toNat_inj, UInt8.le_iff_toNat_le]

/-- A continuation byte is one from 0x80 to 0xBF. -/
theorem isContinuation_iff (b : UInt8) :
    isContinuation b = true ↔ 0x80 ≤ b.toNat ∧ b.toNat ≤ 0xBF := by
  simp [isContinuation, UInt8.le_iff_toNat_le]

/-- After an allowed second byte, the good bytes run on as far as the continuation bytes. -/
theorem goodTail_cons {a b : UInt8}
    (h : ((secondRange a).1 ≤ b && b ≤ (secondRange a).2) = true) (rest : List UInt8) :
    goodTail a (b :: rest) = 1 + (rest.takeWhile isContinuation).length := by
  rw [goodTail]
  dsimp only
  rw [if_pos h]

/-- A whole well-formed sequence is taken as one character, and decoding goes on after it. -/
theorem decodeFrom_sequence {b : UInt8} {n : Nat} {tail : List UInt8}
    (hlen : sequenceLength b = some n) (htail : tail.length = n - 1)
    (hgood : goodTail b tail = n - 1) (rest : List UInt8) (pos : Nat) (acc : List Char) :
    decodeFrom (b :: (tail ++ rest)) pos acc =
      decodeFrom rest (pos + n) (Char.ofNat (codePoint (b :: tail)) :: acc) := by
  rw [decodeFrom]
  simp only [hlen, List.take_left' htail, List.drop_left' htail, hgood, Nat.min_self,
    beq_self_eq_true, if_true]

/-- The same, for the bytes of a known character. -/
theorem decodeFrom_char {c : Char} {b : UInt8} {tail : List UInt8}
    (hlen : sequenceLength b = some (tail.length + 1)) (hgood : goodTail b tail = tail.length)
    (hcode : codePoint (b :: tail) = c.toNat) (rest : List UInt8) (pos : Nat)
    (acc : List Char) :
    decodeFrom ((b :: tail) ++ rest) pos acc =
      decodeFrom rest (pos + (b :: tail).length) (c :: acc) := by
  rw [List.cons_append, decodeFrom_sequence hlen rfl hgood, hcode, Char.ofNat_toNat]
  rfl

/-- The bytes of one character decode back to it. Each of the encoder's four cases gives
the first byte's length class, the second byte's allowed range (where the code point's
range rules out the overlong forms and the surrogates) and the code point. -/
theorem decodeFrom_encodeChar (c : Char) (rest : List UInt8) (pos : Nat) (acc : List Char) :
    decodeFrom (encodeChar c ++ rest) pos acc =
      decodeFrom rest (pos + (encodeChar c).length) (c :: acc) := by
  have hvalid : c.toNat < 0xd800 ∨ (0xdfff < c.toNat ∧ c.toNat < 0x110000) := c.valid
  unfold encodeChar
  dsimp only
  split
  next h1 =>
    have ha := toNat_toUInt8 (show c.toNat < 256 by omega)
    refine decodeFrom_char ?_ rfl (by rw [codePoint, ha]) rest pos acc
    rw [sequenceLength_eq, ha, if_pos h1]
    rfl
  next h1 =>
    split
    next h2 =>
      have ha := toNat_toUInt8 (show 0xC0 + c.toNat / 64 < 256 by omega)
      have hb := toNat_toUInt8 (show 0x80 + c.toNat % 64 < 256 by omega)
      have hok := (secondOk_iff (0xC0 + c.toNat / 64).toUInt8
          (0x80 + c.toNat % 64).toUInt8).2 <| by
        rw [ha, hb]
        repeat' split
        all_goals omega
      refine decodeFrom_char ?_ ?_ (by rw [codePoint, ha, hb]; omega) rest pos acc
      · rw [sequenceLength_eq, ha, if_neg (by omega), if_neg (by omega), if_pos (by omega)]
        rfl
      · rw [goodTail_cons hok]
        rfl
    next h2 =>
      split
      next h3 =>
        have ha := toNat_toUInt8 (show 0xE0 + c.toNat / 4096 < 256 by omega)
        have hb := toNat_toUInt8 (show 0x80 + c.toNat / 64 % 64 < 256 by omega)
        have hd := toNat_toUInt8 (show 0x80 + c.toNat % 64 < 256 by omega)
        -- after 0xED the second byte stays below 0xA0: no surrogate is written
        have hok := (secondOk_iff (0xE0 + c.toNat / 4096).toUInt8
            (0x80 + c.toNat / 64 % 64).toUInt8).2 <| by
          rw [ha, hb]
          repeat' split
          all_goals omega
        refine decodeFrom_char ?_ ?_ (by rw [codePoint, ha, hb, hd]; omega) rest pos acc
        · rw [sequenceLength_eq, ha, if_neg (by omega), if_neg (by omega), if_neg (by omega),
            if_pos (by omega)]
          rfl
        · rw [goodTail_cons hok,
            List.takeWhile_cons_of_pos ((isContinuation_iff _).2 (by omega))]
          rfl
      next h3 =>
        have ha := toNat_toUInt8 (show 0xF0 + c.toNat / 262144 < 256 by omega)
        have hb := toNat_toUInt8 (show 0x80 + c.toNat / 4096 % 64 < 256 by omega)
        have hd := toNat_toUInt8 (show 0x80 + c.toNat / 64 % 64 < 256 by omega)
        have he := toNat_toUInt8 (show 0x80 + c.toNat % 64 < 256 by omega)
        -- after 0xF4 the second byte stays below 0x90: no code point past 0x10FFFF
        have hok := (secondOk_iff (0xF0 + c.toNat / 262144).toUInt8
            (0x80 + c.toNat / 4096 % 64).toUInt8).2 <| by
          rw [ha, hb]
          repeat' split
          all_goals omega
        refine decodeFrom_char ?_ ?_ (by rw [codePoint, ha, hb, hd, he]; omega) rest pos acc
        · rw [sequenceLength_eq, ha, if_neg (by omega), if_neg (by omega), if_neg (by omega),
            if_neg (by omega), if_pos (by omega)]
          rfl
        · rw [goodTail_cons hok,
            List.takeWhile_cons_of_pos ((isContinuation_iff _).2 (by omega)),
            List.takeWhile_cons_of_pos ((isContinuation_iff _).2 (by omega))]
          rfl

/-- The bytes of a list of characters decode to them, after what was decoded before, by one step per
character. -/
theorem decodeFrom_flatMap (cs : List Char) : ∀ (pos : Nat) (acc : List Char),
    decodeFrom (cs.flatMap encodeChar) pos acc = .ok (String.ofList (acc.reverse ++ cs)) := by
  induction cs with
  | nil =>
    intro pos acc
    rw [List.flatMap_nil, decodeFrom, List.append_nil]
  | cons c cs ih =>
    intro pos acc
    rw [List.flatMap_cons, decodeFrom_encodeChar, ih]
    simp

/-- UTF-8 bytes of a text decode back to the text. -/
theorem decodeUtf8_encodeUtf8 (s : String) : decodeUtf8 (encodeUtf8 s) = .ok s := by
  rw [decodeUtf8, encodeUtf8, decodeFrom_flatMap]
  simp

end PineCheck.Utf8

namespace PineCheck

/-- A text with no carriage return has only line feeds for line ends, and reading leaves it as it
is. -/
theorem unifyLineEnds_of_not_mem {cs : List Char} (h : '\r' ∉ cs) : unifyLineEnds cs = cs := by
  induction cs with
  | nil => rfl
  | cons c cs ih =>
    have hc : c ≠ '\r' := fun hc => h (hc ▸ List.mem_cons_self)
    rw [unifyLineEnds.eq_3 c cs (fun rest => by simp [hc]) (by simp [hc]),
      ih (fun hr => h (List.mem_cons_of_mem _ hr))]

/-- A file that holds the UTF-8 bytes of a text with no carriage return reads as the text. -/
theorem Workspace.readText_of_readFile {w : Workspace} {p : RelPath} {s : String}
    (h : w.readFile p = .ok (Utf8.encodeUtf8 s)) (hcr : '\r' ∉ s.toList) :
    w.readText p = .ok s := by
  rw [Workspace.readText, h]
  simp only [Utf8.decodeUtf8_encodeUtf8, unifyLineEnds_of_not_mem hcr, String.ofList_toList]

end PineCheck
