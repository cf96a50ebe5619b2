import PineCheck.Proofs.JsonRoundTrip
import PineCheck.Proofs.TextRoundTrip
/-!
# JSON files read back

A JSON file is written as UTF-8 and read as text, and reading text turns every carriage return
into a line feed. The JSON writer never writes a raw carriage return: line ends inside strings
are escaped, numbers and floats are digits and signs, and layouts break lines with line feeds
only. So the text read back from a written JSON file is the text written, and a plain value
decodes from it again.

`NoReturn` is the property of a text; it is closed under joining texts, and the lemmas below
give it for each piece the writer puts together, then for every value by the writer's own
mutual recursion.
-/

namespace PineCheck.Json

/-- A text with no carriage return, which reading it from a file leaves as it is. -/
def NoReturn (s : String) : Prop := '\r' ∉ s.toList

/-- Whether a text has no carriage return is decided by looking at its characters, so literal pieces
of JSON text close by `decide`. -/
instance (s : String) : Decidable (NoReturn s) :=
  inferInstanceAs (Decidable ('\r' ∉ s.toList))

/-- Two texts with no carriage return joined have none. -/
theorem NoReturn.append {a b : String} (ha : NoReturn a) (hb : NoReturn b) :
    NoReturn (a ++ b) := by
  simp only [NoReturn, String.toList_append, List.mem_append, not_or]
  exact ⟨ha, hb⟩

/-- Texts with no carriage return joined into one have none. -/
theorem NoReturn.join {ss : List String} (h : ∀ s ∈ ss, NoReturn s) :
    NoReturn (String.join ss) := by
  intro hmem
  rw [String.toList_join] at hmem
  obtain ⟨_, hl, hc⟩ := List.mem_flatten.1 hmem
  obtain ⟨s, hs, rfl⟩ := List.mem_map.1 hl
  exact h s hs hc

/-- A run of one character other than a carriage return, as an indent is, has none. -/
theorem noReturn_replicate (k : Nat) {c : Char} (hc : c ≠ '\r') :
    NoReturn (String.ofList (List.replicate k c)) := by
  intro h
  rw [String.toList_ofList] at h
  exact hc (List.eq_of_mem_replicate h).symm

/-! ## Numbers -/

/-- The characters of a number's digits in any base are digit characters. -/
theorem mem_toDigitsCore {b fuel n : Nat} {cs : List Char} {c : Char}
    (h : c ∈ Nat.toDigitsCore b fuel n cs) : c ∈ cs ∨ ∃ d : Nat, c = d.digitChar := by
  induction fuel generalizing n cs with
  | zero => exact .inl h
  | succ f ih =>
    rw [Nat.toDigitsCore] at h
    split at h
    · cases h with
      | head => exact .inr ⟨_, rfl⟩
      | tail _ h => exact .inl h
    · rcases ih h with h | h
      · cases h with
        | head => exact .inr ⟨_, rfl⟩
        | tail _ h => exact .inl h
      · exact .inr h

/-- The digits of a number in any base have no carriage return. -/
theorem noReturn_toDigits (b n : Nat) : NoReturn (String.ofList (Nat.toDigits b n)) := by
  intro h
  rw [String.toList_ofList] at h
  rcases mem_toDigitsCore h with h | ⟨d, hd⟩
  · exact nomatch h
  · exact Nat.digitChar_ne '\r' (by decide) hd.symm

/-- A natural number written in decimal has no carriage return. -/
theorem noReturn_toString (n : Nat) : NoReturn (toString n) :=
  noReturn_toDigits 10 n

/-- An integer written in decimal, with its minus sign, has no carriage return. -/
theorem noReturn_toString_int (n : Int) : NoReturn (toString n) := by
  cases n with
  | ofNat m => exact noReturn_toString m
  | negSucc m => exact (show NoReturn "-" by decide).append (noReturn_toString (m + 1))

/-- The digits of a float's shortest form, written one after another, have no carriage return. -/
theorem noReturn_digits (ds : List Nat) : NoReturn (String.join (ds.map toString)) :=
  .join fun _ hs => by
    obtain ⟨d, -, rfl⟩ := List.mem_map.1 hs
    exact noReturn_toString d

/-- A float in positional notation has no carriage return: zeros, digits and a point. -/
theorem noReturn_positional (ds : List Nat) (point : Int) :
    NoReturn (Decimal.positional ds point) := by
  unfold Decimal.positional
  dsimp only
  split
  · exact ((show NoReturn "0." by decide).append (noReturn_replicate _ (by decide))).append
      (noReturn_digits ds)
  · split
    · exact ((noReturn_digits ds).append (noReturn_replicate _ (by decide))).append
        (show NoReturn ".0" by decide)
    · exact ((noReturn_digits _).append (show NoReturn "." by decide)).append (noReturn_digits _)

/-- A float in scientific notation has no carriage return: digits, a point, an `e`, a sign and the
exponent's digits. -/
theorem noReturn_scientific (ds : List Nat) (exp : Int) :
    NoReturn (Decimal.scientific ds exp) := by
  unfold Decimal.scientific
  dsimp only
  -- the digits, the exponent's sign and its digits, joined around an "e"
  refine ((NoReturn.append ?body (show NoReturn "e" by decide)).append ?sign).append ?exp
  case body =>
    split
    · decide
    · exact noReturn_toString _
    · exact ((noReturn_toString _).append (show NoReturn "." by decide)).append
        (noReturn_digits _)
  case sign => split <;> decide
  case exp =>
    split
    · exact (show NoReturn "0" by decide).append (noReturn_toString _)
    · exact noReturn_toString _

/-- The text of a float has no carriage return, in each of the writer's forms: the names of the
special values, zero, positional and scientific notation. -/
theorem noReturn_render (x : Float) : NoReturn (floatText.render x) := by
  unfold Decimal.FloatText.render
  dsimp only
  split
  · decide
  split
  · split <;> decide
  have hsign : ∀ b : Bool, NoReturn (if b = true then "-" else "") := by
    intro b
    split <;> decide
  split
  · exact (hsign _).append (show NoReturn "0.0" by decide)
  · split
    · exact (hsign _).append (noReturn_positional _ _)
    · exact (hsign _).append (noReturn_scientific _ _)

/-! ## Strings -/

/-- Four hexadecimal digits, padded with zeros, have no carriage return. -/
theorem noReturn_hexDigits4 (n : Nat) : NoReturn (hexDigits4 n) := by
  intro h
  simp only [hexDigits4, String.toList_ofList, List.mem_append] at h
  rcases h with h | h
  · exact nomatch List.eq_of_mem_replicate h
  · exact noReturn_toDigits 16 n (by rwa [String.toList_ofList])

/-- A `\u` escape, or the pair of escapes of a surrogate pair, has no carriage return. -/
theorem noReturn_escapeCodePoint (n : Nat) : NoReturn (escapeCodePoint n) := by
  unfold escapeCodePoint
  split
  · exact (show NoReturn "\\u" by decide).append (noReturn_hexDigits4 _)
  · exact (((show NoReturn "\\u" by decide).append (noReturn_hexDigits4 _)).append
      (show NoReturn "\\u" by decide)).append (noReturn_hexDigits4 _)

/-- A carriage return is escaped as `\r`, and every other character is written as itself or
as an escape. -/
theorem noReturn_escapeChar (asciiOnly : Bool) (c : Char) :
    NoReturn (escapeChar asciiOnly c) := by
  unfold escapeChar
  split
  case h_8 _ _ _ hcr _ _ _ =>
    split
    · exact (show NoReturn "\\u" by decide).append (noReturn_hexDigits4 _)
    · split
      · exact noReturn_escapeCodePoint _
      · split
        · exact noReturn_escapeCodePoint _
        · intro h
          simp [Char.toString_eq_singleton] at h
          exact hcr h.symm
  all_goals decide

/-- A quoted text has no carriage return: every character in it is written as itself or as an escape
that has none. -/
theorem noReturn_quote (asciiOnly : Bool) (s : String) : NoReturn (quote asciiOnly s) :=
  ((show NoReturn "\"" by decide).append
    (.join fun _ ht => by
      obtain ⟨c, -, rfl⟩ := List.mem_map.1 ht
      exact noReturn_escapeChar asciiOnly c)).append (show NoReturn "\"" by decide)

/-! ## Values -/

/-- A layout's line break is a line feed and an indent, or nothing. -/
theorem noReturn_newline (L : Layout) (level : Nat) : NoReturn (L.newline level) := by
  unfold Layout.newline
  split
  · decide
  · exact (show NoReturn "\n" by decide).append (noReturn_replicate _ (by decide))

/-- A layout's separator is a comma, with a blank or without. -/
theorem noReturn_comma (L : Layout) : NoReturn L.comma := by
  unfold Layout.comma
  split <;> decide

mutual

/-- The JSON writer never writes a carriage return. -/
theorem noReturn_encodeAt (L : Layout) (level : Nat) :
    (v : Value) → NoReturn (encodeAt L level v)
  | .null => by
    rw [encodeAt]
    decide
  | .bool b => by
    rw [encodeAt]
    cases b <;> decide
  | .int n => noReturn_toString_int n
  | .float x => noReturn_render x
  | .str s => noReturn_quote _ s
  | .list [] => by
    rw [encodeAt]
    decide
  | .list (v :: vs) => by
    rw [encodeAt]
    exact (((((show NoReturn "[" by decide).append (noReturn_newline L _)).append
      (noReturn_encodeAt L (level + 1) v)).append (noReturn_encodeItems L (level + 1) vs)).append
      (noReturn_newline L _)).append (show NoReturn "]" by decide)
  | .object [] => by
    rw [encodeAt]
    decide
  | .object ((k, v) :: rest) => by
    rw [encodeAt]
    exact (((((((show NoReturn "\x7b" by decide).append (noReturn_newline L _)).append
      (noReturn_quote _ _)).append (show NoReturn ": " by decide)).append
      (noReturn_encodeAt L (level + 1) v)).append
      (noReturn_encodeEntries L (level + 1) rest)).append (noReturn_newline L _)).append
      (show NoReturn "\x7d" by decide)
  | .bytes _ => noReturn_quote _ _
  | .date _ => noReturn_quote _ _
  | .dateTime _ => noReturn_quote _ _

/-- The items after the first of a written list have no carriage return. -/
theorem noReturn_encodeItems (L : Layout) (level : Nat) :
    (vs : List Value) → NoReturn (encodeItems L level vs)
  | [] => by
    rw [encodeItems]
    decide
  | v :: vs => by
    rw [encodeItems]
    exact (((noReturn_comma L).append (noReturn_newline L _)).append
      (noReturn_encodeAt L level v)).append (noReturn_encodeItems L level vs)

/-- The entries after the first of a written mapping have no carriage return. -/
theorem noReturn_encodeEntries (L : Layout) (level : Nat) :
    (es : List (Value × Value)) → NoReturn (encodeEntries L level es)
  | [] => by
    rw [encodeEntries]
    decide
  | (k, v) :: rest => by
    rw [encodeEntries]
    exact (((((noReturn_comma L).append (noReturn_newline L _)).append
      (noReturn_quote _ _)).append (show NoReturn ": " by decide)).append
      (noReturn_encodeAt L level v)).append (noReturn_encodeEntries L level rest)

end

/-- A file that holds the UTF-8 bytes of a plain value's JSON text, followed by space that
holds no carriage return, reads back as that text, and the text decodes to the value. -/
theorem readText_encode {w : Workspace} {p : RelPath} {n : Nat} {v : Value} (hv : Plain n v)
    (hn : n ≤ maxDepth) (L : Layout) {trail : String}
    (hsp : ∀ c ∈ trail.toList, isSpace c = true) (hcr : NoReturn trail)
    (hfile : w.readFile p = .ok (Utf8.encodeUtf8 (encode L v ++ trail))) :
    w.readText p = .ok (encode L v ++ trail) ∧ decodeFile (encode L v ++ trail) = .ok v :=
  ⟨Workspace.readText_of_readFile hfile ((noReturn_encodeAt L 0 v).append hcr),
    decodeFile_encode hv hn L hsp⟩

end PineCheck.Json
