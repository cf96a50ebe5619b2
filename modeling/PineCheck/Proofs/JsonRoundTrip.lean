import PineCheck.Value.Json.Decode
import PineCheck.Value.Json.Encode

namespace PineCheck.Json

/-- Whether a character may follow a token: the end, a separator, a closing bracket or
space. A number read from the text before it ends there. -/
def endsToken (rest : List Char) : Bool :=
  match rest with
  | [] => true
  | c :: _ => c == ',' || c == ']' || c == '}' || isSpace c

/-- A reading's result is what was read, what is left and the position reached; the lemmas
below compute the position two ways, and this is where the two meet. -/
theorem read_ok_of_pos {α : Type} {a : α} {rest : List Char} {p q : Nat} (h : p = q) :
    (Except.ok (a, rest, p) : Except DecodeError (α × List Char × Nat)) = .ok (a, rest, q) := by
  rw [h]

/-- The reader skips space before a token and counts it. -/
theorem skipSpace_append_of_all {s : List Char} (hs : ∀ c ∈ s, isSpace c = true)
    (rest : List Char) (pos : Nat) :
    skipSpace (s ++ rest) pos = skipSpace rest (pos + s.length) := by
  induction s generalizing pos with
  | nil => rfl
  | cons c s ih =>
    rw [List.cons_append, skipSpace, if_pos (hs c List.mem_cons_self),
      ih (fun c hc => hs c (List.mem_cons_of_mem _ hc))]
    simp only [List.length_cons]
    congr 1
    omega

/-- The reader skips nothing before a character that is no space. -/
theorem skipSpace_of_not_space {c : Char} (hc : isSpace c = false) (rest : List Char)
    (pos : Nat) : skipSpace (c :: rest) pos = (c :: rest, pos) := by
  rw [skipSpace, if_neg (by simp [hc])]

/-- A character that JSON text writes as itself or by a one-letter escape: printable ASCII,
line feed, carriage return, tab, backspace and form feed. -/
def plainChar (c : Char) : Bool :=
  (0x20 ≤ c.toNat && c.toNat ≤ 0x7e) || c == '\n' || c == '\r' || c == '\t' || c == '\x08' ||
    c == '\x0c'

/-- A closing quote ends a text, which is what was read so far. -/
theorem scanString_closing (begin pos : Nat) (acc rest : List Char) :
    scanString begin ('"' :: rest) pos acc = .ok (String.ofList acc.reverse, rest, pos + 1) := by
  rw [scanString.eq_def]
  rfl

/-- A character that is neither a quote, a backslash nor a control character is read as itself. -/
theorem scanString_plain {c : Char} (hquote : c ≠ '"') (hslash : c ≠ '\\')
    (hcontrol : 0x1f < c.toNat)
    (begin pos : Nat) (acc rest : List Char) :
    scanString begin (c :: rest) pos acc = scanString begin rest (pos + 1) (c :: acc) := by
  rw [scanString.eq_def]
  dsimp only
  rw [if_neg (by simpa using hquote), if_neg (by simpa using hslash), if_neg (by omega)]

/-- A one-letter escape is read as the character it stands for. -/
theorem scanString_escape {e d : Char} (he : simpleEscape? e = some d) (hu : e ≠ 'u')
    (begin pos : Nat) (acc rest : List Char) :
    scanString begin ('\\' :: e :: rest) pos acc = scanString begin rest (pos + 2) (d :: acc) := by
  rw [scanString.eq_def]
  dsimp only
  rw [if_neg (by decide), if_pos (by decide), if_neg (by simpa using hu), he]

/-- The escaped form of a plain character reads back as the character. -/
theorem scanString_escapeChar (asciiOnly : Bool) {c : Char} (hc : plainChar c = true)
    (begin pos : Nat) (acc rest : List Char) :
    scanString begin ((escapeChar asciiOnly c).toList ++ rest) pos acc =
      scanString begin rest (pos + (escapeChar asciiOnly c).length) (c :: acc) := by
  unfold escapeChar
  split
  case h_8 hquote hslash hlf hcr htab hbs hff =>
    have hrange : 0x20 ≤ c.toNat ∧ c.toNat ≤ 0x7e := by
      simp only [plainChar, Bool.or_eq_true, Bool.and_eq_true, decide_eq_true_eq,
        beq_iff_eq] at hc
      rcases hc with ((((hprint | h) | h) | h) | h) | h
      · exact hprint
      · exact (hlf h).elim
      · exact (hcr h).elim
      · exact (htab h).elim
      · exact (hbs h).elim
      · exact (hff h).elim
    have hsur : Text.surrogate? c = none := by
      have hlow : ¬ Text.standInBase ≤ c.toNat := by
        unfold Text.standInBase
        omega
      simp [Text.surrogate?, hlow]
    have htext : (c.toString).toList = [c] := by simp [Char.toString_eq_singleton]
    rw [hsur]
    dsimp only
    rw [if_neg (by omega), if_neg (by simp; omega), htext, ← String.length_toList, htext,
      List.singleton_append, scanString_plain hquote hslash (by omega)]
    rfl
  -- the seven characters written by a one-letter escape
  all_goals
    simp only [← String.length_toList]
    simp [scanString_escape, simpleEscape?]

/-- Plain characters, escaped and followed by a closing quote, read back as themselves. -/
theorem scanString_escaped (asciiOnly : Bool) {cs : List Char}
    (hcs : ∀ c ∈ cs, plainChar c = true) (begin pos : Nat) (acc rest : List Char) :
    scanString begin ((String.join (cs.map (escapeChar asciiOnly))).toList ++ '"' :: rest) pos acc =
      .ok (String.ofList (acc.reverse ++ cs), rest,
        pos + (String.join (cs.map (escapeChar asciiOnly))).length + 1) := by
  induction cs generalizing pos acc with
  | nil => simpa using scanString_closing begin pos acc rest
  | cons c cs ih =>
    rw [List.map_cons, String.join_cons, String.toList_append, List.append_assoc,
      scanString_escapeChar asciiOnly (hcs c List.mem_cons_self),
      ih (fun c' hc' => hcs c' (List.mem_cons_of_mem _ hc'))]
    simp only [List.reverse_cons, List.append_assoc, List.singleton_append, String.length_append]
    exact read_ok_of_pos (by omega)

/-- A quoted text is a quote, the escaped characters and a quote. -/
theorem quote_toList (asciiOnly : Bool) (s : String) :
    (quote asciiOnly s).toList =
      '"' :: ((String.join (s.toList.map (escapeChar asciiOnly))).toList ++ ['"']) := by
  simp [quote, String.toList_append]

/-- A quoted text is two characters longer than its escaped characters. -/
theorem length_quote (asciiOnly : Bool) (s : String) :
    (quote asciiOnly s).length =
      (String.join (s.toList.map (escapeChar asciiOnly))).length + 2 := by
  rw [← String.length_toList, quote_toList]
  simp only [List.length_cons, List.length_append, String.length_toList, List.length_nil]

/-- A quoted text of plain characters reads back as the text. -/
theorem parseValue_quote (asciiOnly : Bool) {s : String} (hs : ∀ c ∈ s.toList, plainChar c = true)
    (fuel depth pos : Nat) (rest : List Char) :
    parseValue (fuel + 1) depth ((quote asciiOnly s).toList ++ rest) pos =
      .ok (.str s, rest, pos + (quote asciiOnly s).length) := by
  have htext : (quote asciiOnly s).toList ++ rest =
      '"' :: ((String.join (s.toList.map (escapeChar asciiOnly))).toList ++ '"' :: rest) := by
    simp [quote, String.toList_append]
  rw [htext, parseValue.eq_2, scanString_escaped asciiOnly hs]
  simp only [List.reverse_nil, List.nil_append, String.ofList_toList, quote, String.length_append]
  have hmark : "\"".length = 1 := rfl
  have hlen : ∀ n, pos + 1 + n + 1 = pos + (1 + n + 1) := by omega
  rw [hmark, hlen]
  rfl

/-- One more digit at the end multiplies the value by ten and adds the digit. -/
theorem digitsValue_append_digit (l : List Char) (c : Char) :
    Decimal.digitsValue (l ++ [c]) = Decimal.digitsValue l * 10 + (c.toNat - '0'.toNat) := by
  simp [Decimal.digitsValue, List.foldl_append]

/-- A decimal digit's character is read back as the digit. -/
theorem digitChar_value : ∀ d, d < 10 → (Nat.digitChar d).toNat - '0'.toNat = d := by decide

/-- The character of a non-zero decimal digit is between '1' and '9'. -/
theorem digitChar_nonzero :
    ∀ d, d < 10 → 0 < d → '1' ≤ Nat.digitChar d ∧ Nat.digitChar d ≤ '9' := by
  decide

/-- The decimal digits of a number read back as the number. -/
theorem digitsValue_toDigits (n : Nat) : Decimal.digitsValue (Nat.toDigits 10 n) = n := by
  rw [Nat.toDigits_eq_if (by decide)]
  split
  case isTrue hlt => simpa [Decimal.digitsValue] using digitChar_value n hlt
  case isFalse hge =>
    rw [digitsValue_append_digit, digitsValue_toDigits (n / 10),
      digitChar_value _ (Nat.mod_lt _ (by decide))]
    omega
termination_by n
decreasing_by omega

/-- A positive number is written without a leading zero. -/
theorem toDigits_head_of_pos {n : Nat} (hn : 0 < n) :
    ∃ d t, Nat.toDigits 10 n = d :: t ∧ '1' ≤ d ∧ d ≤ '9' := by
  rw [Nat.toDigits_eq_if (by decide)]
  split
  case isTrue hlt => exact ⟨_, [], rfl, digitChar_nonzero n hlt hn⟩
  case isFalse hge =>
    obtain ⟨d, t, heq, hd⟩ := toDigits_head_of_pos (show 0 < n / 10 by omega)
    exact ⟨d, t ++ [Nat.digitChar (n % 10)], by rw [heq, List.cons_append], hd⟩
termination_by n
decreasing_by omega

/-- What may follow a token is no part of a number. -/
theorem endsToken_cons {c : Char} {r : List Char} (h : endsToken (c :: r) = true) :
    c.isDigit = false ∧ c ≠ '.' ∧ c ≠ 'e' ∧ c ≠ 'E' := by
  simp only [endsToken, isSpace, Bool.or_eq_true, beq_iff_eq, or_assoc] at h
  rcases h with h | h | h | h | h | h | h <;> (subst h; decide)

/-- The reader takes the digits of a number up to where a token ends. -/
theorem spanDigits_append {ds rest : List Char} (hds : ∀ c ∈ ds, c.isDigit = true)
    (hrest : endsToken rest = true) : spanDigits (ds ++ rest) = (ds, rest) := by
  induction ds with
  | nil =>
    cases rest with
    | nil => rfl
    | cons c r => simp [spanDigits, (endsToken_cons hrest).1]
  | cons d ds ih =>
    have hd := hds d List.mem_cons_self
    have htail := ih fun c hc => hds c (List.mem_cons_of_mem _ hc)
    simp only [spanDigits, Prod.mk.injEq] at htail ⊢
    simp [hd, htail]

/-- What may follow a token starts no exponent. -/
theorem exponentPart?_of_endsToken {rest : List Char} (hrest : endsToken rest = true) :
    exponentPart? rest = none := by
  cases rest with
  | nil => rfl
  | cons c r =>
    obtain ⟨-, -, he, hE⟩ := endsToken_cons hrest
    simp [exponentPart?, he, hE]

-- the facts about the first digit and what follows discharge the side goals of the match
-- equations that `simp` uses, which the unused-argument linter does not count
set_option linter.unusedSimpArgs false in
/-- The digits of a number, after a minus sign or not, read back as the number. -/
theorem scanNumber_digits (negative : Bool) (m : Nat)
    (hlen : (Nat.toDigits 10 m).length ≤ maxIntDigits) {rest : List Char}
    (hrest : endsToken rest = true) (pos : Nat) :
    scanNumber ((if negative then ['-'] else []) ++ Nat.toDigits 10 m ++ rest) pos =
      .ok (some (.int (if negative then -(m : Int) else m), rest,
        pos + ((if negative then 1 else 0) + (Nat.toDigits 10 m).length))) := by
  have hexp := exponentPart?_of_endsToken hrest
  rcases Nat.eq_zero_or_pos m with rfl | hm
  · cases rest with
    | nil =>
      cases negative <;>
        simp [scanNumber, Nat.toDigits_zero, exponentPart?, maxIntDigits, Decimal.digitsValue]
    | cons c r =>
      obtain ⟨-, hdot, -, -⟩ := endsToken_cons hrest
      cases negative <;>
        simp [scanNumber, Nat.toDigits_zero, hexp, hdot, maxIntDigits, Decimal.digitsValue]
  · obtain ⟨d, t, hds, hd⟩ := toDigits_head_of_pos hm
    have hminus : d ≠ '-' := by
      rintro rfl
      exact absurd hd.1 (by decide)
    have hzero : d ≠ '0' := by
      rintro rfl
      exact absurd hd.1 (by decide)
    have hdot : ∀ e r, rest ≠ '.' :: e :: r := by
      rintro e r rfl
      exact (endsToken_cons hrest).2.1 rfl
    have hdigits : ∀ c ∈ t, c.isDigit = true := fun c hc =>
      Nat.isDigit_of_mem_toDigits (by decide) (by decide) (hds ▸ List.mem_cons_of_mem d hc)
    have hvalue : Decimal.digitsValue (d :: t) = m := hds ▸ digitsValue_toDigits m
    rw [hds] at hlen ⊢
    have hlen' : t.length + 1 ≤ maxIntDigits := by simpa using hlen
    have hlt : t.length < maxIntDigits := by omega
    cases negative
    · simp [scanNumber, hminus, hzero, hd, spanDigits_append hdigits hrest, hexp, hdot, hvalue,
        hlen', hlt]
    · simp [scanNumber, hzero, hd, spanDigits_append hdigits hrest, hexp, hdot, hvalue, hlen',
        hlt]

/-- An integer is written as a minus sign if it is negative, then the decimal digits of its size. -/
theorem toList_toString_int (n : Int) :
    (toString n).toList = (if n < 0 then ['-'] else []) ++ Nat.toDigits 10 n.natAbs := by
  cases n with
  | ofNat m =>
    show (Nat.repr m).toList = _
    simp
  | negSucc m =>
    show ("-" ++ Nat.repr (m + 1)).toList = _
    simp [String.toList_append]

/-- An integer's text reads back as the integer, when it has no more digits than are read. -/
theorem scanNumber_int (n : Int) (hlen : (Nat.toDigits 10 n.natAbs).length ≤ maxIntDigits)
    {rest : List Char} (hrest : endsToken rest = true) (pos : Nat) :
    scanNumber ((toString n).toList ++ rest) pos =
      .ok (some (.int n, rest, pos + (toString n).length)) := by
  rw [← String.length_toList, toList_toString_int]
  by_cases hn : n < 0
  · have hscan := scanNumber_digits true n.natAbs hlen hrest pos
    have hvalue : -(n.natAbs : Int) = n := by omega
    simp only [if_true] at hscan
    simp only [hn, if_true, hscan, hvalue, List.length_append, List.length_singleton,
      Nat.add_comm 1]
  · have hscan := scanNumber_digits false n.natAbs hlen hrest pos
    have hvalue : (n.natAbs : Int) = n := by omega
    simp only [Bool.false_eq_true, if_false, List.nil_append, Nat.zero_add] at hscan
    simp only [hn, if_false, hscan, hvalue, List.nil_append]

/-- Where a number starts, the reader scans it. -/
theorem parseValue_number {c : Char} {t : List Char}
    (hstart : c.isDigit = true ∨ (c = '-' ∧ ∃ d u, t = d :: u ∧ d.isDigit = true))
    {fuel depth pos : Nat} {r : Value × List Char × Nat}
    (hscan : scanNumber (c :: t) pos = .ok (some r)) :
    parseValue (fuel + 1) depth (c :: t) pos = .ok r := by
  rcases hstart with hdigit | ⟨rfl, d, u, rfl, hd⟩
  · have hne : ∀ x : Char, x.isDigit = false → c ≠ x := by
      rintro x hx rfl
      rw [hdigit] at hx
      cases hx
    simp [parseValue, hne '"' rfl, hne '{' rfl, hne '[' rfl, hne 'n' rfl, hne 't' rfl,
      hne 'f' rfl, hne 'N' rfl, hne 'I' rfl, hne '-' rfl, hscan]
    rfl
  · have hI : d ≠ 'I' := by
      rintro rfl
      cases hd
    simp [parseValue, hI, hscan]
    rfl

/-- An integer of at most `maxIntDigits` digits reads back as itself, before anything that ends a
token. -/
theorem parseValue_int (n : Int) (hlen : (Nat.toDigits 10 n.natAbs).length ≤ maxIntDigits)
    {rest : List Char} (hrest : endsToken rest = true) (fuel depth pos : Nat) :
    parseValue (fuel + 1) depth ((toString n).toList ++ rest) pos =
      .ok (.int n, rest, pos + (toString n).length) := by
  have hscan := scanNumber_int n hlen hrest pos
  obtain ⟨d, u, hds, hd⟩ : ∃ d u, Nat.toDigits 10 n.natAbs = d :: u ∧ d.isDigit = true := by
    cases hds : Nat.toDigits 10 n.natAbs with
    | nil => exact absurd hds Nat.toDigits_ne_nil
    | cons d u =>
      exact ⟨d, u, rfl, Nat.isDigit_of_mem_toDigits (by decide) (by decide)
        (hds ▸ List.mem_cons_self)⟩
  rw [toList_toString_int, hds] at hscan ⊢
  by_cases hn : n < 0
  · simp only [hn, if_true, List.cons_append] at hscan ⊢
    exact parseValue_number (.inr ⟨rfl, d, _, rfl, hd⟩) hscan
  · simp only [hn, if_false, List.nil_append, List.cons_append] at hscan ⊢
    exact parseValue_number (.inl hd) hscan

/-- Two texts are the same key exactly when they are equal. -/
theorem sameKey_str (a b : String) : Value.sameKey (.str a) (.str b) = (a == b) := rfl

/-- Writing an entry whose key is new puts it at the end. -/
theorem putEntry_of_fresh {key v : Value} {acc : List (Value × Value)}
    (hfresh : ∀ e ∈ acc, Value.sameKey e.1 key = false) :
    Value.putEntry key v acc = acc ++ [(key, v)] := by
  induction acc with
  | nil => rfl
  | cons e acc ih =>
    rw [Value.putEntry, if_neg (by simp [hfresh e List.mem_cons_self]),
      ih fun e' he' => hfresh e' (List.mem_cons_of_mem _ he')]
    rfl

/-- Written in turn, entries under text keys that are new land at the end, one by one. -/
theorem foldl_putEntry_of_distinct {es : List (Value × Value)}
    (hkeys : ∀ e ∈ es, ∃ s, e.1 = .str s) (hnd : (es.map (·.1)).Nodup)
    (acc : List (Value × Value)) (hacc : ∀ e ∈ acc, ∃ s, e.1 = .str s)
    (hfresh : ∀ e ∈ acc, e.1 ∉ es.map (·.1)) :
    es.foldl (fun acc e => Value.putEntry e.1 e.2 acc) acc = acc ++ es := by
  induction es generalizing acc with
  | nil => simp
  | cons e es ih =>
    obtain ⟨s, hs⟩ := hkeys e List.mem_cons_self
    rw [List.map_cons, List.nodup_cons] at hnd
    have hput : Value.putEntry e.1 e.2 acc = acc ++ [e] := by
      refine putEntry_of_fresh fun a ha => ?_
      obtain ⟨t, ht⟩ := hacc a ha
      have hne : a.1 ≠ e.1 := fun heq => hfresh a ha (heq ▸ List.mem_cons_self)
      rw [ht, hs] at hne
      rw [ht, hs, sameKey_str, beq_eq_false_iff_ne]
      exact fun heq => hne (congrArg Value.str heq)
    rw [List.foldl_cons, hput, ih (fun e' he' => hkeys e' (List.mem_cons_of_mem _ he')) hnd.2]
    · simp
    · intro a ha
      rcases List.mem_append.1 ha with ha | ha
      · exact hacc a ha
      · rw [List.mem_singleton.1 ha]
        exact ⟨s, hs⟩
    · intro a ha hmem
      rcases List.mem_append.1 ha with ha | ha
      · exact hfresh a ha (List.mem_cons_of_mem _ hmem)
      · rw [List.mem_singleton.1 ha] at hmem
        exact hnd.1 hmem

/-- Entries under distinct text keys are the mapping they write, whichever way
`Value.ofEntries` takes. -/
theorem ofEntries_of_distinct {es : List (Value × Value)}
    (hkeys : ∀ e ∈ es, ∃ s, e.1 = .str s) (hnd : (es.map (·.1)).Nodup) :
    Value.ofEntries es = es := by
  unfold Value.ofEntries
  split
  · rfl
  · exact foldl_putEntry_of_distinct hkeys hnd [] (by simp) (by simp)

/-- A layout's line break is all space to the reader. -/
theorem newline_spaces (L : Layout) (level : Nat) :
    ∀ c ∈ (L.newline level).toList, isSpace c = true := by
  unfold Layout.newline
  split
  · simp
  · intro c hc
    simp only [String.toList_append, String.toList_ofList, List.mem_append,
      List.mem_replicate] at hc
    rcases hc with hc | ⟨-, rfl⟩
    · simp at hc
      rw [hc]
      rfl
    · rfl

/-- A layout's separator is a comma, then space. -/
theorem comma_toList (L : Layout) :
    ∃ sp, L.comma.toList = ',' :: sp ∧ ∀ c ∈ sp, isSpace c = true := by
  unfold Layout.comma
  split
  · exact ⟨[' '], by simp, by simp [isSpace]⟩
  · exact ⟨[], by simp, by simp⟩

/-- A separator, a closing bracket or space ends a token. -/
theorem endsToken_of_head {c : Char} (r : List Char)
    (hc : c = ',' ∨ c = ']' ∨ c = '}' ∨ isSpace c = true) : endsToken (c :: r) = true := by
  rcases hc with rfl | rfl | rfl | hc
  · rfl
  · rfl
  · rfl
  · simp [endsToken, hc]

/-- Space before what ends a token ends it too. -/
theorem endsToken_spaces_append {sp rest : List Char} (hsp : ∀ c ∈ sp, isSpace c = true)
    (hrest : endsToken rest = true) : endsToken (sp ++ rest) = true := by
  cases sp with
  | nil => exact hrest
  | cons c sp => exact endsToken_of_head _ (.inr (.inr (.inr (hsp c List.mem_cons_self))))

/-- A float whose text reads back as the float itself: before anything that ends a token,
the reader takes exactly that text and gives the float. -/
def ReadsBack (x : Float) : Prop :=
  ∀ fuel depth pos rest, endsToken rest = true →
    parseValue (fuel + 1) depth ((floatText.render x).toList ++ rest) pos =
      .ok (.float x, rest, pos + (floatText.render x).length)

/-- A text that reads back starts with a character that is neither a space, nor a closing
bracket, nor a byte order mark. -/
theorem ReadsBack.head {x : Float} (h : ReadsBack x) :
    ∃ c t, (floatText.render x).toList = c :: t ∧ isSpace c = false ∧ c ≠ ']' ∧
      c ≠ '\uFEFF' := by
  have hread := h 0 0 0 [] rfl
  cases htext : (floatText.render x).toList with
  | nil =>
    rw [htext] at hread
    simp [parseValue, scanNumber, bind, Except.bind] at hread
  | cons c t =>
    rw [htext] at hread
    refine ⟨c, t, rfl, ?_, ?_, ?_⟩
    · cases hspace : isSpace c
      · rfl
      · simp only [isSpace, Bool.or_eq_true, beq_iff_eq, or_assoc] at hspace
        rcases hspace with rfl | rfl | rfl | rfl <;>
          simp [parseValue, scanNumber, bind, Except.bind] at hread
    all_goals
      rintro rfl
      simp [parseValue, scanNumber, bind, Except.bind] at hread

/-- The text of `v`, written at any level, reads back as `v` from nesting depth `depth`, given
at least as much fuel as the text has characters and a following text that ends a token. -/
def ReadsAt (L : Layout) (depth : Nat) (v : Value) : Prop :=
  ∀ level fuel pos rest, (encodeAt L level v).length ≤ fuel → endsToken rest = true →
    parseValue fuel depth ((encodeAt L level v).toList ++ rest) pos =
      .ok (v, rest, pos + (encodeAt L level v).length)

/-- The text of `v` at a level starts with a character that is neither a space, nor a closing
bracket, nor a byte order mark. -/
def StartsToken (L : Layout) (level : Nat) (v : Value) : Prop :=
  ∃ c t, (encodeAt L level v).toList = c :: t ∧ isSpace c = false ∧ c ≠ ']' ∧ c ≠ '\uFEFF'

/-- The reader skips nothing before a value that starts with a token. -/
theorem skipSpace_startsToken {L : Layout} {level : Nat} {v : Value}
    (hv : StartsToken L level v) (rest : List Char) (pos : Nat) :
    skipSpace ((encodeAt L level v).toList ++ rest) pos =
      ((encodeAt L level v).toList ++ rest, pos) := by
  obtain ⟨c, t, htext, hc, -⟩ := hv
  rw [htext, List.cons_append, skipSpace_of_not_space hc]

/-- Items after the first, each after a separator, and the closing bracket read back as the
list, with one unit of fuel per item on top of the text. -/
theorem parseItems_encodeItems {L : Layout} {depth level : Nat} {sp : List Char}
    (hsp : ∀ c ∈ sp, isSpace c = true) (rest : List Char) :
    ∀ (us : List Value) (u : Value) (acc : List Value) (fuel pos : Nat),
      ReadsAt L depth u → (∀ v ∈ us, ReadsAt L depth v ∧ StartsToken L level v) →
      (encodeAt L level u).length + (encodeItems L level us).length + 1 ≤ fuel →
      parseItems fuel depth ((encodeAt L level u).toList ++ (encodeItems L level us).toList ++
          sp ++ ']' :: rest) pos acc =
        .ok (.list (acc.reverse ++ u :: us), rest,
          pos + ((encodeAt L level u).length + (encodeItems L level us).length + sp.length +
            1)) := by
  intro us
  induction us with
  | nil =>
    intro u acc fuel pos hu _ hfuel
    obtain ⟨f, rfl⟩ : ∃ f, fuel = f + 1 := ⟨fuel - 1, by omega⟩
    have htail : endsToken (sp ++ ']' :: rest) = true :=
      endsToken_spaces_append hsp (endsToken_of_head rest (.inr (.inl rfl)))
    have hread := hu level f pos (sp ++ ']' :: rest) (by simp at hfuel; omega) htail
    simp only [encodeItems, String.toList_empty, List.append_nil, String.length_empty,
      List.append_assoc] at hread ⊢
    rw [parseItems.eq_2, hread]
    simp only [bind, Except.bind, skipSpace_append_of_all hsp,
      skipSpace_of_not_space (show isSpace ']' = false by decide), pure, Except.pure,
      List.reverse_cons]
    exact read_ok_of_pos (by omega)
  | cons u' us ih =>
    intro u acc fuel pos hu hus hfuel
    obtain ⟨f, rfl⟩ : ∃ f, fuel = f + 1 := ⟨fuel - 1, by omega⟩
    obtain ⟨csp, hcomma, hcsp⟩ := comma_toList L
    have hu' := hus u' List.mem_cons_self
    -- the text after the first item: a separator, a break, the next item and the rest
    have htext : (encodeItems L level (u' :: us)).toList ++ (sp ++ ']' :: rest) =
        ',' :: (csp ++ (L.newline level).toList ++ ((encodeAt L level u').toList ++
          (encodeItems L level us).toList ++ sp ++ ']' :: rest)) := by
      simp [encodeItems, String.toList_append, hcomma]
    have hread := hu level f pos (',' :: (csp ++ (L.newline level).toList ++
        ((encodeAt L level u').toList ++ (encodeItems L level us).toList ++ sp ++ ']' :: rest)))
      (by simp [encodeItems] at hfuel; omega) (endsToken_of_head _ (.inl rfl))
    rw [List.append_assoc, List.append_assoc, htext, parseItems.eq_2, hread]
    have hbreak : ∀ c ∈ csp ++ (L.newline level).toList, isSpace c = true := by
      intro c hc
      rcases List.mem_append.1 hc with hc | hc
      · exact hcsp c hc
      · exact newline_spaces L level c hc
    have hclen : L.comma.length = csp.length + 1 := by
      rw [← String.length_toList, hcomma, List.length_cons]
    simp only [bind, Except.bind, skipSpace_of_not_space (show isSpace ',' = false by decide)]
    rw [skipSpace_append_of_all hbreak, List.append_assoc, List.append_assoc,
      skipSpace_startsToken hu'.2, ← List.append_assoc, ← List.append_assoc,
      ih u' (u :: acc) f _ hu'.1 (fun v hv => hus v (List.mem_cons_of_mem _ hv))
        (by simp [encodeItems, String.length_append] at hfuel ⊢; omega)]
    simp only [encodeItems, String.length_append, List.reverse_cons, List.append_assoc,
      List.singleton_append, List.length_append, String.length_toList]
    exact read_ok_of_pos (by omega)

/-- Entries, each after a separator, and the closing brace read back as the entries of a
mapping, with one unit of fuel per entry on top of the text. -/
theorem parseEntries_encodeEntries {L : Layout} {depth level : Nat} {sp : List Char}
    (hsp : ∀ c ∈ sp, isSpace c = true) (rest : List Char) :
    ∀ (es : List (Value × Value)) (s : String) (v : Value) (acc : List (Value × Value))
      (fuel pos : Nat),
      (∀ c ∈ s.toList, plainChar c = true) → ReadsAt L depth v → StartsToken L level v →
      (∀ e ∈ es, (∃ t, e.1 = .str t ∧ ∀ c ∈ t.toList, plainChar c = true) ∧
        ReadsAt L depth e.2 ∧ StartsToken L level e.2) →
      (quote L.asciiOnly s).length + 2 + (encodeAt L level v).length +
          (encodeEntries L level es).length + 1 ≤ fuel →
      parseEntries fuel depth ((quote L.asciiOnly s).toList ++ ": ".toList ++
          (encodeAt L level v).toList ++ (encodeEntries L level es).toList ++ sp ++ '}' :: rest)
          pos acc =
        .ok (.object (Value.ofEntries (acc.reverse ++ (.str s, v) :: es)), rest,
          pos + ((quote L.asciiOnly s).length + 2 + (encodeAt L level v).length +
            (encodeEntries L level es).length + sp.length + 1)) := by
  intro es
  induction es with
  | nil =>
    intro s v acc fuel pos hs hv hvstart _ hfuel
    obtain ⟨f, rfl⟩ : ∃ f, fuel = f + 1 := ⟨fuel - 1, by omega⟩
    have htext : (quote L.asciiOnly s).toList ++ ": ".toList ++ (encodeAt L level v).toList ++
        (encodeEntries L level []).toList ++ sp ++ '}' :: rest =
        '"' :: ((String.join (s.toList.map (escapeChar L.asciiOnly))).toList ++ '"' ::
          (':' :: ' ' :: ((encodeAt L level v).toList ++ (sp ++ '}' :: rest)))) := by
      simp [quote_toList, encodeEntries]
    have htail : endsToken (sp ++ '}' :: rest) = true :=
      endsToken_spaces_append hsp (endsToken_of_head rest (.inr (.inr (.inl rfl))))
    have hread := hv level f (pos + 1 + (String.join (s.toList.map (escapeChar L.asciiOnly))).length
      + 1 + 1 + 1) (sp ++ '}' :: rest) (by simp [length_quote] at hfuel; omega) htail
    rw [htext, parseEntries.eq_2, scanString_escaped L.asciiOnly hs]
    simp only [bind, Except.bind, skipSpace_of_not_space (show isSpace ':' = false by decide)]
    rw [skipSpace, if_pos (show isSpace ' ' = true by decide), skipSpace_startsToken hvstart,
      hread]
    simp only [skipSpace_append_of_all hsp,
      skipSpace_of_not_space (show isSpace '}' = false by decide), pure, Except.pure,
      List.reverse_cons, List.reverse_nil, List.nil_append, String.ofList_toList, length_quote,
      encodeEntries, String.length_empty]
    exact read_ok_of_pos (by omega)
  | cons e es ih =>
    intro s v acc fuel pos hs hv hvstart hes hfuel
    obtain ⟨k, v'⟩ := e
    obtain ⟨⟨t, rfl, ht⟩, hv', hv'start⟩ := hes (k, v') List.mem_cons_self
    obtain ⟨f, rfl⟩ : ∃ f, fuel = f + 1 := ⟨fuel - 1, by omega⟩
    obtain ⟨csp, hcomma, hcsp⟩ := comma_toList L
    have hclen : L.comma.length = csp.length + 1 := by
      rw [← String.length_toList, hcomma, List.length_cons]
    have hbreak : ∀ c ∈ csp ++ (L.newline level).toList, isSpace c = true := by
      intro c hc
      rcases List.mem_append.1 hc with hc | hc
      · exact hcsp c hc
      · exact newline_spaces L level c hc
    -- the next entry, from its opening quote to the closing brace
    let next := (quote L.asciiOnly t).toList ++ ": ".toList ++ (encodeAt L level v').toList ++
      (encodeEntries L level es).toList ++ sp ++ '}' :: rest
    have htext : (quote L.asciiOnly s).toList ++ ": ".toList ++ (encodeAt L level v).toList ++
        (encodeEntries L level ((.str t, v') :: es)).toList ++ sp ++ '}' :: rest =
        '"' :: ((String.join (s.toList.map (escapeChar L.asciiOnly))).toList ++ '"' ::
          (':' :: ' ' :: ((encodeAt L level v).toList ++
            (',' :: (csp ++ (L.newline level).toList ++ next))))) := by
      simp [next, quote_toList, encodeEntries, keyText, hcomma, String.toList_append]
    have hread := hv level f (pos + 1 + (String.join (s.toList.map (escapeChar L.asciiOnly))).length
      + 1 + 1 + 1) (',' :: (csp ++ (L.newline level).toList ++ next))
      (by simp [length_quote, encodeEntries] at hfuel; omega) (endsToken_of_head _ (.inl rfl))
    rw [htext, parseEntries.eq_2, scanString_escaped L.asciiOnly hs]
    simp only [bind, Except.bind, skipSpace_of_not_space (show isSpace ':' = false by decide)]
    rw [skipSpace, if_pos (show isSpace ' ' = true by decide), skipSpace_startsToken hvstart,
      hread]
    simp only [skipSpace_of_not_space (show isSpace ',' = false by decide)]
    have hskip : ∀ p, skipSpace next p = (next, p) := by
      intro p
      simp only [next, quote_toList, List.cons_append]
      exact skipSpace_of_not_space (by decide) _ _
    rw [skipSpace_append_of_all hbreak, hskip]
    simp only [List.reverse_nil, List.nil_append, String.ofList_toList]
    have hcolon : ": ".length = 2 := rfl
    simp only [length_quote, encodeEntries, keyText, String.length_append, hclen,
      hcolon] at hfuel
    rw [ih t v' ((.str s, v) :: acc) f _ ht hv' hv'start
      (fun e he => hes e (List.mem_cons_of_mem _ he)) (by simp only [length_quote]; omega)]
    simp only [List.reverse_cons, List.append_assoc, List.singleton_append, length_quote,
      encodeEntries, keyText, String.length_append, List.length_append, String.length_toList,
      hclen, hcolon]
    exact read_ok_of_pos (by omega)

/-- Values that JSON text writes and reads back unchanged, lists and mappings nested at most
`n` deep: null, booleans, integers of at most `maxIntDigits` digits, floats whose text reads
back, texts of plain characters, and lists and mappings of such values, the keys of a mapping
being distinct texts of plain characters. -/
inductive Plain : Nat → Value → Prop
  | null (n : Nat) : Plain n .null
  | bool (n : Nat) (b : Bool) : Plain n (.bool b)
  | int (n : Nat) (k : Int) : (Nat.toDigits 10 k.natAbs).length ≤ maxIntDigits → Plain n (.int k)
  | float (n : Nat) (x : Float) : ReadsBack x → Plain n (.float x)
  | str (n : Nat) (s : String) : (∀ c ∈ s.toList, plainChar c = true) → Plain n (.str s)
  | list (n : Nat) (items : List Value) : (∀ v ∈ items, Plain n v) → Plain (n + 1) (.list items)
  | object (n : Nat) (entries : List (Value × Value)) :
      (∀ e ∈ entries, ∃ s, e.1 = .str s ∧ ∀ c ∈ s.toList, plainChar c = true) →
      (entries.map (·.1)).Nodup → (∀ e ∈ entries, Plain n e.2) → Plain (n + 1) (.object entries)

/-- The text of every plain value starts with a token: a letter, a digit, a minus sign, a quote or
an opening bracket. -/
theorem Plain.startsToken {n : Nat} {v : Value} (hv : Plain n v) (L : Layout) (level : Nat) :
    StartsToken L level v := by
  cases hv with
  | null => exact ⟨'n', _, by rw [encodeAt]; rfl, by decide, by decide, by decide⟩
  | bool _ b =>
    cases b
    · exact ⟨'f', _, by rw [encodeAt]; rfl, by decide, by decide, by decide⟩
    · exact ⟨'t', _, by rw [encodeAt]; rfl, by decide, by decide, by decide⟩
  | int _ k =>
    obtain ⟨d, u, hds, hd⟩ : ∃ d u, Nat.toDigits 10 k.natAbs = d :: u ∧ d.isDigit = true := by
      cases hds : Nat.toDigits 10 k.natAbs with
      | nil => exact absurd hds Nat.toDigits_ne_nil
      | cons d u =>
        exact ⟨d, u, rfl, Nat.isDigit_of_mem_toDigits (by decide) (by decide)
          (hds ▸ List.mem_cons_self)⟩
    by_cases hk : k < 0
    · exact ⟨'-', _, by rw [encodeAt, toList_toString_int, if_pos hk]; rfl, by decide, by decide,
        by decide⟩
    · refine ⟨d, u, by rw [encodeAt, toList_toString_int, if_neg hk, hds]; rfl, ?_, ?_, ?_⟩
      · cases hsp : isSpace d
        · rfl
        · simp only [isSpace, Bool.or_eq_true, beq_iff_eq, or_assoc] at hsp
          rcases hsp with rfl | rfl | rfl | rfl <;> cases hd
      all_goals
        rintro rfl
        cases hd
  | float _ x hx => exact hx.head
  | str _ s => exact ⟨'"', _, quote_toList _ _, by decide, by decide, by decide⟩
  | list _ items =>
    cases items with
    | nil => exact ⟨'[', _, by rw [encodeAt]; rfl, by decide, by decide, by decide⟩
    | cons v vs =>
      exact ⟨'[', _, by simp only [encodeAt, String.toList_append]; rfl, by decide, by decide,
        by decide⟩
  | object _ entries =>
    cases entries with
    | nil => exact ⟨'\x7b', _, by rw [encodeAt]; rfl, by decide, by decide, by decide⟩
    | cons e es =>
      obtain ⟨k, v⟩ := e
      exact ⟨'\x7b', _, by simp only [encodeAt, String.toList_append]; rfl, by decide, by decide,
        by decide⟩

/-- A value whose text starts with a token has a text that is not empty. -/
theorem StartsToken.length_pos {L : Layout} {level : Nat} {v : Value}
    (h : StartsToken L level v) : 0 < (encodeAt L level v).length := by
  obtain ⟨c, t, htext, -⟩ := h
  rw [← String.length_toList, htext]
  exact Nat.succ_pos _

/-- What JSON text writes of a plain value reads back as the value, from any depth that leaves
room for its nesting. -/
theorem Plain.readsAt {n : Nat} {v : Value} (hv : Plain n v) (L : Layout) :
    ∀ depth, depth + n ≤ maxDepth → ReadsAt L depth v := by
  induction hv with
  | null n =>
    intro depth _ level fuel pos rest hfuel _
    have hlen : "null".length = 4 := rfl
    rw [encodeAt, hlen] at hfuel
    rw [encodeAt, hlen]
    obtain ⟨f, rfl⟩ : ∃ f, fuel = f + 1 := ⟨fuel - 1, by omega⟩
    simp only [show "null".toList = ['n', 'u', 'l', 'l'] from rfl, List.cons_append,
      List.nil_append, parseValue]
  | bool n b =>
    intro depth _ level fuel pos rest hfuel _
    cases b
    · have hlen : "false".length = 5 := rfl
      rw [encodeAt, if_neg (by decide), hlen] at hfuel
      rw [encodeAt, if_neg (by decide), hlen]
      obtain ⟨f, rfl⟩ : ∃ f, fuel = f + 1 := ⟨fuel - 1, by omega⟩
      simp only [show "false".toList = ['f', 'a', 'l', 's', 'e'] from rfl, List.cons_append,
        List.nil_append, parseValue]
    · have hlen : "true".length = 4 := rfl
      rw [encodeAt, if_pos rfl, hlen] at hfuel
      rw [encodeAt, if_pos rfl, hlen]
      obtain ⟨f, rfl⟩ : ∃ f, fuel = f + 1 := ⟨fuel - 1, by omega⟩
      simp only [show "true".toList = ['t', 'r', 'u', 'e'] from rfl, List.cons_append,
        List.nil_append, parseValue]
  | int n k hk =>
    intro depth _ level fuel pos rest hfuel hrest
    have hpos := ((Plain.int n k hk).startsToken L level).length_pos
    obtain ⟨f, rfl⟩ : ∃ f, fuel = f + 1 := ⟨fuel - 1, by omega⟩
    rw [encodeAt]
    exact parseValue_int k hk hrest f depth pos
  | float n x hx =>
    intro depth _ level fuel pos rest hfuel hrest
    have hpos := ((Plain.float n x hx).startsToken L level).length_pos
    obtain ⟨f, rfl⟩ : ∃ f, fuel = f + 1 := ⟨fuel - 1, by omega⟩
    rw [encodeAt]
    exact hx f depth pos rest hrest
  | str n s hs =>
    intro depth _ level fuel pos rest hfuel _
    have hpos := ((Plain.str n s hs).startsToken L level).length_pos
    obtain ⟨f, rfl⟩ : ∃ f, fuel = f + 1 := ⟨fuel - 1, by omega⟩
    rw [encodeAt]
    exact parseValue_quote L.asciiOnly hs f depth pos rest
  | list n items hitems ih =>
    intro depth hdepth level fuel pos rest hfuel hrest
    have hroom : ¬depth ≥ maxDepth := by omega
    cases items with
    | nil =>
      have hlen : "[]".length = 2 := rfl
      rw [encodeAt, hlen] at hfuel
      rw [encodeAt, hlen]
      obtain ⟨f, rfl⟩ : ∃ f, fuel = f + 1 := ⟨fuel - 1, by omega⟩
      simp only [show "[]".toList = ['[', ']'] from rfl, List.cons_append, List.nil_append]
      rw [parseValue, if_neg hroom,
        skipSpace_of_not_space (show isSpace ']' = false by decide)]
      rfl
    | cons u us =>
      have hu := ih u List.mem_cons_self (depth + 1) (by omega)
      have hus : ∀ v ∈ us, ReadsAt L (depth + 1) v ∧ StartsToken L (level + 1) v :=
        fun v hv => ⟨ih v (List.mem_cons_of_mem _ hv) (depth + 1) (by omega),
          (hitems v (List.mem_cons_of_mem _ hv)).startsToken L (level + 1)⟩
      have hustart := (hitems u List.mem_cons_self).startsToken L (level + 1)
      have hskip := skipSpace_startsToken hustart
      obtain ⟨c, t, hstart, -, hclose, -⟩ := hustart
      have htext : (encodeAt L level (.list (u :: us))).toList ++ rest =
          '[' :: ((L.newline (level + 1)).toList ++ ((encodeAt L (level + 1) u).toList ++
            (encodeItems L (level + 1) us).toList ++ (L.newline level).toList ++ ']' :: rest)) := by
        simp [encodeAt, String.toList_append]
      have hlen : (encodeAt L level (.list (u :: us))).length = (L.newline (level + 1)).length +
          (encodeAt L (level + 1) u).length + (encodeItems L (level + 1) us).length +
          (L.newline level).length + 2 := by
        rw [encodeAt]
        simp only [String.length_append, show "[".length = 1 from rfl,
          show "]".length = 1 from rfl]
        omega
      obtain ⟨f, rfl⟩ : ∃ f, fuel = f + 1 := ⟨fuel - 1, by omega⟩
      rw [htext, parseValue, if_neg hroom, skipSpace_append_of_all (newline_spaces L _),
        List.append_assoc, List.append_assoc, hskip]
      dsimp only
      split
      next r' hbracket =>
        -- the first item does not start with a closing bracket
        rw [hstart, List.cons_append] at hbracket
        exact absurd (List.cons.inj hbracket).1 hclose
      next =>
        rw [← List.append_assoc, ← List.append_assoc,
          parseItems_encodeItems (newline_spaces L level) rest us u [] f _ hu hus (by omega)]
        simp only [List.reverse_nil, List.nil_append, String.length_toList, hlen]
        exact read_ok_of_pos (by omega)
  | object n entries hkeys hnd hvals ih =>
    intro depth hdepth level fuel pos rest hfuel hrest
    have hroom : ¬depth ≥ maxDepth := by omega
    cases entries with
    | nil =>
      have hlen : "\x7b\x7d".length = 2 := rfl
      rw [encodeAt, hlen] at hfuel
      rw [encodeAt, hlen]
      obtain ⟨f, rfl⟩ : ∃ f, fuel = f + 1 := ⟨fuel - 1, by omega⟩
      simp only [show "\x7b\x7d".toList = ['\x7b', '\x7d'] from rfl, List.cons_append,
        List.nil_append]
      rw [parseValue, if_neg hroom,
        skipSpace_of_not_space (show isSpace '\x7d' = false by decide)]
      rfl
    | cons e es =>
      obtain ⟨k, v⟩ := e
      obtain ⟨s, rfl, hs⟩ := hkeys (k, v) List.mem_cons_self
      have hv := ih (.str s, v) List.mem_cons_self (depth + 1) (by omega)
      have hvstart := (hvals (.str s, v) List.mem_cons_self).startsToken L (level + 1)
      have hes : ∀ e ∈ es, (∃ t, e.1 = .str t ∧ ∀ c ∈ t.toList, plainChar c = true) ∧
          ReadsAt L (depth + 1) e.2 ∧ StartsToken L (level + 1) e.2 :=
        fun e he => ⟨hkeys e (List.mem_cons_of_mem _ he),
          ih e (List.mem_cons_of_mem _ he) (depth + 1) (by omega),
          (hvals e (List.mem_cons_of_mem _ he)).startsToken L (level + 1)⟩
      -- the entries, from the first key's opening quote to the closing brace
      let body := (quote L.asciiOnly s).toList ++ ": ".toList ++
        (encodeAt L (level + 1) v).toList ++ (encodeEntries L (level + 1) es).toList ++
        (L.newline level).toList ++ '\x7d' :: rest
      have htext : (encodeAt L level (.object ((.str s, v) :: es))).toList ++ rest =
          '\x7b' :: ((L.newline (level + 1)).toList ++ body) := by
        simp [body, encodeAt, keyText, String.toList_append]
      have hlen : (encodeAt L level (.object ((.str s, v) :: es))).length =
          (L.newline (level + 1)).length + (quote L.asciiOnly s).length + 2 +
          (encodeAt L (level + 1) v).length + (encodeEntries L (level + 1) es).length +
          (L.newline level).length + 2 := by
        rw [encodeAt]
        simp only [String.length_append, keyText, show "\x7b".length = 1 from rfl,
          show "\x7d".length = 1 from rfl, show ": ".length = 2 from rfl]
        omega
      have hbody : ∀ p, skipSpace body p = (body, p) := by
        intro p
        simp only [body, quote_toList, List.cons_append]
        exact skipSpace_of_not_space (by decide) _ _
      obtain ⟨f, rfl⟩ : ∃ f, fuel = f + 1 := ⟨fuel - 1, by omega⟩
      rw [htext, parseValue, if_neg hroom, skipSpace_append_of_all (newline_spaces L _), hbody]
      -- the first key opens with a quote, so the empty-object branch is not taken
      obtain ⟨t, ht⟩ : ∃ t, body = '"' :: t :=
        ⟨_, by simp only [body, quote_toList, List.cons_append]; rfl⟩
      rw [ht]
      dsimp only
      split
      next r' hbrace => exact absurd (List.cons.inj hbrace).1 (by decide)
      next =>
        rw [← ht]
        have hent := parseEntries_encodeEntries (newline_spaces L level) rest es s v [] f
          (pos + 1 + (L.newline (level + 1)).toList.length) hs hv hvstart hes (by omega)
        rw [List.reverse_nil, List.nil_append,
          ofEntries_of_distinct (fun e he => (hkeys e he).imp fun _ h => h.1) hnd] at hent
        refine hent.trans ?_
        simp only [String.length_toList, hlen]
        exact read_ok_of_pos (by omega)

/-- Space after a value is all that follows it when read from the end. -/
theorem skipSpace_of_all {sp : List Char} (hsp : ∀ c ∈ sp, isSpace c = true) (pos : Nat) :
    skipSpace sp pos = ([], pos + sp.length) := by
  simpa [skipSpace] using skipSpace_append_of_all hsp [] pos

/-- The JSON text of a plain value nested no deeper than the reader goes reads back as the
value, whatever space follows it. -/
theorem decode_encode {n : Nat} {v : Value} (hv : Plain n v) (hn : n ≤ maxDepth) (L : Layout)
    {trail : List Char} (htrail : ∀ c ∈ trail, isSpace c = true) :
    decode ((encode L v).toList ++ trail) = .ok v := by
  have hstart := hv.startsToken L 0
  have hskip := skipSpace_startsToken hstart trail 0
  obtain ⟨c, t, htext, -, -, hbom⟩ := hstart
  have hends : endsToken trail = true := by
    simpa using endsToken_spaces_append htrail (show endsToken [] = true from rfl)
  have hread := hv.readsAt L 0 (by omega) 0 (2 * ((encode L v).toList ++ trail).length + 2) 0
    trail (by simp only [encode, List.length_append, String.length_toList]; omega) hends
  rw [decode]
  · simp only [encode] at hread ⊢
    rw [hskip]
    simp only [hread, bind, Except.bind, skipSpace_of_all htrail, List.isEmpty_nil, if_true,
      pure, Except.pure]
  · -- no value's text starts with a byte order mark
    intro tail hdoc
    rw [encode, htext, List.cons_append] at hdoc
    exact hbom (List.cons.inj hdoc).1

/-- A JSON file holding a plain value and then space reads as the value. -/
theorem decodeFile_encode {n : Nat} {v : Value} (hv : Plain n v) (hn : n ≤ maxDepth)
    (L : Layout) {trail : String} (htrail : ∀ c ∈ trail.toList, isSpace c = true) :
    decodeFile (encode L v ++ trail) = .ok v := by
  rw [decodeFile, String.toList_append, decode_encode hv hn L htrail]

end PineCheck.Json
