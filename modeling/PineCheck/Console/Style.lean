import PineCheck.Text.Blank
import PineCheck.Text.Case
import PineCheck.Text.Word
/-!
# Console styles

A style is written as words: attribute names (`bold` or `b`, `italic` or `i`, …), `not`
and an attribute name to turn one off, a color, `on` and a background color, and `link`
and an address. Words are read in lower case, except the word after `on`, `not` or `link`.
A color is `default`, one of the named colors, `#` and six hexadecimal digits,
`color(n)` with `n` at most 255, or `rgb(r,g,b)` with components at most 255.

Two styles are the same style when their normal forms are equal: the attributes set, in a
fixed order (`bold`, `dim`, `italic`, …, `not` before those turned off), then the color,
`on` and the background color, then `link` and the address; `none` when nothing is set.
A text that is not a style has as its normal form itself, trimmed and in lower case.

An `rgb` component that is empty is not a number at all: that is an error of its own,
which no style reading catches.
-/

namespace PineCheck.Console

/-- The attributes in the order styles are written. -/
def attributeOrder : List String :=
  ["bold", "dim", "italic", "underline", "blink", "blink2", "reverse", "conceal", "strike",
    "underline2", "frame", "encircle", "overline"]

/-- The attribute a word names. -/
def attributeOf? (word : String) : Option String :=
  match word with
  | "d" => some "dim"
  | "b" => some "bold"
  | "i" => some "italic"
  | "u" => some "underline"
  | "r" => some "reverse"
  | "c" => some "conceal"
  | "s" => some "strike"
  | "uu" => some "underline2"
  | "o" => some "overline"
  | w => if attributeOrder.contains w then some w else none

/-- The named colors. -/
def colorNames : List String := [
  "black", "red", "green", "yellow", "blue", "magenta", "cyan", "white", "bright_black",
  "bright_red", "bright_green", "bright_yellow", "bright_blue", "bright_magenta", "bright_cyan",
  "bright_white", "grey0", "gray0", "navy_blue", "dark_blue", "blue3", "blue1", "dark_green",
  "deep_sky_blue4", "dodger_blue3", "dodger_blue2", "green4", "spring_green4", "turquoise4",
  "deep_sky_blue3", "dodger_blue1", "green3", "spring_green3", "dark_cyan", "light_sea_green",
  "deep_sky_blue2", "deep_sky_blue1", "spring_green2", "cyan3", "dark_turquoise", "turquoise2",
  "green1", "spring_green1", "medium_spring_green", "cyan2", "cyan1", "dark_red", "deep_pink4",
  "purple4", "purple3", "blue_violet", "orange4", "grey37", "gray37", "medium_purple4",
  "slate_blue3", "royal_blue1", "chartreuse4", "dark_sea_green4", "pale_turquoise4", "steel_blue",
  "steel_blue3", "cornflower_blue", "chartreuse3", "cadet_blue", "sky_blue3", "steel_blue1",
  "pale_green3", "sea_green3", "aquamarine3", "medium_turquoise", "chartreuse2", "sea_green2",
  "sea_green1", "aquamarine1", "dark_slate_gray2", "dark_magenta", "dark_violet", "purple",
  "light_pink4", "plum4", "medium_purple3", "slate_blue1", "yellow4", "wheat4", "grey53", "gray53",
  "light_slate_grey", "light_slate_gray", "medium_purple", "light_slate_blue", "dark_olive_green3",
  "dark_sea_green", "light_sky_blue3", "sky_blue2", "dark_sea_green3", "dark_slate_gray3",
  "sky_blue1", "chartreuse1", "light_green", "pale_green1", "dark_slate_gray1", "red3",
  "medium_violet_red", "magenta3", "dark_orange3", "indian_red", "hot_pink3", "medium_orchid3",
  "medium_orchid", "medium_purple2", "dark_goldenrod", "light_salmon3", "rosy_brown", "grey63",
  "gray63", "medium_purple1", "gold3", "dark_khaki", "navajo_white3", "grey69", "gray69",
  "light_steel_blue3", "light_steel_blue", "yellow3", "dark_sea_green2", "light_cyan3",
  "light_sky_blue1", "green_yellow", "dark_olive_green2", "dark_sea_green1", "pale_turquoise1",
  "deep_pink3", "magenta2", "hot_pink2", "orchid", "medium_orchid1", "orange3", "light_pink3",
  "pink3", "plum3", "violet", "light_goldenrod3", "tan", "misty_rose3", "thistle3", "plum2",
  "khaki3", "light_goldenrod2", "light_yellow3", "grey84", "gray84", "light_steel_blue1",
  "yellow2", "dark_olive_green1", "honeydew2", "light_cyan1", "red1", "deep_pink2", "deep_pink1",
  "magenta1", "orange_red1", "indian_red1", "hot_pink", "dark_orange", "salmon1", "light_coral",
  "pale_violet_red1", "orchid2", "orchid1", "orange1", "sandy_brown", "light_salmon1",
  "light_pink1", "pink1", "plum1", "gold1", "navajo_white1", "misty_rose1", "thistle1", "yellow1",
  "light_goldenrod1", "khaki1", "wheat1", "cornsilk1", "grey100", "gray100", "grey3", "gray3",
  "grey7", "gray7", "grey11", "gray11", "grey15", "gray15", "grey19", "gray19", "grey23", "gray23",
  "grey27", "gray27", "grey30", "gray30", "grey35", "gray35", "grey39", "gray39", "grey42",
  "gray42", "grey46", "gray46", "grey50", "gray50", "grey54", "gray54", "grey58", "gray58",
  "grey62", "gray62", "grey66", "gray66", "grey70", "gray70", "grey74", "gray74", "grey78",
  "gray78", "grey82", "gray82", "grey85", "gray85", "grey89", "gray89", "grey93", "gray93"]

/-- Why a text is not a style: it breaks the rules of styles, or an `rgb` component is no
number (the error's message). -/
inductive StyleFault where
  | malformed
  | notANumber (message : String)

/-- Digits of any script, at least one. -/
def allDecimal (cs : List Char) : Bool := !cs.isEmpty && cs.all Text.isDecimal

/-- The value of digits of any script. -/
def decimalValue (cs : List Char) : Nat :=
  cs.foldl (fun acc c => acc * 10 + (Text.decimalValue c).getD 0) 0

/-- Check a color word, already in lower case. -/
def checkColor (word : String) : Except StyleFault Unit :=
  let cs := word.toList
  let hex := fun (c : Char) => ('0' ≤ c && c ≤ '9') || ('a' ≤ c && c ≤ 'f')
  if word == "default" || colorNames.contains word then .ok ()
  else match cs with
    | '#' :: rest => if rest.length == 6 && rest.all hex then .ok () else .error .malformed
    | 'c' :: 'o' :: 'l' :: 'o' :: 'r' :: '(' :: rest =>
      let ds := rest.dropLast
      if rest.getLast? == some ')' && 1 ≤ ds.length && ds.length ≤ 3 && ds.all Char.isDigit then
        if decimalValue ds > 255 then .error .malformed else .ok ()
      else .error .malformed
    | 'r' :: 'g' :: 'b' :: '(' :: rest =>
      let inner := rest.dropLast
      if rest.getLast? == some ')' && !inner.isEmpty &&
          inner.all (fun c => Text.isDecimal c || c == ',') then
        match inner.splitOn ',' with
        | [r, g, b] =>
          if r.isEmpty || g.isEmpty || b.isEmpty then
            .error (.notANumber "invalid literal for int() with base 10: ''")
          else if [r, g, b].all (fun p => decimalValue p ≤ 255) then .ok ()
          else .error .malformed
        | _ => .error .malformed
      else .error .malformed
    | _ => .error .malformed

/-- A style read so far: the attributes set (on or off), the color, the background color
and the address, each the last one given. -/
structure StyleParts where
  attributes : List (String × Bool)
  color : Option String
  background : Option String
  link : Option String

/-- Set an attribute on or off, replacing an earlier setting. -/
def StyleParts.set (p : StyleParts) (name : String) (on : Bool) : StyleParts :=
  { p with attributes := (name, on) :: p.attributes.filter (·.1 != name) }

/-- The lower case of a text. -/
def lower (s : String) : String := String.ofList (Text.lowerText s.toList)

/-- Read the words of a style. -/
def readStyleWords (p : StyleParts) : List String → Except StyleFault StyleParts
  | [] => .ok p
  | original :: rest =>
    let word := lower original
    if word == "on" then
      match rest with
      | [] => .error .malformed
      | next :: more => do
        checkColor (lower next)
        readStyleWords { p with background := some (lower next) } more
    else if word == "not" then
      match rest with
      | [] => .error .malformed
      | next :: more =>
        match attributeOf? next with
        | some a => readStyleWords (p.set a false) more
        | none => .error .malformed
    else if word == "link" then
      match rest with
      | [] => .error .malformed
      | next :: more => readStyleWords { p with link := some next } more
    else
      match attributeOf? word with
      | some a => readStyleWords (p.set a true) rest
      | none => do
        checkColor word
        readStyleWords { p with color := some word } rest

/-- The normal form of a style read from its parts. -/
def StyleParts.render (p : StyleParts) : String :=
  let attrs := attributeOrder.filterMap fun a =>
    (p.attributes.lookup a).map fun on => if on then a else "not " ++ a
  let color := match p.color with
    | some c => [c]
    | none => []
  let background := match p.background with
    | some c => ["on", c]
    | none => []
  let link := match p.link with
    | some l => if l.isEmpty then [] else ["link", l]
    | none => []
  let words := attrs ++ color ++ background ++ link
  if words.isEmpty then "none" else " ".intercalate words

/-- The normal form of a style definition, or why it is none. -/
def parseStyle (definition : String) : Except StyleFault String :=
  let cs := definition.toList
  if definition.isEmpty || String.ofList (Text.trimBlank cs) == "none" then .ok "none"
  else
    let words := (Text.blankWords cs).map String.ofList
    (readStyleWords ⟨[], none, none, none⟩ words).map StyleParts.render

/-- The normal form of a text as a style: the normal form of the style it defines, or the
text trimmed and in lower case when it defines none. Gives the message of an `rgb`
component that is no number. -/
def normalizeStyle (name : String) : Except String String :=
  match parseStyle name with
  | .ok s => .ok s
  | .error .malformed => .ok (lower (String.ofList (Text.trimBlank name.toList)))
  | .error (.notANumber m) => .error m

end PineCheck.Console
