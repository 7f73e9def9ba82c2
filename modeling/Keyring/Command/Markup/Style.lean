import Keyring.Text.Blank
import Keyring.Text.Digit
import Keyring.Text.Hex
import Keyring.Text.Integer
import Keyring.Text.Lower

/-!
# Styles

A style is described in words: attributes such as `bold` or `not b`, a colour, `on` and the colour
behind the text, `link` and an address. Descriptions of one style differ in order, in the short
names of attributes and in the case of letters; `Style.text` is the one that stands for all of them.

`Style.normal` is by what a tag is known: that description, or the words in small letters if they
describe no style.
-/

namespace Keyring.Markup

structure Style where
  /-- The attributes turned on or off, by their full names, the last one first. -/
  attributes : List (String × Bool) := []
  color : Option (List Char) := none
  background : Option (List Char) := none
  link : Option (List Char) := none

namespace Style

def attributeNames : List (String × Option String) :=
  [("bold", some "b"), ("dim", some "d"), ("italic", some "i"), ("underline", some "u"),
    ("blink", none), ("blink2", none), ("reverse", some "r"), ("conceal", some "c"),
    ("strike", some "s"), ("underline2", some "uu"), ("frame", none), ("encircle", none),
    ("overline", some "o")]

def attribute? (word : List Char) : Option String :=
  (attributeNames.find? fun a => a.1.toList = word ∨ a.2.map String.toList = some word).map (·.1)

def colorNames : List String :=
  "default
black red green yellow blue magenta cyan white bright_black bright_red bright_green
bright_yellow bright_blue bright_magenta bright_cyan bright_white grey0 gray0 navy_blue
dark_blue blue3 blue1 dark_green deep_sky_blue4 dodger_blue3 dodger_blue2 green4 spring_green4
turquoise4 deep_sky_blue3 dodger_blue1 green3 spring_green3 dark_cyan light_sea_green
deep_sky_blue2 deep_sky_blue1 spring_green2 cyan3 dark_turquoise turquoise2 green1
spring_green1 medium_spring_green cyan2 cyan1 dark_red deep_pink4 purple4 purple3 blue_violet
orange4 grey37 gray37 medium_purple4 slate_blue3 royal_blue1 chartreuse4 dark_sea_green4
pale_turquoise4 steel_blue steel_blue3 cornflower_blue chartreuse3 cadet_blue sky_blue3
steel_blue1 pale_green3 sea_green3 aquamarine3 medium_turquoise chartreuse2 sea_green2
sea_green1 aquamarine1 dark_slate_gray2 dark_magenta dark_violet purple light_pink4 plum4
medium_purple3 slate_blue1 yellow4 wheat4 grey53 gray53 light_slate_grey light_slate_gray
medium_purple light_slate_blue dark_olive_green3 dark_sea_green light_sky_blue3 sky_blue2
dark_sea_green3 dark_slate_gray3 sky_blue1 chartreuse1 light_green pale_green1
dark_slate_gray1 red3 medium_violet_red magenta3 dark_orange3 indian_red hot_pink3
medium_orchid3 medium_orchid medium_purple2 dark_goldenrod light_salmon3 rosy_brown grey63
gray63 medium_purple1 gold3 dark_khaki navajo_white3 grey69 gray69 light_steel_blue3
light_steel_blue yellow3 dark_sea_green2 light_cyan3 light_sky_blue1 green_yellow
dark_olive_green2 dark_sea_green1 pale_turquoise1 deep_pink3 magenta2 hot_pink2 orchid
medium_orchid1 orange3 light_pink3 pink3 plum3 violet light_goldenrod3 tan misty_rose3
thistle3 plum2 khaki3 light_goldenrod2 light_yellow3 grey84 gray84 light_steel_blue1 yellow2
dark_olive_green1 honeydew2 light_cyan1 red1 deep_pink2 deep_pink1 magenta1 orange_red1
indian_red1 hot_pink dark_orange salmon1 light_coral pale_violet_red1 orchid2 orchid1 orange1
sandy_brown light_salmon1 light_pink1 pink1 plum1 gold1 navajo_white1 misty_rose1 thistle1
yellow1 light_goldenrod1 khaki1 wheat1 cornsilk1 grey100 gray100 grey3 gray3 grey7 gray7
grey11 gray11 grey15 gray15 grey19 gray19 grey23 gray23 grey27 gray27 grey30 gray30 grey35
gray35 grey39 gray39 grey42 gray42 grey46 gray46 grey50 gray50 grey54 gray54 grey58 gray58
grey62 gray62 grey66 gray66 grey70 gray70 grey74 gray74 grey78 gray78 grey82 gray82 grey85
gray85 grey89 gray89 grey93 gray93".splitOn "\n" |>.flatMap fun l => l.splitOn " "

inductive Flaw where
  | unknown
  /-- A component of a colour that is no number. -/
  | component

def isHexDigit (c : Char) : Bool := (Text.Hex.digit? c).isSome

def isAsciiDigit (c : Char) : Bool := '0' ≤ c && c ≤ '9'

/-- The number of a colour's component, of digits of any script. -/
def component (ds : List Char) : Except Flaw Nat :=
  if ds.isEmpty || Text.Integer.maxDigits < ds.length then .error .component
  else .ok (ds.foldl (fun n c => 10 * n + (Text.digit? c).getD 0) 0)

/-- Whether three components, read one after the other, are in range. -/
def components (cs : List Char) : Except Flaw Bool := do
  match Text.splitOn ',' cs with
  | [r, g, b] =>
    let r ← component r
    let g ← component g
    let b ← component b
    .ok (r ≤ 255 && g ≤ 255 && b ≤ 255)
  | _ => .ok false

/-- What stands between `name`, an opening and a closing bracket, if the word has that form. -/
def inside? (name : String) (word : List Char) : Option (List Char) :=
  let head := (name ++ "(").toList
  if head.isPrefixOf word && word.getLast? = some ')' then
    some ((word.drop head.length).dropLast)
  else none

def isColor (word : List Char) : Except Flaw Bool :=
  if colorNames.contains (String.ofList word) then .ok true
  else
    match word, inside? "color" word, inside? "rgb" word with
    | '#' :: ds, _, _ => .ok (ds.length = 6 ∧ ds.all isHexDigit)
    | _, some ds, _ =>
      if ds.all isAsciiDigit && 0 < ds.length && ds.length ≤ 3 then
        (component ds).map fun n => decide (n ≤ 255)
      else .ok false
    | _, _, some ds =>
      if !ds.isEmpty && ds.all fun c => c = ',' || (Text.digit? c).isSome then components ds
      else .ok false
    | _, _, _ => .ok false

def colorOf (word : List Char) : Except Flaw (List Char) := do
  let word := Text.lower word
  if ← isColor word then .ok word else .error .unknown

def ofWords (s : Style) : List (List Char) → Except Flaw Style
  | [] => .ok s
  | word :: rest =>
    let word := Text.lower word
    if word = "on".toList then
      match rest with
      | [] => .error .unknown
      | word :: rest => do ofWords { s with background := some (← colorOf word) } rest
    else if word = "not".toList then
      match rest with
      | [] => .error .unknown
      | word :: rest =>
        match attribute? word with
        | none => .error .unknown
        | some a => ofWords { s with attributes := (a, false) :: s.attributes } rest
    else if word = "link".toList then
      match rest with
      | [] => .error .unknown
      | word :: rest => ofWords { s with link := some word } rest
    else
      match attribute? word with
      | some a => ofWords { s with attributes := (a, true) :: s.attributes } rest
      | none => do ofWords { s with color := some (← colorOf word) } rest

def ofText (cs : List Char) : Except Flaw Style :=
  if Text.strip cs = "none".toList then .ok {} else ofWords {} (Text.words cs)

def text (s : Style) : List Char :=
  let attributes := attributeNames.filterMap fun a =>
    (s.attributes.find? (·.1 = a.1)).map fun (name, on) =>
      (if on then name else "not " ++ name).toList
  let words := attributes ++ s.color.toList ++ (s.background.map ("on ".toList ++ ·)).toList
    ++ (s.link.map ("link ".toList ++ ·)).toList
  if words.isEmpty then "none".toList else [' '].intercalate words

/-- The name by which a tag is known, unless a component in it cannot be read. -/
def normal (cs : List Char) : Except Flaw (List Char) :=
  match ofText cs with
  | .ok s => .ok s.text
  | .error .unknown => .ok (Text.lower (Text.strip cs))
  | .error .component => .error .component

end Style

end Keyring.Markup
