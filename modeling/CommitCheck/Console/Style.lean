import CommitCheck.Number.Whole
import CommitCheck.Text.Case

/-!
# Names of styles

A tag of a console text names a style, and a closing tag closes the tag of the
same style.  One style has several names: attributes have short forms and can
come in any order with a colour.  `normalName?` gives the one name that all of
them share.  A name that is no style is its own, in small letters.

A colour can be given by its three parts, as in `rgb(0,0,0)`.  What has this form and a part
that is no number is garbled, and so is a style with such a word.
-/

namespace CommitCheck.Console

/-- The attributes of a style in their order, each with its names, the one that is
written first. -/
def attributes : List (List Text) := [["bold", "b"], ["dim", "d"], ["italic", "i"],
  ["underline", "u"], ["blink"], ["blink2"], ["reverse", "r"], ["conceal", "c"], ["strike", "s"],
  ["underline2", "uu"], ["frame"], ["encircle"], ["overline", "o"]]

/-- The colours that have a name. -/
def colorNames : List Text := ([
  "black", "red", "green", "yellow", "blue", "magenta", "cyan", "white", "bright_black",
  "bright_red", "bright_green", "bright_yellow", "bright_blue", "bright_magenta", "bright_cyan",
  "bright_white", "grey0", "gray0", "navy_blue", "dark_blue", "blue3", "blue1", "dark_green",
  "deep_sky_blue4", "dodger_blue3", "dodger_blue2", "green4", "spring_green4", "turquoise4",
  "deep_sky_blue3", "dodger_blue1", "green3", "spring_green3", "dark_cyan", "light_sea_green",
  "deep_sky_blue2", "deep_sky_blue1", "spring_green2", "cyan3", "dark_turquoise", "turquoise2",
  "green1", "spring_green1", "medium_spring_green", "cyan2", "cyan1", "dark_red", "deep_pink4",
  "purple4", "purple3", "blue_violet", "orange4", "grey37", "gray37", "medium_purple4",
  "slate_blue3", "royal_blue1", "chartreuse4", "dark_sea_green4", "pale_turquoise4",
  "steel_blue", "steel_blue3", "cornflower_blue", "chartreuse3", "cadet_blue", "sky_blue3",
  "steel_blue1", "pale_green3", "sea_green3", "aquamarine3", "medium_turquoise", "chartreuse2",
  "sea_green2", "sea_green1", "aquamarine1", "dark_slate_gray2", "dark_magenta", "dark_violet",
  "purple", "light_pink4", "plum4", "medium_purple3", "slate_blue1", "yellow4", "wheat4",
  "grey53", "gray53", "light_slate_grey", "light_slate_gray", "medium_purple",
  "light_slate_blue", "dark_olive_green3", "dark_sea_green", "light_sky_blue3", "sky_blue2",
  "dark_sea_green3", "dark_slate_gray3", "sky_blue1", "chartreuse1", "light_green",
  "pale_green1", "dark_slate_gray1", "red3", "medium_violet_red", "magenta3", "dark_orange3",
  "indian_red", "hot_pink3", "medium_orchid3", "medium_orchid", "medium_purple2",
  "dark_goldenrod", "light_salmon3", "rosy_brown", "grey63", "gray63", "medium_purple1", "gold3",
  "dark_khaki", "navajo_white3", "grey69", "gray69", "light_steel_blue3", "light_steel_blue",
  "yellow3", "dark_sea_green2", "light_cyan3", "light_sky_blue1", "green_yellow",
  "dark_olive_green2", "dark_sea_green1", "pale_turquoise1", "deep_pink3", "magenta2",
  "hot_pink2", "orchid", "medium_orchid1", "orange3", "light_pink3", "pink3", "plum3", "violet",
  "light_goldenrod3", "tan", "misty_rose3", "thistle3", "plum2", "khaki3", "light_goldenrod2",
  "light_yellow3", "grey84", "gray84", "light_steel_blue1", "yellow2", "dark_olive_green1",
  "honeydew2", "light_cyan1", "red1", "deep_pink2", "deep_pink1", "magenta1", "orange_red1",
  "indian_red1", "hot_pink", "dark_orange", "salmon1", "light_coral", "pale_violet_red1",
  "orchid2", "orchid1", "orange1", "sandy_brown", "light_salmon1", "light_pink1", "pink1",
  "plum1", "gold1", "navajo_white1", "misty_rose1", "thistle1", "yellow1", "light_goldenrod1",
  "khaki1", "wheat1", "cornsilk1", "grey100", "gray100", "grey3", "gray3", "grey7", "gray7",
  "grey11", "gray11", "grey15", "gray15", "grey19", "gray19", "grey23", "gray23", "grey27",
  "gray27", "grey30", "gray30", "grey35", "gray35", "grey39", "gray39", "grey42", "gray42",
  "grey46", "gray46", "grey50", "gray50", "grey54", "gray54", "grey58", "gray58", "grey62",
  "gray62", "grey66", "gray66", "grey70", "gray70", "grey74", "gray74", "grey78", "gray78",
  "grey82", "gray82", "grey85", "gray85", "grey89", "gray89", "grey93", "gray93"] :
    List String).map String.toList

/-! ## Colours -/

/-- Whether a text is a number of one to three digits. -/
def isShortNumber (t : Text) : Bool := !t.isEmpty && t.length ≤ 3 && t.all Char.isDigit

/-- What stands between a start and a closing parenthesis at the end, if a text is
of that form. -/
def argument? (start t : Text) : Option Text :=
  match after? start t with
  | none => none
  | some rest => if rest.getLast? == some ')' then some rest.dropLast else none

/-- Whether a text is a colour by six hexadecimal digits. -/
def isHexColor (t : Text) : Bool :=
  match t with
  | '#' :: ds => ds.length == 6 && ds.all fun c => (hexValue? c).isSome && !c.isUpper
  | _ => false

/-- Whether a text is a colour by its place in a palette. -/
def isPaletteColor (t : Text) : Bool :=
  match argument? "color(" t with
  | some n => isShortNumber n && ofDigits n ≤ 255
  | none => false

/-- What a word is in the place of a colour. -/
inductive ColorWord where
  /-- A colour. -/
  | color
  /-- Something else. -/
  | other
  /-- A colour by its parts, one of which is no number. -/
  | garbled
deriving DecidableEq

/-- What parts of a colour make. -/
def ofParts (parts : List Text) : ColorWord :=
  if parts.length ≠ 3 then .other
  else match parts.mapM readWhole? with
    | none => .garbled
    | some ns => if ns.all (· ≤ 255) then .color else .other

/-- What a word is as a colour by its three parts. -/
def mixedColor (t : Text) : ColorWord :=
  match argument? "rgb(" t with
  | none => .other
  | some inner =>
      if inner.isEmpty || inner.any (fun c => c != ',' && (digitValue? c).isNone) then .other
      else ofParts (splitAt ',' inner)

/-- What a word in small letters is in the place of a colour. -/
def colorWord (t : Text) : ColorWord :=
  if t == "default".toList || colorNames.contains t || isHexColor t || isPaletteColor t then .color
  else mixedColor t

/-! ## Styles -/

/-- A style: its attributes that are set or unset, by place, and its colours and
link. -/
structure Style where
  /-- The attributes that are set or unset. -/
  attributes : List (Nat × Bool)
  /-- The colour of the text. -/
  color : Option Text
  /-- The colour behind the text. -/
  background : Option Text
  /-- The address that the text leads to. -/
  link : Option Text

/-- What the words of a style say. -/
inductive StyleReading where
  /-- They name a style. -/
  | style (s : Style)
  /-- One of them is no word of a style. -/
  | unknown
  /-- One of them is a garbled colour. -/
  | garbled

namespace Style

/-- The style that changes nothing. -/
def plain : Style := ⟨[], none, none, none⟩

/-- The style with an attribute set or unset. -/
def withAttribute (s : Style) (place : Nat) (b : Bool) : Style :=
  { s with attributes := (place, b) :: s.attributes }

/-- The place of the attribute that a word names. -/
def placeOf? (word : Text) : Option Nat := Console.attributes.findIdx? (·.contains word)

/-- The style that words name after the words of a style. -/
def ofWords : Style → List Text → StyleReading
  | s, [] => .style s
  | s, word :: rest =>
      let small := smallLetters word
      if small = "on" then
        match rest with
        | c :: rest => match colorWord (smallLetters c) with
            | .color => ofWords { s with background := some c } rest
            | .other => .unknown
            | .garbled => .garbled
        | [] => .unknown
      else if small = "not" then
        match rest with
        | a :: rest => match placeOf? a with
            | some p => ofWords (s.withAttribute p false) rest
            | none => .unknown
        | [] => .unknown
      else if small = "link" then
        match rest with
        | l :: rest => ofWords { s with link := some l } rest
        | [] => .unknown
      else match placeOf? small with
        | some p => ofWords (s.withAttribute p true) rest
        | none => match colorWord small with
            | .color => ofWords { s with color := some small } rest
            | .other => .unknown
            | .garbled => .garbled

/-- The words of an attribute of a style. -/
def attributeWords (s : Style) (place : Nat) (names : List Text) : List Text :=
  match s.attributes.lookup place with
  | none => []
  | some b => (if b then [] else (["not"] : List Text)) ++ names.take 1

/-- The words of a style in their order. -/
def words (s : Style) : List Text :=
  (Console.attributes.zipIdx.flatMap fun (names, place) => s.attributeWords place names) ++
    s.color.toList ++
    (match s.background with
      | none => []
      | some c => (["on", smallLetters c] : List Text)) ++
    (match s.link with
      | none => []
      | some l => (["link", l] : List Text))

end Style

/-- The words of a text, which blanks separate. -/
def wordsOf (t : Text) : List Text :=
  (splitAt ' ' (t.map fun c => if isBlank c then ' ' else c)).filter (!List.isEmpty ·)

/-- What a text says as the name of a style. -/
def styleOf (t : Text) : StyleReading := Style.ofWords .plain (wordsOf t)

/-- Whether a text is the name of a style with a garbled colour. -/
def isGarbled (t : Text) : Bool :=
  match styleOf t with
  | .garbled => true
  | _ => false

/-- The one name of the style that a text names, or the text in small letters if it
names none.  A garbled one has no name. -/
def normalName? (t : Text) : Option Text :=
  let t := trim t
  if t.isEmpty || t == "none".toList then some "none"
  else match styleOf t with
    | .garbled => none
    | .unknown => some (smallLetters t)
    | .style s => match s.words with
        | [] => some "none"
        | ws => some (joinWith [' '] ws)

example : normalName? "U B" = some ("bold underline" : Text) := by decide +kernel
example : normalName? "Not  Tag" = some ("not  tag" : Text) := by decide +kernel
example : mixedColor "rgb(1,,3)" = .garbled := by decide +kernel

end CommitCheck.Console
