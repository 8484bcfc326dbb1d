import CallWire.Text.Follower
import CallWire.Text.Wide

/-!
How many columns of a terminal a text takes. A character by itself takes one, two if it is wide,
and none if it joins another character; ligatures, emoji of several characters and selectors
differ from the sum of their parts.
-/

namespace CallWire

/-- Signs that take no column though they are neither marks nor ignorable: vowels and final
consonants of Hangul, and signs in front of the character that they join. -/
def joiningRanges : CharRanges :=
  [(0x605, 0x605), (0x70f, 0x70f), (0x890, 0x891), (0x8e2, 0x8e2), (0xd4e, 0xd4e),
    (0x1160, 0x11ff), (0xa8fa, 0xa8fa), (0xd7b0, 0xd7c6), (0xd7cb, 0xd7fb), (0x111c2, 0x111c3),
    (0x113d1, 0x113d1), (0x1193f, 0x1193f), (0x11941, 0x11941), (0x11a84, 0x11a89),
    (0x11d46, 0x11d46), (0x11f02, 0x11f02)]

/-- The filler for a first consonant of Hangul keeps its place, and the joiner of Tifinagh is
drawn where it joins nothing. -/
def isWidthless (c : Char) : Bool :=
  (isMark c || isIgnorable c || joiningRanges.holds c) && c != '\u115F' && c != '\u2D7F'

def columnsOfChar (c : Char) : Nat :=
  if c.toNat ≤ 0xA0 then 1
  else if c = '\u17D8' then 3
  else if c = '\u17A4' then 2
  else if isWidthless c then 0
  else if isWide c then 2
  else 1

/-- Widthless characters that Arabic letters do not join across. -/
def opaqueRanges : CharRanges :=
  [(0x605, 0x605), (0x890, 0x891), (0x8e2, 0x8e2), (0x9be, 0x9be), (0x9d7, 0x9d7), (0xb3e, 0xb3e),
    (0xb57, 0xb57), (0xbbe, 0xbbe), (0xbd7, 0xbd7), (0xcc0, 0xcc0), (0xcc2, 0xcc2), (0xcc7, 0xcc8),
    (0xcca, 0xccb), (0xcd5, 0xcd6), (0xd3e, 0xd3e), (0xd4e, 0xd4e), (0xd57, 0xd57), (0xdcf, 0xdcf),
    (0xddf, 0xddf), (0x1160, 0x11ff), (0x1715, 0x1715), (0x1734, 0x1734), (0x180e, 0x180e),
    (0x1b35, 0x1b35), (0x1b3b, 0x1b3b), (0x1b3d, 0x1b3d), (0x1b43, 0x1b44), (0x1baa, 0x1baa),
    (0x1bf2, 0x1bf3), (0x200c, 0x200d), (0x2065, 0x2069), (0x302e, 0x302f), (0x3164, 0x3164),
    (0xa8fa, 0xa8fa), (0xa953, 0xa953), (0xa9c0, 0xa9c0), (0xd7b0, 0xd7c6), (0xd7cb, 0xd7fb),
    (0xffa0, 0xffa0), (0xfff0, 0xfff8), (0x111c0, 0x111c0), (0x111c2, 0x111c3), (0x11235, 0x11235),
    (0x1133e, 0x1133e), (0x1134d, 0x1134d), (0x11357, 0x11357), (0x113b8, 0x113b8),
    (0x113c2, 0x113c2), (0x113c5, 0x113c5), (0x113c7, 0x113c9), (0x113cf, 0x113cf),
    (0x113d1, 0x113d1), (0x114b0, 0x114b0), (0x114bd, 0x114bd), (0x115af, 0x115af),
    (0x116b6, 0x116b6), (0x11930, 0x11930), (0x1193d, 0x1193d), (0x1193f, 0x1193f),
    (0x11941, 0x11941), (0x11a84, 0x11a89), (0x11d46, 0x11d46), (0x11f02, 0x11f02),
    (0x11f41, 0x11f41), (0x16ff0, 0x16ff1), (0x1d165, 0x1d166), (0x1d16d, 0x1d172),
    (0xe0000, 0xe0000), (0xe0002, 0xe001f), (0xe0080, 0xe00ff), (0xe01f0, 0xe0fff)]

/-- Arabic letters join across these. -/
def isTransparent (c : Char) : Bool := columnsOfChar c == 0 && !opaqueRanges.holds c

/-- Ignorable marks, which may stand anywhere in a ligature. -/
def isLigatureTransparent (c : Char) : Bool :=
  CharRanges.holds [(0x34f, 0x34f), (0x17b4, 0x17b5), (0x180b, 0x180d), (0x180f, 0x180f),
    (0xfe00, 0xfe0f), (0xe0100, 0xe01ef)] c

def isQuotationMark (c : Char) : Bool :=
  c == '\u2018' || c == '\u2019' || c == '\u201C' || c == '\u201D'

/-- What a character adds to the columns of the line behind it, and what follows the character
before it then. -/
structure Placement where
  columns : Int
  context : Context := {}

def Placement.alone (c : Char) : Placement := ⟨columnsOfChar c, { follower := .ofChar c }⟩

def Placement.joined (columns : Int) (follower : Follower) : Placement := ⟨columns, { follower }⟩

/-- The ligature of a character with the letter behind it. -/
def LigatureEnd.join? (last : LigatureEnd) (isJoined : Bool) (c : Char) : Option Placement :=
  match last with
  | .arabicAlef =>
    if isArabicLam c then some (.joined 0 .plain)
    else if isTransparent c then some (.joined 0 (.ligature .arabicAlef isJoined))
    else none
  | .hebrewLamed => if isJoined && c == '\u05D0' then some (.joined 0 .plain) else none
  | .khmerLetter => if c = '\u17D2' then some (.joined (-1) .plain) else none
  | .bugineseYa =>
    if isJoined && c == '\u1A17' then some (.joined 0 (.ligature .bugineseVowelI true)) else none
  | .bugineseVowelI => if c = '\u1A15' then some (.joined 0 .plain) else none
  | .tifinaghConsonant =>
    if c = '\u2D7F' then some (.joined 1 (.ligature .tifinaghJoiner true))
    else if isJoined && isTifinaghConsonant c then some (.joined 0 .plain)
    else none
  | .tifinaghJoiner => if isTifinaghConsonant c then some (.joined (-1) .plain) else none
  | .lisuTone =>
    if CharRanges.holds [(0xa4f8, 0xa4fb)] c then some (.joined 0 .plain) else none
  | .turkicI => if isJoined && c == Char.ofNat 0x10C32 then some (.joined 0 .plain) else none

/-- What a character makes with the one behind it, if they make anything. Of emoji in a row the
last one has the columns; flag letters have one column each, and two of them in front of a joined
emoji none. -/
def Follower.join? (follower : Follower) (c : Char) : Option Placement :=
  let joiner? : Option Placement :=
    if c = zeroWidthJoiner then some (.joined 0 .joinedEmoji) else none
  let flag? (columns : Int) (follower : Follower) : Option Placement :=
    if isFlagLetter c then some (.joined columns follower) else none
  match follower with
  | .plain | .lineFeed => none
  | .ligature last isJoined => last.join? isJoined c
  | .kiratRaiE =>
    if c = Char.ofNat 0x16D63 ∨ c = Char.ofNat 0x16D69 then some (.joined 0 .plain)
    else if c = Char.ofNat 0x16D67 then some (.joined 0 .kiratRaiAi)
    else if c = Char.ofNat 0x16D68 then some (.joined 1 .kiratRaiE)
    else none
  | .kiratRaiAi => if c = Char.ofNat 0x16D63 then some (.joined 0 .plain) else none
  | .emoji => joiner?
  | .skinTone => if isPerson c then some (.joined 0 .emoji) else joiner?
  | .flagLetter => flag? 1 .flagLetters
  | .flagLetters => flag? 1 .flagLetters <|> joiner?
  | .joinedEmoji =>
    if c = '\u20E3' then some (.joined 0 .joinedKeycap)
    else if isFlagLetter c then some (.joined 1 .joinedFlagLetter)
    else if isSkinTone c then some (.joined 0 .skinTone)
    else if c = Char.ofNat 0xE007F then some (.joined 0 (.joinedTags (.letters 0)))
    else if isEmoji c then some (.joined 0 .emoji)
    else none
  | .joinedKeycap => none
  | .joinedFlagLetter => flag? (-1) .joinedFlags
  | .joinedFlags => flag? 3 .joinedFlagsAndLetter <|> joiner?
  | .joinedFlagsAndLetter => flag? (-1) .joinedFlags <|> joiner?
  | .joinedTags run =>
    if run.isComplete && c == Char.ofNat 0x1F3F4 then some (.joined 0 .emoji)
    else (run.extend c).map fun run => .joined 0 (.joinedTags run)

/-- Put a character that nothing was selected for in front of its follower. -/
def placeBefore (context : Context) (c : Char) : Placement :=
  let joinedOrAlone : Placement :=
    if context.asksFullwidth then .alone c
    else (context.follower.join? c).getD (.alone c)
  match context.follower with
  | .ligature .arabicAlef _ => joinedOrAlone
  | .ligature last _ =>
    if c = zeroWidthJoiner then ⟨0, { context with follower := .ligature last true }⟩
    else if isLigatureTransparent c then ⟨0, context⟩
    else joinedOrAlone
  | _ => joinedOrAlone

def place (context : Context) (c : Char) : Placement :=
  if context.asksEmoji && isSelectable c then
    .joined (if context.follower.takesEmoji then 0 else 2) .emoji
  else
    let context := context.withoutEmoji
    if c.toNat ≤ 0xA0 then
      if c = '\r' ∧ context.follower = .lineFeed then .joined 0 .plain else .alone c
    else
      match Selection.ofChar? c with
      | some selection => ⟨0, context.select selection⟩
      | none =>
        if context.asksText && isTextSelectable c then .joined 1 .plain
        else if !context.asksText && context.asksFullwidth && isQuotationMark c then
          .joined 2 .plain
        else placeBefore context.withoutForm c

def Placement.prepend (c : Char) (behind : Placement) : Placement :=
  let placed := place behind.context c
  ⟨behind.columns + placed.columns, placed.context⟩

def columns (text : String) : Nat :=
  (text.toList.foldr Placement.prepend ⟨0, {}⟩).columns.toNat

end CallWire
