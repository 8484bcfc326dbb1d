import CallWire.Text.Emoji
import CallWire.Text.Mark

/-!
What stands behind a character, as far as the columns of a line depend on it. A line is laid out
from its end, so what follows is known when a character is placed: a letter that makes a ligature
with it, or the rest of an emoji that is made of several characters.
-/

namespace CallWire

/-- Letters that can be the end of a ligature, or what is left of one when its end was placed. -/
inductive LigatureEnd
  | arabicAlef
  | hebrewLamed
  | bugineseYa
  | bugineseVowelI
  | tifinaghConsonant
  | tifinaghJoiner
  | lisuTone
  | turkicI
  | khmerLetter
  deriving DecidableEq, Repr

/-- Tags behind a flag, counted from the last one: letters first, and then digits. -/
inductive TagRun
  | letters (count : Nat)
  | digits (count : Nat)
  deriving DecidableEq, Repr

inductive Follower
  | plain
  | lineFeed
  | emoji
  | skinTone
  | flagLetter
  | flagLetters
  /-- An emoji behind a joiner, perhaps with a keycap, flag letters or tags in front of it. -/
  | joinedEmoji
  | joinedKeycap
  | joinedFlagLetter
  | joinedFlags
  | joinedFlagsAndLetter
  | joinedTags (run : TagRun)
  | kiratRaiE
  | kiratRaiAi
  /-- A ligature may begin here; some need a joiner in between. -/
  | ligature (last : LigatureEnd) (isJoined : Bool)
  deriving DecidableEq, Repr

def zeroWidthJoiner : Char := '\u200D'

def isArabicAlef (c : Char) : Bool :=
  CharRanges.holds [(0x622, 0x623), (0x625, 0x625), (0x627, 0x627), (0x671, 0x673), (0x675, 0x675),
    (0x773, 0x774), (0x870, 0x882)] c

def isArabicLam (c : Char) : Bool :=
  CharRanges.holds [(0x644, 0x644), (0x6b5, 0x6b8), (0x76a, 0x76a), (0x8a6, 0x8a6),
    (0x8c7, 0x8c7)] c

def isKhmerSubscript (c : Char) : Bool :=
  CharRanges.holds [(0x1780, 0x1782), (0x1784, 0x1787), (0x1789, 0x178c), (0x178e, 0x1793),
    (0x1795, 0x1798), (0x179b, 0x179d), (0x17a0, 0x17a0), (0x17a2, 0x17a2), (0x17a7, 0x17a7),
    (0x17ab, 0x17ac), (0x17af, 0x17af)] c

def isTifinaghConsonant (c : Char) : Bool :=
  CharRanges.holds [(0x2d31, 0x2d65), (0x2d6f, 0x2d6f)] c

def isTagLetter (c : Char) : Bool := 0xE0061 ≤ c.toNat && c.toNat ≤ 0xE007A

def isTagDigit (c : Char) : Bool := 0xE0030 ≤ c.toNat && c.toNat ≤ 0xE0039

namespace TagRun

/-- One more tag in front, if the tags can still belong to a flag. -/
def extend (run : TagRun) (c : Char) : Option TagRun :=
  match run with
  | letters count =>
    if isTagLetter c && count < 6 then some (letters (count + 1))
    else if isTagDigit c && count ≤ 4 then some (digits 1)
    else none
  | digits count => if isTagDigit c && count < 3 then some (digits (count + 1)) else none

/-- The tags name a region, so a flag can stand in front of them. -/
def isComplete : TagRun → Bool
  | letters count => 3 ≤ count
  | digits count => count == 3

end TagRun

namespace Follower

/-- What a character by itself is to the one before it. -/
def ofChar (c : Char) : Follower :=
  if c.toNat ≤ 0xA0 then
    if c = '\n' then lineFeed else plain
  else if isArabicAlef c then ligature .arabicAlef false
  else if c = '\u05DC' then ligature .hebrewLamed false
  else if isKhmerSubscript c then ligature .khmerLetter false
  else if c = '\u1A10' then ligature .bugineseYa false
  else if isTifinaghConsonant c then ligature .tifinaghConsonant false
  else if c = '\uA4FC' ∨ c = '\uA4FD' then ligature .lisuTone false
  else if c = Char.ofNat 0x10C03 then ligature .turkicI false
  else if c = Char.ofNat 0x16D67 then kiratRaiE
  else if c = Char.ofNat 0x16D68 then kiratRaiAi
  else if isFlagLetter c then flagLetter
  else if isSkinTone c then skinTone
  else if isEmoji c then emoji
  else plain

def isLigature : Follower → Bool
  | ligature .. => true
  | _ => false

/-- An emoji behind a joiner takes up the character that a selector makes an emoji. -/
def takesEmoji : Follower → Bool
  | joinedEmoji | joinedKeycap => true
  | _ => false

end Follower

/-- What a selector asks of the character in front of it. -/
inductive Selection
  | emoji
  | text
  | fullwidth
  deriving DecidableEq, Repr

def Selection.ofChar? (c : Char) : Option Selection :=
  if c = '\uFE0F' then some emoji
  else if c = '\uFE0E' then some text
  else if c = '\uFE01' then some fullwidth
  else none

/-- What stands behind a character: a follower, and selectors in front of that. -/
structure Context where
  follower : Follower := .plain
  asksEmoji : Bool := false
  asksText : Bool := false
  asksFullwidth : Bool := false
  deriving DecidableEq, Repr

namespace Context

/-- A selector hides what follows it, except that it stands neither between the parts of a
ligature nor, if it asks for an emoji, between joined emoji. -/
def select (selection : Selection) (context : Context) : Context :=
  let kept : Context :=
    if context.follower.isLigature || (selection == .emoji && context.follower.takesEmoji) then
      context
    else {}
  match selection with
  | .emoji => { kept with asksEmoji := true }
  | .text => { kept with asksText := true }
  | .fullwidth => { kept with asksFullwidth := true }

def withoutEmoji (context : Context) : Context :=
  if !context.asksEmoji then context
  else if context.follower.isLigature then { context with asksEmoji := false }
  else {}

/-- The character in front has neither a text form nor a fullwidth one; of two selectors only the
one for text is given up. -/
def withoutForm (context : Context) : Context :=
  if context.asksText then { context with asksText := false }
  else { context with asksFullwidth := false }

end Context
end CallWire
