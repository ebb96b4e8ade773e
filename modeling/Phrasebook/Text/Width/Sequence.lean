import Phrasebook.Text.Width.Emoji
import Phrasebook.Text.Width.Single

/-! The number of columns that a text takes in a terminal. Some characters are drawn together with
what follows them, so a text is measured from its end, and the context says what the next character
meets there.
-/

namespace Phrasebook.Text.Width

/-- What the text after a character begins with, as far as the width of the character depends on it.
-/
inductive Follower where
  | other
  | lineFeed
  | alef
  | lamed (joined : Bool)
  | ya (joined : Bool)
  | yaAfterVowel
  | tifinagh (joined : Bool)
  | tifinaghJoiner
  | lisuTone
  | orkhonI (joined : Bool)
  | khmerLetter
  | kiratE
  | kiratAi
  | picture
  | modifier
  | flagLetter
  | flagLetters
  | joinedPicture
  | joinedKeycap
  | joinedFlagLetter
  | joinedFlags
  | joinedFlagsAndLetter
  | tagLetters (count : Nat)
  | tagDigits (count : Nat)
  deriving DecidableEq

/-- What the next character meets: a follower, and the selectors before it. -/
structure Context where
  follower : Follower
  pictureStyle : Bool
  textStyle : Bool
  wideQuote : Bool
  deriving DecidableEq

/-- The context of a follower without selectors. -/
def Context.of (follower : Follower) : Context :=
  ⟨follower, false, false, false⟩

/-- The context at the end of a text. -/
def Context.empty : Context :=
  .of .other

/-- Whether the follower is a letter that can be drawn together with letters before it. -/
def Follower.isLetter : Follower → Bool
  | .alef | .lamed _ | .ya _ | .yaAfterVowel | .tifinagh _ | .tifinaghJoiner | .lisuTone
  | .orkhonI _ | .khmerLetter => true
  | _ => false

/-- Whether the follower is a joiner before a picture. -/
def Follower.isJoined : Follower → Bool
  | .joinedPicture | .joinedKeycap => true
  | _ => false

/-- The follower with a joiner before it. -/
def Follower.join : Follower → Follower
  | .lamed _ => .lamed true
  | .ya _ => .ya true
  | .tifinagh _ => .tifinagh true
  | .orkhonI _ => .orkhonI true
  | follower => follower

/-- Whether c is Lam, or one of the letters made from it. -/
def isLam (c : Char) : Bool :=
  inRanges [(0x644, 0x644), (0x6B5, 0x6B8), (0x76A, 0x76A), (0x8A6, 0x8A6), (0x8C7, 0x8C7)] c

/-- Whether c is Alef, or one of the letters made from it. -/
def isAlef (c : Char) : Bool :=
  inRanges [(0x622, 0x623), (0x625, 0x625), (0x627, 0x627), (0x671, 0x673), (0x675, 0x675),
    (0x773, 0x774), (0x870, 0x882)] c

/-- Whether c is a Khmer letter that can stand below another one. -/
def isKhmerLetter (c : Char) : Bool :=
  inRanges [(0x1780, 0x1782), (0x1784, 0x1787), (0x1789, 0x178C), (0x178E, 0x1793),
    (0x1795, 0x1798), (0x179B, 0x179D), (0x17A0, 0x17A0), (0x17A2, 0x17A2), (0x17A7, 0x17A7),
    (0x17AB, 0x17AC), (0x17AF, 0x17AF)] c

/-- Whether c is a consonant of Tifinagh. -/
def isTifinagh (c : Char) : Bool :=
  inRanges [(0x2D31, 0x2D65), (0x2D6F, 0x2D6F)] c

/-- Whether c is a quotation mark that a selector can make wide. -/
def isQuote (c : Char) : Bool :=
  inRanges [(0x2018, 0x2019), (0x201C, 0x201D)] c

/-- Whether c is a mark that has no effect on how the letters around it are joined. -/
def isIgnoredMark (c : Char) : Bool :=
  inRanges [(0x34F, 0x34F), (0x17B4, 0x17B5), (0x180B, 0x180D), (0x180F, 0x180F),
    (0xFE00, 0xFE0F), (0xE0100, 0xE01EF)] c

/-- Whether c is a letter in the name of a region after a black flag. -/
def isTagLetter (c : Char) : Bool :=
  inRanges [(0xE0061, 0xE007A)] c

/-- Whether c is a digit in the name of a region after a black flag. -/
def isTagDigit (c : Char) : Bool :=
  inRanges [(0xE0030, 0xE0039)] c

/-- What c is for the character before it. -/
def followerOf (c : Char) : Follower :=
  if c.toNat = 0x5DC then .lamed false
  else if isAlef c then .alef
  else if isKhmerLetter c then .khmerLetter
  else if c.toNat = 0x1A10 then .ya false
  else if isTifinagh c then .tifinagh false
  else if inRanges [(0xA4FC, 0xA4FD)] c then .lisuTone
  else if c.toNat = 0x10C03 then .orkhonI false
  else if c.toNat = 0x16D67 then .kiratE
  else if c.toNat = 0x16D68 then .kiratAi
  else if isFlagLetter c then .flagLetter
  else if isModifier c then .modifier
  else if isEmoji c then .picture
  else .other

/-- The picture that a joiner stands before, when the character is drawn as part of it: a keycap, a
flag, a body with a modifier, the end of a region's name, or another picture.
-/
def joinPicture? (c : Char) : Option (Int × Follower) :=
  if c.toNat = 0x20E3 then some (0, .joinedKeycap)
  else if isFlagLetter c then some (1, .joinedFlagLetter)
  else if isModifier c then some (0, .modifier)
  else if c.toNat = 0xE007F then some (0, .tagLetters 0)
  else if isEmoji c then some (0, .picture)
  else none

/-- Reads the name of a region backwards: three to six letters, or three digits after at most four
letters, before which there is a black flag.
-/
def readTag? (c : Char) : Follower → Option (Int × Follower)
  | .tagLetters count =>
      if isTagLetter c && count < 6 then some (0, .tagLetters (count + 1))
      else if isTagDigit c && count ≤ 4 then some (0, .tagDigits 1)
      else if c.toNat = 0x1F3F4 && 3 ≤ count then some (0, .picture)
      else none
  | .tagDigits count =>
      if isTagDigit c && count < 3 then some (0, .tagDigits (count + 1))
      else if c.toNat = 0x1F3F4 && count = 3 then some (0, .picture)
      else none
  | _ => none

/-- The width of c if it is drawn together with the follower, less what the follower took for
itself, and what both are for the character before them.
-/
def draw? (c : Char) : Follower → Option (Int × Follower)
  | .alef =>
      if isLam c then some (0, .other) else if isTransparent c then some (0, .alef) else none
  | .lamed true => if c.toNat = 0x5D0 then some (0, .other) else none
  | .ya true => if c.toNat = 0x1A17 then some (0, .yaAfterVowel) else none
  | .yaAfterVowel => if c.toNat = 0x1A15 then some (0, .other) else none
  | .tifinagh joined =>
      if c.toNat = 0x2D7F then some (1, .tifinaghJoiner)
      else if joined && isTifinagh c then some (0, .other)
      else none
  | .tifinaghJoiner => if isTifinagh c then some (-1, .other) else none
  | .lisuTone => if inRanges [(0xA4F8, 0xA4FB)] c then some (0, .other) else none
  | .orkhonI true => if c.toNat = 0x10C32 then some (0, .other) else none
  | .khmerLetter => if c.toNat = 0x17D2 then some (-1, .other) else none
  | .kiratE =>
      if c.toNat = 0x16D63 || c.toNat = 0x16D69 then some (0, .other)
      else if c.toNat = 0x16D67 then some (0, .kiratAi)
      else if c.toNat = 0x16D68 then some (1, .kiratE)
      else none
  | .kiratAi => if c.toNat = 0x16D63 then some (0, .other) else none
  | .picture => if c = '\u200D' then some (0, .joinedPicture) else none
  | .modifier =>
      if c = '\u200D' then some (0, .joinedPicture)
      else if takesModifier c then some (0, .picture)
      else none
  | .flagLetter => if isFlagLetter c then some (1, .flagLetters) else none
  | .flagLetters =>
      if c = '\u200D' then some (0, .joinedPicture)
      else if isFlagLetter c then some (1, .flagLetters)
      else none
  | .joinedPicture => joinPicture? c
  | .joinedFlagLetter => if isFlagLetter c then some (-1, .joinedFlags) else none
  | .joinedFlags =>
      if c = '\u200D' then some (0, .joinedPicture)
      else if isFlagLetter c then some (3, .joinedFlagsAndLetter)
      else none
  | .joinedFlagsAndLetter =>
      if c = '\u200D' then some (0, .joinedPicture)
      else if isFlagLetter c then some (-1, .joinedFlags)
      else none
  | follower => readTag? c follower

/-- Puts a selector before the follower. Only letters, and joined pictures if the selector asks for
a picture, are still seen through it.
-/
def Context.select? (context : Context) (c : Char) : Option Context :=
  let seen := if context.follower.isLetter then context else .empty
  if c = '\uFE0F' then
    some { (if context.follower.isJoined then context else seen) with pictureStyle := true }
  else if c = '\uFE0E' then some { seen with textStyle := true }
  else if c = '\uFE01' then some { seen with wideQuote := true }
  else none

/-- Forgets the wish for a picture, which only letters are seen through. -/
def Context.dropPictureStyle (context : Context) : Context :=
  if !context.pictureStyle then context
  else if context.follower.isLetter then { context with pictureStyle := false }
  else .empty

/-- Forgets the wish for a text, or else the one for a wide quotation mark. -/
def Context.dropTextStyle (context : Context) : Context :=
  if context.textStyle then { context with textStyle := false }
  else { context with wideQuote := false }

/-- The columns that c adds before a context without styles that it could take, and the context
before it. Letters are joined through marks that are not shown.
-/
def Context.draw (context : Context) (c : Char) : Int × Context :=
  let drawn := if context.wideQuote then none else draw? c context.follower
  if context.follower.isLetter && context.follower != .alef && c = '\u200D' then
    (0, { context with follower := context.follower.join })
  else if context.follower.isLetter && context.follower != .alef && isIgnoredMark c then
    (0, context)
  else
    match drawn with
    | some (columns, follower) => (columns, .of follower)
    | none => (ofChar c, .of (followerOf c))

/-- The columns that c adds before a context, and the context before it. A control takes one column,
and so do a carriage return and a line feed together.
-/
def Context.step (context : Context) (c : Char) : Int × Context :=
  if context.pictureStyle && takesPictureStyle c then
    (if context.follower.isJoined then 0 else 2, .of .picture)
  else
    let context := context.dropPictureStyle
    if c ≤ '\u00A0' then
      if c = '\n' then (1, .of .lineFeed)
      else (if c = '\r' && context.follower = .lineFeed then 0 else 1, .empty)
    else
      match context.select? c with
      | some selected => (0, selected)
      | none =>
          if context.textStyle && takesTextStyle c then (1, .empty)
          else if !context.textStyle && context.wideQuote && isQuote c then (2, .empty)
          else context.dropTextStyle.draw c

end Phrasebook.Text.Width

namespace Phrasebook.Text

/-- The columns of the characters, and what a character before them meets. -/
def measure (text : List Char) : Int × Width.Context :=
  text.foldr
    (fun c (columns, context) =>
      let (more, before) := context.step c
      (columns + more, before))
    (0, .empty)

/-- The columns that the text takes. -/
def width (text : String) : Nat :=
  (measure text.toList).1.toNat

end Phrasebook.Text
