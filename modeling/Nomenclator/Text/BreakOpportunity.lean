import Nomenclator.Unicode.LineBreakClass
import Nomenclator.Text.Basic

/-!
# Places where a line may be broken

Whether a line may be broken between two characters depends on their classes and on a little of what
stands before them. Marks count as a part of the character that they are put on. The rules are tried
in order: those on line ends, those on joiners, those that hold across blanks, the one that breaks
behind blanks, and those on neighbours. Between neighbours that no rule joins there may be a break.

Main definition: `breaksBehind`.
-/

namespace Nomenclator.Unicode.LineBreakClass

/-- A line ends behind the character. -/
def endsLine (k : LineBreakClass) : Bool :=
  k == .hardBreak || k == .carriageReturn || k == .lineFeed

/-- The character is put on the one before it. -/
def isMark (k : LineBreakClass) : Bool := k == .combining || k == .zeroWidthJoiner

/-- A letter of an alphabet. -/
def isLetter (k : LineBreakClass) : Bool := k == .letter || k == .hebrewLetter

/-- A sign or a picture as wide as an ideograph. -/
def isPicture (k : LineBreakClass) : Bool :=
  k == .ideographic || k == .emojiBase || k == .emojiModifier

/-- A sign that belongs to a number. -/
def isNumberSign (k : LineBreakClass) : Bool := k == .beforeNumber || k == .afterNumber

/-- A closing bracket of either kind. -/
def isClosing (k : LineBreakClass) : Bool := k == .closePunctuation || k == .closeParenthesis

/-- A Hangul syllable or a part of one. -/
def isHangul (k : LineBreakClass) : Bool :=
  k == .leadingJamo || k == .vowelJamo || k == .trailingJamo || k == .openSyllable
    || k == .closedSyllable

/-- The class as which a character counts by itself: a mark on nothing is a letter. -/
def alone (k : LineBreakClass) : LineBreakClass := if k.isMark then .letter else k

/-! ## Classes that stay together -/

/-- The two stay together even with blanks between them. -/
def bindsAcrossBlanks (a b : LineBreakClass) : Bool :=
  b == .wordJoiner || b.isClosing || b == .exclamation || b == .numericSeparator || b == .solidus
    || a == .openPunctuation
    || (a == .quotation && b == .openPunctuation)
    || (a.isClosing && b == .nonstarter)
    || (a == .breakAround && b == .breakAround)

/-- One of the two neighbours keeps the other at its side. -/
def isGlued (a b : LineBreakClass) : Bool :=
  a == .wordJoiner || a == .glue
    || (b == .glue && a != .breakAfter && a != .hyphen)
    || a == .quotation || b == .quotation

/-- The first neighbour does not end a line, or the second does not start one. -/
def clings (a b : LineBreakClass) : Bool :=
  b == .breakAfter || b == .hyphen || b == .nonstarter || b == .inseparable || a == .breakBefore
    || (a == .solidus && b == .hebrewLetter)

/-- The two neighbours belong to one number. -/
def bindsNumber (a b : LineBreakClass) : Bool :=
  (b == .numeric
      && (a.isNumberSign || a == .hyphen || a == .numericSeparator || a == .numeric
        || a == .solidus))
    || (b.isNumberSign && (a == .numeric || a.isClosing))
    || (b == .openPunctuation && a.isNumberSign)

/-- The two neighbours belong to one word. -/
def bindsWord (a b : LineBreakClass) : Bool :=
  (a.isLetter && (b.isLetter || b == .numeric || b.isNumberSign || b == .openPunctuation))
    || (b.isLetter
      && (a == .numeric || a.isNumberSign || a == .numericSeparator || a == .closeParenthesis))
    || (a == .numeric && b == .openPunctuation)
    || (a == .closeParenthesis && b == .numeric)

/-- The two neighbours belong to one Hangul syllable. -/
def bindsSyllable (a b : LineBreakClass) : Bool :=
  (a == .leadingJamo
      && (b == .leadingJamo || b == .vowelJamo || b == .openSyllable || b == .closedSyllable))
    || ((a == .vowelJamo || a == .openSyllable) && (b == .vowelJamo || b == .trailingJamo))
    || ((a == .trailingJamo || a == .closedSyllable) && b == .trailingJamo)

/-- The two neighbours are an ideograph or the like and a sign on it. -/
def bindsPicture (a b : LineBreakClass) : Bool :=
  (a == .beforeNumber && (b.isPicture || b.isHangul))
    || ((a.isPicture || a.isHangul) && b == .afterNumber)
    || (a == .emojiBase && b == .emojiModifier)

end Nomenclator.Unicode.LineBreakClass

namespace Nomenclator.Text

open Unicode

/-! ## Reading from left to right -/

/-- What the characters before a place mean for a break there. -/
structure LeftContext where
  /-- The class of the last character that is neither a blank nor a mark on another. -/
  base : LineBreakClass
  /-- Blanks follow it. -/
  isSpaced : Bool := false
  /-- The last character is a joiner. -/
  isJoined : Bool := false
  /-- The base is a hyphen behind a Hebrew letter. -/
  isHebrewHyphen : Bool := false
  /-- The base is the first letter of a flag. -/
  isHalfFlag : Bool := false
  deriving DecidableEq, Repr

namespace LeftContext

/-- The context behind the first character of a line. -/
def start (k : LineBreakClass) : LeftContext :=
  { base := k.alone
    isSpaced := k == .space
    isJoined := k == .zeroWidthJoiner
    isHalfFlag := k == .regionalIndicator }

/-- Marks may be put on the last character. -/
def takesMarks (s : LeftContext) : Bool :=
  !s.isSpaced && !s.base.endsLine && s.base != .zeroWidthSpace

/-- The context behind one more character. -/
def push (s : LeftContext) (k : LineBreakClass) : LeftContext :=
  if k == .space && !s.base.endsLine then { base := s.base, isSpaced := true }
  else if k.isMark && s.takesMarks then { s with isJoined := k == .zeroWidthJoiner }
  else
    { start k with
      isHebrewHyphen :=
        !s.isSpaced && s.base == .hebrewLetter && (k == .hyphen || k == .breakAfter)
      isHalfFlag := k == .regionalIndicator && (s.isSpaced || !s.isHalfFlag) }

/-- The last character and the next one are neighbours that stay together. -/
def binds (s : LeftContext) (k : LineBreakClass) : Bool :=
  s.base.clings k || s.isHebrewHyphen || s.base.bindsNumber k || s.base.bindsWord k
    || s.base.bindsSyllable k || s.base.bindsPicture k
    || (s.isHalfFlag && k == .regionalIndicator)

/-- The line may be broken before a character of this class. -/
def breaksBefore (s : LeftContext) (k : LineBreakClass) : Bool :=
  if s.base.endsLine then !(s.base == .carriageReturn && k == .lineFeed)
  else if k.endsLine || k == .space || k == .zeroWidthSpace then false
  else if s.base == .zeroWidthSpace then true
  else if s.isJoined || (k.isMark && !s.isSpaced) || s.base.bindsAcrossBlanks k.alone then false
  else if s.isSpaced then true
  else if s.base.isGlued k then false
  else if s.base == .contingent || k == .contingent then true
  else !s.binds k

end LeftContext

/-- For the last character before a place and each one from there, whether the line may be broken
behind it. -/
def breaksFrom (s : LeftContext) : List LineBreakClass → List Bool
  | [] => [true]
  | k :: ks => s.breaksBefore k :: breaksFrom (s.push k) ks

/-- For each character of a line, whether the line may be broken behind it. The end of the line is
such a place. -/
def breaksBehind (t : Text) : List Bool :=
  match t.map lineBreakClass with
  | [] => []
  | k :: ks => breaksFrom (.start k) ks

end Nomenclator.Text
