import DeltaLint.Unicode.Property
import DeltaLint.Unicode.Script

/-
  DeltaLint.Unicode.Break — the parts that characters play where a text is cut into graphemes, words
  and sentences.

  Each of the three divisions gives a character at most one part; the sets follow the rules of Unicode 16
  for each of them. A part has a long and a short name in loose form.
-/

namespace DeltaLint.Unicode

namespace Break

/-- A set with the names that ask for it. -/
structure Part where
  names : List String
  characters : CharSet
  deriving DecidableEq, Repr

def carriageReturn : Part := ⟨["cr"], .one '\r'⟩
def lineFeed : Part := ⟨["lf"], .one '\n'⟩
def zeroWidthJoiner : Part := ⟨["zwj"], .span 0x200D 0x200D⟩
def regionalIndicator : Part := ⟨["regionalindicator", "ri"], .spans Property.regionalIndicatorSpans⟩

/-- The two characters that ask to join or not to join their neighbours. -/
def joiners : CharSet := .span 0x200C 0x200D

/-- The format controls that span the digits after them. -/
def prepended : CharSet := .spans Property.prependedConcatenationMarkSpans

/-- What extends the character before it, spacing marks among it. -/
def extending : CharSet := .or Property.graphemeExtend (.category .spacingMark)

/-! ## Graphemes -/

namespace Grapheme

def control : CharSet :=
  .minus
    (.or (.ofCategories [.control, .format, .lineSeparator, .paragraphSeparator])
      (.and Property.unassigned (.spans Property.defaultIgnorableCodePointSpans)))
    (.union [.one '\n', .one '\r', joiners, prepended, Property.graphemeExtend])

def extend : CharSet := .or Property.graphemeExtend (.spans Property.emojiModifierSpans)

/-- Marks that take space of their own, without those that may stand alone. -/
def spacingMark : CharSet :=
  .minus (.or (.category .spacingMark) (.spans (Spans.read ["E33 EB3"])))
    (.or Property.graphemeExtend
      (.spans (Spans.read ["102B-102C 1038 1062-1064 1067-106D 1083 1087-108C 108F 109A-109C 1A61 1A63-1A64",
        "AA7B AA7D 11720-11721"])))

def prepend : CharSet :=
  .or prepended (.spans (Spans.read ["D4E 111C2-111C3 113D1 1193F 11941 11A3A 11A84-11A89 11D46 11F02"]))

/-- The Hangul syllables without a final consonant: every twenty-eighth of them. -/
def openSyllable : CharSet := .spans [⟨0xAC00, 0xD788, 28⟩]

def parts : List Part :=
  [carriageReturn, lineFeed, zeroWidthJoiner, regionalIndicator,
   ⟨["control", "cn"], control⟩,
   ⟨["extend", "ex"], extend⟩,
   ⟨["spacingmark", "sm"], spacingMark⟩,
   ⟨["prepend", "pp"], prepend⟩,
   ⟨["l"], .spans (Spans.read ["1100-115F A960-A97C"])⟩,
   ⟨["v"], .spans (Spans.read ["1160-11A7 D7B0-D7C6 16D63 16D67-16D6A"])⟩,
   ⟨["t"], .spans (Spans.read ["11A8-11FF D7CB-D7FB"])⟩,
   ⟨["lv"], openSyllable⟩,
   ⟨["lvt"], .minus (.span 0xAC00 0xD7A3) openSyllable⟩]

end Grapheme

/-! ## Words -/

namespace Word

def extend : CharSet := .or extending (.spans Property.emojiModifierSpans)

def format : CharSet :=
  .minus (.category .format) (.union [prepended, .span 0x200B 0x200D, Property.graphemeExtend])

/-- The Syriac abbreviation mark, which is part of a word. -/
def abbreviationMark : CharSet := .span 0x70F 0x70F

def numeric : CharSet :=
  .union [.category .decimalNumber, .minus prepended abbreviationMark, .spans (Spans.read ["66B 19DA"])]

def katakana : CharSet :=
  .or (.spans Script.katakanaSpans) (.spans (Spans.read ["3031-3035 309B-309C 30A0 30FC FF70"]))

def hebrewLetter : CharSet :=
  .spans (Spans.read ["5D0-5EA 5EF-5F2 FB1D FB1F-FB28 FB2A-FB36 FB38-FB3C FB3E FB40-FB41 FB43-FB44 FB46-FB4F"])

/-- Letters of scripts that are written without spaces between words. -/
def unspaced : CharSet :=
  .spans (Spans.read [
    "E01-E30 E32-E33 E40-E46 E81-E82 E84 E86-E8A E8C-EA3 EA5 EA7-EB0 EB2-EB3 EBD EC0-EC4 EC6 EDC-EDF",
    "1000-102A 103F 1050-1055 105A-105D 1061 1065-1066 106E-1070 1075-1081 108E 1780-17B3 17D7 17DC",
    "1950-196D 1970-1974 1980-19AB 19B0-19C9 1A20-1A54 1AA7 A9E0-A9E4 A9E6-A9EF A9FA-A9FE AA60-AA76 AA7A",
    "AA7E-AAAF AAB1 AAB5-AAB6 AAB9-AABD AAC0 AAC2 AADB-AADD 11700-1171A 11740-11746"])

/-- What counts as a letter within a word and is not alphabetic. -/
def letterLike : CharSet :=
  .spans (Spans.read [
    "2C2-2C5 2D2-2D7 2DE-2DF 2E5-2EB 2ED 2EF-2FF 55A-55C 55E 58A 5F3 70F A708-A716 A720-A721 A789-A78A AB5B"])

def letter : CharSet :=
  .or letterLike
    (.minus Property.alphabetic
      (.union [.spans Property.ideographicSpans, katakana, .spans Script.hiraganaSpans, extend, hebrewLetter, unspaced]))

def parts : List Part :=
  [carriageReturn, lineFeed, zeroWidthJoiner, regionalIndicator,
   ⟨["newline", "nl"], .spans (Spans.read ["B-C 85 2028-2029"])⟩,
   ⟨["extend"], extend⟩,
   ⟨["format", "fo"], format⟩,
   ⟨["katakana", "ka"], katakana⟩,
   ⟨["hebrewletter", "hl"], hebrewLetter⟩,
   ⟨["aletter", "le"], letter⟩,
   ⟨["singlequote", "sq"], .one '\''⟩,
   ⟨["doublequote", "dq"], .one '\"'⟩,
   ⟨["midnumlet", "mb"], .spans (Spans.read ["2E 2018-2019 2024 FE52 FF07 FF0E"])⟩,
   ⟨["midletter", "ml"], .spans (Spans.read ["3A B7 387 55F 5F4 2027 FE13 FE55 FF1A"])⟩,
   ⟨["midnum", "mn"], .spans (Spans.read ["2C 3B 37E 589 60C-60D 66C 7F8 2044 FE50 FE54 FF0C FF1B"])⟩,
   ⟨["numeric", "nu"], numeric⟩,
   ⟨["extendnumlet", "ex"], .or (.category .connectorPunctuation) (.span 0x202F 0x202F)⟩,
   ⟨["wsegspace"], .spans (Spans.read ["20 1680 2000-2006 2008-200A 205F 3000"])⟩]

end Word

/-! ## Sentences -/

namespace Sentence

def separator : CharSet := .spans (Spans.read ["85 2028-2029"])

def extend : CharSet := .or extending (.span 0x200D 0x200D)

def numeric : CharSet := .or Word.numeric (.span 0x66C 0x66C)

def lower : CharSet :=
  .minus Property.lowercase (.or Property.graphemeExtend (.spans (Spans.read ["10D0-10FA 10FD-10FF"])))

def upper : CharSet :=
  .minus (.or Property.uppercase (.category .titlecaseLetter)) (.spans (Spans.read ["1C90-1CBA 1CBD-1CBF"]))

def fullStop : CharSet := .spans (Spans.read ["2E 2024 FE52 FF0E"])

def close : CharSet :=
  .or (.ofCategories [.openPunctuation, .closePunctuation, .initialPunctuation, .finalPunctuation])
    (.spans (Spans.read ["22 27 275B-2760 2E00-2E01 2E06-2E08 2E0B 1F676-1F678"]))

def goesOn : CharSet :=
  .spans (Spans.read [
    "2C-2D 3A-3B 37E 55D 60C-60D 7F8 1802 1808 2013-2014 3001 FE10-FE11 FE13-FE14 FE31-FE32 FE50-FE51 FE54-FE55",
    "FE58 FE63 FF0C-FF0D FF1A-FF1B FF64"])

def parts : List Part :=
  [carriageReturn, lineFeed,
   ⟨["sep", "se"], separator⟩,
   ⟨["extend", "ex"], extend⟩,
   ⟨["sp"], .minus Property.blank (.union [.one '\n', .one '\r', separator])⟩,
   ⟨["format", "fo"], .minus (.category .format) (.or numeric extend)⟩,
   ⟨["lower", "lo"], lower⟩,
   ⟨["upper", "up"], upper⟩,
   ⟨["oletter", "le"], .minus (.or Property.alphabetic (.span 0x5F3 0x5F3)) (.union [lower, upper, extend])⟩,
   ⟨["numeric", "nu"], numeric⟩,
   ⟨["aterm", "at"], fullStop⟩,
   ⟨["sterm", "st"], .minus (.spans Property.sentenceTerminalSpans) fullStop⟩,
   ⟨["close", "cl"], close⟩,
   ⟨["scontinue", "sc"], goesOn⟩]

end Sentence

/-- The characters that play the part with this name. -/
def named? (name : String) (parts : List Part) : Option CharSet :=
  (parts.find? (·.names.contains name)).map (·.characters)

end Break

end DeltaLint.Unicode
