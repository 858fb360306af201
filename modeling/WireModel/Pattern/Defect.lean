/-! Why a text is not a pattern. -/
namespace WireModel.Pattern

inductive Defect where
  | repetitionMissing
  | countUnclosed
  | countEmpty
  | countTooLarge
  | countReversed
  | groupUnopened
  | groupUnclosed
  | groupNameEmpty
  | groupNameInvalid
  | groupNameUnclosed
  | groupNameRepeated (name : String)
  | lookAround
  | flagsUnclosed
  | flagUnknown (flag : Char)
  | flagRepeated
  | negationRepeated
  | negationDangling
  | escapeUnfinished
  | escapeUnknown (char : Char)
  | backreference
  | codeEmpty
  | codeDigitInvalid
  | codeInvalid
  | boundaryUnclosed
  | boundaryUnknown (name : String)
  | classUnclosed
  | classRangeReversed
  | classRangeEndInvalid
  | classEscapeInvalid
  | propertyLetterInvalid
  | propertyUnknown
  | nestedTooDeep
  | unicodeRequired
  | invalidEncoding
  | tooLarge
deriving DecidableEq, Repr

def Defect.message : Defect → String
  | .repetitionMissing => "a repetition has nothing to repeat"
  | .countUnclosed => "a counted repetition is not closed"
  | .countEmpty => "a counted repetition has no number"
  | .countTooLarge => "a repetition count is too large"
  | .countReversed => "a repetition count ends before it starts"
  | .groupUnopened => "a group is closed that was not opened"
  | .groupUnclosed => "a group is not closed"
  | .groupNameEmpty => "a group name is empty"
  | .groupNameInvalid => "a group name has a character that is not allowed"
  | .groupNameUnclosed => "a group name is not closed"
  | .groupNameRepeated name => s!"two groups are named {name}"
  | .lookAround => "look-around is not supported"
  | .flagsUnclosed => "flags are not closed"
  | .flagUnknown flag => s!"{flag} is not a flag"
  | .flagRepeated => "a flag is repeated"
  | .negationRepeated => "flags are negated twice"
  | .negationDangling => "a negation has no flag"
  | .escapeUnfinished => "an escape is not finished"
  | .escapeUnknown char => s!"{char} cannot be escaped"
  | .backreference => "references to groups are not supported"
  | .codeEmpty => "a code point has no digits"
  | .codeDigitInvalid => "a code point has a character that is no hexadecimal digit"
  | .codeInvalid => "a code point is not a character"
  | .boundaryUnclosed => "a word boundary is not closed"
  | .boundaryUnknown name => s!"{name} is not a word boundary"
  | .classUnclosed => "a class is not closed"
  | .classRangeReversed => "a class range ends before it starts"
  | .classRangeEndInvalid => "an end of a class range is not a character"
  | .classEscapeInvalid => "an escape is not allowed in a class"
  | .propertyLetterInvalid => "a property letter is missing"
  | .propertyUnknown => "a property is not known"
  | .nestedTooDeep => "the pattern nests too deep"
  | .unicodeRequired => "the pattern needs Unicode where it is switched off"
  | .invalidEncoding => "the pattern could match a part of a character"
  | .tooLarge => "the compiled pattern is too large"

end WireModel.Pattern
