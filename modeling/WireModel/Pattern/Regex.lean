import WireModel.Unicode.BinaryProperty
import WireModel.Unicode.Category
import WireModel.Unicode.CodeSet

/-! Regular expressions over characters, with conditions on places, and the search for a match.
The search carries a set of marks through the text: a mark on a symbol says that a match begun
earlier may have read this symbol last. Each character is read once, so the time is the length of
the text times the size of the expression. -/
namespace WireModel.Pattern

open WireModel.Unicode (CodeSet)

/-- Conditions on a place between two characters, with their modes made explicit. -/
inductive Look where
  | textStart
  | textEnd
  | lineStart
  | lineEnd
  | crlfStart
  | crlfEnd
  | word (unicode : Bool)
  | notWord (unicode : Bool)
  | wordStart (unicode : Bool)
  | wordEnd (unicode : Bool)
  | wordStartHalf (unicode : Bool)
  | wordEndHalf (unicode : Bool)
deriving DecidableEq, Repr

/-- Letters, marks, decimal digits, connectors and joiners. -/
def wordSet : CodeSet :=
  .unionAll [Unicode.alphabetic, Unicode.mark, Unicode.decimalNumber,
    Unicode.connectorPunctuation, Unicode.joinControl]

def asciiWordSet : CodeSet :=
  .ofRanges [⟨0x30, 0x39⟩, ⟨0x41, 0x5A⟩, ⟨0x5F, 0x5F⟩, ⟨0x61, 0x7A⟩]

structure Place where
  before : Option Char
  after : Option Char

def isWordChar (unicode : Bool) (c : Option Char) : Bool :=
  c.any (if unicode then wordSet else asciiWordSet).mem

def Look.holds (look : Look) (place : Place) : Bool :=
  let before := place.before
  let after := place.after
  match look with
  | .textStart => before.isNone
  | .textEnd => after.isNone
  | .lineStart => before.isNone || before == some '\n'
  | .lineEnd => after.isNone || after == some '\n'
  | .crlfStart =>
    before.isNone || before == some '\n' || (before == some '\r' && after != some '\n')
  | .crlfEnd =>
    after.isNone || after == some '\r' || (after == some '\n' && before != some '\r')
  | .word u => isWordChar u before != isWordChar u after
  | .notWord u => isWordChar u before == isWordChar u after
  | .wordStart u => !isWordChar u before && isWordChar u after
  | .wordEnd u => isWordChar u before && !isWordChar u after
  | .wordStartHalf u => !isWordChar u before
  | .wordEndHalf u => !isWordChar u after

inductive Regex where
  | empty
  | symbol (set : CodeSet)
  | look (condition : Look)
  | seq (left right : Regex)
  | alt (left right : Regex)
  | star (body : Regex)

namespace Regex

/-- The expression `count` times in a row, nested to logarithmic depth. -/
def power (body : Regex) (count : Nat) : Regex :=
  if count = 0 then .empty
  else if count = 1 then body
  else
    let half := power body (count / 2)
    if count % 2 = 0 then .seq half half else .seq body (.seq half half)
termination_by count

/-- The expression from `least` to `most` times, without an upper end if there is no `most`. -/
def repeated (body : Regex) (least : Nat) : Option Nat → Regex
  | none => .seq (power body least) (.star body)
  | some most => .seq (power body least) (power (.alt body .empty) (most - least))

end Regex

/-- An expression with marks. `nullable` and `final` of a compound hold for one place: whether the
expression matches the empty text there, and whether a marked match may end there. -/
inductive Machine where
  | empty
  | symbol (set : CodeSet) (marked : Bool)
  | look (condition : Look) (holds : Bool)
  | seq (nullable final : Bool) (left right : Machine)
  | alt (nullable final : Bool) (left right : Machine)
  | star (final : Bool) (body : Machine)

namespace Machine

def ofRegex : Regex → Machine
  | .empty => .empty
  | .symbol set => .symbol set false
  | .look condition => .look condition false
  | .seq left right => .seq false false (ofRegex left) (ofRegex right)
  | .alt left right => .alt false false (ofRegex left) (ofRegex right)
  | .star body => .star false (ofRegex body)

def nullable : Machine → Bool
  | .empty => true
  | .symbol .. => false
  | .look _ holds => holds
  | .seq nullable .. => nullable
  | .alt nullable .. => nullable
  | .star .. => true

def final : Machine → Bool
  | .empty => false
  | .symbol _ marked => marked
  | .look .. => false
  | .seq _ final .. => final
  | .alt _ final .. => final
  | .star final _ => final

/-- Brings `nullable` and `final` of every part up to date for a place. -/
def arrive (place : Place) : Machine → Machine
  | .empty => .empty
  | .symbol set marked => .symbol set marked
  | .look condition _ => .look condition (condition.holds place)
  | .seq _ _ left right =>
    let left := arrive place left
    let right := arrive place right
    .seq (left.nullable && right.nullable) ((left.final && right.nullable) || right.final)
      left right
  | .alt _ _ left right =>
    let left := arrive place left
    let right := arrive place right
    .alt (left.nullable || right.nullable) (left.final || right.final) left right
  | .star _ body =>
    let body := arrive place body
    .star body.final body

/-- Moves the marks over a character; `enter` says that a match may begin before it. -/
def advance (c : Char) (enter : Bool) : Machine → Machine
  | .empty => .empty
  | .symbol set _ => .symbol set (enter && set.mem c)
  | .look condition holds => .look condition holds
  | .seq nullable final left right =>
    .seq nullable final (advance c enter left)
      (advance c ((enter && left.nullable) || left.final) right)
  | .alt nullable final left right =>
    .alt nullable final (advance c enter left) (advance c enter right)
  | .star final body => .star final (advance c (enter || body.final) body)

/-- Whether a match that began earlier ends in `text`, or one begins in it. -/
def search (machine : Machine) (before : Option Char) : List Char → Bool
  | [] =>
    let machine := machine.arrive ⟨before, none⟩
    machine.nullable || machine.final
  | c :: rest =>
    let machine := machine.arrive ⟨before, some c⟩
    machine.nullable || machine.final || search (machine.advance c true) (some c) rest

end Machine

def Regex.matchesIn (regex : Regex) (text : String) : Bool :=
  (Machine.ofRegex regex).search none text.toList

end WireModel.Pattern
