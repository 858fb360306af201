import WireModel.Unicode.CodeSet

/-! The size of the byte automaton that a pattern stands for. Patterns whose automaton would be
larger than `sizeLimit` are refused, so that the time to match stays within bounds. -/
namespace WireModel.Pattern

open WireModel.Unicode (CodeSet CodeRange)

def sizeLimit : Nat := 10 * 1024 * 1024

def stateSize : Nat := 32

def branchSize : Nat := 4

/-- What a range of bytes in a state with several ranges takes. -/
def byteRangeSize : Nat := 8

/-- What stands around every pattern: a mark at each end of the match, and the state that
accepts. -/
def frameSize : Nat := 3 * stateSize

/-- What comes before a pattern: a loop over any byte that looks for the start of a match, or only
an empty state if a match has to start where the text does. -/
def searchSize (startsText : Bool) : Nat :=
  if startsText then stateSize else 3 * stateSize + byteRangeSize + 2 * branchSize

def utf8Width (code : Nat) : Nat :=
  if code ≤ 0x7F then 1 else if code ≤ 0x7FF then 2 else if code ≤ 0xFFFF then 3 else 4

def utf8Bytes (code : Nat) : List Nat :=
  let tail := fun shift => 0x80 + code / Nat.pow 64 shift % 64
  match utf8Width code with
  | 1 => [code]
  | 2 => [0xC0 + code / 64, tail 0]
  | 3 => [0xE0 + code / 4096, tail 1, tail 0]
  | _ => [0xF0 + code / 262144, tail 2, tail 1, tail 0]

abbrev ByteRanges := List (Nat × Nat)

/-- Where a range of code points is cut first so that each part is one sequence of byte ranges:
the first code point of the second part, if there is a cut. -/
def cut? (range : CodeRange) : Option Nat :=
  let inside := fun next => range.first < next && next ≤ range.last
  let aligned := fun block =>
    if range.first / block = range.last / block then none
    else if range.first % block ≠ 0 then some ((range.first / block + 1) * block)
    else if range.last % block ≠ block - 1 then some (range.last / block * block)
    else none
  (([0xD800, 0xE000, 0x80, 0x800, 0x10000].find? inside).orElse fun _ =>
    if range.last < 0x80 then none
    else [64, 4096, 262144].findSome? aligned)

/-- The sequences of byte ranges of a range of code points, in increasing order; `fuel` bounds how
often the range is cut. -/
def byteRanges : Nat → CodeRange → List ByteRanges
  | 0, _ => []
  | fuel + 1, range =>
    match cut? range with
    | some next => byteRanges fuel ⟨range.first, next - 1⟩ ++ byteRanges fuel ⟨next, range.last⟩
    | none =>
      if CodeSet.surrogates.contains range.first then []
      else [(utf8Bytes range.first).zip (utf8Bytes range.last)]

def commonPrefixLength : ByteRanges → ByteRanges → Nat
  | a :: left, b :: right => if a = b then commonPrefixLength left right + 1 else 0
  | _, _ => 0

/-- The states of sequences that share what they have in common at their starts. -/
def sharedStates (previous : ByteRanges) : List ByteRanges → Nat
  | [] => 0
  | next :: rest =>
    next.length - commonPrefixLength previous next + sharedStates next rest

def setSize (set : CodeSet) : Nat :=
  match set.ranges with
  | [] => stateSize
  | [⟨first, last⟩] => if first = last then stateSize * utf8Width first else several
  | _ => several
where
  several : Nat :=
    if set.ranges.all (·.last < 0x80) then 2 * stateSize + byteRangeSize * set.ranges.length
    else
      let sequences := set.ranges.flatMap (byteRanges 32)
      2 * stateSize + branchSize * sequences.length + stateSize * sharedStates [] sequences

def alternationSize (sizes : List Nat) : Nat :=
  2 * stateSize + branchSize * sizes.length + sizes.foldr Nat.add 0

def repetitionSize (body least : Nat) : Option Nat → Nat
  | none => max least 1 * body + stateSize + 2 * branchSize
  | some most =>
    if most = least then max stateSize (least * body)
    else least * body + stateSize + (most - least) * (body + stateSize + 2 * branchSize)

end WireModel.Pattern
