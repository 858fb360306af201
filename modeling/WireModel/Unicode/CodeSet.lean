/-! Sets of code points, kept as increasing ranges that do not touch. The ranges may cover
surrogates: no character has such a code point, so they never matter to membership of characters. -/
namespace WireModel.Unicode

structure CodeRange where
  first : Nat
  last : Nat
deriving DecidableEq, Repr

def CodeRange.contains (range : CodeRange) (code : Nat) : Bool :=
  range.first ≤ code && code ≤ range.last

structure CodeSet where
  ranges : List CodeRange
deriving DecidableEq, Repr

namespace CodeSet

def greatest : Nat := 0x10FFFF

def empty : CodeSet := ⟨[]⟩

def ofRange (first last : Nat) : CodeSet := ⟨[⟨first, last⟩]⟩

def all : CodeSet := ofRange 0 greatest

def surrogates : CodeSet := ofRange 0xD800 0xDFFF

def contains (set : CodeSet) (code : Nat) : Bool :=
  set.ranges.any (·.contains code)

def mem (set : CodeSet) (c : Char) : Bool :=
  set.contains c.toNat

/-- Joins ranges that overlap or touch, given in increasing order of their first members. -/
def join : List CodeRange → List CodeRange
  | [] => []
  | head :: rest => go head rest
where
  go (current : CodeRange) : List CodeRange → List CodeRange
    | [] => [current]
    | next :: rest =>
      if next.first ≤ current.last + 1 then go ⟨current.first, max current.last next.last⟩ rest
      else current :: go next rest

def ofRanges (ranges : List CodeRange) : CodeSet :=
  ⟨join (ranges.mergeSort fun a b => a.first ≤ b.first)⟩

def unionAll (sets : List CodeSet) : CodeSet :=
  ofRanges (sets.flatMap (·.ranges))

def union (left right : CodeSet) : CodeSet :=
  unionAll [left, right]

def complement (set : CodeSet) : CodeSet :=
  ⟨gaps 0 set.ranges⟩
where
  /-- The ranges from `start` on that the increasing ranges leave out. -/
  gaps (start : Nat) : List CodeRange → List CodeRange
    | [] => if start ≤ greatest then [⟨start, greatest⟩] else []
    | next :: rest =>
      if start < next.first then ⟨start, next.first - 1⟩ :: gaps (next.last + 1) rest
      else gaps (next.last + 1) rest

def inter (left right : CodeSet) : CodeSet :=
  (left.complement.union right.complement).complement

def diff (left right : CodeSet) : CodeSet :=
  left.inter right.complement

def symmDiff (left right : CodeSet) : CodeSet :=
  (left.union right).diff (left.inter right)

/-- What has been read of a text of ranges: the ranges so far, last first, and the range at hand. -/
structure Reading where
  done : List CodeRange := []
  first : Option Nat := none
  current : Option Nat := none

def Reading.close (r : Reading) : Reading :=
  match r.current with
  | none => r
  | some last => { done := ⟨r.first.getD last, last⟩ :: r.done }

def hexDigit (c : Char) : Nat :=
  if c.toNat < 0x41 then c.toNat - 0x30 else c.toNat - 0x37

def Reading.step (r : Reading) (c : Char) : Reading :=
  if c = ' ' || c = '\n' then r.close
  else if c = '-' then { r with first := r.current, current := none }
  else { r with current := some (16 * r.current.getD 0 + hexDigit c) }

/-- Reads ranges written like `41-5A 61-7A AA`: hexadecimal, increasing, with blanks or
line ends between ranges. -/
def ofText (text : String) : CodeSet :=
  ⟨(text.toList.foldl Reading.step {}).close.done.reverse⟩

end CodeSet

end WireModel.Unicode
