/-! Patterns as they are written: what a pattern text says before its flags and classes are given
a meaning. -/
namespace WireModel.Pattern

inductive Flag where
  | caseInsensitive
  | multiLine
  | dotMatchesNewline
  | swapGreed
  | unicode
  | crlf
  | verbose
deriving DecidableEq, Repr

def Flag.ofChar? : Char → Option Flag
  | 'i' => some .caseInsensitive
  | 'm' => some .multiLine
  | 's' => some .dotMatchesNewline
  | 'U' => some .swapGreed
  | 'u' => some .unicode
  | 'R' => some .crlf
  | 'x' => some .verbose
  | _ => none

/-- Flags with the state that each is given, in the order written. -/
abbrev FlagChanges := List (Flag × Bool)

def FlagChanges.state? (changes : FlagChanges) (flag : Flag) : Option Bool :=
  (changes.find? (·.1 = flag)).map (·.2)

inductive Assertion where
  | lineStart
  | lineEnd
  | textStart
  | textEnd
  | wordBoundary
  | notWordBoundary
  | wordStart
  | wordEnd
  | wordStartHalf
  | wordEndHalf
deriving DecidableEq, Repr

/-- A single character. `isByte` marks the two-digit form `\x41`, which names a byte wherever
Unicode is switched off. -/
structure Literal where
  char : Char
  isByte : Bool := false
deriving DecidableEq, Repr

inductive Shorthand where
  | digit
  | space
  | word
deriving DecidableEq, Repr

inductive PropertyQuery where
  | name (name : String)
  | value (property value : String)
deriving DecidableEq, Repr

inductive SetOperation where
  | intersection
  | difference
  | symmetricDifference
deriving DecidableEq, Repr

inductive ClassExpr where
  | empty
  | literal (literal : Literal)
  | range (first last : Literal)
  | ascii (name : String) (negated : Bool)
  | shorthand (kind : Shorthand) (negated : Bool)
  | property (query : PropertyQuery) (negated : Bool)
  | bracketed (negated : Bool) (inside : ClassExpr)
  | union (items : List ClassExpr)
  | combine (operation : SetOperation) (left right : ClassExpr)

def ClassExpr.ofItems : List ClassExpr → ClassExpr
  | [] => .empty
  | [item] => item
  | items => .union items

inductive Expr where
  | empty
  | flags (changes : FlagChanges)
  | literal (literal : Literal)
  | dot
  | assertion (assertion : Assertion)
  | shorthand (kind : Shorthand) (negated : Bool)
  | property (query : PropertyQuery) (negated : Bool)
  | bracketed (negated : Bool) (inside : ClassExpr)
  | repetition (least : Nat) (most : Option Nat) (body : Expr)
  | group (capturing : Bool) (changes : FlagChanges) (body : Expr)
  | alternation (branches : List Expr)
  | concat (items : List Expr)

def Expr.ofConcat : List Expr → Expr
  | [] => .empty
  | [item] => item
  | items => .concat items

def Expr.ofAlternation : List Expr → Expr
  | [] => .empty
  | [branch] => branch
  | branches => .alternation branches

mutual

/-- How deep brackets, unions and set operations nest in the inside of a class. -/
def ClassExpr.depth : ClassExpr → Nat
  | .empty | .literal _ | .range .. | .ascii .. | .shorthand .. | .property .. => 0
  | .bracketed _ inside => inside.depth + 1
  | .union items => ClassExpr.depthOfItems items + 1
  | .combine _ left right => max left.depth right.depth + 1

def ClassExpr.depthOfItems : List ClassExpr → Nat
  | [] => 0
  | item :: rest => max item.depth (ClassExpr.depthOfItems rest)

end

mutual

/-- How deep classes, repetitions, groups, alternations and sequences nest. -/
def Expr.depth : Expr → Nat
  | .empty | .flags _ | .literal _ | .dot | .assertion _ | .shorthand .. | .property .. => 0
  | .bracketed _ inside => inside.depth + 1
  | .repetition _ _ body => body.depth + 1
  | .group _ _ body => body.depth + 1
  | .alternation branches => Expr.depthOfItems branches + 1
  | .concat items => Expr.depthOfItems items + 1

def Expr.depthOfItems : List Expr → Nat
  | [] => 0
  | item :: rest => max item.depth (Expr.depthOfItems rest)

end

end WireModel.Pattern
