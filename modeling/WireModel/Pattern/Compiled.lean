import WireModel.Pattern.Engine
import WireModel.Pattern.Reader
import WireModel.Pattern.Regex
import WireModel.Pattern.Size
import WireModel.Unicode.Folding
import WireModel.Unicode.Script

/-! The meaning of a pattern: flags, classes and properties become sets of characters and
conditions on places. A flag changes what follows it in its group, later branches included. -/
namespace WireModel.Pattern

open WireModel.Unicode (CodeSet)

/-- The flags in force. Greed does not change whether a text matches. -/
structure Modes where
  caseInsensitive : Bool := false
  multiLine : Bool := false
  dotMatchesNewline : Bool := false
  unicode : Bool := true
  crlf : Bool := false

def Modes.change (modes : Modes) : Flag × Bool → Modes
  | (.caseInsensitive, state) => { modes with caseInsensitive := state }
  | (.multiLine, state) => { modes with multiLine := state }
  | (.dotMatchesNewline, state) => { modes with dotMatchesNewline := state }
  | (.unicode, state) => { modes with unicode := state }
  | (.crlf, state) => { modes with crlf := state }
  | (.swapGreed, _) | (.verbose, _) => modes

def Modes.changeAll (modes : Modes) (changes : FlagChanges) : Modes :=
  changes.foldl Modes.change modes

/-- A property name without case, blanks, separators and an initial `is`. -/
def propertyName (name : String) : String :=
  let kept := fun (chars : List Char) =>
    (chars.filter fun c => c.toNat < 0x80 && c != ' ' && c != '_' && c != '-').map Char.toLower
  match name.toList with
  | i :: s :: rest =>
    if i.toLower = 'i' && s.toLower = 's' then
      let rest := kept rest
      String.ofList (if rest = ['c'] then ['i', 's', 'c'] else rest)
    else String.ofList (kept (i :: s :: rest))
  | chars => String.ofList (kept chars)

/-- The set that a property class names. A short name that a category shares with a property means
the category. -/
def propertySet? : PropertyQuery → Option CodeSet
  | .name name =>
    let name := propertyName name
    let property := if ["cf", "sc", "lc"].contains name then none else Unicode.binaryProperty? name
    property.orElse fun _ => (Unicode.category? name).orElse fun _ => Unicode.script? name
  | .value property value =>
    let value := propertyName value
    match propertyName property with
    | "gc" | "generalcategory" => Unicode.category? value
    | "sc" | "script" => Unicode.script? value
    | "scx" | "scriptextensions" => Unicode.scriptExtension? value
    | _ => none

def asciiClassText : String → String
  | "alnum" => "30-39 41-5A 61-7A"
  | "alpha" => "41-5A 61-7A"
  | "ascii" => "0-7F"
  | "blank" => "9 20"
  | "cntrl" => "0-1F 7F"
  | "digit" => "30-39"
  | "graph" => "21-7E"
  | "lower" => "61-7A"
  | "print" => "20-7E"
  | "punct" => "21-2F 3A-40 5B-60 7B-7E"
  | "space" => "9-D 20"
  | "upper" => "41-5A"
  | "word" => "30-39 41-5A 5F 61-7A"
  | "xdigit" => "30-39 41-46 61-66"
  | _ => ""

def blankSet : CodeSet :=
  .ofText "9-D 20 85 A0 1680 2000-200A 2028-2029 202F 205F 3000"

def closeUnderAsciiCase (set : CodeSet) : CodeSet :=
  let upper := set.inter (.ofRange 0x41 0x5A)
  let lower := set.inter (.ofRange 0x61 0x7A)
  .unionAll [set, ⟨upper.ranges.map fun r => ⟨r.first + 32, r.last + 32⟩⟩,
    ⟨lower.ranges.map fun r => ⟨r.first - 32, r.last - 32⟩⟩]

def Modes.fold (modes : Modes) (set : CodeSet) : CodeSet :=
  if !modes.caseInsensitive then set
  else if modes.unicode then set.closeUnderCase
  else closeUnderAsciiCase set

/-- Leaves a set as it is, or takes its complement. Without Unicode a complement holds bytes that
are only a part of a character, and is refused. -/
def Modes.negate (modes : Modes) (negated : Bool) (set : CodeSet) : Except Defect CodeSet :=
  if !negated then .ok set
  else if modes.unicode then .ok set.complement
  else .error .invalidEncoding

def Modes.shorthandSet (modes : Modes) (kind : Shorthand) (negated : Bool) :
    Except Defect CodeSet :=
  modes.negate negated <|
    match kind with
    | .digit => if modes.unicode then Unicode.decimalNumber else .ofText (asciiClassText "digit")
    | .space => if modes.unicode then blankSet else .ofText (asciiClassText "space")
    | .word => if modes.unicode then wordSet else asciiWordSet

def Modes.propertySet (modes : Modes) (query : PropertyQuery) (negated : Bool) :
    Except Defect CodeSet :=
  if !modes.unicode then .error .unicodeRequired
  else
    match propertySet? query with
    | none => .error .propertyUnknown
    | some set => modes.negate negated (modes.fold set)

/-- The character of a literal. Without Unicode the two-digit form names a byte, and a byte above
ASCII is only a part of a character. -/
def Modes.charOf (modes : Modes) (literal : Literal) : Except Defect Nat :=
  let code := literal.char.toNat
  if !modes.unicode && literal.isByte && 0x7F < code then .error .invalidEncoding else .ok code

/-- The code of a literal in a class, which without Unicode holds characters of ASCII only. -/
def Modes.memberOf (modes : Modes) (literal : Literal) : Except Defect Nat := do
  let code ← modes.charOf literal
  if !modes.unicode && 0x7F < code then throw .unicodeRequired
  return code

def SetOperation.apply : SetOperation → CodeSet → CodeSet → CodeSet
  | .intersection, left, right => left.inter right
  | .difference, left, right => left.diff right
  | .symmetricDifference, left, right => left.symmDiff right

mutual

def Modes.classSet (modes : Modes) : ClassExpr → Except Defect CodeSet
  | .empty => .ok .empty
  | .literal char => do
    let code ← modes.memberOf char
    return .ofRange code code
  | .range first last => do
    let first ← modes.memberOf first
    let last ← modes.memberOf last
    return .ofRange first last
  | .ascii name negated => modes.negate negated (modes.fold (.ofText (asciiClassText name)))
  | .shorthand kind negated => modes.shorthandSet kind negated
  | .property query negated => modes.propertySet query negated
  | .bracketed negated inside => do modes.negate negated (modes.fold (← modes.classSet inside))
  | .union items => return .unionAll (← modes.classSets items)
  | .combine operation left right => do
    let left ← modes.classSet left
    let right ← modes.classSet right
    return operation.apply (modes.fold left) (modes.fold right)

def Modes.classSets (modes : Modes) : List ClassExpr → Except Defect (List CodeSet)
  | [] => .ok []
  | item :: rest => do
    let set ← modes.classSet item
    return set :: (← modes.classSets rest)

end

def Modes.look (modes : Modes) : Assertion → Look
  | .lineStart =>
    if modes.multiLine then if modes.crlf then .crlfStart else .lineStart else .textStart
  | .lineEnd => if modes.multiLine then if modes.crlf then .crlfEnd else .lineEnd else .textEnd
  | .textStart => .textStart
  | .textEnd => .textEnd
  | .wordBoundary => .word modes.unicode
  | .notWordBoundary => .notWord modes.unicode
  | .wordStart => .wordStart modes.unicode
  | .wordEnd => .wordEnd modes.unicode
  | .wordStartHalf => .wordStartHalf modes.unicode
  | .wordEndHalf => .wordEndHalf modes.unicode

def Modes.dot (modes : Modes) : Except Defect CodeSet :=
  if !modes.unicode then .error .invalidEncoding
  else if modes.dotMatchesNewline then .ok .all
  else if modes.crlf then .ok (CodeSet.ofText "A D").complement
  else .ok (CodeSet.ofText "A").complement

/-- A part of a pattern: its expression, the size of its automaton, whether it matches nothing but
the empty text, and whether it matches only where the text starts. -/
structure Part where
  regex : Regex
  size : Nat
  zeroWidth : Bool
  startsText : Bool

def Part.empty : Part := ⟨.empty, stateSize, true, false⟩

def Part.ofSet (set : CodeSet) : Part := ⟨.symbol set, setSize set, false, false⟩

def Part.ofLook (look : Look) : Part := ⟨.look look, stateSize, true, look = .textStart⟩

def Part.seq (left right : Part) : Part where
  regex := .seq left.regex right.regex
  size := left.size + right.size
  zeroWidth := left.zeroWidth && right.zeroWidth
  startsText := left.startsText || (left.zeroWidth && right.startsText)

/-- One part after another; no part adds nothing to the size. -/
def Part.sequence (parts : List Part) : Part :=
  parts.foldr Part.seq ⟨.empty, 0, true, false⟩

def Part.alternation : List Part → Part
  | [] => .empty
  | first :: rest =>
    { regex := rest.foldl (fun regex part => .alt regex part.regex) first.regex
      size := alternationSize ((first :: rest).map (·.size))
      zeroWidth := (first :: rest).all (·.zeroWidth)
      startsText := (first :: rest).all (·.startsText) }

/-- A part from `least` to `most` times; repeating what matches only the empty text adds nothing. -/
def Part.repeated (body : Part) (least : Nat) (most : Option Nat) : Part :=
  let least := if body.zeroWidth then min least 1 else least
  let most := if body.zeroWidth then some (min (most.getD 1) 1) else most
  if most = some 0 then .empty
  else if least = 1 && most = some 1 then body
  else
    { regex := body.regex.repeated least most
      size := repetitionSize body.size least most
      zeroWidth := body.zeroWidth
      startsText := least ≠ 0 && body.startsText }

/-- A group that is remembered has a state at each of its ends. -/
def Part.captured (body : Part) : Part :=
  { body with size := body.size + 2 * stateSize }

def Part.automatonSize (part : Part) : Nat :=
  part.size + searchSize part.startsText + frameSize

mutual

/-- The meaning of an expression under the modes in force, and the modes in force after it. -/
def Expr.meaning (modes : Modes) : Expr → Except Defect (Part × Modes)
  | .empty => .ok (.empty, modes)
  | .flags changes => .ok (.sequence [], modes.changeAll changes)
  | .literal char => do
    let code ← modes.charOf char
    return (.ofSet (modes.fold (.ofRange code code)), modes)
  | .dot => do return (.ofSet (← modes.dot), modes)
  | .assertion condition => .ok (.ofLook (modes.look condition), modes)
  | .shorthand kind negated => do return (.ofSet (← modes.shorthandSet kind negated), modes)
  | .property query negated => do return (.ofSet (← modes.propertySet query negated), modes)
  | .bracketed negated inside => do
    let set ← modes.negate negated (modes.fold (← modes.classSet inside))
    return (.ofSet set, modes)
  | .repetition least most body => do
    let (part, modes) ← Expr.meaning modes body
    return (part.repeated least most, modes)
  | .group capturing changes body => do
    let (part, _) ← Expr.meaning (modes.changeAll changes) body
    return (if capturing then part.captured else part, modes)
  | .alternation branches => do
    let (parts, modes) ← Expr.meanings modes branches
    return (.alternation parts, modes)
  | .concat items => do
    let (parts, modes) ← Expr.meanings modes items
    return (.sequence parts, modes)

def Expr.meanings (modes : Modes) : List Expr → Except Defect (List Part × Modes)
  | [] => .ok ([], modes)
  | item :: rest => do
    let (part, modes) ← Expr.meaning modes item
    let (parts, modes) ← Expr.meanings modes rest
    return (part :: parts, modes)

end

def Regex.ofText (text : String) : Except Defect Regex := do
  let (part, _) ← (← read text).meaning {}
  if sizeLimit < part.automatonSize then throw .tooLarge
  return part.regex

@[reducible] def regexEngine : Engine where
  Expression := Regex
  compile text := (Regex.ofText text).mapError fun defect => ⟨defect.message⟩
  matchesIn := Regex.matchesIn

end WireModel.Pattern
