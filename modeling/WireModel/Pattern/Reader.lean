import WireModel.Pattern.Expr
import WireModel.Pattern.Defect
import WireModel.Unicode.BinaryProperty
import WireModel.Unicode.Blank
import WireModel.Unicode.Category

/-! Reading a pattern from its text. In verbose mode blanks and comments between the parts of a
pattern are skipped, and a comment ends with its line or with the text. -/
namespace WireModel.Pattern

open WireModel.Unicode (isBlank)

/-- Skips blanks and comments; `inComment` says that the text starts inside a comment. -/
def skipBlanks (inComment : Bool) : List Char → List Char
  | [] => []
  | c :: rest =>
    if inComment then skipBlanks (c != '\n') rest
    else if isBlank c then skipBlanks false rest
    else if c = '#' then skipBlanks true rest
    else c :: rest

/-- What follows the blanks and comments that verbose mode skips. -/
def space (verbose : Bool) (text : List Char) : List Char :=
  if verbose then skipBlanks false text else text

/-- The run of characters that satisfy `keep`, and the text from the first one that does not.
Verbose mode skips blanks and comments before and between them. -/
def takeRun (verbose : Bool) (keep : Char → Bool) (inComment : Bool) :
    List Char → List Char × List Char
  | [] => ([], [])
  | c :: rest =>
    if inComment then takeRun verbose keep (c != '\n') rest
    else if verbose && isBlank c then takeRun verbose keep false rest
    else if verbose && c == '#' then takeRun verbose keep true rest
    else if keep c then
      let (run, after) := takeRun verbose keep false rest
      (c :: run, after)
    else ([], c :: rest)

def isDigit (c : Char) : Bool :=
  '0' ≤ c && c ≤ '9'

def isLetter (c : Char) : Bool :=
  ('a' ≤ c && c ≤ 'z') || ('A' ≤ c && c ≤ 'Z')

def hexValue? (c : Char) : Option Nat :=
  if isDigit c then some (c.toNat - 0x30)
  else if 'a' ≤ c && c ≤ 'f' then some (c.toNat - 0x57)
  else if 'A' ≤ c && c ≤ 'F' then some (c.toNat - 0x37)
  else none

def isHexDigit (c : Char) : Bool :=
  (hexValue? c).isSome

def charOfDigits (digits : List Char) : Except Defect Char :=
  let code := digits.foldl (fun n c => 16 * n + (hexValue? c).getD 0) 0
  if h : code.isValidChar then .ok (Char.ofNatAux code h) else .error .codeInvalid

def countBound : Nat := UInt32.size

/-- A decimal number with blanks around it. -/
def readCount (verbose : Bool) (text : List Char) : Except Defect (Nat × List Char) :=
  let (digits, rest) := takeRun verbose isDigit false (text.dropWhile isBlank)
  let count := digits.foldl (fun n c => 10 * n + (c.toNat - 0x30)) 0
  if digits.isEmpty then .error .countEmpty
  else if count < countBound then .ok (count, space verbose (rest.dropWhile isBlank))
  else .error .countTooLarge

/-- Reads the digits of a code point: two, four or eight, or any number between braces. -/
def readCode (verbose : Bool) (width : Nat) (text : List Char) :
    Except Defect (Literal × List Char) :=
  match space verbose text with
  | [] => .error .escapeUnfinished
  | '{' :: rest =>
    match takeRun verbose isHexDigit false rest with
    | (_, []) => .error .escapeUnfinished
    | (digits, '}' :: after) => do
      if digits.isEmpty then throw .codeEmpty
      return (⟨← charOfDigits digits, false⟩, space verbose after)
    | _ => .error .codeDigitInvalid
  | text => do
    let (digits, after) ← fixed width text
    return (⟨← charOfDigits digits, width == 2⟩, after)
where
  /-- Exactly `count` digits. -/
  fixed (count : Nat) (text : List Char) : Except Defect (List Char × List Char) :=
    match count with
    | 0 => .ok ([], text)
    | count + 1 =>
      match text with
      | [] => .error .escapeUnfinished
      | c :: rest =>
        if isHexDigit c then do
          let (digits, after) ← fixed count (space verbose rest)
          return (c :: digits, after)
        else .error .codeDigitInvalid

def splitAt? (mark : Char) (text : List Char) : Option (List Char × List Char) :=
  match text.dropWhile (· != mark) with
  | [] => none
  | _ :: after => some (text.takeWhile (· != mark), after)

def splitAtUnequal? : List Char → Option (List Char × List Char)
  | [] => none
  | '!' :: '=' :: after => some ([], after)
  | c :: rest => (splitAtUnequal? rest).map fun (before, after) => (c :: before, after)

/-- What the braces of a property class say, and whether they negate it. -/
def propertyQuery (text : List Char) : PropertyQuery × Bool :=
  let value := fun (parts : List Char × List Char) =>
    PropertyQuery.value (String.ofList parts.1) (String.ofList parts.2)
  match splitAtUnequal? text with
  | some parts => (value parts, true)
  | none =>
    match (splitAt? ':' text).orElse fun _ => splitAt? '=' text with
    | some parts => (value parts, false)
    | none => (.name (String.ofList text), false)

def readProperty (verbose negated : Bool) (text : List Char) : Except Defect (Expr × List Char) :=
  match space verbose text with
  | [] => .error .escapeUnfinished
  | '{' :: rest =>
    match takeRun verbose (· != '}') false rest with
    | (_, []) => .error .escapeUnfinished
    | (inside, _ :: after) =>
      let (query, unequal) := propertyQuery inside
      .ok (.property query (negated != unequal), after)
  | '\\' :: _ => .error .propertyLetterInvalid
  | c :: rest => .ok (.property (.name (String.singleton c)) negated, space verbose rest)

/-- Reads what follows `\b`: a boundary may be named between braces. Braces that hold no name are
left to be read as a repetition. -/
def readBoundary (verbose : Bool) (text : List Char) : Except Defect (Expr × List Char) :=
  let nameChar := fun c => isLetter c || c == '-'
  match text with
  | '{' :: rest =>
    match space verbose rest with
    | [] => .error .boundaryUnclosed
    | c :: _ =>
      if nameChar c then
        match takeRun verbose nameChar false rest with
        | (name, '}' :: after) =>
          match String.ofList name with
          | "start" => .ok (.assertion .wordStart, after)
          | "end" => .ok (.assertion .wordEnd, after)
          | "start-half" => .ok (.assertion .wordStartHalf, after)
          | "end-half" => .ok (.assertion .wordEndHalf, after)
          | name => .error (.boundaryUnknown name)
        | _ => .error .boundaryUnclosed
      else .ok (.assertion .wordBoundary, text)
  | _ => .ok (.assertion .wordBoundary, text)

/-- Characters of ASCII that stand for themselves after a backslash: all but letters, digits and
the angle brackets. -/
def isEscapable (c : Char) : Bool :=
  c.toNat < 0x80 && !isDigit c && !isLetter c && c != '<' && c != '>'

def readEscape (verbose : Bool) (text : List Char) : Except Defect (Expr × List Char) :=
  match text with
  | [] => .error .escapeUnfinished
  | c :: rest =>
    let char := fun code => Except.ok (Expr.literal ⟨Char.ofNat code, false⟩, rest)
    let code := fun width => (readCode verbose width rest).map fun (l, r) => (Expr.literal l, r)
    if isDigit c then .error .backreference
    else if isEscapable c then char c.toNat
    else
      match c with
      | 'x' => code 2
      | 'u' => code 4
      | 'U' => code 8
      | 'p' => readProperty verbose false rest
      | 'P' => readProperty verbose true rest
      | 'd' => .ok (.shorthand .digit false, rest)
      | 'D' => .ok (.shorthand .digit true, rest)
      | 's' => .ok (.shorthand .space false, rest)
      | 'S' => .ok (.shorthand .space true, rest)
      | 'w' => .ok (.shorthand .word false, rest)
      | 'W' => .ok (.shorthand .word true, rest)
      | 'a' => char 0x07
      | 'f' => char 0x0C
      | 't' => char 0x09
      | 'n' => char 0x0A
      | 'r' => char 0x0D
      | 'v' => char 0x0B
      | 'A' => .ok (.assertion .textStart, rest)
      | 'z' => .ok (.assertion .textEnd, rest)
      | 'b' => readBoundary verbose rest
      | 'B' => .ok (.assertion .notWordBoundary, rest)
      | '<' => .ok (.assertion .wordStart, rest)
      | '>' => .ok (.assertion .wordEnd, rest)
      | _ => .error (.escapeUnknown c)

def asciiClassNames : List String :=
  ["alnum", "alpha", "ascii", "blank", "cntrl", "digit", "graph", "lower", "print", "punct",
    "space", "upper", "word", "xdigit"]

/-- Reads a class such as `[:alpha:]` or `[:^alpha:]`, if there is one, after its first bracket. -/
def readAsciiClass? (text : List Char) : Option (ClassExpr × List Char) :=
  match text with
  | ':' :: '^' :: rest => named true rest
  | ':' :: rest => named false rest
  | _ => none
where
  named (negated : Bool) (text : List Char) : Option (ClassExpr × List Char) :=
    match text.dropWhile (· != ':') with
    | ':' :: ']' :: after =>
      let name := String.ofList (text.takeWhile (· != ':'))
      if asciiClassNames.contains name then some (.ascii name negated, after) else none
    | _ => none

/-- One member of a class, not yet an item: a class has no use for assertions. -/
def readClassMember (verbose : Bool) (text : List Char) : Except Defect (Expr × List Char) :=
  match text with
  | [] => .error .classUnclosed
  | '\\' :: rest => readEscape verbose rest
  | c :: rest => .ok (.literal ⟨c, false⟩, rest)

def classItem : Expr → Except Defect ClassExpr
  | .literal literal => .ok (.literal literal)
  | .shorthand kind negated => .ok (.shorthand kind negated)
  | .property query negated => .ok (.property query negated)
  | _ => .error .classEscapeInvalid

def rangeEnd : Expr → Except Defect Literal
  | .literal literal => .ok literal
  | _ => .error .classRangeEndInvalid

/-- The character that decides whether a `-` in a class starts the end of a range; `text` follows
the `-`. -/
def afterDash (verbose : Bool) (text : List Char) : Option Char :=
  if verbose then (scan false text).orElse fun _ => text.head? else text.head?
where
  scan (inComment : Bool) : List Char → Option Char
    | [] => none
    | c :: rest =>
      if isBlank c then scan inComment rest
      else if !inComment && c == '#' then scan true rest
      else some c

def readClassRange (verbose : Bool) (text : List Char) : Except Defect (ClassExpr × List Char) := do
  let (first, rest) ← readClassMember verbose text
  match space verbose rest with
  | [] => throw .classUnclosed
  | c :: after =>
    let next := afterDash verbose after
    if c ≠ '-' || next = some ']' || next = some '-' then
      return (← classItem first, c :: after)
    else
      match space verbose after with
      | [] => throw .classUnclosed
      | text =>
        let (last, rest) ← readClassMember verbose text
        let first ← rangeEnd first
        let last ← rangeEnd last
        if first.char ≤ last.char then return (.range first last, rest)
        else throw .classRangeReversed

/-- Reads the start of a class after its bracket: a `^`, then dashes or a closing bracket, which
stand for themselves there. The items come last first. -/
def openClass (verbose : Bool) (text : List Char) :
    Except Defect (Bool × List ClassExpr × List Char) :=
  let start := space verbose text
  let negated := start.head? == some '^'
  let start := if negated then space verbose start.tail else start
  let (dashes, rest) := takeRun verbose (· == '-') false start
  let items := dashes.map fun c => ClassExpr.literal ⟨c, false⟩
  match rest with
  | [] => .error .classUnclosed
  | ']' :: after =>
    if !items.isEmpty then .ok (negated, items, rest)
    else if (space verbose after).isEmpty then .error .classUnclosed
    else .ok (negated, [.literal ⟨']', false⟩], space verbose after)
  | _ => .ok (negated, items, rest)

/-- What waits while a nested part of a class is read: an outer class with its items so far, last
first, or an operation with its left side. -/
inductive ClassFrame where
  | outer (items : List ClassExpr) (negated : Bool)
  | operation (operation : SetOperation) (left : ClassExpr)

/-- Joins the items read so far with an operation that waits for its right side. -/
def settleClass (stack : List ClassFrame) (items : List ClassExpr) : ClassExpr × List ClassFrame :=
  let item := ClassExpr.ofItems items.reverse
  match stack with
  | .operation operation left :: rest => (.combine operation left item, rest)
  | _ => (item, stack)

/-- Reads a bracketed class; `items` are those of the innermost open class, last first. -/
def readClass (verbose : Bool) :
    Nat → List ClassFrame → List ClassExpr → List Char → Except Defect (Expr × List Char)
  | 0, _, _, _ => .error .classUnclosed
  | fuel + 1, stack, items, text =>
    let operate := fun operation rest =>
      let (left, stack) := settleClass stack items
      readClass verbose fuel (.operation operation left :: stack) [] rest
    let enter := fun rest => do
      let (negated, inner, rest) ← openClass verbose rest
      readClass verbose fuel (.outer items negated :: stack) inner rest
    match space verbose text with
    | [] => .error .classUnclosed
    | '[' :: rest =>
      if stack.isEmpty then enter rest
      else
        match readAsciiClass? rest with
        | some (item, after) => readClass verbose fuel stack (item :: items) after
        | none => enter rest
    | ']' :: rest =>
      let (inside, stack) := settleClass stack items
      match stack with
      | [.outer _ negated] => .ok (.bracketed negated inside, rest)
      | .outer items negated :: stack =>
        readClass verbose fuel stack (.bracketed negated inside :: items) rest
      | _ => .error .classUnclosed
    | '&' :: '&' :: rest => operate .intersection rest
    | '-' :: '-' :: rest => operate .difference rest
    | '~' :: '~' :: rest => operate .symmetricDifference rest
    | text => do
      let (item, rest) ← readClassRange verbose text
      readClass verbose fuel stack (item :: items) rest

def readFlags (changes : FlagChanges) (negating dangling : Bool) :
    List Char → Except Defect (FlagChanges × Char × List Char)
  | [] => .error .flagsUnclosed
  | c :: rest =>
    if c = ':' || c = ')' then
      if dangling then .error .negationDangling else .ok (changes, c, rest)
    else if c = '-' then
      if negating then .error .negationRepeated else readFlags changes true true rest
    else
      match Flag.ofChar? c with
      | none => .error (.flagUnknown c)
      | some flag =>
        if (changes.state? flag).isSome then .error .flagRepeated
        else readFlags (changes ++ [(flag, !negating)]) negating false rest

/-- Characters of a group name; a name starts with a letter or an underscore. -/
def isNameChar (first : Bool) (c : Char) : Bool :=
  let letter := c == '_' || Unicode.alphabetic.mem c
  if first then letter
  else letter || c == '.' || c == '[' || c == ']' || Unicode.number.mem c

def readGroupName (text : List Char) : Except Defect (String × List Char) :=
  match text.dropWhile (· != '>') with
  | [] =>
    if validName text then .error .groupNameUnclosed else .error .groupNameInvalid
  | _ :: after =>
    let name := text.takeWhile (· != '>')
    if name.isEmpty then .error .groupNameEmpty
    else if validName name then .ok (String.ofList name, after)
    else .error .groupNameInvalid
where
  validName : List Char → Bool
    | [] => true
    | c :: rest => isNameChar true c && rest.all (isNameChar false)

/-- What waits while a group is read: what stands before the group in its sequence, last first,
or the branches so far of an alternation, last first. -/
inductive Frame where
  | group (before : List Expr) (capturing : Bool) (changes : FlagChanges) (verbose : Bool)
  | alternation (branches : List Expr)

/-- Where the reader is: the mode, the open groups and alternations, the names of groups so far
and the items of the current sequence, last first. -/
structure Scope where
  verbose : Bool := false
  stack : List Frame := []
  names : List String := []
  items : List Expr := []

/-- The current sequence, as a branch of the alternation that waits for it if there is one. -/
def Scope.settle (scope : Scope) : Expr × List Frame :=
  let branch := Expr.ofConcat scope.items.reverse
  match scope.stack with
  | .alternation branches :: rest => (Expr.ofAlternation (branch :: branches).reverse, rest)
  | stack => (branch, stack)

def Scope.push (scope : Scope) (item : Expr) : Scope :=
  { scope with items := item :: scope.items }

def Scope.enter (scope : Scope) (capturing : Bool) (changes : FlagChanges) : Scope :=
  { scope with
    verbose := (changes.state? .verbose).getD scope.verbose
    stack := .group scope.items capturing changes scope.verbose :: scope.stack
    items := [] }

def Scope.branch (scope : Scope) : Scope :=
  let branch := Expr.ofConcat scope.items.reverse
  match scope.stack with
  | .alternation branches :: rest =>
    { scope with stack := .alternation (branch :: branches) :: rest, items := [] }
  | stack => { scope with stack := .alternation [branch] :: stack, items := [] }

def Scope.leave (scope : Scope) : Except Defect Scope :=
  let (body, stack) := scope.settle
  match stack with
  | .group before capturing changes verbose :: rest =>
    .ok { scope with
      verbose, stack := rest, items := .group capturing changes body :: before }
  | _ => .error .groupUnopened

def Scope.finish (scope : Scope) : Except Defect Expr :=
  match scope.settle with
  | (body, []) => .ok body
  | _ => .error .groupUnclosed

def Scope.repeat (scope : Scope) (least : Nat) (most : Option Nat) : Except Defect Scope :=
  match scope.items with
  | [] | .empty :: _ | .flags _ :: _ => .error .repetitionMissing
  | item :: before => .ok { scope with items := .repetition least most item :: before }

def Scope.openGroup (scope : Scope) (text : List Char) : Except Defect (Scope × List Char) :=
  match space scope.verbose text with
  | '?' :: '=' :: _ | '?' :: '!' :: _ | '?' :: '<' :: '=' :: _ | '?' :: '<' :: '!' :: _ =>
    .error .lookAround
  | '?' :: 'P' :: '<' :: rest | '?' :: '<' :: rest => do
    let (name, rest) ← readGroupName rest
    if scope.names.contains name then throw (.groupNameRepeated name)
    return ({ scope with names := name :: scope.names }.enter true [], rest)
  | ['?'] => .error .groupUnclosed
  | '?' :: rest => do
    let (changes, mark, rest) ← readFlags [] false false rest
    if mark = ':' then return (scope.enter false changes, rest)
    else if changes.isEmpty then throw .repetitionMissing
    else
      let verbose := (changes.state? .verbose).getD scope.verbose
      return ({ scope with verbose }.push (.flags changes), rest)
  | rest => .ok (scope.enter true [], rest)

/-- Drops the mark of a repetition that prefers fewer rounds: it does not change what matches. -/
def dropLazy : List Char → List Char
  | '?' :: rest => rest
  | text => text

def Scope.readCounted (scope : Scope) (text : List Char) : Except Defect (Scope × List Char) := do
  let verbose := scope.verbose
  match space verbose text with
  | [] => throw .countUnclosed
  | text =>
    let (least, rest) ← readCount verbose text
    let close := fun (most : Option Nat) (rest : List Char) => do
      if most.any (· < least) then throw .countReversed
      return (← scope.repeat least most, dropLazy (space verbose rest))
    match rest with
    | '}' :: rest => close (some least) rest
    | ',' :: rest =>
      match space verbose rest with
      | [] => throw .countUnclosed
      | '}' :: rest => close none rest
      | rest =>
        let (most, rest) ← readCount verbose rest
        match rest with
        | '}' :: rest => close (some most) rest
        | _ => throw .countUnclosed
    | _ => throw .countUnclosed

/-- Reads the rest of a pattern; each round takes at least one character. -/
def readItems : Nat → Scope → List Char → Except Defect Expr
  | 0, _, _ => .error .groupUnclosed
  | fuel + 1, scope, text =>
    match space scope.verbose text with
    | [] => scope.finish
    | '(' :: rest => do
      let (scope, rest) ← scope.openGroup rest
      readItems fuel scope rest
    | ')' :: rest => do readItems fuel (← scope.leave) rest
    | '|' :: rest => readItems fuel scope.branch rest
    | '[' :: rest => do
      let (item, rest) ← readClass scope.verbose (rest.length + 2) [] [] ('[' :: rest)
      readItems fuel (scope.push item) rest
    | '?' :: rest => do readItems fuel (← scope.repeat 0 (some 1)) (dropLazy rest)
    | '*' :: rest => do readItems fuel (← scope.repeat 0 none) (dropLazy rest)
    | '+' :: rest => do readItems fuel (← scope.repeat 1 none) (dropLazy rest)
    | '{' :: rest => do
      let (scope, rest) ← scope.readCounted rest
      readItems fuel scope rest
    | '\\' :: rest => do
      let (item, rest) ← readEscape scope.verbose rest
      readItems fuel (scope.push item) rest
    | '.' :: rest => readItems fuel (scope.push .dot) rest
    | '^' :: rest => readItems fuel (scope.push (.assertion .lineStart)) rest
    | '$' :: rest => readItems fuel (scope.push (.assertion .lineEnd)) rest
    | c :: rest => readItems fuel (scope.push (.literal ⟨c, false⟩)) rest

def depthLimit : Nat := 250

def read (text : String) : Except Defect Expr := do
  let chars := text.toList
  let expr ← readItems (chars.length + 1) {} chars
  if depthLimit < expr.depth then throw .nestedTooDeep
  return expr

end WireModel.Pattern
