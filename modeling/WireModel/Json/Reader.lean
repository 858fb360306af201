import WireModel.Json.Basic

/-! Reading JSON text. Values nest at most `Json.depthLimit` deep, and a number too large for a
double is refused. -/
namespace WireModel.Json

/-- Arrays and objects nest less deep than this. -/
def depthLimit : Nat := 128

def isBlank (c : Char) : Bool :=
  c = ' ' || c = '\n' || c = '\t' || c = '\r'

def skipBlanks (text : List Char) : List Char :=
  text.dropWhile isBlank

def isDigit (c : Char) : Bool :=
  '0' ≤ c && c ≤ '9'

def digitValue (c : Char) : Nat :=
  c.toNat - 0x30

/-- A decimal as it is read: `digits * 10 ^ exponent`. Digits are kept as long as they fit 64
bits. -/
structure Decimal where
  digits : Nat
  exponent : Int
  full : Bool := false

def Decimal.fits (decimal : Decimal) (digit : Nat) : Bool :=
  !decimal.full && 10 * decimal.digits + digit < UInt64.size

/-- Takes a digit before the point: one that does not fit still multiplies by ten. -/
def Decimal.pushWhole (decimal : Decimal) (c : Char) : Decimal :=
  let digit := digitValue c
  if decimal.fits digit then { decimal with digits := 10 * decimal.digits + digit }
  else { decimal with exponent := decimal.exponent + 1, full := true }

/-- Takes a digit after the point: one that does not fit is dropped, with all that follow. -/
def Decimal.pushFraction (decimal : Decimal) (c : Char) : Decimal :=
  let digit := digitValue c
  if decimal.fits digit then
    { decimal with digits := 10 * decimal.digits + digit, exponent := decimal.exponent - 1 }
  else { decimal with full := true }

def Decimal.toNumber? (decimal : Decimal) (negative : Bool) : Option Number :=
  (Double.scale? decimal.digits decimal.exponent).map fun magnitude =>
    .double ⟨negative, magnitude⟩

def Decimal.toWhole? (decimal : Decimal) (negative : Bool) : Option Number :=
  let digits := decimal.digits
  if decimal.full then decimal.toNumber? negative
  else if negative then
    if 0 < digits && digits ≤ 0x8000000000000000 then some (.integer (Int64.ofInt (-digits)))
    else some (.double (Double.ofInt digits).neg)
  else if digits < 0x8000000000000000 then some (.integer (Int64.ofInt digits))
  else some (.natural (UInt64.ofNat digits))

def readExponent (decimal : Decimal) (negative : Bool) (text : List Char) :
    Option (Number × List Char) :=
  let (below, text) :=
    match text with
    | '+' :: rest => (false, rest)
    | '-' :: rest => (true, rest)
    | rest => (false, rest)
  match text.takeWhile isDigit with
  | [] => none
  | digits =>
    let size : Nat := digits.foldl (fun n c => 10 * n + digitValue c) 0
    let exponent := if below then decimal.exponent - size else decimal.exponent + size
    ({ decimal with exponent }.toNumber? negative).map (·, text.dropWhile isDigit)

def readFraction (decimal : Decimal) (negative : Bool) (text : List Char) :
    Option (Number × List Char) :=
  match text with
  | '.' :: rest =>
    match rest.takeWhile isDigit with
    | [] => none
    | digits =>
      let decimal := digits.foldl Decimal.pushFraction { decimal with full := false }
      match rest.dropWhile isDigit with
      | 'e' :: rest | 'E' :: rest => readExponent decimal negative rest
      | rest => (decimal.toNumber? negative).map (·, rest)
  | 'e' :: rest | 'E' :: rest => readExponent decimal negative rest
  | rest => (decimal.toWhole? negative).map (·, rest)

def readNumber (text : List Char) : Option (Number × List Char) :=
  let negative := text.head? == some '-'
  let text := if negative then text.tail else text
  match text with
  | '0' :: rest =>
    if (rest.head?.any isDigit) then none else readFraction ⟨0, 0, false⟩ negative rest
  | _ =>
    match text.takeWhile isDigit with
    | [] => none
    | digits =>
      readFraction (digits.foldl Decimal.pushWhole ⟨0, 0, false⟩) negative
        (text.dropWhile isDigit)

def hexValue? (c : Char) : Option Nat :=
  if isDigit c then some (digitValue c)
  else if 'a' ≤ c && c ≤ 'f' then some (c.toNat - 0x57)
  else if 'A' ≤ c && c ≤ 'F' then some (c.toNat - 0x37)
  else none

def hexUnit? (a b c d : Char) : Option Nat := do
  let a ← hexValue? a
  let b ← hexValue? b
  let c ← hexValue? c
  let d ← hexValue? d
  return 16 * (16 * (16 * a + b) + c) + d

def isHighUnit (unit : Nat) : Bool :=
  0xD800 ≤ unit && unit < 0xDC00

def isLowUnit (unit : Nat) : Bool :=
  0xDC00 ≤ unit && unit < 0xE000

def escapeChar? : Char → Option Char
  | '"' => some '"'
  | '\\' => some '\\'
  | '/' => some '/'
  | 'b' => some '\x08'
  | 'f' => some '\x0c'
  | 'n' => some '\n'
  | 'r' => some '\r'
  | 't' => some '\t'
  | _ => none

/-- Reads a string after its first quote; `done` holds its characters so far, last first. A unit of
a surrogate pair has to stand in its pair. -/
def readString (done : List Char) : List Char → Option (String × List Char)
  | [] => none
  | '"' :: rest => some (String.ofList done.reverse, rest)
  | '\\' :: 'u' :: a :: b :: c :: d :: '\\' :: 'u' :: e :: f :: g :: h :: rest =>
    match hexUnit? a b c d with
    | none => none
    | some unit =>
      if isHighUnit unit then
        match hexUnit? e f g h with
        | some low =>
          if isLowUnit low then
            let code := 0x10000 + 0x400 * (unit - 0xD800) + (low - 0xDC00)
            readString (Char.ofNat code :: done) rest
          else none
        | none => none
      else if isLowUnit unit then none
      else readString (Char.ofNat unit :: done) ('\\' :: 'u' :: e :: f :: g :: h :: rest)
  | '\\' :: 'u' :: a :: b :: c :: d :: rest =>
    match hexUnit? a b c d with
    | none => none
    | some unit =>
      if isHighUnit unit || isLowUnit unit then none
      else readString (Char.ofNat unit :: done) rest
  | '\\' :: e :: rest =>
    match escapeChar? e with
    | some c => readString (c :: done) rest
    | none => none
  | c :: rest => if c.toNat < 0x20 then none else readString (c :: done) rest

mutual

/-- Reads a value; `depth` says how much deeper arrays and objects may nest. -/
def readValue : Nat → Nat → List Char → Option (Json × List Char)
  | 0, _, _ => none
  | fuel + 1, depth, text =>
    match skipBlanks text with
    | 'n' :: 'u' :: 'l' :: 'l' :: rest => some (.null, rest)
    | 't' :: 'r' :: 'u' :: 'e' :: rest => some (.bool true, rest)
    | 'f' :: 'a' :: 'l' :: 's' :: 'e' :: rest => some (.bool false, rest)
    | '"' :: rest => (readString [] rest).map fun (value, rest) => (.string value, rest)
    | '[' :: rest =>
      if depth ≤ 1 then none
      else
        match skipBlanks rest with
        | ']' :: rest => some (.array [], rest)
        | rest => readItems fuel (depth - 1) [] rest
    | '{' :: rest =>
      if depth ≤ 1 then none
      else
        match skipBlanks rest with
        | '}' :: rest => some (.object [], rest)
        | rest => readMembers fuel (depth - 1) [] rest
    | text => (readNumber text).map fun (value, rest) => (.number value, rest)

/-- Reads the items of an array up to its bracket; those so far come last first. -/
def readItems : Nat → Nat → List Json → List Char → Option (Json × List Char)
  | 0, _, _, _ => none
  | fuel + 1, depth, done, text =>
    match readValue fuel depth text with
    | none => none
    | some (item, rest) =>
      match skipBlanks rest with
      | ',' :: rest => readItems fuel depth (item :: done) rest
      | ']' :: rest => some (.array (item :: done).reverse, rest)
      | _ => none

def readMembers : Nat → Nat → List (String × Json) → List Char → Option (Json × List Char)
  | 0, _, _, _ => none
  | fuel + 1, depth, done, text =>
    match skipBlanks text with
    | '"' :: rest =>
      match readString [] rest with
      | none => none
      | some (key, rest) =>
        match skipBlanks rest with
        | ':' :: rest =>
          match readValue fuel depth rest with
          | none => none
          | some (value, rest) =>
            match skipBlanks rest with
            | ',' :: rest => readMembers fuel depth ((key, value) :: done) rest
            | '}' :: rest => some (.object ((key, value) :: done).reverse, rest)
            | _ => none
        | _ => none
    | _ => none

end

/-- The value that a text spells, with its members in the order written. -/
def parse? (text : String) : Option Json :=
  let chars := text.toList
  match readValue (2 * chars.length + 2) depthLimit chars with
  | some (value, rest) => if (skipBlanks rest).isEmpty then some value else none
  | none => none

end WireModel.Json
