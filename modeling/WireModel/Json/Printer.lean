import WireModel.Json.Basic

/-! JSON as text, on one line or indented by two blanks. Members keep their order. -/
namespace WireModel.Json

def hexPair (code : Nat) : List Char :=
  [Nat.digitChar (code / 16 % 16), Nat.digitChar (code % 16)]

def escapeChar (c : Char) : List Char :=
  if c = '"' || c = '\\' then ['\\', c]
  else if c = '\n' then ['\\', 'n']
  else if c = '\r' then ['\\', 'r']
  else if c = '\t' then ['\\', 't']
  else if c = '\x08' then ['\\', 'b']
  else if c = '\x0c' then ['\\', 'f']
  else if c.toNat < 0x20 then ['\\', 'u', '0', '0'] ++ hexPair c.toNat
  else [c]

def quote (text : String) : String :=
  String.ofList ('"' :: text.toList.flatMap escapeChar ++ ['"'])

def numberText : Number → String
  | .integer value => toString value.toInt
  | .natural value => toString value.toNat
  | .double value => value.text

mutual

def compact : Json → String
  | .null => "null"
  | .bool value => if value then "true" else "false"
  | .number value => numberText value
  | .string value => quote value
  | .array items => "[" ++ ",".intercalate (compactItems items) ++ "]"
  | .object members => "\x7b" ++ ",".intercalate (compactMembers members) ++ "\x7d"

def compactItems : List Json → List String
  | [] => []
  | item :: rest => item.compact :: compactItems rest

def compactMembers : List (String × Json) → List String
  | [] => []
  | (key, value) :: rest => (quote key ++ ":" ++ value.compact) :: compactMembers rest

end

def indent (depth : Nat) : String :=
  String.ofList (List.replicate (2 * depth) ' ')

/-- Lines between brackets, one item a line; nothing between the brackets if there is no item. -/
def block (first last : String) (depth : Nat) (items : List String) : String :=
  if items.isEmpty then first ++ last
  else
    first ++ "\n" ++ ",\n".intercalate (items.map (indent (depth + 1) ++ ·)) ++ "\n" ++
      indent depth ++ last

mutual

/-- The value over several lines, as part of a text that is indented `depth` times. -/
def prettyAt (depth : Nat) : Json → String
  | .array items => block "[" "]" depth (prettyItems (depth + 1) items)
  | .object members => block "\x7b" "\x7d" depth (prettyMembers (depth + 1) members)
  | value => value.compact

def prettyItems (depth : Nat) : List Json → List String
  | [] => []
  | item :: rest => item.prettyAt depth :: prettyItems depth rest

def prettyMembers (depth : Nat) : List (String × Json) → List String
  | [] => []
  | (key, value) :: rest =>
    (quote key ++ ": " ++ value.prettyAt depth) :: prettyMembers depth rest

end

def pretty (value : Json) : String :=
  value.prettyAt 0

end WireModel.Json
