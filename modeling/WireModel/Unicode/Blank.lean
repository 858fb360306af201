/-! Blank characters, trimming and the lines of a text. A blank is a character with the Unicode
property `White_Space`, so the set is wider than the blanks of ASCII. -/
namespace WireModel.Unicode

def isBlank (c : Char) : Bool :=
  let code := c.toNat
  (0x09 ≤ code && code ≤ 0x0D) || code == 0x20 || code == 0x85 || code == 0xA0 ||
    code == 0x1680 || (0x2000 ≤ code && code ≤ 0x200A) || code == 0x2028 || code == 0x2029 ||
    code == 0x202F || code == 0x205F || code == 0x3000

def trimChars (text : List Char) : List Char :=
  ((text.dropWhile isBlank).reverse.dropWhile isBlank).reverse

def trim (text : String) : String :=
  String.ofList (trimChars text.toList)

def isBlankText (text : String) : Bool :=
  text.toList.all isBlank

/-- Drops the carriage return at the end of a line that is given last character first. -/
def dropReturn : List Char → List Char
  | '\r' :: line => line
  | line => line

/-- The lines of `text` after the characters `line` of its first line, which come last first. -/
def linesAfter (line : List Char) : List Char → List (List Char)
  | [] => if line.isEmpty then [] else [line.reverse]
  | c :: rest =>
    if c = '\n' then (dropReturn line).reverse :: linesAfter [] rest
    else linesAfter (c :: line) rest

/-- The lines of a text: a newline, or a carriage return and a newline, ends a line, and what
follows the last newline is a line only if it is not empty. -/
def lines (text : String) : List String :=
  (linesAfter [] text.toList).map String.ofList

end WireModel.Unicode
