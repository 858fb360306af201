import WireModel.Unicode.BinaryProperty
import WireModel.Unicode.Category

/-! Quoted text for messages and listings. Every character that a reader could not see or could
mistake is written as an escape, so that different texts look different. -/
namespace WireModel.Text

open WireModel.Unicode (CodeSet)

/-- Beyond ASCII: what has no shape of its own, and what joins the character before it. -/
def invisible : CodeSet :=
  .unionAll [Unicode.other, Unicode.separator, Unicode.graphemeExtend]

def isVisible (c : Char) : Bool :=
  let code := c.toNat
  if code < 0x7F then 0x20 ≤ code else !invisible.mem c

def codeEscape (c : Char) : List Char :=
  ['\\', 'u', '{'] ++ Nat.toDigits 16 c.toNat ++ ['}']

def quoteChar (c : Char) : List Char :=
  if c = '\x00' then ['\\', '0']
  else if c = '\t' then ['\\', 't']
  else if c = '\r' then ['\\', 'r']
  else if c = '\n' then ['\\', 'n']
  else if c = '\\' || c = '"' then ['\\', c]
  else if isVisible c then [c]
  else codeEscape c

def quoted (text : String) : String :=
  String.ofList ('"' :: text.toList.flatMap quoteChar ++ ['"'])

end WireModel.Text
