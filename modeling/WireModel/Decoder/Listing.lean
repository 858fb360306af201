import WireModel.Decoder.Name
import WireModel.Text.Quoted
import WireModel.Unicode.Blank

/-! A listing of fragments for readers: one block a fragment under a common header. -/
namespace WireModel

namespace Restriction

def listingParts : Restriction → List String
  | .int r =>
    "int" :: List.flatten [
      (r.min.map fun n => s!"min {n.toInt}").toList,
      (r.max.map fun n => s!"max {n.toInt}").toList,
      (r.width.map fun n => s!"width {n.toNat}").toList]
  | .string r =>
    "string" :: List.flatten [
      (r.minLength.map fun n => s!"minLength {n.toNat}").toList,
      (r.maxLength.map fun n => s!"maxLength {n.toNat}").toList,
      (r.regex.map fun pattern => s!"regex /{pattern}/").toList]

end Restriction

namespace Decoder

mutual

def expression : Decoder → String
  | .unit => "succeed ()"
  | .primitive basic => basic.text
  | .call target style => style.expression target
  | .list element => "list (" ++ element.expression ++ ")"
  | .set element => "set (" ++ element.expression ++ ")"
  | .nullable element => "nullable (" ++ element.expression ++ ")"
  | .dict .text value => "dict (" ++ value.expression ++ ")"
  | .dict (.enumeration target) value | .dict (.refined target _) value =>
    "keyedDict " ++ target ++ " (" ++ value.expression ++ ")"
  | .object fields => "object \x7b" ++ ", ".intercalate (fieldExpressions fields) ++ "\x7d"
  | .tagged discriminant cases =>
    "tagged " ++ Text.quoted discriminant ++ " [" ++ ", ".intercalate (cases.map (·.tag)) ++ "]"
  | .enumeration name labels => "enum " ++ name ++ " [" ++ ", ".intercalate labels ++ "]"
  | .refined name restriction =>
    "refined " ++ name ++ " (" ++ ", ".intercalate restriction.listingParts ++ ")"

def fieldExpressions : List (FieldDecoder Decoder) → List String
  | [] => []
  | ⟨_, key, _, decoder⟩ :: rest =>
    (key ++ " = " ++ decoder.expression) :: fieldExpressions rest

end

def indent (depth : Nat) : String :=
  String.ofList (List.replicate (4 * depth) ' ')

def fieldLines (depth : Nat) (fields : List (FieldDecoder Decoder)) : List String :=
  fields.map fun field =>
    indent depth ++ field.presence.text ++ " " ++ Text.quoted field.key ++ " " ++
      field.decoder.expression

/-- A decoder over several lines, where it is the body of a function. -/
def lines (depth : Nat) : Decoder → List String
  | .object [] => [indent depth ++ "object \x7b\x7d"]
  | .object fields => (indent depth ++ "object") :: fieldLines (depth + 1) fields
  | .tagged discriminant cases =>
    (indent depth ++ "tagged " ++ Text.quoted discriminant) ::
      cases.flatMap fun case =>
        (indent (depth + 1) ++ Text.quoted case.tag ++ " -> " ++ case.combinator ++ " " ++
          case.constructor) :: fieldLines (depth + 2) case.fields
  | decoder => [indent depth ++ decoder.expression]

end Decoder

def Fragment.lines (fragment : Fragment) : List String :=
  let function := fragment.function
  let doc := (function.doc.map Unicode.lines).getD []
  List.flatten [
    [""],
    doc.map ("-- " ++ ·),
    (function.signature.map fun signature => function.name ++ " : " ++ signature).toList,
    [" ".intercalate (function.name :: function.params) ++ " ="],
    function.body.lines 1]

/-- The lines of a listing, each ended by a newline. The module is that of the first fragment. -/
def listing (fragments : List Fragment) : String :=
  let module := ".".intercalate ((fragments.head?.map (·.linkage.module)).getD [])
  let exposes := fragments.flatMap (·.linkage.exposes)
  let imports :=
    Support.all.filter fun support => fragments.any (·.linkage.imports.contains support)
  let header := "module " ++ module ++ " exposing (" ++ ", ".intercalate exposes ++ ")"
  let imported :=
    if imports.isEmpty then [] else "" :: imports.map fun support => "import " ++ support.module
  String.join (((header :: imported) ++ fragments.flatMap (·.lines)).map (· ++ "\n"))

end WireModel
