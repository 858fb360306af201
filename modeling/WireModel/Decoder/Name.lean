import WireModel.Decoder.Basic
import WireModel.Unicode.Lowercase

/-! Names of generated functions: the declaration's name with its first character in lower case. -/
namespace WireModel

def decapitalize (name : String) : String :=
  match name.toList with
  | [] => ""
  | first :: rest => String.ofList (Unicode.lowercase first ++ rest)

def decoderIdent (declaration : String) : String :=
  decapitalize declaration ++ "Decoder"

def codecIdent (declaration : String) : String :=
  decapitalize declaration ++ "Codec"

def ReferenceStyle.expression (style : ReferenceStyle) (target : String) : String :=
  match style with
  | .standalone => decoderIdent target
  | .codecAccessor => "Codec.decoder " ++ codecIdent target

end WireModel
