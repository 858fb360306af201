import WireModel.Compilation
import WireModel.Decoder.Basic

/-! What a model asks to be generated: the backend of a declaration, and the options that hold for
all declarations. -/
namespace WireModel

inductive Backend where
  | decoder
  | encoder
  | codec
deriving DecidableEq, Repr

namespace Backend

def all : List Backend := [.decoder, .encoder, .codec]

def label : Backend → String
  | .decoder => "decoder"
  | .encoder => "encoder"
  | .codec => "codec"

def ofLabel? (label : String) : Option Backend :=
  all.find? (·.label = label)

end Backend

structure Options where
  references : ReferenceStyle
  tagField : String
  module : List String
deriving DecidableEq

def Options.ofModel (defaults : Defaults) (model : Model) :
    Except PropertyError Options := do
  let view := defaults.topView model
  let references ← view.enumeration Coding.referencesSlot Coding.referenceStyles
  let tagField ← view.string Coding.tagFieldSlot
  let module ← view.qname Coding.moduleSlot
  let style := if references = "codec" then ReferenceStyle.codecAccessor else .standalone
  return { references := style, tagField, module }

end WireModel
