import WireModel.Decoder.Basic

/-! Sets of modules, as they are collected while decoders are built. -/
namespace WireModel

/-- A set of modules, listed without repetition in the order of all modules. -/
structure SupportSet where
  members : List Support
  listed : members.Sublist Support.all
deriving DecidableEq

namespace SupportSet

def empty : SupportSet := ⟨[], Support.all.nil_sublist⟩

def insert (set : SupportSet) (support : Support) : SupportSet where
  members := Support.all.filter fun other => other = support || set.members.contains other
  listed := List.filter_sublist

end SupportSet

end WireModel
