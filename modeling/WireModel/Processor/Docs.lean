import WireModel.Model.Traversal
import WireModel.Slot.Validation
import WireModel.Unicode.Blank

/-! The documentation processor. It brings the texts of declarations and fields into normal form,
and where the model asks for it, it requires a text for every declaration. -/
namespace WireModel.Docs

def docSlot : String := "doc"
def requiredSlot : String := "docs.required"

def defaults : Defaults :=
  let doc := NodeSlots.define [] [(docSlot, .absent .string)]
  (({} : Defaults).set [.top] (.define [] [(requiredSlot, .bool false)])).set
    [.alias, .sum, .enum, .restricted, .field] doc

inductive Error where
  | slot (error : SlotError)
  | missingDoc (declaration : String) (position : Position)
deriving DecidableEq

namespace Error

def message : Error → String
  | .slot error => error.message
  | .missingDoc declaration _ => s!"`{declaration}` is not documented"

def position : Error → Position
  | .slot error => error.position
  | .missingDoc _ position => position

end Error

/-- Where the text in some lines starts: at the first line that is not empty, or at the end. -/
def textStart (lines : List String) : Nat :=
  lines.findIdx (!·.isEmpty)

/-- Where the text in some lines stops: after the last line that is not empty, or where it
starts. -/
def textStop (lines : List String) : Nat :=
  match lines.reverse.findIdx? (!·.isEmpty) with
  | some below => lines.length - below
  | none => textStart lines

/-- The trimmed lines of a text from the first to the last one that is not blank. -/
def normalLines (text : String) : List String :=
  let trimmed := (Unicode.lines text).map Unicode.trim
  trimmed.extract (textStart trimmed) (textStop trimmed)

def normalize (text : String) : String :=
  "\n".intercalate (normalLines text)

def normalizeInfo (info : Info) : Info :=
  match info.properties.get? docSlot with
  | some (.present _ (.string text)) =>
    { info with
      properties := info.properties.insert docSlot (.wrap (.string (normalize text))) }
  | _ => info

def normalizeDeclaration {ρ : Type} (declaration : Declaration ρ) : Declaration ρ :=
  { declaration with
    body := declaration.body.mapFields fun label => { label with info := normalizeInfo label.info }
    info := normalizeInfo declaration.info }

def isDocumented {ρ : Type} (declaration : Declaration ρ) : Bool :=
  match (defaults.declarationView declaration).string? docSlot with
  | .ok (some text) => !Unicode.isBlankText text
  | _ => false

def isRequired (model : Model) : Bool :=
  match (defaults.topView model).bool requiredSlot with
  | .ok required => required
  | .error _ => false

/-- Wrong slots are reported alone: the other rules read them. -/
def check (model : Model) : Except (List Error) Model :=
  let slots := slotErrors defaults model
  if !slots.isEmpty then .error (slots.map .slot)
  else
    let undocumented :=
      if isRequired model then model.declarations.filter (!isDocumented ·) else []
    if undocumented.isEmpty then .ok (model.mapDeclarations normalizeDeclaration)
    else .error (undocumented.map fun d => .missingDoc d.name d.info.position)

end WireModel.Docs
