import WireModel.Decoder.Name
import WireModel.Decoder.Support
import WireModel.Generation.Options

/-! The fragment of one declaration. Nothing of the other declarations matters but the
classifications of the references to them. -/
namespace WireModel

inductive GenerateError where
  | noCodingStrategy (declaration : String) (position : Position)
  | property (cause : PropertyError)
  | undecodable (declaration path : String) (position : Position)
  | backendUnavailable (declaration : String) (backend : Backend)
deriving DecidableEq

def GenerateError.message : GenerateError → String
  | .noCodingStrategy declaration _ =>
    s!"`{declaration}` has no coding strategy; set `coding.kind`"
  | .property cause => cause.message
  | .undecodable declaration path _ =>
    s!"`{declaration}` cannot be decoded: `{path}` is a function type"
  | .backendUnavailable declaration backend =>
    s!"`{declaration}` selects the {backend.label} backend, which is not available"

/-- Only a reference to an enumeration or a refinement gives keys a rule of their own. -/
def KeyDecoder.ofType : TypeExpr Classification → KeyDecoder
  | .named _ name .enumeration => .enumeration name
  | .named _ name (.refinement basic) => .refined name basic
  | _ => .text

/-- Where a decoder is built: the slots in force, the options and the declaration. -/
structure Site where
  defaults : Defaults
  options : Options
  declaration : String

namespace Site

def fieldKey (site : Site) (label : FieldLabel) : Except GenerateError String :=
  match (site.defaults.fieldView label).string? Coding.fieldNameSlot with
  | .ok key => .ok (key.getD label.name)
  | .error cause => .error (.property cause)

def noteReference (site : Site) (support : SupportSet) : SupportSet :=
  match site.options.references with
  | .standalone => support
  | .codecAccessor => support.insert .codec

def buildKey (site : Site) (support : SupportSet) (type : TypeExpr Classification) :
    KeyDecoder × SupportSet :=
  match KeyDecoder.ofType type with
  | .text => (.text, support.insert .dict)
  | key => (key, (site.noteReference support).insert .keyedDict)

mutual

/-- The decoder of a type that stands at `path`. The modules that it needs are added to `support`,
which holds what was needed before. -/
def buildType (site : Site) (path : String) (support : SupportSet)
    (type : TypeExpr Classification) : Except GenerateError (Decoder × SupportSet) :=
  let support := support.insert .decode
  match type with
  | .unit _ => .ok (.unit, support)
  | .basic _ scalar => .ok (.primitive scalar, support)
  | .named _ name _ => .ok (.call name site.options.references, site.noteReference support)
  | .product _ fields => do
    let (fields, support) ← site.buildFields path support fields
    return (.object fields, support)
  | .emptyProduct _ => .ok (.object [], support)
  | .list _ element => do
    let (element, support) ← site.buildType (path ++ "<element>") support element
    return (.list element, support)
  | .set _ element => do
    let (element, support) ← site.buildType (path ++ "<element>") (support.insert .set) element
    return (.set element, support)
  | .optional _ element => do
    let (element, support) ← site.buildType (path ++ "<element>") support element
    return (.nullable element, support)
  | .dict _ key value => do
    let (key, support) := site.buildKey support key
    let (value, support) ← site.buildType (path ++ "<value>") support value
    return (.dict key value, support)
  | .function info _ _ => .error (.undecodable site.declaration path info.position)

/-- The decoders of fields inside `scope`. A field of an optional type may be left out, and its
decoder is that of the value that may be there. -/
def buildFields (site : Site) (scope : String) (support : SupportSet) :
    List (Field (TypeExpr Classification)) →
      Except GenerateError (List (FieldDecoder Decoder) × SupportSet)
  | [] => .ok ([], support)
  | ⟨label, .optional _ element⟩ :: rest => do
    let key ← site.fieldKey label
    let path := scope ++ "." ++ label.name
    let (decoder, support) ← site.buildType path (support.insert .optionalField) element
    let (decoders, support) ← site.buildFields scope support rest
    return (⟨label.name, key, .optional, decoder⟩ :: decoders, support)
  | ⟨label, type⟩ :: rest => do
    let key ← site.fieldKey label
    let (decoder, support) ← site.buildType (scope ++ "." ++ label.name) support type
    let (decoders, support) ← site.buildFields scope support rest
    return (⟨label.name, key, .required, decoder⟩ :: decoders, support)

end

def buildCases (site : Site) (support : SupportSet) :
    List (Constructor Classification) → Except GenerateError (List (Case Decoder) × SupportSet)
  | [] => .ok ([], support)
  | constructor :: rest => do
    let scope := site.declaration ++ "." ++ constructor.name
    let (fields, support) ← site.buildFields scope support constructor.fields
    let (cases, support) ← site.buildCases support rest
    return (⟨constructor.name, constructor.name, fields⟩ :: cases, support)

def buildBody (site : Site) (support : SupportSet) :
    Body Classification → Except GenerateError (Decoder × SupportSet)
  | .alias type => site.buildType site.declaration support type
  | .sum constructors => do
    let (cases, support) ← site.buildCases (support.insert .tagged) constructors
    return (.tagged site.options.tagField cases, support)
  | .enum labels => .ok (.enumeration site.declaration labels, support.insert .enumeration)
  | .restricted restriction =>
    .ok (.refined site.declaration restriction, support.insert .refinement)

end Site

/-- The documentation of a declaration. Where no processor knows the slot it may be missing. -/
def documentation (defaults : Defaults) (declaration : Declaration Classification) :
    Except GenerateError (Option String) :=
  match (defaults.declarationView declaration).string? Docs.docSlot with
  | .ok doc => .ok doc
  | .error (.missing ..) => .ok none
  | .error cause => .error (.property cause)

/-- The fragment with the decoder of a declaration. Every signature names the type of decoders, so
that its module is needed from the start. -/
def decoderFragment (defaults : Defaults) (options : Options)
    (declaration : Declaration Classification) : Except GenerateError Fragment := do
  let site : Site := ⟨defaults, options, declaration.name⟩
  let (body, support) ← site.buildBody (SupportSet.empty.insert .decode) declaration.body
  let doc ← documentation defaults declaration
  let name := decoderIdent declaration.name
  return {
    declaration := declaration.name
    function := { name, doc, signature := some s!"Decoder {declaration.name}", params := [], body }
    linkage := {
      module := options.module
      imports := support.members
      exposes := [name] } }

def requestedFragment (defaults : Defaults) (options : Options)
    (declaration : Declaration Classification) : Except GenerateError Fragment :=
  match (defaults.declarationView declaration).enumeration? Coding.kindSlot Coding.kinds with
  | .error cause => .error (.property cause)
  | .ok label =>
    match label.bind Backend.ofLabel? with
    | none => .error (.noCodingStrategy declaration.name declaration.info.position)
    | some .decoder => decoderFragment defaults options declaration
    | some backend => .error (.backendUnavailable declaration.name backend)

end WireModel
