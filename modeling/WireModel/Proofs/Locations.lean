import WireModel.Decoding.Error
import Mathlib.Tactic.Common

/-! Places of parts in JSON values. A context is a value with one part taken out; filling it gives
the value back, and changing what it is filled with changes the value at that place and nowhere
else. A path of an error leads to a place, with more to say about how a member is read. -/
namespace WireModel

namespace Json

inductive Locator where
  | member (key : String)
  | index (position : Nat)
deriving DecidableEq, Repr

/-- An array without one of its items, or an object without the value of one of its members. -/
inductive Frame where
  | item (before after : List Json)
  | member (before : List (String × Json)) (key : String) (after : List (String × Json))

def Frame.fill (part : Json) : Frame → Json
  | .item before after => .array (before ++ part :: after)
  | .member before key after => .object (before ++ (key, part) :: after)

def Frame.locator : Frame → Locator
  | .item before _ => .index before.length
  | .member _ key _ => .member key

/-- A value with one part taken out: the frames around that part, the outermost first. -/
structure Context where
  frames : List Frame

namespace Context

def fill (context : Context) (part : Json) : Json :=
  context.frames.foldr (fun frame part => frame.fill part) part

def location (context : Context) : List Locator :=
  context.frames.map (·.locator)

def push (context : Context) (frame : Frame) : Context :=
  ⟨context.frames ++ [frame]⟩

@[simp] theorem fill_cons (frame : Frame) (rest : List Frame) (part : Json) :
    fill ⟨frame :: rest⟩ part = frame.fill (fill ⟨rest⟩ part) := rfl

@[simp] theorem fill_push (context : Context) (frame : Frame) (part : Json) :
    (context.push frame).fill part = context.fill (frame.fill part) := by
  simp [fill, push]

@[simp] theorem location_push (context : Context) (frame : Frame) :
    (context.push frame).location = context.location ++ [frame.locator] := by
  simp [location, push]

end Context

end Json

/-- Both ways to read a member of an object lead to its value. -/
def Step.locator : Step → Json.Locator
  | .field key | .entry key => .member key
  | .index position => .index position

namespace Path

def location (path : Path) : List Json.Locator :=
  path.steps.map (·.locator)

@[simp] theorem location_push (path : Path) (step : Step) :
    (path.push step).location = path.location ++ [step.locator] := by
  simp [location, push]

theorem text_eq_join (path : Path) : path.text = String.join ("$" :: path.steps.map Step.text) := by
  rw [text, String.join, List.foldl_cons, List.foldl_map, String.empty_append]

def Leads (path : Path) (whole part : Json) : Prop :=
  ∃ context : Json.Context, context.location = path.location ∧ context.fill part = whole

theorem leads_root (whole : Json) : Leads {} whole whole :=
  ⟨⟨[]⟩, rfl, rfl⟩

variable {path : Path} {whole : Json}

theorem Leads.item {items : List Json} (leads : path.Leads whole (.array items)) {index : Nat}
    {item : Json} (there : items[index]? = some item) :
    (path.push (.index index)).Leads whole item := by
  obtain ⟨context, same, rfl⟩ := leads
  obtain ⟨inRange, rfl⟩ := List.getElem?_eq_some_iff.1 there
  refine ⟨context.push (.item (items.take index) (items.drop (index + 1))), ?_, ?_⟩
  · simp [same, Json.Frame.locator, Step.locator, Nat.min_eq_left (Nat.le_of_lt inRange)]
  · simp [Json.Frame.fill]

theorem Leads.member {members : List (String × Json)} (leads : path.Leads whole (.object members))
    {key : String} {value : Json} (member : (key, value) ∈ members) {step : Step}
    (reads : step.locator = .member key) : (path.push step).Leads whole value := by
  obtain ⟨context, same, rfl⟩ := leads
  obtain ⟨before, after, rfl⟩ := List.append_of_mem member
  exact ⟨context.push (.member before key after), by simp [same, reads, Json.Frame.locator],
    by simp [Json.Frame.fill]⟩

end Path

end WireModel
