import WireModel.Double

/-! What decoding gives. Equality is that of the values themselves: doubles are compared as numbers,
so that the two zeros are equal, and everything else by structure. -/
namespace WireModel

inductive Value where
  | unit
  | bool (value : Bool)
  | int (value : Int64)
  | real (value : Double)
  | string (value : String)
  | list (items : List Value)
  | set (items : List Value)
  | none
  | some (value : Value)
  | dict (entries : List (Value × Value))
  | record (fields : List (String × Value))
  | constructor (name : String) (fields : List (String × Value))
  | label (label : String)

namespace Value

mutual

def same : Value → Value → Bool
  | .unit, .unit => true
  | .bool a, .bool b => a = b
  | .int a, .int b => a = b
  | .real a, .real b => a.same b
  | .string a, .string b => a = b
  | .list a, .list b => sameItems a b
  | .set a, .set b => sameItems a b
  | .none, .none => true
  | .some a, .some b => a.same b
  | .dict a, .dict b => sameEntries a b
  | .record a, .record b => sameFields a b
  | .constructor m a, .constructor n b => m = n && sameFields a b
  | .label a, .label b => a = b
  | _, _ => false

def sameItems : List Value → List Value → Bool
  | [], [] => true
  | a :: as, b :: bs => a.same b && sameItems as bs
  | _, _ => false

def sameEntries : List (Value × Value) → List (Value × Value) → Bool
  | [], [] => true
  | (k, a) :: as, (l, b) :: bs => k.same l && a.same b && sameEntries as bs
  | _, _ => false

def sameFields : List (String × Value) → List (String × Value) → Bool
  | [], [] => true
  | (k, a) :: as, (l, b) :: bs => k = l && a.same b && sameFields as bs
  | _, _ => false

end

/-- The items that equal none of `seen` and no item before them. -/
def distinctFrom (seen : List Value) : List Value → List Value
  | [] => []
  | item :: rest =>
    if seen.any (·.same item) then distinctFrom seen rest
    else item :: distinctFrom (item :: seen) rest

/-- The first of each group of equal items, in order. -/
def distinct (items : List Value) : List Value :=
  distinctFrom [] items

end Value

end WireModel
