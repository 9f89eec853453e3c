import CloudKeeper.Json.Number
/-!
JSON values. Members of an object are a list, so a printed value keeps the order it was built in; the
members of a value read from outside are sorted by name, each name once. Values are compared by
structure.
-/
namespace CloudKeeper.Json

/-- A JSON value. -/
inductive Value
  | null
  | bool (b : Bool)
  | number (n : Number)
  | string (s : String)
  | array (items : List Value)
  | object (members : List (String × Value))
  deriving Repr, Inhabited

namespace Value

mutual

/-- Equality by structure; the two floating zeros are equal. -/
def same : Value → Value → Bool
  | .null, .null => true
  | .bool a, .bool b => a == b
  | .number a, .number b => a.same b
  | .string a, .string b => a == b
  | .array a, .array b => sameItems a b
  | .object a, .object b => sameMembers a b
  | _, _ => false

/-- Equality of lists of items, place by place. -/
def sameItems : List Value → List Value → Bool
  | [], [] => true
  | a :: as, b :: bs => a.same b && sameItems as bs
  | _, _ => false

/-- Equality of lists of members, place by place. -/
def sameMembers : List (String × Value) → List (String × Value) → Bool
  | [], [] => true
  | (m, a) :: as, (n, b) :: bs => m == n && a.same b && sameMembers as bs
  | _, _ => false

end

/-- The integer as a value. -/
def int (i : Int) : Value := .number (.int i)

/-- The natural number as a value. -/
def nat (n : Nat) : Value := .number (.int n)

/-- The text as a value, or null. -/
def optional : Option String → Value
  | some s => .string s
  | none => .null

/-- Puts a member at its place by name, replacing a member of the same name. -/
def insertMember (name : String) (value : Value) : List (String × Value) → List (String × Value)
  | [] => [(name, value)]
  | (n, v) :: rest =>
    match compare name n with
    | .lt => (name, value) :: (n, v) :: rest
    | .eq => (name, value) :: rest
    | .gt => (n, v) :: insertMember name value rest

/-- The members sorted by name; of members with one name the last is kept. -/
def sortMembers (members : List (String × Value)) : List (String × Value) :=
  members.foldl (fun sorted member => insertMember member.1 member.2 sorted) []

/-- The value of a member. -/
def member? (name : String) (members : List (String × Value)) : Option Value :=
  (members.find? (·.1 == name)).map (·.2)

/-- The value of an object's member. -/
def get? (v : Value) (name : String) : Option Value :=
  match v with
  | .object members => member? name members
  | _ => none

/-- The text of a string value. -/
def string? : Value → Option String
  | .string s => some s
  | _ => none

/-- The unsigned 64-bit integer that a number is kept as. -/
def uint64? : Value → Option UInt64
  | .number n => n.toUInt64?
  | _ => none

/-- The members of an object value. -/
def members? : Value → Option (List (String × Value))
  | .object members => some members
  | _ => none

end Value

end CloudKeeper.Json
