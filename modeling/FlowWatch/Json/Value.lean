import FlowWatch.Decimal.Shortest

/-!
# JSON values

A value as it is read from one line.  Whole numbers keep their value as far as 64 bits reach; every
other number is a double.
-/

namespace FlowWatch

/-- A number of a JSON text. -/
inductive JsonNumber where
  /-- A whole number from zero. -/
  | natural (n : Nat)
  /-- The whole number `-n`, less than zero. -/
  | negative (n : Nat)
  /-- A double with its sign. -/
  | double (isNegative : Bool) (magnitude : Double)
deriving DecidableEq, Repr

/-- A JSON value; the members of an object are listed in the order of their keys. -/
inductive Json where
  | null
  | bool (b : Bool)
  | number (n : JsonNumber)
  | string (s : String)
  | array (items : List Json)
  | object (members : List (String × Json))
deriving Repr

namespace Json

instance : Inhabited Json := ⟨null⟩

/-- Sets a member among members in the order of their keys; an earlier one of the same key is
replaced. -/
def insertMember (key : String) (value : Json) : List (String × Json) → List (String × Json)
  | [] => [(key, value)]
  | (k, v) :: rest =>
    if key = k then (key, value) :: rest
    else if key < k then (key, value) :: (k, v) :: rest
    else (k, v) :: insertMember key value rest

/-- The object of members in the order in which a text lists them. -/
def ofMembers (members : List (String × Json)) : Json :=
  .object (members.foldl (fun sorted (key, value) => insertMember key value sorted) [])

/-- The member of an object. -/
def member? (key : String) : Json → Option Json
  | .object members => (members.find? fun m => m.1 == key).map Prod.snd
  | _ => none

end Json

end FlowWatch
