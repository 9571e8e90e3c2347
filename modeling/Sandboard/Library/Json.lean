import Mathlib.Tactic.Common

/-!
# JSON values

A value with the fields of its objects in their order.  `null`, booleans and numbers are atoms: a
program that only follows keys and reads texts does not tell them apart.
-/

namespace Sandboard

/-- A JSON value; `null`, booleans and numbers are atoms. -/
inductive Json where
  | atom (text : String)
  | string (s : String)
  | array (items : List Json)
  | object (fields : List (String × Json))

namespace Json

/-- The fields of an object. -/
abbrev Fields : Type := List (String × Json)

/-- The text of a value that is one. -/
def asStr : Json → Option String
  | .string s => some s
  | _ => none

/-- The value at the end of a path of keys of objects. -/
def pointer : Json → List String → Option Json
  | v, [] => some v
  | .object fields, key :: path =>
    match fields.lookup key with
    | some v => v.pointer path
    | none => none
  | _, _ :: _ => none

end Json

end Sandboard
