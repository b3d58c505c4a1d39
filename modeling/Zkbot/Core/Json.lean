import Mathlib.Data.List.Basic

/-!
# JSON values and pointers

A JSON tree, its compact text with sorted keys, and assignment to the value that a JSON pointer
locates.  Two assignments to one place leave the second; two assignments of the same scalar
commute wherever they are made, nested places and places that one of them removes included.
-/

namespace Zkbot

open List

/-- A JSON tree; a number is its text. -/
inductive Json where
  | null
  | bool (b : Bool)
  | number (text : String)
  | string (s : String)
  | array (items : List Json)
  | object (fields : List (String × Json))

namespace Json

/-! ## Text -/

/-- Insertion into a map ordered by key, from the back: a key that is there has its last value. -/
def insertField (k : String) (v : Json) : List (String × Json) → List (String × Json)
  | [] => [(k, v)]
  | (k', v') :: fields =>
    if k < k' then (k, v) :: (k', v') :: fields
    else if k = k' then (k', v') :: fields
    else (k', v') :: insertField k v fields

mutual

/-- The tree with the keys of every object sorted. -/
def sortKeys : Json → Json
  | .array items => .array (sortItems items)
  | .object fields => .object (sortFields fields)
  | other => other

def sortItems : List Json → List Json
  | [] => []
  | v :: items => sortKeys v :: sortItems items

def sortFields : List (String × Json) → List (String × Json)
  | [] => []
  | (k, v) :: fields => insertField k (sortKeys v) (sortFields fields)

end

/-- A character inside a string. -/
def escape (c : Char) : String :=
  match c.toNat with
  | 0x22 => "\\\""
  | 0x5c => "\\\\"
  | 0x08 => "\\b"
  | 0x09 => "\\t"
  | 0x0a => "\\n"
  | 0x0c => "\\f"
  | 0x0d => "\\r"
  | n => if n < 0x20 then "\\u00" ++ (BitVec.ofNat 8 n).toHex else c.toString

def quote (s : String) : String :=
  "\"" ++ String.join (s.toList.map escape) ++ "\""

mutual

/-- The compact text. -/
def text : Json → String
  | .null => "null"
  | .bool b => toString b
  | .number n => n
  | .string s => quote s
  | .array items => "[" ++ ",".intercalate (itemTexts items) ++ "]"
  | .object fields => "\x7b" ++ ",".intercalate (fieldTexts fields) ++ "\x7d"

def itemTexts : List Json → List String
  | [] => []
  | v :: items => text v :: itemTexts items

def fieldTexts : List (String × Json) → List String
  | [] => []
  | (k, v) :: fields => (quote k ++ ":" ++ text v) :: fieldTexts fields

end

/-! ## Pointers -/

/-- Every `~` before `digit` becomes `c`, and the digit goes. -/
def unescape (digit c : Char) : List Char → List Char
  | '~' :: d :: cs =>
    if d = digit then c :: unescape digit c cs else '~' :: unescape digit c (d :: cs)
  | x :: cs => x :: unescape digit c cs
  | [] => []

/-- The steps of a pointer; one that is neither empty nor starts with a slash locates nothing. -/
def pointerSteps (pointer : String) : Option (List String) :=
  match pointer.toList with
  | [] => some []
  | '/' :: cs =>
    some ((cs.splitOn '/').map fun step => String.ofList (unescape '0' '~' (unescape '1' '/' step)))
  | _ => none

/-- A step as an index: decimal digits without a leading zero. -/
def parseIndex (step : String) : Option ℕ :=
  let cs := step.toList
  if cs ≠ [] ∧ cs.all Char.isDigit ∧ (cs.head? = some '0' → cs.length = 1) then
    some (cs.foldl (fun n c => 10 * n + (c.toNat - 48)) 0)
  else none

/-- The tree with `v` in the place that the steps lead to, if there is one. -/
def setAt (v : Json) : List String → Json → Json
  | [], _ => v
  | step :: steps, .object fields =>
    .object (fields.map fun f => (f.1, if f.1 = step then setAt v steps f.2 else f.2))
  | step :: steps, .array items =>
    .array (match parseIndex step with
      | some i => items.modify i (setAt v steps)
      | none => items)
  | _ :: _, other => other

/-- Assignment through a pointer. -/
def assign (json v : Json) (pointer : String) : Json :=
  (pointerSteps pointer).elim json (setAt v · json)

/-- An assignment leaves nothing of an earlier one to the same place. -/
lemma setAt_setAt (v w : Json) (steps : List String) (json : Json) :
    setAt w steps (setAt v steps json) = setAt w steps json := by
  induction steps generalizing json with
  | nil => rfl
  | cons step steps ih =>
    cases json with
    | object fields =>
      simp only [setAt, map_map, Function.comp_def, object.injEq]
      refine map_congr_left fun f _ => ?_
      split <;> simp [*]
    | array items =>
      have hcomp : setAt w steps ∘ setAt v steps = setAt w steps := funext ih
      cases hi : parseIndex step with
      | none => simp [setAt, hi]
      | some i => simp [setAt, hi, modify_modify_eq, hcomp]
    | _ => rfl

/-- Assignments of one string commute: where one place lies inside the other, only the outer one
is seen. -/
lemma setAt_comm (s : String) (p q : List String) (json : Json) :
    setAt (.string s) p (setAt (.string s) q json) =
      setAt (.string s) q (setAt (.string s) p json) := by
  induction p generalizing q json with
  | nil => cases q <;> rfl
  | cons i p ih =>
    cases q with
    | nil => rfl
    | cons j q =>
      cases json with
      | object fields =>
        simp only [setAt, map_map, Function.comp_def, object.injEq]
        refine map_congr_left fun f _ => ?_
        split <;> split <;> simp [ih]
      | array items =>
        have hcomp : setAt (.string s) p ∘ setAt (.string s) q =
            setAt (.string s) q ∘ setAt (.string s) p := funext (ih q)
        cases hi : parseIndex i with
        | none => simp [setAt, hi]
        | some m =>
          cases hj : parseIndex j with
          | none => simp [setAt, hi, hj]
          | some n =>
            by_cases hmn : m = n
            · simp [setAt, hi, hj, hmn, modify_modify_eq, hcomp]
            · simp [setAt, hi, hj, modify_modify_ne _ _ _ hmn]
      | _ => rfl

lemma assign_assign (v w : Json) (pointer : String) (json : Json) :
    (json.assign v pointer).assign w pointer = json.assign w pointer := by
  cases h : pointerSteps pointer <;> simp [assign, h, setAt_setAt]

lemma assign_comm (s p q : String) (json : Json) :
    (json.assign (.string s) q).assign (.string s) p =
      (json.assign (.string s) p).assign (.string s) q := by
  cases hp : pointerSteps p <;> cases hq : pointerSteps q <;> simp [assign, hp, hq, setAt_comm s]

end Json

end Zkbot
