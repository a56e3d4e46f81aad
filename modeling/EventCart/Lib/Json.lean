/-
  EventCart.Lib.Json
  ──────────────────
  **JSON VALUES AS PYTHON SEES THEM.**

  The values a JSON column or body holds once it is decoded, with the few
  Python operations programs apply to them: dictionary lookup and update,
  `isinstance(value, int)` (a Python `bool` IS an `int`), the texts
  `str(value)` and `repr(value)` that end up in keys and error messages, and
  `json.dumps(value, sort_keys=True, separators=(",", ":"))`.

  Strings are sequences of Unicode scalar values, so lone surrogates have no
  representation here.  A float is carried as its `repr`: no operation below
  computes with one.
-/
import Mathlib.Data.List.Basic
import Mathlib.Data.List.Sort

namespace EventCart.Lib

/-! ## §1. Values and dictionaries. -/

/-- A decoded JSON value. -/
inductive Json where
  | null
  | bool (value : Bool)
  | int (value : Int)
  | float (repr : String)
  | str (value : String)
  | arr (items : List Json)
  | obj (members : List (String × Json))
  deriving Repr, Inhabited

mutual

/-- Equality of values, member by member. -/
def Json.decEq : (a b : Json) → Decidable (a = b)
  | .null, .null => isTrue rfl
  | .bool v, .bool w => decidable_of_iff (v = w) (by simp)
  | .int v, .int w => decidable_of_iff (v = w) (by simp)
  | .float v, .float w => decidable_of_iff (v = w) (by simp)
  | .str v, .str w => decidable_of_iff (v = w) (by simp)
  | .arr v, .arr w =>
      have := Json.decEqItems v w
      decidable_of_iff (v = w) (by simp)
  | .obj v, .obj w =>
      have := Json.decEqMembers v w
      decidable_of_iff (v = w) (by simp)
  | .null, .bool _ | .null, .int _ | .null, .float _ | .null, .str _ | .null, .arr _
  | .null, .obj _ | .bool _, .null | .bool _, .int _ | .bool _, .float _ | .bool _, .str _
  | .bool _, .arr _ | .bool _, .obj _ | .int _, .null | .int _, .bool _ | .int _, .float _
  | .int _, .str _ | .int _, .arr _ | .int _, .obj _ | .float _, .null | .float _, .bool _
  | .float _, .int _ | .float _, .str _ | .float _, .arr _ | .float _, .obj _ | .str _, .null
  | .str _, .bool _ | .str _, .int _ | .str _, .float _ | .str _, .arr _ | .str _, .obj _
  | .arr _, .null | .arr _, .bool _ | .arr _, .int _ | .arr _, .float _ | .arr _, .str _
  | .arr _, .obj _ | .obj _, .null | .obj _, .bool _ | .obj _, .int _ | .obj _, .float _
  | .obj _, .str _ | .obj _, .arr _ => isFalse nofun

def Json.decEqItems : (a b : List Json) → Decidable (a = b)
  | [], [] => isTrue rfl
  | [], _ :: _ | _ :: _, [] => isFalse nofun
  | v :: a, w :: b =>
      have := Json.decEq v w
      have := Json.decEqItems a b
      decidable_of_iff (v = w ∧ a = b) (by simp)

def Json.decEqMembers : (a b : List (String × Json)) → Decidable (a = b)
  | [], [] => isTrue rfl
  | [], _ :: _ | _ :: _, [] => isFalse nofun
  | (k, v) :: a, (l, w) :: b =>
      have := Json.decEq v w
      have := Json.decEqMembers a b
      decidable_of_iff (k = l ∧ v = w ∧ a = b) (by simp [and_assoc])

end

instance : DecidableEq Json := Json.decEq

/-- A Python dictionary with string keys, in insertion order. -/
abbrev Dict := List (String × Json)

namespace Dict

/-- `d.get(key)`. -/
def get? (d : Dict) (key : String) : Option Json := d.lookup key

/-- `d.get(key, default)`. -/
def getD (d : Dict) (key : String) (default : Json) : Json :=
  (d.get? key).getD default

/-- `d | {key: value}`: an existing key keeps its place. -/
def set : Dict → String → Json → Dict
  | [], key, value => [(key, value)]
  | (k, v) :: d, key, value =>
      if k = key then (k, value) :: d else (k, v) :: set d key value

@[simp] theorem get?_nil (key : String) : get? [] key = none := rfl

@[simp] theorem get?_cons (k : String) (v : Json) (d : Dict) (key : String) :
    get? ((k, v) :: d) key = if key = k then some v else get? d key := by
  unfold get?
  rw [List.lookup_cons]
  cases h : key == k <;> simp_all

/-- Setting a key leaves every other key alone. -/
theorem get?_set_of_ne (key other : String) (value : Json) (h : other ≠ key) :
    ∀ d : Dict, get? (set d key value) other = get? d other
  | [] => by simp [set, h]
  | (k, v) :: d => by
      unfold set
      split
      next hk => subst hk; simp [h]
      next => simp [get?_set_of_ne key other value h d]

/-- A key that was set is found. -/
theorem get?_set_self (key : String) (value : Json) :
    ∀ d : Dict, get? (set d key value) key = some value
  | [] => by simp [set]
  | (k, v) :: d => by
      unfold set
      split
      next hk => subst hk; simp
      next hk => simp [Ne.symm hk, get?_set_self key value d]

end Dict

namespace Json

/-- `isinstance(value, int)`, with the integer it counts as. -/
def int? : Json → Option Int
  | .int n => some n
  | .bool true => some 1
  | .bool false => some 0
  | _ => none

/-! ## §2. `str` and `repr`. -/

/-- Code points outside ASCII that Python never prints as they are: control,
format, separator and private-use characters.  Unassigned code points, whose
set depends on the interpreter's Unicode version, are kept. -/
def unprintable : List (Nat × Nat) :=
  [(0x80, 0xa0), (0xad, 0xad), (0x600, 0x605), (0x61c, 0x61c), (0x6dd, 0x6dd),
   (0x70f, 0x70f), (0x890, 0x891), (0x8e2, 0x8e2), (0x1680, 0x1680),
   (0x180e, 0x180e), (0x2000, 0x200f), (0x2028, 0x202f), (0x205f, 0x2064),
   (0x2066, 0x206f), (0x3000, 0x3000), (0xe000, 0xf8ff), (0xfeff, 0xfeff),
   (0xfff9, 0xfffb), (0x110bd, 0x110bd), (0x110cd, 0x110cd),
   (0x13430, 0x1343f), (0x1bca0, 0x1bca3), (0x1d173, 0x1d17a),
   (0xe0001, 0xe0001), (0xe0020, 0xe007f), (0xf0000, 0xffffd),
   (0x100000, 0x10fffd)]

/-- `str.isprintable` for one character. -/
def isPrintable (c : Char) : Bool :=
  if c.toNat < 0x7f then 0x20 ≤ c.toNat
  else c.toNat ≠ 0x7f ∧ unprintable.all fun range =>
    c.toNat < range.1 ∨ range.2 < c.toNat

/-- `digits` lower-case hexadecimal digits of `n`. -/
def hex (digits n : Nat) : String :=
  let ds := Nat.toDigits 16 n
  String.ofList (List.replicate (digits - ds.length) '0' ++ ds)

/-- One character inside a string literal quoted with `quote`. -/
def escapeChar (quote c : Char) : String :=
  if c = quote ∨ c = '\\' then String.ofList ['\\', c]
  else if c = '\t' then "\\t"
  else if c = '\n' then "\\n"
  else if c = '\r' then "\\r"
  else if isPrintable c then c.toString
  else if c.toNat ≤ 0xff then "\\x" ++ hex 2 c.toNat
  else if c.toNat ≤ 0xffff then "\\u" ++ hex 4 c.toNat
  else "\\U" ++ hex 8 c.toNat

/-- `repr` of a string: single quotes, unless the text has a single quote
and no double quote. -/
def reprStr (s : String) : String :=
  let single := Char.ofNat 39
  let double := Char.ofNat 34
  let quote := if s.toList.contains single ∧ ¬ s.toList.contains double
    then double else single
  quote.toString ++ String.join (s.toList.map (escapeChar quote)) ++ quote.toString

mutual

/-- `repr(value)`. -/
def reprJson : Json → String
  | .null => "None"
  | .bool true => "True"
  | .bool false => "False"
  | .int n => toString n
  | .float text => text
  | .str s => reprStr s
  | .arr items => "[" ++ String.intercalate ", " (reprItems items) ++ "]"
  | .obj members => "\x7b" ++ String.intercalate ", " (reprMembers members) ++ "\x7d"

def reprItems : List Json → List String
  | [] => []
  | item :: items => reprJson item :: reprItems items

def reprMembers : List (String × Json) → List String
  | [] => []
  | (key, value) :: members =>
      (reprStr key ++ ": " ++ reprJson value) :: reprMembers members

end

/-- `str(value)`: strings as they are, everything else by its `repr`. -/
def pyStr : Json → String
  | .str s => s
  | value => reprJson value

@[simp] theorem pyStr_str (s : String) : pyStr (.str s) = s := rfl

@[simp] theorem int?_int (n : Int) : int? (.int n) = some n := rfl

/-- The texts differ only by the quotes around a top-level string. -/
example : pyStr (.arr [.str "a", .bool true, .null]) = "['a', True, None]" := by
  decide

/-! ## §3. `json.dumps`. -/

/-- One character of a JSON string, with everything outside ASCII escaped. -/
def dumpsChar (c : Char) : String :=
  if c = Char.ofNat 34 ∨ c = '\\' then String.ofList ['\\', c]
  else if c = '\n' then "\\n"
  else if c = '\r' then "\\r"
  else if c = '\t' then "\\t"
  else if c.toNat = 0x0c then "\\f"
  else if c.toNat = 0x08 then "\\b"
  else if 0x20 ≤ c.toNat ∧ c.toNat ≤ 0x7e then c.toString
  else if c.toNat ≤ 0xffff then "\\u" ++ hex 4 c.toNat
  else
    -- a surrogate pair
    "\\u" ++ hex 4 (0xd800 + (c.toNat - 0x10000) / 0x400)
      ++ "\\u" ++ hex 4 (0xdc00 + (c.toNat - 0x10000) % 0x400)

def dumpsStr (s : String) : String :=
  let quote := (Char.ofNat 34).toString
  quote ++ String.join (s.toList.map dumpsChar) ++ quote

mutual

/-- `json.dumps(value, sort_keys=True, separators=(",", ":"))`. -/
def dumps : Json → String
  | .null => "null"
  | .bool true => "true"
  | .bool false => "false"
  | .int n => toString n
  | .float text => text
  | .str s => dumpsStr s
  | .arr items => "[" ++ String.intercalate "," (dumpsItems items) ++ "]"
  | .obj members =>
      "\x7b" ++ String.intercalate ","
        (((dumpsMembers members).insertionSort fun a b => a.1 ≤ b.1).map fun member =>
          dumpsStr member.1 ++ ":" ++ member.2) ++ "\x7d"

def dumpsItems : List Json → List String
  | [] => []
  | item :: items => dumps item :: dumpsItems items

def dumpsMembers : List (String × Json) → List (String × String)
  | [] => []
  | (key, value) :: members => (key, dumps value) :: dumpsMembers members

end

end Json

end EventCart.Lib
