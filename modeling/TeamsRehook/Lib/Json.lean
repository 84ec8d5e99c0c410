import Mathlib.Data.List.Sort
import Mathlib.Data.String.Basic
import Mathlib.Tactic.Common

/-!
# JSON values and their text

The values `json.loads` gives and `json.dumps` takes: `Json.obj` is a `dict`, whose keys are different, in insertion
order, and a float is given by its `repr`. `Json.dumps` writes a value as `json.dumps` does with its default separators.
The one fact about the text that is used is that a string member of an object can be found in it
(`Json.dumps_contains`).
-/

/-- A JSON value. -/
inductive Json where
  | null
  | bool (b : Bool)
  | int (n : Int)
  | float (repr : String)
  | str (s : String)
  | arr (items : List Json)
  | obj (members : List (String × Json))
  deriving Repr

namespace Json

/-- `value.get(key)`, on the members of a `dict`. -/
def lookup (key : String) : List (String × Json) → Option Json
  | [] => none
  | (k, v) :: rest => if k = key then some v else lookup key rest

/-- `value.get(key)` of a value that is a `dict`; nothing of any other value. -/
def get? (key : String) : Json → Option Json
  | .obj members => lookup key members
  | _ => none

/-- Whether Python takes the value for true. -/
def truthy : Json → Bool
  | .null => false
  | .bool b => b
  | .int n => n != 0
  | .float r => r != "0.0" && r != "-0.0"
  | .str s => s != ""
  | .arr items => !items.isEmpty
  | .obj members => !members.isEmpty

/-- `isinstance(value, dict)`. -/
def isObj : Json → Bool
  | .obj _ => true
  | _ => false

/-! ## `json.dumps` -/

/-- A hexadecimal digit of `\uXXXX`. -/
def hexDigit (n : Nat) : Char := if n < 10 then Char.ofNat (48 + n) else Char.ofNat (87 + n)

/-- `\uXXXX` of a code unit. -/
def escapeUnit (n : Nat) : List Char :=
  ['\\', 'u', hexDigit (n / 4096 % 16), hexDigit (n / 256 % 16), hexDigit (n / 16 % 16), hexDigit (n % 16)]

/-- A character in a JSON text; characters beyond ASCII are escaped when `ensureAscii` is set. -/
def escapeChar (ensureAscii : Bool) (c : Char) : List Char :=
  let n := c.toNat
  if c = '"' then ['\\', '"']
  else if c = '\\' then ['\\', '\\']
  else if c = '\n' then ['\\', 'n']
  else if c = '\r' then ['\\', 'r']
  else if c = '\t' then ['\\', 't']
  else if n = 8 then ['\\', 'b']
  else if n = 12 then ['\\', 'f']
  else if n < 32 then escapeUnit n
  else if ensureAscii && 127 ≤ n then
    if n < 65536 then escapeUnit n
    else escapeUnit (55296 + (n - 65536) / 1024) ++ escapeUnit (56320 + (n - 65536) % 1024)
  else [c]

/-- A string in a JSON text. -/
def dumpStr (ensureAscii : Bool) (s : String) : List Char :=
  ['"'] ++ s.toList.flatMap (escapeChar ensureAscii) ++ ['"']

/-- A member of an object in a JSON text, from its key and the text of its value. -/
def dumpMember (ensureAscii : Bool) (m : String × List Char) : List Char := dumpStr ensureAscii m.1 ++ [':', ' '] ++ m.2

/-- The members in the order they are written. -/
def order (sortKeys : Bool) (members : List (String × List Char)) : List (String × List Char) :=
  if sortKeys then members.insertionSort fun a b => a.1 ≤ b.1 else members

mutual

/-- The text of a value. -/
def dumpChars (ensureAscii sortKeys : Bool) : Json → List Char
  | .null => ['n', 'u', 'l', 'l']
  | .bool true => ['t', 'r', 'u', 'e']
  | .bool false => ['f', 'a', 'l', 's', 'e']
  | .int n => (toString n).toList
  | .float r => r.toList
  | .str s => dumpStr ensureAscii s
  | .arr items => ['['] ++ [',', ' '].intercalate (dumpItems ensureAscii sortKeys items) ++ [']']
  | .obj members =>
    ['{'] ++ [',', ' '].intercalate
      ((order sortKeys (dumpMembers ensureAscii sortKeys members)).map (dumpMember ensureAscii)) ++ ['}']

/-- The texts of the items of an array. -/
def dumpItems (ensureAscii sortKeys : Bool) : List Json → List (List Char)
  | [] => []
  | v :: rest => dumpChars ensureAscii sortKeys v :: dumpItems ensureAscii sortKeys rest

/-- The keys of an object, with the texts of their values. -/
def dumpMembers (ensureAscii sortKeys : Bool) : List (String × Json) → List (String × List Char)
  | [] => []
  | (k, v) :: rest => (k, dumpChars ensureAscii sortKeys v) :: dumpMembers ensureAscii sortKeys rest

end

/-- `json.dumps(value, ensure_ascii=…, sort_keys=…)`. -/
def dumps (ensureAscii sortKeys : Bool) (v : Json) : String := String.ofList (dumpChars ensureAscii sortKeys v)

/-! ## A member of the text -/

theorem mem_dumpMembers (ensureAscii sortKeys : Bool) {k : String} {v : Json} {members : List (String × Json)}
    (h : (k, v) ∈ members) : (k, dumpChars ensureAscii sortKeys v) ∈ dumpMembers ensureAscii sortKeys members := by
  induction members with
  | nil => exact absurd h List.not_mem_nil
  | cons m rest ih =>
    simp only [dumpMembers]
    rcases List.mem_cons.1 h with rfl | h
    · exact List.mem_cons_self
    · exact List.mem_cons_of_mem _ (ih h)

theorem mem_order (sortKeys : Bool) {m : String × List Char} {members : List (String × List Char)} (h : m ∈ members) :
    m ∈ order sortKeys members := by
  unfold order
  split
  · exact (List.mem_insertionSort _).2 h
  · exact h

/-- Each part of an `intercalate` stands in it. -/
theorem infix_intercalate {α : Type*} (sep : List α) {x : List α} {xs : List (List α)} (h : x ∈ xs) :
    x <:+: sep.intercalate xs := by
  induction xs with
  | nil => exact absurd h List.not_mem_nil
  | cons y ys ih =>
    cases ys with
    | nil =>
      rw [List.mem_singleton.1 h]
      simp [List.intercalate]
    | cons z zs =>
      rw [List.intercalate_cons_cons]
      rcases List.mem_cons.1 h with rfl | h
      · rw [List.append_assoc]
        exact (List.prefix_append x _).isInfix
      · exact (ih h).trans (List.suffix_append _ _).isInfix

/-- A character that a JSON text does not escape. -/
def Plain (c : Char) : Prop := ∀ ensureAscii, escapeChar ensureAscii c = [c]

theorem flatMap_escapeChar {cs : List Char} (h : ∀ c ∈ cs, Plain c) (ensureAscii : Bool) :
    cs.flatMap (escapeChar ensureAscii) = cs := by
  induction cs with
  | nil => rfl
  | cons c cs ih =>
    rw [List.flatMap_cons, h c List.mem_cons_self, ih fun c hc => h c (List.mem_cons_of_mem _ hc)]
    rfl

/-- A string member of an object stands in the text of the object, when no character of it is escaped. -/
theorem dumps_contains {k s : String} {members : List (String × Json)} (h : (k, .str s) ∈ members)
    (hs : ∀ c ∈ s.toList, Plain c) (ensureAscii sortKeys : Bool) :
    s.toList <:+: (dumps ensureAscii sortKeys (.obj members)).toList := by
  have hmem := mem_order sortKeys (mem_dumpMembers ensureAscii sortKeys h)
  have hstr : s.toList <:+: dumpStr ensureAscii s := by
    rw [dumpStr, flatMap_escapeChar hs]
    exact ⟨['"'], ['"'], rfl⟩
  have hmember : s.toList <:+: dumpMember ensureAscii (k, dumpChars ensureAscii sortKeys (.str s)) := by
    rw [dumpMember, dumpChars]
    exact hstr.trans (List.suffix_append _ _).isInfix
  have hparts := hmember.trans (infix_intercalate [',', ' '] (List.mem_map_of_mem (f := dumpMember ensureAscii) hmem))
  rw [dumps, String.toList_ofList, dumpChars]
  exact hparts.trans ⟨['{'], ['}'], rfl⟩

end Json
