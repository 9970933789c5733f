import SignatureTrust.Json
import SignatureTrust.Octets.Hex
import SignatureTrust.Text.Decimal

/-!
# `Json.Writer` — documents as text

Two layouts of one document. `compact` has no space at all; `pretty` has a member or an item to a
line, two spaces deeper than what holds it, and writes an empty array or object on one line.

Characters stand for themselves except the quote, the backslash and the control characters below
U+0020, of which five have a letter and the others four hexadecimal digits.
-/

set_option autoImplicit false

namespace SignatureTrust.Json

open Text (decimal)

def escape (c : Char) : List Char :=
  match c with
  | '"' => ['\\', '"']
  | '\\' => ['\\', '\\']
  | '\x08' => ['\\', 'b']
  | '\t' => ['\\', 't']
  | '\n' => ['\\', 'n']
  | '\x0c' => ['\\', 'f']
  | '\r' => ['\\', 'r']
  | c =>
      if c.toNat < 0x20 then
        ['\\', 'u', '0', '0', Nat.digitChar (c.toNat / 16), Nat.digitChar (c.toNat % 16)]
      else [c]

/-- A string in quotes; one that denotes no text is an unpaired surrogate. -/
def quoted : Option String → List Char
  | some s => '"' :: s.toList.flatMap escape ++ ['"']
  | none => '"' :: '\\' :: "ud800".toList ++ ['"']

def numeralText (n : Numeral) : List Char :=
  (if n.negative then ['-'] else []) ++ decimal n.whole ++
    (if n.fraction.isEmpty then [] else '.' :: n.fraction) ++
    match n.exponent with
    | none => []
    | some e => 'e' :: (if e < 0 then ['-'] else []) ++ decimal e.natAbs

/-! ## Without space -/

mutual

def compactChars : Json → List Char
  | .null => "null".toList
  | .bool true => "true".toList
  | .bool false => "false".toList
  | .number n => numeralText n
  | .string s => quoted s
  | .array items => '[' :: compactItems items
  | .object members => '{' :: compactMembers members

/-- Items, separated by commas, and the closing bracket. -/
def compactItems : List Json → List Char
  | [] => [']']
  | [item] => compactChars item ++ [']']
  | item :: items => compactChars item ++ ',' :: compactItems items

def compactMembers : List (Option String × Json) → List Char
  | [] => ['}']
  | [(name, value)] => quoted name ++ ':' :: compactChars value ++ ['}']
  | (name, value) :: members =>
      quoted name ++ ':' :: compactChars value ++ ',' :: compactMembers members

end

def compact (j : Json) : String := String.ofList (compactChars j)

/-! ## With a line for each member -/

def newLine (depth : Nat) : List Char := '\n' :: List.replicate (2 * depth) ' '

mutual

/-- The document, standing `depth` levels deep. -/
def prettyChars (depth : Nat) : Json → List Char
  | .array [] => ['[', ']']
  | .array items => '[' :: prettyItems (depth + 1) items ++ newLine depth ++ [']']
  | .object [] => ['{', '}']
  | .object members => '{' :: prettyMembers (depth + 1) members ++ newLine depth ++ ['}']
  | .null => "null".toList
  | .bool true => "true".toList
  | .bool false => "false".toList
  | .number n => numeralText n
  | .string s => quoted s

def prettyItems (depth : Nat) : List Json → List Char
  | [] => []
  | [item] => newLine depth ++ prettyChars depth item
  | item :: items => newLine depth ++ prettyChars depth item ++ ',' :: prettyItems depth items

def prettyMembers (depth : Nat) : List (Option String × Json) → List Char
  | [] => []
  | [(name, value)] => newLine depth ++ quoted name ++ ':' :: ' ' :: prettyChars depth value
  | (name, value) :: members =>
      newLine depth ++ quoted name ++ ':' :: ' ' :: prettyChars depth value ++
        ',' :: prettyMembers depth members

end

def pretty (j : Json) : String := String.ofList (prettyChars 0 j)

end SignatureTrust.Json
