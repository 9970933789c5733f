import SignatureTrust.Json
import SignatureTrust.Octets.Hex
import SignatureTrust.Text.Decimal

/-!
# `Json.Reader` — documents from text

The strict grammar: white space is space, tab, line feed and carriage return; there are no comments,
no trailing commas and no leading zeros; control characters inside a string are escaped. Every
function takes what is left of the text and answers what it read with what is left after it.

The tree functions carry fuel. Each call either consumes a character or hands a strictly smaller
task to a call that does, so twice the length of the text is always enough and `read?` shows no
fuel.
-/

set_option autoImplicit false

namespace SignatureTrust.Json

open Text (isDigit)

def isSpace (c : Char) : Bool := c == ' ' || c == '\t' || c == '\n' || c == '\r'

def skipSpace (cs : List Char) : List Char := cs.dropWhile isSpace

/-! ## Numbers -/

def digitRun (cs : List Char) : List Char × List Char :=
  (cs.takeWhile isDigit, cs.dropWhile isDigit)

/-- The whole part: a lone zero, or digits of which the first is no zero. -/
def readWhole? (cs : List Char) : Option (Nat × List Char) :=
  match cs with
  | '0' :: rest => some (0, rest)
  | _ =>
      match digitRun cs with
      | ([], _) => none
      | (digits, rest) => some (Nat.ofDigitChars 10 digits 0, rest)

/-- A point and at least one digit, or nothing. -/
def readFraction? (cs : List Char) : Option (List Char × List Char) :=
  match cs with
  | '.' :: rest =>
      match digitRun rest with
      | ([], _) => none
      | found => some found
  | _ => some ([], cs)

def readExponentDigits? (negative : Bool) (cs : List Char) : Option (Option Int × List Char) :=
  match digitRun cs with
  | ([], _) => none
  | (digits, rest) =>
      let n : Int := Nat.ofDigitChars 10 digits 0
      some (some (if negative then -n else n), rest)

def readExponent? (cs : List Char) : Option (Option Int × List Char) :=
  let afterMark (rest : List Char) :=
    match rest with
    | '-' :: rest => readExponentDigits? true rest
    | '+' :: rest => readExponentDigits? false rest
    | _ => readExponentDigits? false rest
  match cs with
  | 'e' :: rest => afterMark rest
  | 'E' :: rest => afterMark rest
  | _ => some (none, cs)

def readNumeral? (cs : List Char) : Option (Numeral × List Char) := do
  let (negative, cs) := match cs with
    | '-' :: rest => (true, rest)
    | _ => (false, cs)
  let (whole, cs) ← readWhole? cs
  let (fraction, cs) ← readFraction? cs
  let (exponent, cs) ← readExponent? cs
  return (⟨negative, whole, fraction, exponent⟩, cs)

/-! ## Strings -/

def hexUnit? (a b c d : Char) : Option Nat := do
  let a ← hexValue? a
  let b ← hexValue? b
  let c ← hexValue? c
  let d ← hexValue? d
  return ((a * 16 + b) * 16 + c) * 16 + d

def escaped? : Char → Option Char
  | '"' => some '"'
  | '\\' => some '\\'
  | '/' => some '/'
  | 'b' => some '\x08'
  | 'f' => some '\x0c'
  | 'n' => some '\n'
  | 'r' => some '\r'
  | 't' => some '\t'
  | _ => none

def onto (unit : Nat) : List Nat × List Char → List Nat × List Char
  | (units, rest) => (unit :: units, rest)

/-- The units of a string after its opening quote, up to the closing one: a character that stands
for itself or has a letter is one unit, and so is each escaped half of a surrogate pair. -/
def readUnits? : List Char → Option (List Nat × List Char)
  | [] => none
  | '"' :: rest => some ([], rest)
  | '\\' :: 'u' :: a :: b :: c :: d :: rest => do
      let unit ← hexUnit? a b c d
      return onto unit (← readUnits? rest)
  | '\\' :: e :: rest => do
      let c ← escaped? e
      return onto c.toNat (← readUnits? rest)
  | c :: rest => do
      if c.toNat < 0x20 || c == '\\' then none
      return onto c.toNat (← readUnits? rest)

def isHighSurrogate (n : Nat) : Bool := 0xD800 ≤ n && n ≤ 0xDBFF

def isLowSurrogate (n : Nat) : Bool := 0xDC00 ≤ n && n ≤ 0xDFFF

/-- The characters that units denote, where every surrogate has its partner. -/
def charsOfUnits? : List Nat → Option (List Char)
  | [] => some []
  | high :: low :: rest =>
      if isHighSurrogate high && isLowSurrogate low then do
        let code := 0x10000 + (high - 0xD800) * 0x400 + (low - 0xDC00)
        return Char.ofNat code :: (← charsOfUnits? rest)
      else if isHighSurrogate high || isLowSurrogate high then none
      else do
        return Char.ofNat high :: (← charsOfUnits? (low :: rest))
  | [n] => if isHighSurrogate n || isLowSurrogate n then none else some [Char.ofNat n]

def readString? (cs : List Char) : Option (Option String × List Char) := do
  let (units, rest) ← readUnits? cs
  return ((charsOfUnits? units).map String.ofList, rest)

/-! ## Documents -/

mutual

def readValue? : Nat → List Char → Option (Json × List Char)
  | 0, _ => none
  | fuel + 1, cs =>
      match skipSpace cs with
      | 'n' :: 'u' :: 'l' :: 'l' :: rest => some (.null, rest)
      | 't' :: 'r' :: 'u' :: 'e' :: rest => some (.bool true, rest)
      | 'f' :: 'a' :: 'l' :: 's' :: 'e' :: rest => some (.bool false, rest)
      | '"' :: rest => do
          let (content, rest) ← readString? rest
          return (.string content, rest)
      | '[' :: rest =>
          match skipSpace rest with
          | ']' :: rest => some (.array [], rest)
          | rest => do
              let (items, rest) ← readItems? fuel rest
              return (.array items, rest)
      | '{' :: rest =>
          match skipSpace rest with
          | '}' :: rest => some (.object [], rest)
          | rest => do
              let (members, rest) ← readMembers? fuel rest
              return (.object members, rest)
      | rest => do
          let (n, rest) ← readNumeral? rest
          return (.number n, rest)

/-- The items of an array from its first one on, and the closing bracket. -/
def readItems? : Nat → List Char → Option (List Json × List Char)
  | 0, _ => none
  | fuel + 1, cs => do
      let (item, rest) ← readValue? fuel cs
      match skipSpace rest with
      | ',' :: rest =>
          let (items, rest) ← readItems? fuel rest
          return (item :: items, rest)
      | ']' :: rest => return ([item], rest)
      | _ => none

def readMembers? : Nat → List Char → Option (List (Option String × Json) × List Char)
  | 0, _ => none
  | fuel + 1, cs =>
      match skipSpace cs with
      | '"' :: rest => do
          let (name, rest) ← readString? rest
          match skipSpace rest with
          | ':' :: rest =>
              let (value, rest) ← readValue? fuel rest
              let found := (name, value)
              match skipSpace rest with
              | ',' :: rest =>
                  let (members, rest) ← readMembers? fuel rest
                  return (found :: members, rest)
              | '}' :: rest => return ([found], rest)
              | _ => none
          | _ => none
      | _ => none

end

def read? (text : String) : Option Json := do
  let cs := text.toList
  let (value, rest) ← readValue? (2 * cs.length + 2) cs
  if (skipSpace rest).isEmpty then some value else none

end SignatureTrust.Json
