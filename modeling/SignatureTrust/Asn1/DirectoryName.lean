import SignatureTrust.Asn1.AttributeLabel
import SignatureTrust.Name

/-!
# `Asn1.DirectoryName` — names from their encoding

A name is written out as text and from then on compared as text (`Name`): relative names in order,
joined by a comma and a space, the attributes of one joined by a plus sign, each the label of its
type and the value **without any escaping**. A value that is no string is shown as its octets in
upper-case hexadecimal, and so is a universal string, since its characters take four octets each; a
string that is not well-formed spoils the whole text, which is then one fixed phrase.

Reading stops at the first thing that is not a relative name and keeps what came before it, so a
name may be empty.
-/

set_option autoImplicit false

namespace SignatureTrust.Asn1

structure Attribute where
  type : ObjectIdentifier
  value : Element

/-- String types whose content is read as UTF-8. -/
def utf8Types : List Nat :=
  [objectDescriptor, utf8String, numericString, printableString, teletexString, videotexString,
    ia5String, graphicString, visibleString, generalString]

def units (width : Nat) (bs : Octets) : List Nat := (Octets.inPieces width bs).map Octets.value

/-- The characters of UTF-16 units, where every surrogate has its partner. -/
def charsOfUtf16? : List Nat → Option (List Char)
  | [] => some []
  | [n] => if n.isValidChar then some [Char.ofNat n] else none
  | high :: low :: rest =>
      if high.isValidChar then (charsOfUtf16? (low :: rest)).map (Char.ofNat high :: ·)
      else if high < 0xDC00 && 0xDC00 ≤ low && low ≤ 0xDFFF then
        (charsOfUtf16? rest).map
          (Char.ofNat (0x10000 + (high - 0xD800) * 0x400 + (low - 0xDC00)) :: ·)
      else none

/-- The text of a value, unless it is a string that is not well-formed. -/
def valueText? (value : Element) : Option String :=
  if utf8Types.contains value.tag.number then value.content.text?
  else if value.tag.number = bmpString then
    (charsOfUtf16? (units 2 value.content)).map String.ofList
  else some value.content.toUpperHex

/-- What stands for a name that has no text. -/
def unreadableName : String := "<X509Error: Invalid X.509 name>"

def attributeText? (a : Attribute) : Option String :=
  (valueText? a.value).map fun v => attributeLabel a.type ++ "=" ++ v

def nameText (rdns : List (List Attribute)) : String :=
  match rdns.mapM fun rdn => rdn.mapM attributeText? with
  | some texts => String.intercalate ", " (texts.map (String.intercalate " + "))
  | none => unreadableName

/-! ## Reading -/

def attributeValue : Reader Attribute := do
  let e ← tagged .tolerant sequence
  let read : Reader Attribute := do
    let type ← identifier
    let value ← element .tolerant
    return ⟨type, value⟩
  orRefuse (from? read e.content)

/-- A set that starts with an attribute. -/
def relativeName : Reader (List Attribute) := do
  let e ← tagged .tolerant set
  match from? (many attributeValue) e.content with
  | some (a :: rest) => return a :: rest
  | _ => refuse

def directoryName : Reader Name := do
  let e ← tagged .tolerant sequence
  let rdns ← orRefuse (from? (many relativeName) e.content)
  return ⟨nameText rdns⟩

end SignatureTrust.Asn1
