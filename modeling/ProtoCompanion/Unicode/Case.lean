/-
Module: ProtoCompanion.Unicode.Case
Purpose: Letter classes and full case conversion of characters and texts.
Main exports: isAlphanumeric, isLowercase, isUppercase, toUppercase, toLowercase, lowercase
-/
import ProtoCompanion.Unicode.LetterTables
import ProtoCompanion.Unicode.CaseTables

namespace ProtoCompanion.Unicode

/-! ## Classes -/

/-- Letters and digits of any script. -/
def isAlphanumeric (c : Char) : Bool :=
  if c.toNat < 0x80 then c.isAlphanum else inTable alphanumericTable c.toNat

/-- Lower case characters of any script. -/
def isLowercase (c : Char) : Bool :=
  if c.toNat < 0x80 then c.isLower else inTable lowercaseTable c.toNat

/-- Upper case characters of any script. -/
def isUppercase (c : Char) : Bool :=
  if c.toNat < 0x80 then c.isUpper else inTable uppercaseTable c.toNat

/-- Characters that take part in case conversion. -/
def isCased (c : Char) : Bool :=
  isLowercase c || isUppercase c || inTable titlecaseTable c.toNat

/-- Characters that do not separate the letters of a word, such as combining marks, apostrophes and
full stops. -/
def isCaseIgnorable (c : Char) : Bool :=
  if c.toNat < 0x80 then c = '\'' || c = '.' || c = ':' || c = '^' || c = (Char.ofNat 0x60)
  else inTable caseIgnorableTable c.toNat

/-! ## Conversion of one character -/

/-- The image of a character under the first band that holds it. -/
def shifted (table : List ShiftBand) (c : Char) : Char :=
  match table.findSome? fun band => band.image? c.toNat with
  | some code => Char.ofNat code
  | none => c

/-- The full upper case of a character, which may be longer than one character. -/
def toUppercase (c : Char) : List Char :=
  if c.toNat < 0x80 then [c.toUpper]
  else
    match upperExpansions.lookup c.toNat with
    | some codes => codes.map Char.ofNat
    | none => [shifted upperShifts c]

/-- The full lower case of a character on its own. -/
def toLowercase (c : Char) : List Char :=
  if c.toNat < 0x80 then [c.toLower]
  else if c = 'İ' then ['i', Char.ofNat 0x307]
  else [shifted lowerShifts c]

/-! ## Conversion of a text -/

/-- The nearest character that is not ignorable is a cased one. -/
def meetsCased (cs : List Char) : Bool :=
  match cs.dropWhile isCaseIgnorable with
  | [] => false
  | c :: _ => isCased c

/-- Lower case of the characters `after`, which follow the reversed text `before`.  A capital sigma
that ends a word becomes the final form of the letter. -/
def lowercaseFrom (before : List Char) : List Char → List Char
  | [] => []
  | c :: after =>
      (if c = 'Σ' then (if meetsCased before && !meetsCased after then ['ς'] else ['σ'])
        else toLowercase c) ++ lowercaseFrom (c :: before) after

/-- The full lower case of a text. -/
def lowercase (cs : List Char) : List Char := lowercaseFrom [] cs

end ProtoCompanion.Unicode
