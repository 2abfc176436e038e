/-
Module: ProtoCompanion.Naming.Case
Purpose: The spellings that protobuf-java gives to identifiers taken from a schema.
Main exports: Naming.capitalize, Naming.upperCamel, Naming.lowerCamel, Naming.accessorName,
  Naming.outerClassOfFile
-/
import ProtoCompanion.Text.Split
import ProtoCompanion.Unicode.Case

/-!
Camel case is formed with the ASCII case mapping only, word by word between underscores.
Capitalization looks at the first character alone but uses the full Unicode mapping.  Each
operation is given on lists of characters, in the namespace `Chars`, and then on strings.
-/

namespace ProtoCompanion.Naming

namespace Chars

/-- Upper case of the first character.  A character whose upper case is longer than one character
is left alone. -/
def capitalize : List Char → List Char
  | [] => []
  | c :: cs =>
      (match Unicode.toUppercase c with
        | [upper] => upper
        | _ => c) :: cs

/-- A word with its first character in upper case and all others in lower case. -/
def capitalizeWord : List Char → List Char
  | [] => []
  | c :: cs => c.toUpper :: cs.map Char.toLower

/-- The words between underscores, each capitalized, without the underscores. -/
def upperCamel (cs : List Char) : List Char :=
  (split '_' cs).flatMap capitalizeWord

/-- Like upper camel case, but the first word, which may be empty, is in lower case. -/
def lowerCamel (cs : List Char) : List Char :=
  match split '_' cs with
  | [] => []
  | word :: words => word.map Char.toLower ++ words.flatMap capitalizeWord

/-- The name of a field's accessors: lower camel case if there is an underscore to remove, and
the name as it is otherwise. -/
def accessorName (cs : List Char) : List Char :=
  if '_' ∈ cs then lowerCamel cs else cs

/-- The last segment of a path. -/
def baseName (path : List Char) : List Char :=
  ((split '/' path).getLast?).getD []

/-- The outer class that is derived from a file's name: the base name without any `.proto` in it,
capitalized, and in upper camel case if there is an underscore to remove. -/
def outerClassOfFile (path : List Char) : List Char :=
  let name := capitalize (replaceAll ".proto".toList [] (baseName path))
  if '_' ∈ name then upperCamel (Unicode.lowercase name) else name

end Chars

/-- Upper case of the first character only. -/
def capitalize : String → String := Text.onChars Chars.capitalize

/-- Upper camel case: `test_msg` becomes `TestMsg`. -/
def upperCamel : String → String := Text.onChars Chars.upperCamel

/-- Lower camel case: `my_field` becomes `myField`. -/
def lowerCamel : String → String := Text.onChars Chars.lowerCamel

/-- The name that the accessors of a field or oneof are made from. -/
def accessorName : String → String := Text.onChars Chars.accessorName

/-- The outer class that protobuf-java derives from the name of a file. -/
def outerClassOfFile : String → String := Text.onChars Chars.outerClassOfFile

end ProtoCompanion.Naming
