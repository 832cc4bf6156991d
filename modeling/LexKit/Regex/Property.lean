import LexKit.Regex.Property.Segment

/-!
# Properties by name

A class may be asked for by the name of a property that its characters have. Names are taken loosely: large or
small letters, blanks, lines and minus signs make no difference, nor does a leading `is`. A name alone is that
of a trait, a general category or a script; a name with a value, as in `script=greek`, says which property
is meant.
-/

namespace LexKit.Regex.Property

/-- A name without what makes no difference. The name of the category C is none behind `is`. -/
def looseName (name : List Char) : String :=
  let loose := fun text : List Char =>
    (text.filter fun char => char.toNat < 128 && char != ' ' && char != '_' && char != '-').map
      Char.toLower
  match name with
  | first :: second :: rest =>
      if first.toLower = 'i' ∧ second.toLower = 's' then
        if loose rest = ['c'] then "isc" else String.ofList (loose rest)
      else String.ofList (loose name)
  | _ => String.ofList (loose name)

def ofName? (name : String) : Option CharClass :=
  named? traits name <|> named? categories name <|> named? scripts name

/-- The characters of all versions up to the one with a name. -/
def ofAge? (name : String) : Option CharClass :=
  let (earlier, rest) := Unicode.versions.span fun version => !version.names.contains name
  rest.head?.map fun version =>
    .ofList ((earlier ++ [version]).map fun version => .table version.newcomers)

def ofValue? (property value : String) : Option CharClass :=
  match property with
  | "gc" | "generalcategory" => named? categories value
  | "sc" | "script" => named? scripts value
  | "scx" | "scriptextensions" => named? scriptExtensions value
  | "age" => ofAge? value
  | "gcb" | "graphemeclusterbreak" => named? graphemeBreaks value
  | "wb" | "wordbreak" => named? wordBreaks value
  | "sb" | "sentencebreak" => named? sentenceBreaks value
  | _ => none

def cut? (mark : List Char) : List Char → Option (List Char × List Char)
  | [] => none
  | char :: rest =>
      if mark.isPrefixOf (char :: rest) then some ([], (char :: rest).drop mark.length)
      else (cut? mark rest).map fun (before, behind) => (char :: before, behind)

/-- The class that a text asks for. A value stands behind `!=`, a colon or `=`, which all say the same. -/
def class? (text : List Char) : Option CharClass :=
  match cut? ['!', '='] text <|> cut? [':'] text <|> cut? ['='] text with
  | some (property, value) => ofValue? (looseName property) (looseName value)
  | none => ofName? (looseName text)

end LexKit.Regex.Property
