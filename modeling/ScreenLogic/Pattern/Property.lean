import ScreenLogic.Pattern.PropertyName
import ScreenLogic.Text.Age
import ScreenLogic.Text.ScriptExtension

/-!
# Properties of characters by name

The sets of characters that a pattern may name: a general category, a script or a property
by its name alone, or those characters for which a property has a value. In names case,
blanks, hyphens, underscores and a leading `is` do not count, nor does any character beyond
ASCII.
-/

namespace ScreenLogic.Pattern

open Text

def isNameGap (c : Char) : Bool := c == ' ' || c == '_' || c == '-' || 128 ≤ c.toNat

/-- A name without what does not count in it. -/
def plainName (name : List Char) : List Char :=
  let plain (cs : List Char) := (cs.filter fun c => !isNameGap c).map Char.toLower
  match name with
  | i :: s :: rest =>
    if i.toLower = 'i' ∧ s.toLower = 's' then
      let cs := plain rest
      if cs = ['c'] then ['i', 's', 'c'] else cs
    else plain name
  | _ => plain name

def isNamed (name : List Char) (names : String × String) : Bool :=
  plainName names.1.toList == name || plainName names.2.toList == name

/-- Look a plain name up among pairs of names. -/
def named? {α : Type} (entries : List ((String × String) × α)) (name : List Char) : Option α :=
  (entries.find? fun entry => isNamed name entry.1).map (·.2)

def categoryNamed? (name : List Char) : Option CharSet :=
  if isNamed name ("Any", "Any") then some .full
  else if isNamed name ("ASCII", "ASCII") then some (.range 0 0x7f)
  else if isNamed name ("Assigned", "Assigned") then some assigned
  else if isNamed name ("LC", "Cased_Letter") then some (ofCategories ["Lu", "Ll", "Lt"])
  else (categoryNames.find? (isNamed name)).map fun names => ofCategory names.1

/-- The code of a script. -/
def scriptCode? (name : List Char) : Option String :=
  ((scriptNames ++ otherScriptNames).find? (isNamed name)).map (·.1)

def scriptNamed? (name : List Char) : Option CharSet := (scriptCode? name).map ofScript

/-- A version, also as its name in which `V` stands first and an underscore in the middle. -/
def ageNamed? (name : List Char) : Option CharSet :=
  (versions.find? fun version =>
    version.1.toList == name || 'v' :: version.1.toList.filter (· != '.') == name).map
      fun version => assignedBy version.2

/-- The set of a name. A name that could be short for a property without values of its own
means a category. -/
def property? (name : List Char) : Option CharSet :=
  let name := plainName name
  (named? binaryProperties name).or ((categoryNamed? name).or (scriptNamed? name))

/-- The set of a value of a property. -/
def propertyValue? (property value : List Char) : Option CharSet :=
  let property := plainName property
  let value := plainName value
  if isNamed property ("gc", "General_Category") then categoryNamed? value
  else if isNamed property ("sc", "Script") then scriptNamed? value
  else if isNamed property ("scx", "Script_Extensions") then
    (scriptCode? value).map usedWithScript
  else if isNamed property ("age", "Age") then ageNamed? value
  else if isNamed property ("GCB", "Grapheme_Cluster_Break") then named? graphemeBreaks value
  else if isNamed property ("WB", "Word_Break") then named? wordBreaks value
  else if isNamed property ("SB", "Sentence_Break") then named? sentenceBreaks value
  else none

/-- Split at the first occurrence of a separator. -/
def splitAt? (separator : List Char) : List Char → Option (List Char × List Char)
  | [] => none
  | c :: cs =>
    if separator.isPrefixOf (c :: cs) then some ([], (c :: cs).drop separator.length)
    else (splitAt? separator cs).map fun (before, after) => (c :: before, after)

/-- What stands between braces: a name, or a property and its value. Returns also whether
the value is excluded. -/
def propertyText? (text : List Char) : Option (CharSet × Bool) :=
  match splitAt? ['!', '='] text with
  | some (p, v) => (propertyValue? p v).map (·, true)
  | none =>
    match splitAt? [':'] text with
    | some (p, v) => (propertyValue? p v).map (·, false)
    | none =>
      match splitAt? ['='] text with
      | some (p, v) => (propertyValue? p v).map (·, false)
      | none => (property? text).map (·, false)

end ScreenLogic.Pattern
