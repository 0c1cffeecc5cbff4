import IndexOptions.Reading.Basic

/-!
# Analyzers

How the text of a field is cut into terms. An analyzer is named by a class that the engine loads, or it is a stemmer
for a language. Some analyzers need no declaration (`prebuilt`).

An analyzer document is an object whose member `type` says which of the two it is. The name of a class stands under
`class`, or under `class_name` if there is no `class`.
-/

namespace IndexOptions

inductive Analyzer where
  | classpath (className : Text)
  | snowball (language : Text) (stopwords : Option Text)
deriving DecidableEq, Repr

namespace Analyzer

open Reading (requiredField optionalField nullable closed encodableNames)

/-- The analyzers that may be named without a declaration. -/
def prebuilt : List Text :=
  List.map Text.ofString
    ["standard", "default", "keyword", "stop", "whitespace", "simple", "classic", "arabic", "armenian", "basque",
      "brazilian", "bulgarian", "catalan", "czech", "danish", "dutch", "english", "finnish", "french", "galician",
      "german", "greek", "hindi", "hungarian", "indonesian", "irish", "italian", "latvian", "norwegian", "persian",
      "portuguese", "romanian", "russian", "spanish", "swedish", "thai", "turkish"]

def tags : List Text := ["classpath", "snowball"]

def tag : Analyzer → Text
  | classpath _ => "classpath"
  | snowball _ _ => "snowball"

/-- The member that holds the name of a class. -/
def classKey (members : Entries Document) : Text :=
  if members.has "class" then "class" else if members.has "class_name" then "class_name" else "class"

/-- The analyzer of the members of an object with a known tag. -/
def ofMembers (tag : Text) (members : Entries Document) : Checked Analyzer := do
  encodableNames members
  if tag = "classpath" then
    let key := classKey members
    ((requiredField members key Reading.name).and (closed ["type", key] members)).map fun (className, _) =>
      classpath className
  else
    ((requiredField members "language" Reading.name).and
      ((optionalField members "stopwords" none (nullable Reading.text)).and
        (closed ["type", "language", "stopwords"] members))).map fun (language, stopwords, _) =>
          snowball language stopwords

def read (v : Document) : Checked Analyzer := do
  let (tag, members) ← Reading.tagged tags v
  Checked.under (.key tag) (ofMembers tag members)

/-- The document with all parts of an analyzer. -/
def toDocument : Analyzer → Document
  | classpath className => .object [("type", .text "classpath"), ("class", .text className)]
  | snowball language stopwords =>
    .object [("type", .text "snowball"), ("language", .text language), ("stopwords", Document.ofText? stopwords)]

end Analyzer

end IndexOptions
