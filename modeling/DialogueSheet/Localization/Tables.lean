/-
# Localized terms

A language may have a table of terms: under each key, texts for values.  A value
without a text shows itself.  The key `i18n` leads to the labels of the program.
-/
import DialogueSheet.Assets.Kind
import DialogueSheet.Json.Reader
import DialogueSheet.Localization.Label

namespace DialogueSheet

/-- The path of a data file of a language. -/
def AssetRoot.dataFile (root : AssetRoot) (language : Language) (file : String) : String :=
  joinPath (joinPath (joinPath root.path "data") language.code) (file ++ ".json")

/-- Texts by key and value. -/
abbrev TermTable := List (String × List (String × String))

namespace TermTable

/-- The texts among the fields of an object. -/
def textsOf (fields : List (String × Json)) : List (String × String) :=
  fields.filterMap fun (k, v) => v.text?.map (k, ·)

/-- The table in a JSON value: objects of texts, all else left out. -/
def ofJson : Json → TermTable
  | .object fields => fields.filterMap fun (key, v) =>
    match v with
    | .object entries => some (key, textsOf entries)
    | _ => none
  | _ => []

end TermTable

/-- The tables of the languages that have one. -/
structure Localization where
  tables : List (Language × TermTable)

namespace Localization

/-- The key of the labels of the program. -/
def labelKey : String := "i18n"

/-- The table in the data file of a language. -/
def loadTable? (files : Files) (root : AssetRoot) (language : Language) : Option TermTable :=
  (files.readText? (root.dataFile language "localization") >>= Json.parse?).map TermTable.ofJson

/-- The localization in the data files. -/
def load (files : Files) (root : AssetRoot) : Localization :=
  ⟨Language.all.filterMap fun l => (loadTable? files root l).map (l, ·)⟩

/-- The text of a value under a key, or the value. -/
def localize (l : Localization) (key value : String) (language : Language) : String :=
  if key = labelKey then Label.text value language
  else
    match l.tables.lookup language >>= List.lookup key >>= List.lookup value with
    | some text => if text = "" then value else text
    | none => value

end Localization
end DialogueSheet
