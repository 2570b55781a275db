/-
# Languages

Data files exist in seven languages.  Their order here is the order in which
tables are searched.
-/
import DialogueSheet.Text.Casing
import DialogueSheet.Text.Blank
import DialogueSheet.Text.Quoted

namespace DialogueSheet

/-- A language of data files. -/
inductive Language where
  | cn
  | jp
  | en
  | tw
  | kr
  | th
  | vi
deriving DecidableEq, Repr

namespace Language

/-- All languages, in search order. -/
def all : List Language := [cn, jp, en, tw, kr, th, vi]

/-- The code of a language, which is also the name of its directory. -/
def code : Language → String
  | cn => "cn"
  | jp => "jp"
  | en => "en"
  | tw => "tw"
  | kr => "kr"
  | th => "th"
  | vi => "vi"

/-- The language of a code, whatever its case and the blanks around it. -/
def ofCode? (text : String) : Option Language :=
  all.find? fun l => Text.sameAscii l.code (Text.trim text)

/-- The message about a code that names no language. -/
def unknownMessage (text : String) : String := "unknown language " ++ Text.quoted text

end Language
end DialogueSheet
