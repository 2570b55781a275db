/-
# What can be set for a chat

| key | holds | at first |
| --- | --- | --- |
| `title` | a text | the heading of every chat |
| `titleBackground` | a color | `#fa97ab` |
| `titleIcon` | markup, or the path of a picture | the built-in icon |
| `kizunaTitle` | a text | the heading of story banners |
| `optionTitle` | a text | the heading of choices |

Values count without the blanks around them.  A value that cannot be used gives
a warning, and the old value stays.
-/
import DialogueSheet.Assets.Cache
import DialogueSheet.Json.Reader
import DialogueSheet.Json.Writer
import DialogueSheet.Svg.Usable
import DialogueSheet.Text.Casing

namespace DialogueSheet

/-- The icon of the title bar. -/
inductive TitleIcon where
  | builtIn
  | svg (markup : String)
  | image (picture : Picture)
deriving DecidableEq

/-- What can be set for a chat. -/
structure ChatConfig where
  title : String
  titleBackground : Color
  titleIcon : TitleIcon
  storyTitle : String
  optionTitle : String
deriving DecidableEq

/-- Why a value cannot be used. -/
inductive ValueFault where
  | noColor
  | noText
  | icon (failure : Failure)
deriving DecidableEq

/-- The wording of a value that cannot be used. -/
def ValueFault.message : ValueFault → String
  | .noColor => "expected a hex color"
  | .noText => "expected a string"
  | .icon failure => failure.message

/-- Why a setting is refused. -/
inductive ConfigWarning where
  | unknownKey (key : String)
  | blankValue (key : String)
  | invalidValue (key value : String) (fault : ValueFault)
deriving DecidableEq

/-- The wording of a refused setting. -/
def ConfigWarning.message : ConfigWarning → String
  | .unknownKey key => "Unknown config key " ++ key
  | .blankValue key => "Blank value for config key " ++ key
  | .invalidValue key value fault =>
    "Invalid value for config key " ++ key ++ ": " ++ Text.quoted value ++ " (" ++ fault.message
      ++ ")"

/-- What a key sets. -/
inductive ConfigKey where
  | title
  | titleBackground
  | titleIcon
  | storyTitle
  | optionTitle
deriving DecidableEq, Repr

/-- The key of a name. -/
def ConfigKey.ofName? : String → Option ConfigKey
  | "title" => some .title
  | "titleBackground" => some .titleBackground
  | "titleIcon" => some .titleIcon
  | "kizunaTitle" => some .storyTitle
  | "optionTitle" => some .optionTitle
  | _ => none

namespace TitleIcon

/-- The part of a file name after its last dot, unless the name starts there. -/
def extension? (path : String) : Option String :=
  let parts := (Files.pathParts path).reverse.dropWhile fun part => part = "" || part = "."
  match parts with
  | [] => none
  | name :: _ =>
    let reversed := name.toList.reverse
    let ending := reversed.takeWhile (· ≠ '.')
    if name = ".." ∨ reversed.length ≤ ending.length + 1 then none
    else some (String.ofList ending.reverse)

/-- An icon of markup, if the markup is usable. -/
def ofMarkup (markup : String) : Except Failure TitleIcon :=
  if Svg.isUsable markup then .ok (.svg markup) else .error .vector

/-- The icon that a value names: markup, or the path of a file of markup or of a picture. -/
def load (K : Codec) (files : Files) (value : String) : Except Failure TitleIcon :=
  if "<svg".toList.isPrefixOf value.toList then ofMarkup value
  else
    match files.read? value with
    | none => .error .file
    | some content =>
      if (extension? value).any (Text.sameAscii "svg") then
        match content.text? with
        | some markup => ofMarkup markup
        | none => .error .vector
      else
        match files.picture? K value with
        | some picture => .ok (.image picture)
        | none => .error (.picture .undecodable)

end TitleIcon

namespace ChatConfig

/-- What holds before anything is set. -/
def standard : ChatConfig where
  title := "MomoTalk"
  titleBackground := Color.ofWord 0xfa97ab
  titleIcon := .builtIn
  storyTitle := "好感故事"
  optionTitle := "回复"

/-- Puts a value in the place of a key; a value that cannot be read changes nothing. -/
def assign (loadIcon : String → Except Failure TitleIcon) (c : ChatConfig) (key : ConfigKey)
    (value : String) : Except ValueFault Unit × ChatConfig :=
  match key with
  | .title => (.ok (), { c with title := value })
  | .storyTitle => (.ok (), { c with storyTitle := value })
  | .optionTitle => (.ok (), { c with optionTitle := value })
  | .titleBackground =>
    match Color.ofHex? value with
    | some color => (.ok (), { c with titleBackground := color })
    | none => (.error .noColor, c)
  | .titleIcon =>
    match loadIcon value with
    | .ok icon => (.ok (), { c with titleIcon := icon })
    | .error failure => (.error (.icon failure), c)

/-- Sets a key. -/
def set (loadIcon : String → Except Failure TitleIcon) (c : ChatConfig) (key value : String) :
    Except ConfigWarning Unit × ChatConfig :=
  match ConfigKey.ofName? key with
  | none => (.error (.unknownKey key), c)
  | some k =>
    let value := Text.trim value
    if value = "" then (.error (.blankValue key), c)
    else
      let (result, c) := assign loadIcon c k value
      (result.mapError (.invalidValue key value), c)

/-- The warnings with that of a result before them. -/
def warningsFrom (result : Except ConfigWarning Unit) (warnings : List ConfigWarning) :
    List ConfigWarning :=
  match result with
  | .ok () => warnings
  | .error warning => warning :: warnings

/-- Sets keys in their order and collects the warnings. -/
def apply (loadIcon : String → Except Failure TitleIcon) :
    ChatConfig → List (String × String) → ChatConfig × List ConfigWarning
  | c, [] => (c, [])
  | c, (key, value) :: rest =>
    let (result, c) := c.set loadIcon key value
    let (c, warnings) := apply loadIcon c rest
    (c, warningsFrom result warnings)

/-- Sets the fields of an object in their order; those that are no texts give warnings. -/
def applyFields (loadIcon : String → Except Failure TitleIcon) :
    ChatConfig → List (String × Json) → ChatConfig × List ConfigWarning
  | c, [] => (c, [])
  | c, (key, value) :: rest =>
    let (result, c) := match value with
      | .text s => c.set loadIcon key s
      | v => (.error (.invalidValue key v.render .noText), c)
    let (c, warnings) := applyFields loadIcon c rest
    (c, warningsFrom result warnings)

/-- Reads settings from a JSON object. -/
def ofJsonText (loadIcon : String → Except Failure TitleIcon) (raw : String) :
    Except Failure (ChatConfig × List ConfigWarning) :=
  match Json.parse? raw with
  | none => .error .data
  | some (.object fields) => .ok (applyFields loadIcon standard fields)
  | some _ => .error .notAnObject

/-- Reads settings from a file. -/
def load (K : Codec) (files : Files) (path : String) :
    Except Failure (ChatConfig × List ConfigWarning) :=
  match files.readText? path with
  | none => .error .file
  | some raw => ofJsonText (TitleIcon.load K files) raw

end ChatConfig

example : TitleIcon.extension? "a/b.SVG" = some "SVG" := by decide +kernel
example : TitleIcon.extension? "a/.svg" = none := by decide +kernel

end DialogueSheet
