import TexGlyph.Config.Key
import TexGlyph.Fault

/-!
# Faults of configurations

Why a configuration cannot be loaded: a file or a key of it is of no use, or a setting is not of
the kind that its place asks for.
-/

namespace TexGlyph

/-- The kinds of single values that settings are read as. -/
inductive ScalarKind where
  /-- A truth value. -/
  | boolean
  /-- A text. -/
  | text
deriving DecidableEq, Repr

/-- The kinds of settings that hold other settings. -/
inductive ContainerKind where
  /-- A record with the given name. -/
  | record (name : String)
  /-- A table with any keys. -/
  | table
  /-- A list. -/
  | list
deriving DecidableEq, Repr

/-- Why a configuration cannot be loaded. -/
inductive ConfigFault where
  /-- A file that has to be there is missing. -/
  | missingFile (path : String)
  /-- A file that has to be there cannot be read as a text. -/
  | unreadableFile (path : String) (cause : FileFault)
  /-- A file does not have the form of settings. -/
  | malformedFile (path : String)
  /-- A key that was given cannot be read. -/
  | malformedKey (key : String)
  /-- Something else stands where a single value has to be: what it is, and where it is from. -/
  | notScalar (found : String) (wanted : ScalarKind) (place : List KeyStep)
      (origin : Option String)
  /-- Something else stands where other settings have to be. -/
  | notContainer (found : String) (wanted : ContainerKind)
  /-- A record that is written as a table lacks a field. -/
  | missingField (field : String)
  /-- A record that is written as a list ends too early. -/
  | tooShort (length : Nat) (record : String) (size : Nat)
  /-- A name that is no accent mode. -/
  | accentMode (cause : Fault)
deriving DecidableEq, Repr

/-- The kind in the words of messages. -/
def ScalarKind.described : ScalarKind → String
  | boolean => "a boolean"
  | text => "a string"

/-- The kind in the words of messages. -/
def ContainerKind.described : ContainerKind → String
  | record name => "struct " ++ name
  | table => "a map"
  | list => "a sequence"

/-- Steps as they are written in messages.  A dot stands between two names, and none before a
bracket or after it. -/
def KeyStep.path : List KeyStep → String
  | [] => ""
  | .item place :: steps => "[" ++ toString place ++ "]" ++ path steps
  | .child name :: steps =>
    let rest := path steps
    name ++ (if rest = "" ∨ rest.toList.head? = some '[' then "" else ".") ++ rest

namespace ConfigFault

/-- The wording of a fault. -/
def message : ConfigFault → String
  | missingFile path => "configuration file \"" ++ path ++ "\" not found"
  | unreadableFile path cause => "cannot read settings " ++ path ++ ": " ++ cause.message
  | malformedFile path => "invalid settings in " ++ path
  | malformedKey key => "invalid key \"" ++ key ++ "\""
  | notScalar found wanted place origin =>
    "invalid type: " ++ found ++ ", expected " ++ wanted.described ++ " for key \x60" ++
      KeyStep.path place ++ "\x60" ++ (origin.map (" in " ++ ·)).getD ""
  | notContainer found wanted => "invalid type: " ++ found ++ ", expected " ++ wanted.described
  | missingField field => "missing field \x60" ++ field ++ "\x60"
  | tooShort length record size =>
    "invalid length " ++ toString length ++ ", expected struct " ++ record ++ " with " ++
      toString size ++ " elements"
  | accentMode cause => cause.message

end ConfigFault

end TexGlyph
