import Repartee.Compile
import Repartee.Datum.Rules
import Repartee.Json.Reader
import Repartee.Toml.Reader

/-! Rule tables and configurations as files. A rule file is a JSON array of rows or a TOML document with
tables named rule, told apart by the extension of the file's name; a configuration is a TOML document
under any name. A file that is missing or not UTF-8 cannot be read at all, whatever its name. -/
namespace Repartee

inductive LoadError where
  | unreadableFile
  | badToml
  | badJson
  | unsupportedFormat (extension : String)
  deriving DecidableEq, Repr

def LoadError.message : LoadError → String
  | unreadableFile => "failed to read the file"
  | badToml => "invalid TOML"
  | badJson => "invalid JSON"
  | unsupportedFormat extension => "unsupported rule table format: " ++ extension

def orError {α : Type} (e : LoadError) : Option α → Except LoadError α
  | none => .error e
  | some a => .ok a

def rowOfTomlDatum? (d : Datum) : Option Row := Row.ofDatum? (d.shorten Row.fieldNames.length)

def rowsOfTomlDatum? (d : Datum) : Option (List Row) := do
  match ← d.fieldsOf? ["rule"] with
  | [rows] => Datum.orElse? [] (Datum.list? rowOfTomlDatum?) rows
  | _ => none

def rowsOfToml (source : String) : Except LoadError (List Row) :=
  orError .badToml ((Toml.read? source).bind rowsOfTomlDatum?)

def rowsOfJson (source : String) : Except LoadError (List Row) :=
  orError .badJson ((Json.read? source).bind (Datum.list? Row.ofDatum?))

def configOfToml (source : String) : Except LoadError Config :=
  orError .badToml ((Toml.read? source).bind Config.ofDatum?)

def extension (name : String) : String :=
  let tail := name.toList.reverse.takeWhile (· != '.')
  if tail.length + 1 < name.length then String.ofList tail.reverse else ""

def textOfFile (content : Option ByteArray) : Except LoadError String :=
  orError .unreadableFile (content.bind String.fromUTF8?)

def loadRows (name : String) (content : Option ByteArray) : Except LoadError (List Row) := do
  let source ← textOfFile content
  if extension name = "toml" then rowsOfToml source
  else if extension name = "json" then rowsOfJson source
  else .error (.unsupportedFormat (extension name))

def loadConfig (content : Option ByteArray) : Except LoadError Config := do
  configOfToml (← textOfFile content)

def Vocabulary.compileToml (v : Vocabulary) (source : String) : Except LoadError Compiled := do
  return v.compile (← rowsOfToml source)

def Vocabulary.compileJson (v : Vocabulary) (source : String) : Except LoadError Compiled := do
  return v.compile (← rowsOfJson source)

def Vocabulary.compileFile (v : Vocabulary) (name : String) (content : Option ByteArray) :
    Except LoadError Compiled := do
  return v.compile (← loadRows name content)

end Repartee
