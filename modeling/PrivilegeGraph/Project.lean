import PrivilegeGraph.Settings
import PrivilegeGraph.Yaml

/-!
# Project files

A project file names the project and configures its connectors.  A credentials
file holds the secrets of each connector.  When a file holds several documents,
all must be sound, and the last one counts.

Where the name of a connector, a version or a secret is due, any scalar will do.
The settings of a connector must be written as text.

What is proved about settings starts from the keys and values of a
configuration, however they were come by, and so not from the reading of files.
-/

namespace PrivilegeGraph

/-- A project and its connectors, by name. -/
structure Project where
  version : String
  name : String
  connectors : List (String × Config)
  deriving DecidableEq, Repr

/-- Why a project could not be read. -/
inductive ProjectError
  | unreadable
  | malformed
  deriving DecidableEq, Repr

/-- The words of a project error. -/
def ProjectError.message : ProjectError → String
  | unreadable => "Reading file"
  | malformed => "Deserializing config"

open Yaml (Flat Node)

/-- Decode every key and value of a mapping.  Of keys that have the same text
the last one counts. -/
def Yaml.Node.decodedWith?
    {α : Type}
    (key : Flat → Option String)
    (value : Node → Option α)
    (node : Node) :
    Option (List (String × α)) := do
  let entries ← node.entries?
  let decoded ← entries.mapM fun entry => do
    return (← key entry.1, ← value entry.2)
  return Yaml.latest decoded

/-- The values of a mapping by the texts of its keys. -/
def Yaml.Node.valuesWith?
    {α : Type}
    (value : Node → Option α)
    (node : Node) :
    Option (List (String × α)) :=
  node.decodedWith? Flat.asText? value

/-- The fields of a mapping whose keys are all written as text. -/
def Yaml.Node.fields? (node : Node) : Option (List (String × Node)) :=
  node.decodedWith? Flat.text? some

/-- Decode the configuration of a connector: its type, and texts under all other
keys. -/
def Config.ofNode? (node : Node) : Option Config := do
  let fields ← node.fields?
  let type ← (← fields.lookup "type").asText?
  let values ← (fields.filter (·.1 != "type")).mapM fun field => do
    return (field.1, ← field.2.text?)
  return ⟨type, values⟩

namespace Project

/-- Decode one document of a project file.  Further keys are passed over. -/
def ofNode? (node : Node) : Option Project := do
  let fields ← node.fields?
  let version ← (← fields.lookup "version").asText?
  let name ← (← fields.lookup "name").asText?
  let connectors ← (← fields.lookup "connectors").valuesWith? Config.ofNode?
  return ⟨version, name, connectors⟩

/-- The project of the last document, if every document is one. -/
def ofText? (text : String) : Option Project := do
  let documents ← Yaml.documents? text
  let projects ← documents.mapM ofNode?
  projects.getLast?

/-- Read a project from text. -/
def parse (text : String) : Except ProjectError Project :=
  match ofText? text with
  | some project => .ok project
  | none => .error .malformed

/-- Read a project from the content of a file, which is missing if the file
is. -/
def parseFile (content : Option String) : Except ProjectError Project :=
  match content with
  | some text => parse text
  | none => .error .unreadable

end Project

/-- The credentials in the last document of a text, by connector, if every
document holds only scalars by connector and key. -/
def Credentials.ofText?
    (text : String) :
    Option (List (String × Credentials)) := do
  let documents ← Yaml.documents? text
  let secrets ←
    documents.mapM (Node.valuesWith? (Node.valuesWith? Node.asText?))
  secrets.getLast?

end PrivilegeGraph
