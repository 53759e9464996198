import RecordBean.Decoding
import RecordBean.FileTree
import RecordBean.Json.Reader
import RecordBean.Toml.Reader

/-! # Loading catalogs and settings

Catalogs come as TOML or as JSON, and settings as TOML; both come from texts or from files.
-/

namespace RecordBean
open RecordBean.Document

def Document.Fault.message (d : Dialect) : Fault → String
  | .malformed => "not a well-formed document"
  | .unfinished => "unexpected end of document"
  | .mismatch m => m.message d

/-- Why a catalog or a configuration cannot be loaded. -/
inductive LoadError where
  | io (failure : IoFailure)
  | toml (fault : Fault)
  | json (fault : Fault)
  /-- Two types of a catalog have the same name. -/
  | duplicateType (name : String)
  /-- The name of a catalog file does not tell its format. -/
  | unsupportedFormat (path : String)

namespace LoadError

def message : LoadError → String
  | .io failure => "I/O error: " ++ failure.message
  | .toml fault => "TOML error: " ++ fault.message .toml
  | .json fault => "JSON error: " ++ fault.message .jsonText
  | .duplicateType name => "duplicate host type: " ++ name
  | .unsupportedFormat path => "unsupported catalog format: " ++ path

/-- The message, then the message of what caused the error. -/
def causes (e : LoadError) : List String :=
  match e with
  | .io failure => [e.message, failure.message]
  | .toml fault => [e.message, fault.message .toml]
  | .json fault => [e.message, fault.message .jsonText]
  | .duplicateType _ | .unsupportedFormat _ => [e.message]

end LoadError

namespace Catalog

/-- A catalog of types that have been decoded. -/
def ofDecoded (types : List HostType) : Except LoadError Catalog :=
  (ofTypes types).mapError .duplicateType

def ofToml (text : String) : Except LoadError Catalog :=
  match Toml.decode Catalog.shape.read text with
  | .error fault => .error (.toml fault)
  | .ok types => ofDecoded types

def ofJson (text : String) : Except LoadError Catalog :=
  match Json.decode Catalog.shape.read text with
  | .error fault => .error (.json fault)
  | .ok types => ofDecoded types

def ofJsonTypes (types : Json) : Except LoadError Catalog :=
  match readHostTypes .jsonTree types.node with
  | .error fault => .error (.json fault)
  | .ok types => ofDecoded types

/-- The catalog of a file, whose name tells the format. The file is read before its name is looked
at. -/
def ofFile (t : FileTree) (path : String) : Except LoadError Catalog :=
  match t.readText path with
  | .error failure => .error (.io failure)
  | .ok text =>
    match Path.suffix? path with
    | some "toml" => ofToml text
    | some "json" => ofJson text
    | _ => .error (.unsupportedFormat path)

end Catalog

namespace Settings

/-- The settings of a TOML document; an empty one gives the defaults. -/
def ofToml (text : String) : Except LoadError Settings :=
  (Toml.decode Settings.shape.read text).mapError .toml

def ofJson (j : Json) : Except LoadError Settings :=
  (Settings.shape.read .jsonTree j.node).mapError .json

def ofFile (t : FileTree) (path : String) : Except LoadError Settings :=
  match t.readText path with
  | .error failure => .error (.io failure)
  | .ok text => ofToml text

end Settings

end RecordBean
