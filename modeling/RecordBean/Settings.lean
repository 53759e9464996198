import RecordBean.SourceFile

/-! # Settings

What can be configured for one generation pass, and the values that hold without a configuration.
-/

namespace RecordBean

structure Settings where
  /-- Root directory of the generated sources. -/
  outputDir : String
  /-- Package of the host types whose name carries none. -/
  defaultPackage : Option String
  /-- Whether types may be worked on at the same time. -/
  parallel : Bool
  /-- Which log lines are shown, unless the command line or the environment says so. -/
  logLevel : String
  /-- Comment at the top of every file. -/
  header : String
deriving DecidableEq, Repr

/-- The settings without a configuration. -/
def Settings.default : Settings where
  outputDir := "generated"
  defaultPackage := none
  parallel := false
  logLevel := "info"
  header := defaultHeader

instance : Inhabited Settings := ⟨Settings.default⟩

end RecordBean
