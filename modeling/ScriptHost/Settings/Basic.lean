import ScriptHost.Host.Basic
import ScriptHost.Text.Lines

/-!
# Settings

The options given to the runtime at startup and the host's own settings, with their defaults.

The ini block has one `key=value` line for each option, in a fixed order, and then the extra
lines. Each extra entry is one line however many line ends it was written with.
-/
namespace ScriptHost

/-- Runtime options applied at global startup.
mirrors `meta_services::settings::IniSettings` -/
structure RuntimeOptions where
  htmlErrors : Bool := false
  implicitFlush : Bool := true
  outputBuffering : UInt32 := 0
  maxExecutionTime : UInt32 := 0
  maxInputTime : Int64 := -1
  /-- Further `key=value` lines. -/
  extra : List String := []
  deriving DecidableEq, Repr

/-- mirrors `meta_services::settings::Settings` -/
structure Settings where
  ini : RuntimeOptions := {}
  prompt : String := "php_meta_sapi > "
  /-- Script name that the runtime reports for inline code. -/
  evalName : String := defaultEvalName
  historySuffix : String := "-history"
  /-- The command that tells where the runtime is installed. -/
  configCommand : String := "php-config"
  /-- The runtime's library; discovery is skipped when it is set. -/
  libraryPath : Option String := none
  deriving DecidableEq, Repr

namespace RuntimeOptions

def flag (b : Bool) : String :=
  if b then "1" else "0"

/-- The option lines, without their line ends. -/
def optionLines (s : RuntimeOptions) : List String :=
  ["html_errors=" ++ flag s.htmlErrors,
    "implicit_flush=" ++ flag s.implicitFlush,
    "output_buffering=" ++ toString s.outputBuffering.toNat,
    "max_execution_time=" ++ toString s.maxExecutionTime.toNat,
    "max_input_time=" ++ toString s.maxInputTime.toInt]

/-- An entry without the line ends behind it. -/
def extraLine (entry : String) : String :=
  String.ofList (entry.toList.reverse.dropWhile (· = '\n')).reverse

/-- The ini block.
mirrors `meta_services::settings::IniSettings::render` -/
def render (s : RuntimeOptions) : String :=
  Text.unlines (s.optionLines ++ s.extra.map extraLine)

end RuntimeOptions

/-- mirrors `meta_services::settings::Settings::host_config` -/
def Settings.config (s : Settings) : Host.Config :=
  ⟨s.ini.render, s.evalName⟩

end ScriptHost
