import SignerPlugin.Text.Capital

/-! Levels of logging, and the one that the environment chooses for a plugin. -/

namespace SignerPlugin

inductive LogLevel
  | notset
  | debug
  | info
  | warning
  | error
  | critical
  deriving DecidableEq, Repr

namespace LogLevel

def name : LogLevel → String
  | .notset => "NOTSET"
  | .debug => "DEBUG"
  | .info => "INFO"
  | .warning => "WARNING"
  | .error => "ERROR"
  | .critical => "CRITICAL"

/-- The words for levels: their names, and a second word for two of them. -/
def words : List (String × LogLevel) :=
  [("CRITICAL", .critical), ("FATAL", .critical), ("ERROR", .error), ("WARN", .warning),
    ("WARNING", .warning), ("INFO", .info), ("DEBUG", .debug), ("NOTSET", .notset)]

/-- The variable that chooses a plugin's level. -/
def settingName : String := "SIGSTORE_KMS_PLUGIN_LOG_LEVEL"

/-- The word that a setting chooses: the setting in capital letters if that is a word for a
level, and else `WARNING`. -/
def chosenWord (setting : Option String) : String :=
  match setting.map Text.capitals with
  | some word => if (words.lookup word).isSome then word else "WARNING"
  | none => "WARNING"

/-- The level that a setting chooses. -/
def chosen (setting : Option String) : LogLevel :=
  (words.lookup (chosenWord setting)).getD .warning

end LogLevel
end SignerPlugin
