import BpfBoot.Text.Quoted

/-!
# Refused configurations
-/

namespace BpfBoot.Settings

/-- Why a configuration is refused. -/
inductive SettingsError where
  /-- The file does not hold a JSON5 object. -/
  | notParsed (file : String)
  /-- A setting is not of the kind that its place asks for. -/
  | wrongType (found expected key : String) (file : Option String)
  | other (message : String)
  deriving DecidableEq, Repr

def SettingsError.message : SettingsError → String
  | .notParsed file => "cannot parse the configuration in " ++ file
  | .wrongType found expected key file =>
      let place := match file with
        | some file => " in " ++ file
        | none => ""
      "invalid type: " ++ found ++ ", expected " ++ expected ++ " for key `" ++ key ++ "`" ++ place
  | .other message => message

end BpfBoot.Settings
