/-
# PhaseTable.Config.Notice -- what is wrong with a configuration

Each cause for which a configuration, a column or a part of a column is dropped or
questioned, and its wording.  Those for which a whole column is dropped say
"skipped", those for which a part of it is dropped say "ignored" or "skipped".
-/
import PhaseTable.Config
import PhaseTable.Source

namespace PhaseTable

set_option autoImplicit false

/-- Why a column or a part of it is dropped or questioned. -/
inductive ColumnNotice where
  | unrecognized (setting : NamedSetting) (value : String)
  | sourceMissing
  | targetOnModelColumn
  | badSource (reason : SourceError)
  | modeOnModelColumn
  | ruleOnModelColumn
  | sourceOnEditableColumn
  | unknownTarget (target : String)
  | legacyTarget (target : String)
  | halfTarget
  | badTargetType
  | modeForOtherType (mode : String) (type : ValueType)
  | unknownMode (mode : String)
  | ruleWithoutTarget
  | modeAndRule
  | rule (notice : RuleNotice)
  | illegalFilterOp (written : String) (type : ValueType)
deriving DecidableEq

def ColumnNotice.message (key : String) : ColumnNotice → String
  | .unrecognized setting value =>
      "config skipped column " ++ key ++ ": unsupported " ++ setting.key ++ " '" ++ value ++ "'."
  | .sourceMissing =>
      "config skipped column " ++ key ++
        ": objectType and attribute are required for model columns."
  | .targetOnModelColumn =>
      "config skipped column " ++ key ++
        ": model columns cannot define targetObjectType/targetAttribute."
  | .badSource reason =>
      "config skipped column " ++ key ++ ": invalid objectType/attribute (" ++ reason.message ++
        ")."
  | .modeOnModelColumn =>
      "config column " ++ key ++ " ignored booleanMode because only editable columns support it."
  | .ruleOnModelColumn =>
      "config column " ++ key ++ " ignored applyRule because only editable columns support it."
  | .sourceOnEditableColumn =>
      "config skipped editable column " ++ key ++
        ": editable columns cannot define objectType/attribute."
  | .unknownTarget target =>
      "config skipped editable column " ++ key ++ ": unknown targetAttribute '" ++ target ++
        "' without targetObjectType."
  | .legacyTarget target =>
      "config column " ++ key ++ " uses legacy criteria targetAttribute '" ++ target ++
        "'. Prefer explicit editable columns with targetObjectType + targetAttribute."
  | .halfTarget =>
      "config skipped editable column " ++ key ++
        ": targetObjectType and targetAttribute must both be defined."
  | .badTargetType =>
      "config skipped editable column " ++ key ++ ": targetObjectType must be Part or Assembly."
  | .modeForOtherType mode type =>
      "config column " ++ key ++ " ignored booleanMode '" ++ mode ++ "' because column type is " ++
        type.name ++ ", expected Boolean."
  | .unknownMode mode =>
      "config column " ++ key ++ " ignored unknown booleanMode '" ++ mode ++
        "'. Supported values: " ++ positiveNumber ++ "."
  | .ruleWithoutTarget =>
      "config column " ++ key ++ " ignored applyRule because targetAttribute is required."
  | .modeAndRule =>
      "config column " ++ key ++
        " uses both booleanMode and applyRule. applyRule has priority."
  | .rule notice => notice.message key
  | .illegalFilterOp written type =>
      "config skipped filter op " ++ written ++ " for column " ++ key ++ " (type=" ++ type.name ++
        ")."

inductive ConfigNotice where
  | missing
  | unsupportedVersion (version : Int32)
  | noColumnLeft
  | emptyKey
  | duplicateKey (key : String)
  | column (key : String) (notice : ColumnNotice)
deriving DecidableEq

def ConfigNotice.message : ConfigNotice → String
  | .missing => "config is null. Using defaults."
  | .unsupportedVersion version =>
      "config version " ++ intText version.toInt ++ " is not supported (expected " ++
        intText supportedVersion.toInt ++ "). Using defaults."
  | .noColumnLeft => "config has no valid columns. Using defaults."
  | .emptyKey => "config skipped column with empty key."
  | .duplicateKey key => "config skipped duplicate column key: " ++ key
  | .column key notice => notice.message key

end PhaseTable
