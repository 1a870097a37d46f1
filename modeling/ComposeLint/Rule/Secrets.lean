import ComposeLint.Rule.Basic

/-!
# Rules on secrets

Variables whose names betray a secret should not carry their value in the manifest.
-/

namespace ComposeLint.Rule

/-- Whether a name contains one of the patterns, in small letters. -/
def isSecretName (tables : RuleTables) (name : String) : Bool :=
  let small := Text.lower name.toList
  tables.secretKeyPatterns.any fun pattern => Text.occursIn pattern.toList small

/-- Whether a value is written out: a literal that is neither empty nor a placeholder. -/
def isWrittenOut (tables : RuleTables) : EnvValue → Bool
  | .literal value => value != "" && !tables.secretPlaceholders.contains (Text.lowered value)
  | _ => false

/-- A variable that looks like a secret has its value written out. -/
def hardcodedSecrets : Rule where
  id := "hardcoded-secrets"
  name := "Hardcoded secrets"
  category := secretManagement
  description := "Secret-looking environment variables should not carry literal values"
  remediation :=
    "Reference the value with $\x7bVAR\x7d from an .env file, or use Compose secrets"
  inspection := perService fun service tables =>
    (service.environment.entries.filter fun entry =>
        isSecretName tables entry.1 && isWrittenOut tables entry.2).map fun entry =>
      ⟨.high, about service ("may have hardcoded secret in " ++ entry.1)⟩

end ComposeLint.Rule
