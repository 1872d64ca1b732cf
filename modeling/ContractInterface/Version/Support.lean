/-
The versions of the document format that this library reads.
-/
import ContractInterface.Version.Requirement

namespace ContractInterface

inductive SupportError where
  | badRequirement (requirement : String) (cause : VersionError)
  | badVersion (version : String) (cause : VersionError)
  | unmet (version : Version) (requirement : String)

def SupportError.message : SupportError → String
  | .badRequirement requirement cause =>
    s!"invalid version requirement '{requirement}': {cause.message}"
  | .badVersion version cause => s!"'{version}' is not valid semver: {cause.message}"
  | .unmet version requirement => s!"'{version.text}' does not satisfy '{requirement}'"

/-- The requirement on the version of a document's format. -/
def supportedVersions : String := ">=0.1.0, <1.0.0"

/-- Checks a version against a requirement. A fault of the requirement is told first. -/
def checkVersionAgainst (requirement version : String) : Except SupportError Unit := do
  let r ← (Requirement.parse requirement).mapError (.badRequirement requirement)
  let v ← (Version.parse version).mapError (.badVersion version)
  if r.meets v then .ok () else .error (.unmet v requirement)

def checkVersion (version : String) : Except SupportError Unit :=
  checkVersionAgainst supportedVersions version

end ContractInterface
