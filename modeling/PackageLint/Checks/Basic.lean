import PackageLint.Config.RuleFile
import PackageLint.File.Sources
import PackageLint.Toolchain.Command

/-!
# Checks

A check looks at a package and reports what it finds. It is known by its name; `supports` tells
whether it has anything to look at.
-/

namespace PackageLint

/-- The name of a manifest. -/
def manifestName : String := "Package.swift"

/-- What a check may look at. -/
structure PackageContext where
  /-- The directory of the package. -/
  root : Path
  /-- The files. -/
  disk : Disk
  /-- The settings. -/
  config : Config
  /-- The toolchain. -/
  toolchain : Toolchain
  /-- The executable of the toolchain. -/
  executable : String := "swift"
  /-- The rules. -/
  tables : RuleTables := .standard
  /-- Dependencies on branches are a matter for complaint. -/
  flagsBranches : Bool := false

namespace PackageContext

/-- The path of the manifest. -/
def manifest (context : PackageContext) : Path := context.root.child manifestName

/-- The source files of the package. -/
def sources (context : PackageContext) : List Path :=
  Sources.find context.disk context.root context.config.exclude

end PackageContext

/-- A check of a package. -/
structure Check where
  /-- The name that the check is asked for by. -/
  name : String
  /-- The name of the check in the log. -/
  title : String
  /-- The check has something to look at. -/
  supports : PackageContext → Bool
  /-- What the check finds. -/
  run : PackageContext → Run (List Diagnostic)

end PackageLint
