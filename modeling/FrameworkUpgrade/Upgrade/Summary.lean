import FrameworkUpgrade.PackageManager
import FrameworkUpgrade.Upgrade.FollowUp
import FrameworkUpgrade.Upgrade.Report

/-!
# `FrameworkUpgrade.Upgrade.Summary`: a report as the user sees it

A summary has a paragraph for each thing there is to tell: the versions, the pins,
the dev script, an installation that failed, the codemods and recipes, and last
whether all went well.
-/

set_option autoImplicit false

namespace FrameworkUpgrade

namespace Report

/-- The paragraph on the versions. -/
def versionLines (r : Report) : List String :=
  ["", "Upgrade Summary:", s!"  {frameworkPackage} {r.installed} → {r.target}"]

/-- The line on a pin. -/
def pinLine (w : WrittenPin) : String :=
  let previous := w.previous.getD "(new)"
  s!"  • {w.pin.package} {previous} → {w.pin.version}"

/-- The paragraph on the pins. -/
def pinLines (r : Report) : List String :=
  if r.pinned.isEmpty then [] else "" :: "Pinned versions:" :: r.pinned.map pinLine

/-- The paragraph on the dev script. -/
def turbopackLines (r : Report) : List String :=
  if r.turbopack then ["", "✓ `next dev` now uses Turbopack"] else []

/-- The paragraph on an installation that failed. -/
def installLines (r : Report) (m : PackageManager) : List String :=
  match r.install with
  | .succeeded => []
  | .failed reason =>
    ["", s!"✗ Install failed: {reason}",
      s!"  Run `{m} install` to finish installing the pinned versions."]

/-- The line on a codemod or a recipe. -/
def appliedLine (a : Applied) : String :=
  match a.result with
  | .succeeded => s!"  ✓ {a.id}"
  | .failed reason => s!"  ✗ {a.id} {reason}"

/-- The paragraph on codemods and recipes. -/
def appliedLines (r : Report) : List String :=
  if r.applied.isEmpty then [] else "" :: "Codemods:" :: r.applied.map appliedLine

/-- The paragraph on whether all went well. -/
def verdictLines (r : Report) : List String :=
  ["", if r.isClean then "✨ Upgrade completed successfully!"
    else "Upgrade completed with errors. Review the steps above."]

/-- The lines of the summary of a report. -/
def summary (r : Report) (m : PackageManager) : List String :=
  r.versionLines ++ r.pinLines ++ r.turbopackLines ++ r.installLines m ++ r.appliedLines
    ++ r.verdictLines

end Report

end FrameworkUpgrade
