import FrameworkUpgrade.Main
import FrameworkUpgrade.Machine.Basic
import FrameworkUpgrade.Proofs.Range.Regular
import FrameworkUpgrade.Proofs.Upgrade.CommitPoint
import FrameworkUpgrade.Proofs.Upgrade.Pins
import FrameworkUpgrade.Proofs.Upgrade.Selection
import FrameworkUpgrade.Proofs.Upgrade.Stages
import FrameworkUpgrade.Proofs.Dialogue.Lockstep
import FrameworkUpgrade.Proofs.Upgrade.Isolation
import FrameworkUpgrade.Proofs.Json.Distinct
import FrameworkUpgrade.Proofs.Upgrade.Revision
import FrameworkUpgrade.Proofs.Session.Confinement
import FrameworkUpgrade.Proofs.Manifest.RoundTrip
import FrameworkUpgrade.Proofs.Manifest.Turbopack
import FrameworkUpgrade.Proofs.Version.Highest
import FrameworkUpgrade.Proofs.Upgrade.Search
import FrameworkUpgrade.Proofs.Upgrade.Target
import FrameworkUpgrade.Proofs.Upgrade.Record
import FrameworkUpgrade.Proofs.Manifest.Settled
import FrameworkUpgrade.Proofs.Upgrade.Rerun
import FrameworkUpgrade.Proofs.Upgrade.Schedules
import FrameworkUpgrade.Proofs.Version.Precedence
import FrameworkUpgrade.Proofs.Upgrade.Decision
import FrameworkUpgrade.Proofs.Upgrade.Grouping
import FrameworkUpgrade.Proofs.Manifest.DevScript
import FrameworkUpgrade.Proofs.Upgrade.Questions
import FrameworkUpgrade.Proofs.Range.Classes
import FrameworkUpgrade.Proofs.Range.Complement
import FrameworkUpgrade.Proofs.Range.Exact
import FrameworkUpgrade.Proofs.Range.Prerelease
import FrameworkUpgrade.Proofs.Codemod.Bound
import FrameworkUpgrade.Proofs.Codemod.Validation
import FrameworkUpgrade.Proofs.Session.Bystander
