import OddiyaOps.Python.Str
import OddiyaOps.Cleanup.Resources
import OddiyaOps.Cleanup.Provider
import OddiyaOps.Cleanup.Handlers
import OddiyaOps.Cleanup.Policy
import OddiyaOps.Cleanup.Invariant
import OddiyaOps.Cleanup.Safety
import OddiyaOps.Cleanup.Occupancy
import OddiyaOps.Cleanup.Report
import OddiyaOps.Cleanup.Compose
import OddiyaOps.Cleanup.Tally
import OddiyaOps.Cleanup.Failures
import OddiyaOps.Cleanup.Preview
import OddiyaOps.Scheduler.Model
import OddiyaOps.Scheduler.Restore
import OddiyaOps.Scheduler.Actions
import OddiyaOps.FixYaml.Merge
import OddiyaOps.FixYaml.Profiles
import OddiyaOps.FixYaml.Sections
import OddiyaOps.FixYaml.Rerun
