import EnvMgr.Runbook.Times
import EnvMgr.Runbook.Bypass
import EnvMgr.Runbook.Slower
import EnvMgr.Auth.Logout
import EnvMgr.Auth.ConcurrentSafety
import EnvMgr.Auth.Tabs
import EnvMgr.Decommission.Protocol
import EnvMgr.Bookings.Bounds
import EnvMgr.Bookings.Overlap
import EnvMgr.Bookings.Teardown
import EnvMgr.Bookings.Series
import EnvMgr.Bookings.Children
import EnvMgr.Lifecycle.Kind
import EnvMgr.Lifecycle.InUse
import EnvMgr.Contention.Verdict
import EnvMgr.Contention.FirstWriter
import EnvMgr.Contention.Forecast
import EnvMgr.Statuses.Group
import EnvMgr.Incidents.Restored
import EnvMgr.Deployments.Once
import EnvMgr.Deployments.Current
import EnvMgr.Outages.Order
import EnvMgr.Outbox.Delivery
import EnvMgr.Scanning.Rescan
import EnvMgr.Scanning.Partial
import EnvMgr.Scanning.RepoUrl
import EnvMgr.Raid.Stamps
import EnvMgr.Decommission.States
import EnvMgr.Compliance.Preview
import EnvMgr.Scope.Again
import EnvMgr.Imports.Systems
import EnvMgr.Agreements.Gaps
import EnvMgr.Utilization.Measure
import EnvMgr.Rollback.Agreed
import EnvMgr.Readiness.Verdict
import EnvMgr.Raid.ScopeLinks
import EnvMgr.Patterns.Expansion
import EnvMgr.Reviews.Numbers
import EnvMgr.Reviews.Overdue
import EnvMgr.Compliance.Teams
import EnvMgr.Compliance.Editable
import EnvMgr.Scanning.Parsers
import EnvMgr.Components.Latest
import EnvMgr.Components.Symmetry
import EnvMgr.Contents.Closing
import EnvMgr.Projects.Service
import EnvMgr.Releases.Calendar
import EnvMgr.Utilization.Conflicts
import EnvMgr.Memberships.Rollup
import EnvMgr.Topology.Focus
import EnvMgr.Grid.Debounce
import EnvMgr.Releases.Closeout
import EnvMgr.Copilot.Agent
import EnvMgr.GitHub.DeviceFlow
import EnvMgr.Grid.SharedList
import EnvMgr.Groups.Service
import EnvMgr.Contention.WorkingDays
import EnvMgr.Runbook.Concurrent
import EnvMgr.Runbook.ConcurrentSafety
