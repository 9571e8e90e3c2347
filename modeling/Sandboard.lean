import Sandboard.Library.Locked
import Sandboard.Library.SecondaryIndex
import Sandboard.Library.Trail
import Sandboard.Library.Population
import Sandboard.Text
import Sandboard.Schema
import Sandboard.Model
import Sandboard.Machine
import Sandboard.Store.BoardState
import Sandboard.Lifecycle
import Sandboard.Store.Board
import Sandboard.Store.Projects
import Sandboard.Store.AgentVerbs
import Sandboard.Store.Split
import Sandboard.Store.HumanVerbs
import Sandboard.Store.Forge
import Sandboard.Store.Operation
import Sandboard.Store.Structure
import Sandboard.Store.Within
import Sandboard.Store.Structural
import Sandboard.Store.Indexes
import Sandboard.Store.Runs
import Sandboard.Store.Refusals
import Sandboard.Store.Claiming
import Sandboard.Store.Evolution
import Sandboard.Store.Evolving
import Sandboard.Store.Simulation
import Sandboard.Store.Grants
import Sandboard.Store.Standings
import Sandboard.Store.Deadlines
import Sandboard.Store.Materializing
import Sandboard.Store.Upkeep
import Sandboard.Store.Sustaining
import Sandboard.Store.Lasting
import Sandboard.Store.Nesting
import Sandboard.Store.Definitions
import Sandboard.Library.Table
import Sandboard.Store.Tables
import Sandboard.Store.Constraints
import Sandboard.Store.Approving
import Sandboard.Library.Acyclic
import Sandboard.Store.Blocking
import Sandboard.Store.Fulfilling
import Sandboard.Store.Ledger
import Sandboard.Store.Merging
import Sandboard.Store.Retries
import Sandboard.Search
import Sandboard.Supervisor.Outcome
import Sandboard.Store.Identity
import Sandboard.Library.Interleave
import Sandboard.Library.Replay
import Sandboard.Store.Emission
import Sandboard.Library.Run
import Sandboard.Settings.Catalog
import Sandboard.Settings.References
import Sandboard.Settings.Rendering
import Sandboard.Settings.Exposure
import Sandboard.OAuth.Resource
import Sandboard.OAuth.Tokens
import Sandboard.OAuth.Separation
import Sandboard.OAuth.Server
import Sandboard.OAuth.Transitions
import Sandboard.OAuth.Redemption
import Sandboard.OAuth.Audience
import Sandboard.Supervisor.Verdict
import Sandboard.Store.Cardwise
import Sandboard.Supervisor.Exclusion
import Sandboard.Supervisor.Environments
import Sandboard.Supervisor.Adoption
import Sandboard.Supervisor.Fleet
import Sandboard.Supervisor.Slots
import Sandboard.Supervisor.Freeing
import Sandboard.Supervisor.Unfinished
import Sandboard.Store.Pausing
import Sandboard.Supervisor.Lateness
import Sandboard.Store.Crowd
import Sandboard.Auth.Bootstrap
import Sandboard.Library.Reader
import Sandboard.Ws.Frames
import Sandboard.Ws.Connection
import Sandboard.Truncation
import Sandboard.Api.Webhook
import Sandboard.Prose
import Sandboard.Store.Cloning
import Sandboard.Mcp.Breakdown
import Sandboard.Store.Carrying
import Sandboard.Store.PullRequests
import Sandboard.Library.Pages
import Sandboard.GithubPoll
import Sandboard.Store.Conflicts
import Sandboard.Supervisor.CloneTarget
import Sandboard.Settings.Providers
import Sandboard.Settings.Requests
import Sandboard.Settings.Atomicity
import Sandboard.Settings.ProviderNames
import Sandboard.Settings.OAuthNames
import Sandboard.Mcp.PendingOAuth
import Sandboard.Library.LongestChain
import Sandboard.Web.DependencyGraph
import Sandboard.Library.PercentCoding
import Sandboard.OAuth.QueryStrings
import Sandboard.OAuth.Consent
import Sandboard.OAuth.LoginDetour
import Sandboard.OAuth.RedirectBack
import Sandboard.Ws.Codec
import Sandboard.Store.Hygiene
import Sandboard.Library.MachineSum
import Sandboard.Store.DiffTotals
import Sandboard.Settings.Creation
import Sandboard.Library.OrderedMap
import Sandboard.Settings.PolicyFragments
import Sandboard.Settings.McpFiles
import Sandboard.Engine
import Sandboard.Cockpit.Conversations
import Sandboard.RepoAccess
import Sandboard.Supervisor.Ownership
import Sandboard.Store.OpenBlockers
import Sandboard.Library.Shell
import Sandboard.Cockpit.Scripts
import Sandboard.Library.ShellWeight
import Sandboard.Supervisor.StartScript
import Sandboard.Library.ShellNested
import Sandboard.Settings.ProviderSync
import Sandboard.Store.Feed
import Sandboard.Web.BoardClient
import Sandboard.Store.Replica
import Sandboard.Library.Worklist
import Sandboard.Store.Deletion
import Sandboard.Store.Restart
import Sandboard.Store.Queries
import Sandboard.Store.Scope
