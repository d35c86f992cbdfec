import SmartWebGateway.Foundation.Evolution
import SmartWebGateway.Foundation.DepthFirst
import SmartWebGateway.Foundation.Paths
import SmartWebGateway.Foundation.Dispatch
import SmartWebGateway.Foundation.Journal
import SmartWebGateway.Foundation.Machine
import SmartWebGateway.Foundation.Endless
import SmartWebGateway.Foundation.Locks
import SmartWebGateway.Foundation.Deadlocks
import SmartWebGateway.Foundation.Endings
import SmartWebGateway.Foundation.Program
import SmartWebGateway.Foundation.Rotation
import SmartWebGateway.Foundation.Fifo
import SmartWebGateway.Foundation.Signed
import SmartWebGateway.Foundation.Binary64
import SmartWebGateway.Foundation.Rounding
import SmartWebGateway.Foundation.Quotients
import SmartWebGateway.Can.Conventions
import SmartWebGateway.Can.Port
import SmartWebGateway.Mqtt.Channel
import SmartWebGateway.Mqtt.World
import SmartWebGateway.Config.Controller
import SmartWebGateway.Mqtt.Timeouts
import SmartWebGateway.Config.Loaded
import SmartWebGateway.Config.Acceptance
import SmartWebGateway.Poller.Classes
import SmartWebGateway.Poller.Precedence
import SmartWebGateway.Poller.Directories
import SmartWebGateway.Poller.Requests
import SmartWebGateway.Poller.Codecs
import SmartWebGateway.Poller.Picklists
import SmartWebGateway.Poller.FixedPoint
import SmartWebGateway.Poller.Reader
import SmartWebGateway.Poller.RoundTrip
import SmartWebGateway.Poller.Ancestors
import SmartWebGateway.Poller.Repetitions
import SmartWebGateway.Poller.IterationOrder
import SmartWebGateway.Poller.Controls
import SmartWebGateway.Poller.Sections
import SmartWebGateway.Poller.Polling
import SmartWebGateway.Poller.Starvation
import SmartWebGateway.Poller.ShortResponses
import SmartWebGateway.Poller.Publishing
import SmartWebGateway.Poller.Lifetime
import SmartWebGateway.Poller.Writes
import SmartWebGateway.Config.CommandLine
import SmartWebGateway.Scheduler.Threaded
import SmartWebGateway.Scheduler.WakeUps
import SmartWebGateway.Scheduler.Periodic
import SmartWebGateway.Scheduler.Waiting
import SmartWebGateway.Scheduler.Serving
import SmartWebGateway.Gateway.TaskFn
import SmartWebGateway.Gateway.Requests
import SmartWebGateway.Gateway.Dispatch
import SmartWebGateway.Gateway.Handlers
import SmartWebGateway.Gateway.Startup
import SmartWebGateway.Gateway.FrameQueues
import SmartWebGateway.Gateway.Rounds
import SmartWebGateway.Gateway.Actions
import SmartWebGateway.Gateway.Runs
import SmartWebGateway.Gateway.ChannelNumber
import SmartWebGateway.Gateway.Broadcasts
import SmartWebGateway.Gateway.Iteration
import SmartWebGateway.Gateway.LostUpdates
import SmartWebGateway.Gateway.Service
import SmartWebGateway.Gateway.OutputRequests
import SmartWebGateway.Gateway.RoundCases
import SmartWebGateway.Gateway.Replies
import SmartWebGateway.Gateway.Connection
import SmartWebGateway.Gateway.Subscriptions
import SmartWebGateway.Gateway.Answering
import SmartWebGateway.Gateway.Turns
import SmartWebGateway.Gateway.Bus
import SmartWebGateway.Gateway.Locks
import SmartWebGateway.Gateway.Sensors
import SmartWebGateway.Gateway.Readings
import SmartWebGateway.Gateway.Bridge
import SmartWebGateway.Gateway.PlainFrames
import SmartWebGateway.Gateway.Staleness
import SmartWebGateway.Gateway.Registration
