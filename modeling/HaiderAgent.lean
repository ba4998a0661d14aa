import HaiderAgent.Protocol.Loom.Runs
import HaiderAgent.Protocol.GraphIncremental
import HaiderAgent.Daemon.TurnRecovery.Closure
import HaiderAgent.Daemon.Worker.UnknownReconcile
import HaiderAgent.Daemon.Worker.ConsentTrail
import HaiderAgent.Tools.OneShot
import HaiderAgent.Protocol.RawRoundTrip
import HaiderAgent.Store.Turns.Finality
import HaiderAgent.Daemon.SessionHub.Delivery
import HaiderAgent.Daemon.SessionHub.CheckpointLast
import HaiderAgent.Provider.SseChunking
import HaiderAgent.Daemon.TaskPolling
import HaiderAgent.Store.Menus.Arbitration
import HaiderAgent.Daemon.TurnRecovery.ForkedChild
import HaiderAgent.Protocol.Workflow.Bounds
import HaiderAgent.Store.RunHeads
import HaiderAgent.Provider.CachePlanner
import HaiderAgent.Protocol.TextElision
import HaiderAgent.Store.WorkerFence
import HaiderAgent.Protocol.GraphWellFormed
import HaiderAgent.Store.Menus.RetryMenus
