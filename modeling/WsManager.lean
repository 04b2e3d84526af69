import WsManager.Api.Objects
import WsManager.Api.Conditions
import WsManager.Support.Json
import WsManager.Controllers.Logs
import WsManager.Controllers.Failure
import WsManager.Controllers.Status
import WsManager.Controllers.TimeoutPolicy
import WsManager.Controllers.TimeoutReconciler
import WsManager.Runs.Sequential
import WsManager.Runs.Concurrent
import WsManager.Runs.Deadline
import WsManager.Support.Digits
import WsManager.Support.Strconv
import WsManager.Support.Strings
import WsManager.Support.Regexp
import WsManager.Cli.Root
import WsManager.Cli.Ports
import WsManager.Cli.Tasks
