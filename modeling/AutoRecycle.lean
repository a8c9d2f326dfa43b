import AutoRecycle.Effect.Prog
import AutoRecycle.Effect.Setting
import AutoRecycle.Effect.Runs
import AutoRecycle.Data.Dict
import AutoRecycle.Asl.Json
import AutoRecycle.Asl.Machine
import AutoRecycle.Asl.Live
import AutoRecycle.Py.Re
import AutoRecycle.Exceptions
import AutoRecycle.Calls
import AutoRecycle.Runs
import AutoRecycle.ScaleAsg.Event
import AutoRecycle.ScaleAsg.Handler
import AutoRecycle.ScaleAsg.Responses
import AutoRecycle.ScaleAsg.Specification
import AutoRecycle.StateMachine
import AutoRecycle.ScaleAsg.InOutRun
import AutoRecycle.Mongo.Process
import AutoRecycle.Mongo.Runs
import AutoRecycle.Mongo.EffectOrder
import AutoRecycle.Mongo.LaunchTemplates
import AutoRecycle.Lambdas
import AutoRecycle.Mongo.Branch
import AutoRecycle.Mongo.BeforeTerminate
import AutoRecycle.Mongo.Done
import AutoRecycle.Mongo.Configuration
import AutoRecycle.Mongo.Chaining
import AutoRecycle.Py.Str
import AutoRecycle.Standard.Autorecycle
import AutoRecycle.Standard.Loop
import AutoRecycle.Standard.Run
import AutoRecycle.Standard.Activities
import AutoRecycle.Standard.Window
import AutoRecycle.Standard.Freshness
import AutoRecycle.Consul.Calls
import AutoRecycle.Consul.Lambdas
import AutoRecycle.Consul.Nodes
import AutoRecycle.Asl.Nested
import AutoRecycle.Consul.StateMachine
import AutoRecycle.Consul.Checks
import AutoRecycle.Consul.Stages
import AutoRecycle.Consul.OneAtATime
import AutoRecycle.Mongo.Fleet
import AutoRecycle.Mongo.Invocation
import AutoRecycle.Mongo.Returns
import AutoRecycle.Mongo.WholeRun
import AutoRecycle.ScaleAsg.Groups
import AutoRecycle.ScaleAsg.Carried
import AutoRecycle.InstanceRefresh
import AutoRecycle.InvokeStepfunctions.GetComponentDetails
import AutoRecycle.ScaleAsg.NothingToDo
import AutoRecycle.Standard.Spread
import AutoRecycle.InvokeStepfunctions.Handler
import AutoRecycle.InvokeStepfunctions.Starts
import AutoRecycle.Py.Literal
import AutoRecycle.ScaleAsg.Selection
import AutoRecycle.Standard.Lookup
import AutoRecycle.LambdaErrors
import AutoRecycle.Mongo.InProgress
import AutoRecycle.ScaleAsg.Reads
import AutoRecycle.ScaleAsg.Branch
import AutoRecycle.ScaleAsg.Sound
import AutoRecycle.ScaleAsg.OneEmpty
import AutoRecycle.ScaleAsg.Script
import AutoRecycle.ScaleAsg.ScaledOnce
import AutoRecycle.Mongo.TwoExecutions
import AutoRecycle.Standard.LaunchTimes
import AutoRecycle.ScaleAsg.TimeZones
import AutoRecycle.Mongo.Polls
import AutoRecycle.Asl.Ranked
import AutoRecycle.Consul.Flow
import AutoRecycle.Consul.Ending
import AutoRecycle.Consul.LeaderLast
import AutoRecycle.Consul.Together
import AutoRecycle.Asl.Trail
import AutoRecycle.Messages
import AutoRecycle.InstanceRefreshOrder
import AutoRecycle.Asl.Pace
import AutoRecycle.Pacing
import AutoRecycle.Mongo.Terminations
import AutoRecycle.InvokeStepfunctions.Accepted
import AutoRecycle.Asl.Reads
import AutoRecycle.Outputs
import AutoRecycle.Reported
import AutoRecycle.Consul.Certificate
