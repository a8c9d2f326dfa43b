/-
  AutoRecycle.Consul.Lambdas

  check_consul_health/main.py, get_consul_nodes/main.py and
  terminate_consul_instance/main.py.  What they print and log is left out.
-/
import AutoRecycle.Consul.Calls
import AutoRecycle.Mongo.Process
import AutoRecycle.Py.Sorted
import AutoRecycle.Py.Str

namespace AutoRecycle.Consul

open AutoRecycle.Asl AutoRecycle.Data AutoRecycle.Effect
open AutoRecycle.Mongo (isFalsy)
open AutoRecycle.Py (str strExc strip stripOf splitHead sorted)

/-- `Exception(text)` -/
def failure (text : String) : PyExc := { cls := .exception, arg := text }

/-- `event.get(key)`; only a dictionary has the method. -/
def eventGet (key : String) : Json → Except PyExc (Option Json)
  | .obj fields => .ok (Dict.get? key fields)
  | _ => .error { cls := attributeError }

def getConsulHost (event : Json) : Py String := do
  let environment : Option String ← ask (.getenv "environment")
  let environment := environment.getD "None"
  let cluster ← raise (eventGet "cluster" event)
  return "https://consul-" ++ (cluster.map str).getD environment ++ "." ++ environment ++ ".mdtp:8501"

/-- `.strip().strip('"')` -/
def unquote (text : String) : String := stripOf (· = '"') (strip text)

-- ============================================================================
-- check_consul_health
-- ============================================================================

/-- `n == v`, for a value of JSON. -/
def equalsNat (n : Nat) : Json → Bool
  | .num m => m = n
  | .bool b => n = if b then 1 else 0
  | _ => false

/-- The `try` block. -/
def checkCluster (consulHost : String) (expectedPeers : Json) : Py Json := do
  let text : String ← raise (← ask (.statusLeader consulHost))
  let leader := unquote text
  if leader = "" then raise (.error (failure "No leader found"))
  else do
    let peers : List String ← raise (← ask (.statusPeers consulHost))
    if equalsNat peers.length expectedPeers then
      return .obj [("statusCode", .num 200),
        ("body", .str ("Cluster healthy with leader " ++ leader ++ " and " ++
          toString peers.length ++ " peers"))]
    else raise (.error (failure
      (toString peers.length ++ " peers found, expected " ++ str expectedPeers)))

def checkHandler (event : Json) : Py Json := do
  let consulHost ← getConsulHost event
  let expectedPeers ← raise (eventGet "expectedPeers" event)
  let _ : Unit ← raise (← ask .sslContext)
  (checkCluster consulHost (expectedPeers.getD (.num 5))).tryCatch fun e =>
    Prog.throw (failure ("Cluster health check failed: " ++ strExc e))

-- ============================================================================
-- terminate_consul_instance
-- ============================================================================

def missingInstanceId : Json :=
  .obj [("statusCode", .num 400), ("body", .str "Missing 'instanceId' in input")]

def terminate (instanceId : Json) : Py Json := do
  match ← ask (.terminateInstances instanceId) with
  | .ok response => return .obj [("statusCode", .num 200),
      ("body", .str ("Termination initiated for " ++ str instanceId)), ("response", response)]
  | .error e => raise (.error (failure
      ("Failed to terminate " ++ str instanceId ++ ": " ++ strExc e)))

def terminateHandler (event : Json) : Py Json := do
  let instanceId := (← raise (eventGet "instanceId" event)).getD .null
  if isFalsy instanceId then return missingInstanceId else terminate instanceId

-- ============================================================================
-- get_consul_nodes
-- ============================================================================

/-- The address of the leader, without its port. -/
def leaderAddr (text : String) : String := splitHead (unquote text) ':'

/-- One pass of the innermost loop. -/
def putInterface (ipList : List String) (instanceId : String) (instanceMap : Dict String)
    (iface : NetworkInterface) : Dict String :=
  match iface.privateIpAddress with
  | some ip => if ip ∈ ipList then Dict.set ip instanceId instanceMap else instanceMap
  | none => instanceMap

/-- The three nested loops. -/
def buildInstanceMap (ipList : List String) (reservations : List Reservation) : Dict String :=
  reservations.foldl (fun instanceMap reservation =>
    reservation.instances.foldl (fun instanceMap inst =>
      (inst.networkInterfaces.getD []).foldl (putInterface ipList inst.instanceId) instanceMap)
      instanceMap) []

/-- One entry of the answer. -/
structure Node where
  ip : String
  instanceId : String
  deriving DecidableEq

def Node.json (node : Node) : Json :=
  .obj [("ip", .str node.ip), ("instanceId", .str node.instanceId)]

def instanceListJson (nodes : List Node) : Json :=
  .obj [("instanceList", .arr (nodes.map Node.json))]

/-- The final comprehension. -/
def instanceList (ipList : List String) (instanceMap : Dict String) : List Node :=
  ipList.filterMap fun ip => (Dict.get? ip instanceMap).map fun instanceId => ⟨ip, instanceId⟩

/-- The `try` block.  Of the members only the addresses are read. -/
def nodesOf (consulHost : String) : Py (List Node) := do
  let leader := leaderAddr (← raise (← ask (.statusLeader consulHost)))
  let members : List Member ← raise (← ask (.agentMembers consulHost))
  let addrs ← raise (members.mapM fun m => getKey "Addr" m.addr)
  let ipList := sorted (· = leader) addrs
  if ipList.isEmpty then return instanceList ipList []
  else do
    let reservations : List Reservation ← raise (← ask (.describeInstances ipList))
    return instanceList ipList (buildInstanceMap ipList reservations)

def nodesHandler (event : Json) : Py Json := do
  let consulHost ← getConsulHost event
  let _ : Unit ← raise (← ask .sslContext)
  let nodes ← (nodesOf consulHost).tryCatch fun e =>
    Prog.throw (failure ("Get Consul Nodes Failed: " ++ strExc e))
  return instanceListJson nodes

end AutoRecycle.Consul
