/-
  AutoRecycle.Consul.Nodes

  When get_consul_nodes returns the whole control plane.

  The answer is computed from three replies: the leader, the members, and the
  instances that EC2 finds for the addresses of the members.  An address without
  an instance is dropped, an address that occurs twice is kept twice, and the
  leader comes last only if it is a member.  `nodes_whole_iff` says that nothing
  else can go wrong.
-/
import AutoRecycle.Consul.Lambdas
import Mathlib.Data.List.Nodup
import Mathlib.Data.List.Perm.Basic

namespace AutoRecycle.Consul

open AutoRecycle.Asl AutoRecycle.Data AutoRecycle.Effect
open AutoRecycle.Py (sorted sorted_eq)

-- ============================================================================
-- The instance map
-- ============================================================================

/-- The addresses that EC2 shows, with their instances, in the order of the reply. -/
def interfaces (reservations : List Reservation) : List (String × String) :=
  reservations.flatMap fun reservation => reservation.instances.flatMap fun inst =>
    (inst.networkInterfaces.getD []).filterMap fun iface =>
      iface.privateIpAddress.map fun ip => (ip, inst.instanceId)

/-- The instance of the last interface with the address. -/
def lastOwner (reservations : List Reservation) (ip : String) : Option String :=
  Dict.get? ip (interfaces reservations).reverse

theorem get?_foldl_set (ipList : List String) (xs : List (String × String)) (d : Dict String)
    (ip : String) :
    Dict.get? ip (xs.foldl (fun d x => if x.1 ∈ ipList then Dict.set x.1 x.2 d else d) d) =
      if ip ∈ ipList then (Dict.get? ip xs.reverse).or (Dict.get? ip d) else Dict.get? ip d := by
  induction xs generalizing d with
  | nil => simp
  | cons x xs ih =>
      obtain ⟨key, id⟩ := x
      rw [List.foldl_cons, ih, List.reverse_cons, Dict.get?_append, Dict.get?_cons, Dict.get?_nil]
      by_cases hkey : key ∈ ipList
      · rw [if_pos hkey]
        by_cases hsame : key = ip
        · rw [← hsame, if_pos hkey, if_pos hkey, if_pos rfl, Dict.get?_set_self, Option.or_assoc]
          rfl
        · rw [if_neg hsame, Dict.get?_set_ne (Ne.symm hsame), Option.or_none]
      · rw [if_neg hkey]
        by_cases hip : ip ∈ ipList
        · have hne : key ≠ ip := fun h => hkey (h ▸ hip)
          rw [if_pos hip, if_pos hip, if_neg hne, Option.or_none]
        · rw [if_neg hip, if_neg hip]

/-- The last instance that is put under an address stays there. -/
theorem get?_buildInstanceMap (ipList : List String) (reservations : List Reservation)
    (ip : String) :
    Dict.get? ip (buildInstanceMap ipList reservations) =
      if ip ∈ ipList then lastOwner reservations ip else none := by
  have hinner : ∀ id ifaces d, List.foldl (putInterface ipList id) d ifaces =
      (ifaces.filterMap fun iface => iface.privateIpAddress.map fun ip => (ip, id)).foldl
        (fun d x => if x.1 ∈ ipList then Dict.set x.1 x.2 d else d) d := by
    intro id ifaces
    induction ifaces with
    | nil => exact fun _ => rfl
    | cons iface ifaces ih =>
        intro d
        rw [List.foldl_cons, ih, List.filterMap_cons, putInterface]
        cases iface.privateIpAddress <;> rfl
  have hflat : buildInstanceMap ipList reservations = (interfaces reservations).foldl
      (fun d x => if x.1 ∈ ipList then Dict.set x.1 x.2 d else d) [] := by
    simp only [interfaces, List.foldl_flatMap, buildInstanceMap, hinner]
  rw [hflat, get?_foldl_set, lastOwner, Dict.get?_nil, Option.or_none]

/-- The instance that is looked up has an interface with the address. -/
theorem interface_of_lastOwner {reservations : List Reservation} {ip id : String}
    (h : lastOwner reservations ip = some id) :
    ∃ reservation ∈ reservations, ∃ inst ∈ reservation.instances, inst.instanceId = id ∧
      ∃ iface ∈ inst.networkInterfaces.getD [], iface.privateIpAddress = some ip := by
  have hmem := List.mem_reverse.mp (Dict.mem_of_get? h)
  rw [interfaces, List.mem_flatMap] at hmem
  obtain ⟨reservation, hreservation, hmem⟩ := hmem
  obtain ⟨inst, hinst, hmem⟩ := List.mem_flatMap.mp hmem
  obtain ⟨iface, hiface, hmap⟩ := List.mem_filterMap.mp hmem
  obtain ⟨ip', hip, hpair⟩ := Option.map_eq_some_iff.mp hmap
  cases hpair
  exact ⟨reservation, hreservation, inst, hinst, rfl, iface, hiface, hip⟩

-- ============================================================================
-- The answer
-- ============================================================================

/-- The whole control plane: what the answer has to be, for the leader, the
    addresses of the members, and the reply of EC2. -/
structure Whole (leader : String) (addrs : List String) (reservations : List Reservation)
    (nodes : List Node) : Prop where
  /-- Every member is represented. -/
  members : ∀ addr ∈ addrs, ∃ node ∈ nodes, node.ip = addr
  /-- No instance occurs twice. -/
  nodup : (nodes.map Node.instanceId).Nodup
  /-- The instance of an entry has an interface with the address of the entry. -/
  interface : ∀ node ∈ nodes, ∃ reservation ∈ reservations, ∃ inst ∈ reservation.instances,
    inst.instanceId = node.instanceId ∧
      ∃ iface ∈ inst.networkInterfaces.getD [], iface.privateIpAddress = some node.ip
  /-- The other members keep their order. -/
  order : ((nodes.map Node.ip).filter (· ≠ leader)).Sublist addrs
  /-- The leader is the last entry. -/
  leader_last : ∃ node, nodes.getLast? = some node ∧ node.ip = leader

/-- EC2 knows an instance of its own for every member, no address occurs twice,
    and the leader is a member. -/
structure Separate (leader : String) (addrs : List String) (reservations : List Reservation) :
    Prop where
  known : ∀ addr ∈ addrs, ∃ id, lastOwner reservations addr = some id
  distinct : addrs.Nodup
  own : ∀ addr ∈ addrs, ∀ addr' ∈ addrs,
    lastOwner reservations addr = lastOwner reservations addr' → addr = addr'
  leader_mem : leader ∈ addrs

/-- The entries of the answer. -/
def answerNodes (leader : String) (addrs : List String) (reservations : List Reservation) :
    List Node :=
  let ipList := sorted (· = leader) addrs
  instanceList ipList (buildInstanceMap ipList reservations)

section
variable {leader : String} {addrs : List String} {reservations : List Reservation} {nodes : List Node}

theorem sorted_leader : sorted (fun addr => decide (addr = leader)) addrs =
    addrs.filter (· ≠ leader) ++ addrs.filter (· = leader) := by
  rw [sorted_eq]
  congr 1
  apply List.filter_congr
  intro addr _
  rw [decide_not]

theorem mem_sorted_leader {addr : String} :
    addr ∈ sorted (fun a => decide (a = leader)) addrs ↔ addr ∈ addrs := by
  rw [sorted_leader, List.mem_append, List.mem_filter, List.mem_filter]
  simp only [decide_eq_true_eq, ← and_or_left]
  exact and_iff_left (Decidable.em _).symm

theorem answerNodes_eq : answerNodes leader addrs reservations =
    (sorted (fun a => decide (a = leader)) addrs).filterMap fun ip =>
      (lastOwner reservations ip).map fun id => ⟨ip, id⟩ := by
  rw [answerNodes, instanceList]
  apply List.filterMap_congr
  intro ip hip
  rw [get?_buildInstanceMap, if_pos hip]

theorem mem_answerNodes {node : Node} : node ∈ answerNodes leader addrs reservations ↔
    node.ip ∈ addrs ∧ lastOwner reservations node.ip = some node.instanceId := by
  rw [answerNodes_eq, List.mem_filterMap]
  constructor
  · rintro ⟨ip, hip, h⟩
    obtain ⟨id, hid, rfl⟩ := Option.map_eq_some_iff.mp h
    exact ⟨mem_sorted_leader.mp hip, hid⟩
  · rintro ⟨hip, hid⟩
    exact ⟨node.ip, mem_sorted_leader.mpr hip, by rw [hid]; rfl⟩

/-- When EC2 knows every member, the entries are the members, in sorted order. -/
theorem ips_answerNodes (h : ∀ addr ∈ addrs, ∃ id, lastOwner reservations addr = some id) :
    (answerNodes leader addrs reservations).map Node.ip =
      sorted (fun a => decide (a = leader)) addrs := by
  rw [answerNodes_eq, List.map_filterMap]
  have hsome : ∀ ip ∈ sorted (fun a => decide (a = leader)) addrs,
      ((lastOwner reservations ip).map fun id => (⟨ip, id⟩ : Node)).map Node.ip = some ip := by
    intro ip hip
    obtain ⟨id, hid⟩ := h ip (mem_sorted_leader.mp hip)
    rw [hid]
    rfl
  rw [List.filterMap_congr hsome, List.filterMap_some]

theorem nodup_sorted_leader (h : addrs.Nodup) :
    (sorted (fun a => decide (a = leader)) addrs).Nodup :=
  (List.mergeSort_perm addrs _).nodup_iff.mpr h

/-- The leader is the last of the sorted addresses if it is among them at all. -/
theorem getLast?_sorted_leader (h : leader ∈ addrs) :
    (sorted (fun a => decide (a = leader)) addrs).getLast? = some leader := by
  have hmem : leader ∈ addrs.filter (fun a => decide (a = leader)) :=
    List.mem_filter.mpr ⟨h, decide_eq_true rfl⟩
  rw [sorted_leader, List.getLast?_append]
  cases hlast : (addrs.filter fun a => decide (a = leader)).getLast? with
  | none =>
      rw [List.getLast?_eq_none_iff] at hlast
      rw [hlast] at hmem
      cases hmem
  | some a =>
      have ha := (List.mem_filter.mp (List.mem_of_getLast? hlast)).2
      rw [decide_eq_true_eq] at ha
      rw [ha]
      rfl

theorem whole_of_separate (h : Separate leader addrs reservations) :
    Whole leader addrs reservations (answerNodes leader addrs reservations) where
  members := by
    intro addr haddr
    obtain ⟨id, hid⟩ := h.known addr haddr
    exact ⟨⟨addr, id⟩, mem_answerNodes.mpr ⟨haddr, hid⟩, rfl⟩
  nodup := by
    have hips : ((answerNodes leader addrs reservations).map Node.ip).Nodup := by
      rw [ips_answerNodes h.known]
      exact nodup_sorted_leader h.distinct
    have hnodes := hips.of_map
    rw [List.nodup_map_iff_inj_on hnodes]
    intro x hx y hy hxy
    obtain ⟨hxip, hxid⟩ := mem_answerNodes.mp hx
    obtain ⟨hyip, hyid⟩ := mem_answerNodes.mp hy
    have hip : x.ip = y.ip := h.own _ hxip _ hyip (by rw [hxid, hyid, hxy])
    cases x
    cases y
    cases hip
    cases hxy
    rfl
  interface := fun node hnode => interface_of_lastOwner (mem_answerNodes.mp hnode).2
  order := by
    rw [ips_answerNodes h.known, sorted_leader, List.filter_append, List.filter_filter,
      List.filter_filter]
    have hnone : addrs.filter (fun a => decide (a ≠ leader) && decide (a = leader)) = [] := by
      rw [List.filter_eq_nil_iff]
      intro a _
      simp
    rw [hnone, List.append_nil]
    exact List.filter_sublist
  leader_last := by
    have hlast := @getLast?_sorted_leader leader addrs h.leader_mem
    rw [← ips_answerNodes h.known, List.getLast?_map, Option.map_eq_some_iff] at hlast
    exact hlast

theorem separate_of_whole (h : Whole leader addrs reservations (answerNodes leader addrs reservations)) :
    Separate leader addrs reservations := by
  have hknown : ∀ addr ∈ addrs, ∃ id, lastOwner reservations addr = some id := by
    intro addr haddr
    obtain ⟨node, hnode, rfl⟩ := h.members addr haddr
    exact ⟨_, (mem_answerNodes.mp hnode).2⟩
  have hips := @ips_answerNodes leader addrs reservations hknown
  -- equal addresses have equal instances, so the ids carry the addresses
  have hnodup : ((answerNodes leader addrs reservations).map Node.ip).Nodup := by
    rw [List.nodup_map_iff_inj_on h.nodup.of_map]
    intro x hx y hy hxy
    have hxid := (mem_answerNodes.mp hx).2
    have hyid := (mem_answerNodes.mp hy).2
    rw [hxy, hyid] at hxid
    cases x
    cases y
    cases hxy
    cases hxid
    rfl
  refine ⟨hknown, ?_, ?_, ?_⟩
  · rw [hips] at hnodup
    exact (List.mergeSort_perm addrs _).nodup_iff.mp hnodup
  · intro addr haddr addr' haddr' hsame
    obtain ⟨id, hid⟩ := hknown addr haddr
    have hx : (⟨addr, id⟩ : Node) ∈ answerNodes leader addrs reservations :=
      mem_answerNodes.mpr ⟨haddr, hid⟩
    have hy : (⟨addr', id⟩ : Node) ∈ answerNodes leader addrs reservations :=
      mem_answerNodes.mpr ⟨haddr', by rw [← hsame, hid]⟩
    have heq := List.inj_on_of_nodup_map h.nodup hx hy rfl
    exact congrArg Node.ip heq
  · obtain ⟨node, hnode, hleader⟩ := h.leader_last
    rw [← hleader]
    exact (mem_answerNodes.mp (List.mem_of_getLast? hnode)).1

end

-- ============================================================================
-- One invocation
-- ============================================================================

/-- The replies that one invocation gets. -/
structure Replies where
  environment : Option String
  sslContext : Except PyExc Unit
  leader : Except PyExc String
  members : Except PyExc (List Member)
  reservations : Except PyExc (List Reservation)

/-- Answer one call; the other calls are not made. -/
def Replies.answer (env : Replies) (_ : Unit) : (op : Op) → op.Reply × Unit
  | .getenv _ => (env.environment, ())
  | .sslContext => (env.sslContext, ())
  | .statusLeader _ => (env.leader, ())
  | .agentMembers _ => (env.members, ())
  | .describeInstances _ => (env.reservations, ())
  | .statusPeers _ => (.error (failure ""), ())
  | .terminateInstances _ => (.error (failure ""), ())
  | .sendCommand _ => (.error (failure ""), ())
  | .invoke .. => (.error (failure ""), ())

/-- The instances that EC2 shows. -/
def Replies.shown (env : Replies) : List Reservation :=
  match env.reservations with
  | .ok reservations => reservations
  | .error _ => []

section
variable {env : Replies} {event out : Json} {text : String} {members : List Member}

/-- The addresses of the members. -/
def addrsOf (members : List Member) : List String := members.filterMap Member.addr

theorem mapM_addr {ms : List Member} {addrs : List String}
    (h : ms.mapM (fun m => getKey "Addr" m.addr) = .ok addrs) : addrs = addrsOf ms := by
  induction ms generalizing addrs with
  | nil =>
      cases h
      rfl
  | cons m ms ih =>
      rw [List.mapM_cons] at h
      cases hm : m.addr with
      | none =>
          rw [hm] at h
          cases h
      | some addr =>
          rw [hm, getKey, ok_bind] at h
          cases hms : ms.mapM fun m => getKey "Addr" m.addr with
          | error e =>
              rw [hms] at h
              cases h
          | ok addrs' =>
              rw [hms, ok_bind, pure_eq_ok] at h
              cases h
              rw [addrsOf, List.filterMap_cons, hm, ih hms]
              rfl

end

section
variable {W : Type} {K : Setting Calls W} {w w' : W} {calls : Trace Calls}

/-- What `get_consul_nodes` has been told when it returns. -/
structure Told (K : Setting Calls W) (text : String) (members : List Member)
    (reservations : List Reservation) : Prop where
  toldLeader : ∃ w host w', K.answers w (.statusLeader host) (.ok text) w'
  toldMembers : ∃ w host w', K.answers w (.agentMembers host) (.ok members) w'
  /-- EC2 is not asked for no address at all. -/
  toldInstances : addrsOf members = [] ∨
    ∃ w ips w', K.answers w (.describeInstances ips) (.ok reservations) w'

theorem nodesOf_ret_inv {host : String} {nodes : List Node}
    (h : Exec K (nodesOf host) w calls (.ret nodes) w') :
    ∃ text members reservations, Told K text members reservations ∧
      nodes = answerNodes (leaderAddr text) (addrsOf members) reservations := by
  obtain ⟨r, t₁, w₁, w₂, rfl, -, hleader, h⟩ := Exec.call_ret_inv h
  obtain ⟨text, rfl, h⟩ := raise_bind_ret_inv h
  obtain ⟨r, t₂, w₃, w₄, rfl, -, hmembers, h⟩ := Exec.call_ret_inv h
  obtain ⟨members, rfl, h⟩ := raise_bind_ret_inv h
  replace h : Exec K (raise (members.mapM fun m => getKey "Addr" m.addr) >>= fun addrs =>
    if (sorted (fun a => decide (a = leaderAddr text)) addrs).isEmpty = true then
      Prog.ret (instanceList (sorted (fun a => decide (a = leaderAddr text)) addrs) [])
    else ask (.describeInstances (sorted (fun a => decide (a = leaderAddr text)) addrs)) >>= fun r =>
      raise r >>= fun reservations =>
        Prog.ret (answerNodes (leaderAddr text) addrs reservations)) w₄ t₂ (.ret nodes) w' := h
  obtain ⟨addrs, haddrs, h⟩ := raise_bind_ret_inv h
  obtain rfl := mapM_addr haddrs
  split at h
  · rename_i hempty
    obtain ⟨-, hret⟩ := Exec.ret_inv h
    have hnone : addrsOf members = [] := by
      rw [List.isEmpty_iff] at hempty
      rw [List.eq_nil_iff_forall_not_mem]
      intro a ha
      have hmem := (@mem_sorted_leader (leaderAddr text) _ a).mpr ha
      rw [hempty] at hmem
      cases hmem
    refine ⟨text, members, [], ⟨⟨_, _, _, hleader⟩, ⟨_, _, _, hmembers⟩, .inl hnone⟩, ?_⟩
    cases hret
    rw [hnone]
    rfl
  · obtain ⟨r, t₃, w₅, w₆, rfl, -, hinstances, h⟩ := Exec.call_ret_inv h
    obtain ⟨reservations, rfl, h⟩ := raise_bind_ret_inv h
    obtain ⟨-, hret⟩ := Exec.ret_inv h
    cases hret
    exact ⟨text, members, reservations,
      ⟨⟨_, _, _, hleader⟩, ⟨_, _, _, hmembers⟩, .inr ⟨_, _, _, hinstances⟩⟩, rfl⟩

theorem nodesHandler_ret_inv {event out : Json}
    (h : Exec K (nodesHandler event) w calls (.ret out) w') :
    ∃ text members reservations, Told K text members reservations ∧
      out = instanceListJson
        (answerNodes (leaderAddr text) (addrsOf members) reservations) := by
  let caught (host : String) : Py (List Node) := (nodesOf host).tryCatch fun e =>
    Prog.throw (failure ("Get Consul Nodes Failed: " ++ Py.strExc e))
  rw [nodesHandler] at h
  obtain ⟨host, t₁, t₂, w₁, -, -, h₁⟩ := Exec.bind_ret_inv h
  have hssl : Exec K (ask .sslContext >>= fun r => raise r >>= fun _ => caught host >>= fun nodes =>
    Prog.ret (instanceListJson nodes)) w₁ t₂ (.ret out) w' := h₁
  obtain ⟨r, t₃, w₂, w₃, -, -, -, h₂⟩ := Exec.call_ret_inv hssl
  obtain ⟨u, -, h₃⟩ := raise_bind_ret_inv h₂
  obtain ⟨nodes, t₄, t₅, w₄, -, htry, h₄⟩ := Exec.bind_ret_inv h₃
  obtain ⟨-, hret⟩ := Exec.ret_inv h₄
  cases hret
  obtain ⟨text, members, reservations, htold, rfl⟩ := nodesOf_ret_inv (tryCatch_throw_ret_inv htry)
  exact ⟨text, members, reservations, htold, rfl⟩

end

-- ============================================================================
-- When the answer is whole
-- ============================================================================

theorem Node.json_injective : Function.Injective Node.json := by
  rintro ⟨ip, id⟩ ⟨ip', id'⟩ h
  simp only [Node.json, Json.obj.injEq, List.cons.injEq, Prod.mk.injEq, Json.str.injEq] at h
  rw [h.1.2, h.2.1.2]

theorem instanceListJson_injective {nodes nodes' : List Node}
    (h : instanceListJson nodes = instanceListJson nodes') : nodes = nodes' := by
  simp only [instanceListJson, Json.obj.injEq, List.cons.injEq, Prod.mk.injEq, Json.arr.injEq,
    true_and, and_true] at h
  exact List.map_injective_iff.mpr Node.json_injective h

/-- An invocation that returns has returned the whole control plane if and only
    if the addresses are separate: EC2 knows an instance of its own for every
    member, no address occurs twice, and the leader is a member. -/
theorem nodes_whole_iff (env : Replies) (event out : Json) (text : String) (members : List Member)
    (hleader : env.leader = .ok text) (hmembers : env.members = .ok members)
    (hout : ((nodesHandler event).run env.answer ()).1 = .ok out) :
    (∃ nodes, out = instanceListJson nodes ∧
        Whole (leaderAddr text) (addrsOf members) env.shown nodes) ↔
      Separate (leaderAddr text) (addrsOf members) env.shown := by
  let K : Setting Calls Unit := Setting.stateless fun op r => r = (env.answer () op).1
  have hanswer : ∀ w op, K.answers w op (env.answer w op).1 (env.answer w op).2 := fun _ _ => rfl
  obtain ⟨calls, hexec⟩ := Exec.of_run hanswer (nodesHandler event) ()
  rw [hout] at hexec
  obtain ⟨text', members', reservations, htold, rfl⟩ := nodesHandler_ret_inv hexec
  obtain ⟨_, _, _, htext⟩ := htold.toldLeader
  obtain ⟨_, _, _, hms⟩ := htold.toldMembers
  have htext' : Except.ok text' = env.leader := htext
  have hms' : Except.ok members' = env.members := hms
  rw [hleader, Except.ok.injEq] at htext'
  rw [hmembers, Except.ok.injEq] at hms'
  subst htext' hms'
  have hsame : answerNodes (leaderAddr text') (addrsOf members') reservations =
      answerNodes (leaderAddr text') (addrsOf members') env.shown := by
    rcases htold.toldInstances with hnone | ⟨_, _, _, hinstances⟩
    · rw [hnone, answerNodes_eq, answerNodes_eq, sorted_leader]
      rfl
    · have hshown : Except.ok reservations = env.reservations := hinstances
      rw [Replies.shown, ← hshown]
  rw [hsame]
  constructor
  · rintro ⟨nodes, hnodes, hwhole⟩
    rw [← instanceListJson_injective hnodes] at hwhole
    exact separate_of_whole hwhole
  · exact fun h => ⟨_, rfl, whole_of_separate h⟩

/-- Three servers, the first of them the leader, and what EC2 shows. -/
def threeServers (shown : List Instance) : Replies where
  environment := some "integration"
  sslContext := .ok ()
  leader := .ok "\"10.0.0.1:8300\""
  members := .ok [⟨some "10.0.0.1"⟩, ⟨some "10.0.0.3"⟩, ⟨some "10.0.0.2"⟩]
  reservations := .ok [⟨shown⟩]

/-- An instance with one interface. -/
def instanceAt (ip instanceId : String) : Instance :=
  { instanceId, networkInterfaces := some [⟨some ip⟩] }

theorem leaderAddr_port : leaderAddr "\"10.0.0.1:8300\"" = "10.0.0.1" := by decide +kernel

theorem run_call_eq {W α : Type} {answer : W → (op : Op) → op.Reply × W} {w w' : W} {op : Op}
    {r : op.Reply} {next : op.Reply → Py α} (h : answer w op = (r, w')) :
    Prog.run (S := Calls) answer (.call op next) w = Prog.run (S := Calls) answer (next r) w' := by
  rw [Prog.run_call, h]

/-- A run in which every call is answered, and EC2 is asked. -/
theorem run_nodesHandler {W : Type} {answer : W → (op : Op) → op.Reply × W} {w : W}
    {fields : Dict Json} {environment : Option String} {text : String} {members : List Member}
    {addrs ipList : List String} {reservations : List Reservation}
    (henvironment : answer w (.getenv "environment") = (environment, w))
    (hssl : answer w .sslContext = (.ok (), w))
    (hleader : ∀ host, answer w (.statusLeader host) = (.ok text, w))
    (hmembers : ∀ host, answer w (.agentMembers host) = (.ok members, w))
    (haddrs : members.mapM (fun m => getKey "Addr" m.addr) = .ok addrs)
    (hsorted : sorted (fun a => decide (a = leaderAddr text)) addrs = ipList) (hne : ipList ≠ [])
    (hreservations : answer w (.describeInstances ipList) = (.ok reservations, w)) :
    (nodesHandler (.obj fields)).run answer w =
      (.ok (instanceListJson (instanceList ipList (buildInstanceMap ipList reservations))), w) := by
  let rest (ips : List String) : Py (List Node) :=
    if ips.isEmpty then Prog.ret (instanceList ips [])
    else ask (.describeInstances ips) >>= fun r => raise r >>= fun reservations =>
      Prog.ret (instanceList ips (buildInstanceMap ips reservations))
  have hrest : (rest ipList).run answer w =
      (.ok (instanceList ipList (buildInstanceMap ipList reservations)), w) := by
    have hcons : ipList.isEmpty = false := by
      cases ipList with
      | nil => exact absurd rfl hne
      | cons _ _ => rfl
    have hask : rest ipList = ask (.describeInstances ipList) >>= fun r => raise r >>=
        fun reservations => Prog.ret (instanceList ipList (buildInstanceMap ipList reservations)) := by
      simp only [rest, hcons]
      rfl
    rw [hask]
    exact run_call_eq hreservations
  have hnodes : ∀ host, (nodesOf host).run answer w =
      (.ok (instanceList ipList (buildInstanceMap ipList reservations)), w) := by
    intro host
    refine (run_call_eq (hleader host)).trans ((run_call_eq (hmembers host)).trans ?_)
    have hlist : (raise (members.mapM fun m => getKey "Addr" m.addr) >>= fun addrs =>
        rest (sorted (fun a => decide (a = leaderAddr text)) addrs)) = rest ipList := by
      rw [haddrs, raise_ok, Prog.ret_bind, hsorted]
    exact (congrArg (fun p => Prog.run answer p w) hlist).trans hrest
  refine (run_call_eq henvironment).trans ((run_call_eq hssl).trans ?_)
  have hend : ∀ (p : Py (List Node)) (g : PyExc → Py (List Node)) nodes,
      p.run answer w = (.ok nodes, w) →
      (p.tryCatch g >>= fun nodes => Prog.ret (instanceListJson nodes)).run answer w =
        (.ok (instanceListJson nodes), w) := by
    intro p g nodes hp
    rw [Prog.run_bind, Prog.run_tryCatch, hp]
    rfl
  exact hend _ _ _ (hnodes _)

/-- The leader is moved to the end. -/
theorem run_threeServers (shown : List Instance) :
    (nodesHandler (.obj [])).run (threeServers shown).answer () =
      (.ok (instanceListJson (instanceList ["10.0.0.3", "10.0.0.2", "10.0.0.1"]
        (buildInstanceMap ["10.0.0.3", "10.0.0.2", "10.0.0.1"] [⟨shown⟩]))), ()) := by
  have hsorted : sorted (fun a => decide (a = leaderAddr "\"10.0.0.1:8300\""))
      ["10.0.0.1", "10.0.0.3", "10.0.0.2"] = ["10.0.0.3", "10.0.0.2", "10.0.0.1"] := by
    rw [leaderAddr_port, sorted_leader]
    decide
  exact run_nodesHandler rfl rfl (fun _ => rfl) (fun _ => rfl) rfl hsorted (by decide) rfl

/-- EC2 shows all three. -/
theorem nodes_whole_three : ∃ nodes,
    instanceListJson [⟨"10.0.0.3", "i-3"⟩, ⟨"10.0.0.2", "i-2"⟩, ⟨"10.0.0.1", "i-1"⟩] =
      instanceListJson nodes ∧
    Whole "10.0.0.1" ["10.0.0.1", "10.0.0.3", "10.0.0.2"] [⟨[instanceAt "10.0.0.1" "i-1",
      instanceAt "10.0.0.2" "i-2", instanceAt "10.0.0.3" "i-3"]⟩] nodes := by
  have hiff := nodes_whole_iff (threeServers [instanceAt "10.0.0.1" "i-1",
    instanceAt "10.0.0.2" "i-2", instanceAt "10.0.0.3" "i-3"]) (.obj []) _ _ _ rfl rfl
    (congrArg Prod.fst (run_threeServers _))
  rw [leaderAddr_port] at hiff
  apply hiff.mpr
  have hknown : ∀ addr ∈ ["10.0.0.1", "10.0.0.3", "10.0.0.2"], (lastOwner [⟨[instanceAt
      "10.0.0.1" "i-1", instanceAt "10.0.0.2" "i-2", instanceAt "10.0.0.3" "i-3"]⟩] addr).isSome := by
    decide
  exact ⟨fun addr haddr => Option.isSome_iff_exists.mp (hknown addr haddr), by decide, by decide,
    by decide⟩

/-- EC2 no longer shows 10.0.0.2, which is dropped without an error. -/
theorem nodes_drop_unknown : ∃ out,
    ((nodesHandler (.obj [])).run (threeServers [instanceAt "10.0.0.1" "i-1",
      instanceAt "10.0.0.3" "i-3"]).answer ()).1 = .ok out ∧
    ¬ ∃ nodes, out = instanceListJson nodes ∧
      Whole (leaderAddr "\"10.0.0.1:8300\"") ["10.0.0.1", "10.0.0.3", "10.0.0.2"]
        [⟨[instanceAt "10.0.0.1" "i-1", instanceAt "10.0.0.3" "i-3"]⟩] nodes := by
  refine ⟨_, congrArg Prod.fst (run_threeServers _), ?_⟩
  rintro ⟨nodes, hnodes, hwhole⟩
  rw [← instanceListJson_injective hnodes] at hwhole
  obtain ⟨node, hnode, hip⟩ := hwhole.members "10.0.0.2" (by decide)
  revert hip
  exact (by decide : ∀ node ∈ instanceList ["10.0.0.3", "10.0.0.2", "10.0.0.1"] (buildInstanceMap
    ["10.0.0.3", "10.0.0.2", "10.0.0.1"] [⟨[instanceAt "10.0.0.1" "i-1",
      instanceAt "10.0.0.3" "i-3"]⟩]), node.ip ≠ "10.0.0.2") node hnode

end AutoRecycle.Consul
