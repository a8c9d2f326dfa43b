/-
  AutoRecycle.Consul.Certificate

  The class CaCertificate of check_consul_health/main.py and get_consul_nodes/main.py
  (the two are the same text).  What they log is left out.

  The object is a variable of the module: it lives as long as the process, over
  all the invocations that the process serves.  Its attribute `_cert_path` is
  read and written by calls of its own, and the world remembers it (`kept`).
-/
import AutoRecycle.Consul.Lambdas
import AutoRecycle.Data.Split
import AutoRecycle.Effect.Expand

namespace AutoRecycle.Consul

open AutoRecycle.Asl AutoRecycle.Data AutoRecycle.Effect

namespace Certificate

-- ============================================================================
-- The calls
-- ============================================================================

inductive Op where
  /-- `self._cert_path` -/
  | getCertPath
  /-- `self._cert_path = path` -/
  | setCertPath (path : String)
  /-- `get_parameter`, with the client: the value of the parameter. -/
  | getParameter (name : String)
  /-- `NamedTemporaryFile(mode="w", delete=False, suffix=".pem")`: the name of the file. -/
  | namedTemporaryFile
  | write (path content : String)
  | close (path : String)
  | createDefaultContext
  | loadVerifyLocations (cafile : String)
  /-- The other calls of the handlers. -/
  | consul (op : Consul.Op)

def Op.Reply : Op → Type
  | getCertPath => Option String
  | setCertPath _ => Unit
  | getParameter _ => Except PyExc String
  | namedTemporaryFile => Except PyExc String
  | write .. => Except PyExc Unit
  | close _ => Except PyExc Unit
  | createDefaultContext => Except PyExc Unit
  | loadVerifyLocations _ => Except PyExc Unit
  | consul op => op.Reply

abbrev Calls : Signature where
  Op := Op
  Reply := Op.Reply
  Exc := PyExc

abbrev Py : Type → Type := Prog Calls

def ask (op : Op) : Py op.Reply := @Prog.perform Calls op

def raise {α : Type} (r : Except PyExc α) : Py α := @Prog.ofExcept Calls α r

-- ============================================================================
-- CaCertificate
-- ============================================================================

/-- The truth value of `cert_parameter_arn`. -/
def isConfigured (certParameterArn : Option String) : Bool := certParameterArn.getD "" ≠ ""

/-- The body of the `with` block. -/
def writeCert (path content : String) : Py Unit := do
  let _ : Unit ← raise (← ask (.write path content))
  ask (.setCertPath path)

/-- The `with` block closes the file; what `close` raises takes the place of what
    the body has raised. -/
def withFile (path : String) (body : Py Unit) : Py Unit := do
  let result ← body.attempt
  let _ : Unit ← raise (← ask (.close path))
  raise result

def retrieveCert (certParameterArn : Option String) : Py Unit :=
  match certParameterArn with
  | none => return ()
  | some arn =>
      if arn = "" then return ()
      else do
        let certContent : String ← raise (← ask (.getParameter arn))
        let path : String ← raise (← ask .namedTemporaryFile)
        withFile path (writeCert path certContent)

def certPath (certParameterArn : Option String) : Py (Option String) := do
  let path : Option String ← ask .getCertPath
  if path.isNone && isConfigured certParameterArn then retrieveCert certParameterArn
  ask .getCertPath

/-- `load_verify_locations(path)`; without a path it raises. -/
def loadCert : Option String → Py Unit
  | some path => do raise (← ask (.loadVerifyLocations path))
  | none => raise (.error { cls := .typeError })

def getSslContext (certParameterArn : Option String) : Py Unit := do
  let _ : Unit ← raise (← ask .createDefaultContext)
  let path ← certPath certParameterArn
  if path.getD "" ≠ "" then loadCert (← certPath certParameterArn)

/-- The calls of a handler, with the code of `get_ssl_context`. -/
def implement (certParameterArn : Option String) : (op : Consul.Op) → Py op.Reply
  | .sslContext => (getSslContext certParameterArn).attempt
  | op => ask (.consul op)

-- ============================================================================
-- The process
-- ============================================================================

/-- The path that a call writes to the attribute `_cert_path`. -/
def written? : Event Calls → Option String
  | ⟨Op.setCertPath path, _⟩ => some path
  | _ => none

/-- The attribute, after the calls of the process so far. -/
def kept (calls : Trace Calls) : Option String := Trace.last? written? calls

/-- The attribute has the value that was last written, and a file has a name. -/
def Legal (calls : Trace Calls) : (op : Op) → op.Reply → Prop
  | .getCertPath, path => path = kept calls
  | .namedTemporaryFile, r => ∀ path, r = .ok path → path ≠ ""
  | _, _ => True

/-- One process, by the calls that it has made. -/
def process : Setting Calls (Trace Calls) :=
  .alone fun calls op r calls' => Legal calls op r ∧ calls' = calls ++ [⟨op, r⟩]

/-- What the process has to have done before a call. -/
def Allowed (certParameterArn : Option String) (calls : Trace Calls) : Op → Prop
  /- The parameter is asked for under the configured name, and not once a path is kept. -/
  | .getParameter name => certParameterArn = some name ∧ name ≠ "" ∧ kept calls = none
  /- A path is kept once, and right after its new file has taken the value of the parameter. -/
  | .setCertPath path => path ≠ "" ∧ kept calls = none ∧ ∃ before name content,
      certParameterArn = some name ∧ calls = before ++ [⟨.getParameter name, .ok content⟩,
        ⟨.namedTemporaryFile, .ok path⟩, ⟨.write path content, .ok ()⟩]
  /- No other file is loaded. -/
  | .loadVerifyLocations path => kept calls = some path
  | _ => True

/-- A path that is kept is a name. -/
def Named (calls : Trace Calls) : Prop := ∀ path, kept calls = some path → path ≠ ""

def Kept (calls : Trace Calls) : Prop := ∃ path, kept calls = some path ∧ path ≠ ""

/-- The last call has loaded the certificate. -/
def Loaded (calls : Trace Calls) : Prop :=
  ∃ before path, calls = before ++ [⟨.loadVerifyLocations path, .ok ()⟩] ∧ kept calls = some path

section
variable {α β : Type} {ok : Trace Calls → Op → Prop} {Q : α → Trace Calls → Prop}
  {E : PyExc → Trace Calls → Prop} {calls : Trace Calls} {certParameterArn : Option String} {path : String}

@[simp] theorem kept_snoc (calls : Trace Calls) (ev : Event Calls) :
    kept (calls ++ [ev]) = (written? ev).or (kept calls) :=
  Trace.last?_snoc _ _ _

@[simp] theorem wp_ret (a : α) : (Prog.ret a : Py α).wp process ok Q E calls ↔ Q a calls :=
  ⟨fun h => h calls rfl, fun h _ hr => hr ▸ h⟩

@[simp] theorem wp_throw (e : PyExc) : (Prog.throw e : Py α).wp process ok Q E calls ↔ E e calls :=
  ⟨fun h => h calls rfl, fun h _ hr => hr ▸ h⟩

@[simp] theorem wp_ask (op : Op) (f : op.Reply → Py α) : (ask op >>= f).wp process ok Q E calls ↔
    ok calls op ∧ ∀ r, Legal calls op r → (f r).wp process ok Q E (calls ++ [⟨op, r⟩]) := by
  constructor
  · intro h
    exact ⟨(h calls rfl).1, fun r hr => (h calls rfl).2 r _ ⟨hr, rfl⟩⟩
  · rintro ⟨hok, hnext⟩ _ ⟨rfl⟩
    refine ⟨hok, fun r _ ha => ?_⟩
    obtain ⟨hr, rfl⟩ := ha
    exact hnext r hr

/-- A reply that is raised. -/
theorem wp_raise_bind {r : Except PyExc β} {f : β → Py α} (h : ∀ b, r = .ok b → (f b).wp process ok Q E calls)
    (he : ∀ e, r = .error e → E e calls) : (raise r >>= f).wp process ok Q E calls := by
  cases r with
  | ok b => exact h b rfl
  | error e => exact (wp_throw e).mpr (he e rfl)

theorem Named.snoc {ev : Event Calls} (h : Named calls) (hev : written? ev = none) : Named (calls ++ [ev]) := by
  intro path hpath
  rw [kept_snoc, hev, Option.none_or] at hpath
  exact h path hpath

theorem named_of_none (h : kept calls = none) : Named calls := by
  intro path hpath
  cases h.symm.trans hpath

theorem Kept.named (h : Kept calls) : Named calls := by
  obtain ⟨path, hpath, hne⟩ := h
  intro path' hpath'
  cases hpath.symm.trans hpath'
  exact hne

theorem Kept.snoc {ev : Event Calls} (h : Kept calls) (hev : written? ev = none) : Kept (calls ++ [ev]) := by
  obtain ⟨path, hpath, hne⟩ := h
  exact ⟨path, by rw [kept_snoc, hev, hpath]; rfl, hne⟩

/-- Closing the file changes nothing, whether it raises or not. -/
theorem wp_withFile {body : Py Unit}
    (h : body.wp process (Allowed certParameterArn) (fun _ => Kept) (fun _ => Named) calls) :
    (withFile path body).wp process (Allowed certParameterArn) (fun _ => Kept) (fun _ => Named) calls := by
  refine (Prog.wp_bind _).mpr (Prog.wp_attempt.mpr (Prog.wp_mono ?_ ?_ h))
  · intro _ calls' hkept
    refine (wp_ask _ _).mpr ⟨trivial, fun r _ => wp_raise_bind (fun _ _ => ?_) fun _ _ => ?_⟩
    · exact (wp_ret _).mpr (hkept.snoc rfl)
    · exact (hkept.snoc rfl).named
  · intro e calls' hnamed
    refine (wp_ask _ _).mpr ⟨trivial, fun r _ => wp_raise_bind (fun _ _ => ?_) fun _ _ => ?_⟩
    · exact (wp_throw _).mpr (hnamed.snoc rfl)
    · exact hnamed.snoc rfl

/-- Without a path the parameter is asked for, and its value is written to a new file. -/
theorem wp_retrieveCert (hconfigured : isConfigured certParameterArn = true) (hkept : kept calls = none) :
    (retrieveCert certParameterArn).wp process (Allowed certParameterArn) (fun _ => Kept) (fun _ => Named)
      calls := by
  cases certParameterArn with
  | none => cases hconfigured
  | some arn =>
      have harn : arn ≠ "" := by simpa [isConfigured] using hconfigured
      rw [retrieveCert, if_neg harn, wp_ask]
      refine ⟨⟨rfl, harn, hkept⟩, fun r _ => wp_raise_bind ?_ fun _ _ => (named_of_none hkept).snoc rfl⟩
      rintro content rfl
      have hasked : kept (calls ++ [⟨.getParameter arn, .ok content⟩]) = none := by
        rw [kept_snoc, hkept]
        rfl
      rw [wp_ask]
      refine ⟨trivial, fun r hnew => wp_raise_bind ?_ fun _ _ => (named_of_none hasked).snoc rfl⟩
      rintro path rfl
      have hopened : kept (calls ++ [⟨.getParameter arn, .ok content⟩] ++ [⟨.namedTemporaryFile, .ok path⟩]) =
          none := by
        rw [kept_snoc, hasked]
        rfl
      refine wp_withFile ((wp_ask _ _).mpr ⟨trivial, fun r _ => ?_⟩)
      refine wp_raise_bind ?_ fun _ _ => (named_of_none hopened).snoc rfl
      rintro _ rfl
      have hwritten := kept_snoc (calls ++ [⟨.getParameter arn, .ok content⟩] ++ [⟨.namedTemporaryFile, .ok path⟩])
        ⟨.write path content, .ok ()⟩
      rw [hopened] at hwritten
      refine (wp_ask (.setCertPath path) Prog.ret).mpr
        ⟨⟨hnew path rfl, hwritten, calls, arn, content, rfl, by simp⟩, fun r _ => ?_⟩
      refine (wp_ret _).mpr ⟨path, ?_, hnew path rfl⟩
      rw [kept_snoc]
      rfl

/-- What is got is what is kept, and with a parameter that is configured it is a path. -/
theorem wp_certPath (h : Named calls) : (certPath certParameterArn).wp process (Allowed certParameterArn)
    (fun path calls' => path = kept calls' ∧ Named calls' ∧
      (isConfigured certParameterArn = true → Kept calls')) (fun _ => Named) calls := by
  -- the attribute is read again at the end
  have hreturns : ∀ {calls'}, Named calls' → (isConfigured certParameterArn = true → Kept calls') →
      (ask .getCertPath : Py (Option String)).wp process (Allowed certParameterArn)
        (fun path calls' => path = kept calls' ∧ Named calls' ∧
          (isConfigured certParameterArn = true → Kept calls')) (fun _ => Named) calls' := by
    intro calls' hnamed hkept
    refine (wp_ask .getCertPath Prog.ret).mpr ⟨trivial, ?_⟩
    rintro path ⟨⟩
    exact (wp_ret _).mpr ⟨by rw [kept_snoc]; rfl, hnamed.snoc rfl, fun hc => (hkept hc).snoc rfl⟩
  refine (wp_ask _ _).mpr ⟨trivial, ?_⟩
  rintro path ⟨⟩
  have hread : kept (calls ++ [⟨.getCertPath, kept calls⟩]) = kept calls := by
    rw [kept_snoc]
    rfl
  have hnamed : Named (calls ++ [⟨.getCertPath, kept calls⟩]) := h.snoc rfl
  split
  · rename_i hretrieve
    rw [Bool.and_eq_true, Option.isNone_iff_eq_none] at hretrieve
    refine (Prog.wp_bind _).mpr (Prog.wp_mono ?_ (fun _ _ => id)
      (wp_retrieveCert hretrieve.2 (hread.trans hretrieve.1)))
    exact fun _ calls' hkept => hreturns hkept.named fun _ => hkept
  · rename_i hretrieve
    refine hreturns hnamed fun hconfigured => ?_
    cases hpath : kept calls with
    | none => exact absurd (by simp [hpath, hconfigured]) hretrieve
    | some path =>
        rw [hpath] at hread
        exact ⟨path, hread, h path hpath⟩

theorem wp_loadCert (h : Named calls) : (loadCert (kept calls)).wp process (Allowed certParameterArn)
    (fun _ calls' => Named calls' ∧ (isConfigured certParameterArn = true → Loaded calls'))
    (fun _ => Named) calls := by
  cases hpath : kept calls with
  | none => exact (wp_throw _).mpr h
  | some path =>
      refine (wp_ask (.loadVerifyLocations path) raise).mpr ⟨hpath, fun r _ => ?_⟩
      cases r with
      | error e => exact (wp_throw e).mpr (h.snoc rfl)
      | ok u =>
          refine (wp_ret u).mpr ⟨h.snoc rfl, fun _ => ⟨calls, path, rfl, ?_⟩⟩
          rw [kept_snoc, hpath]
          rfl

/-- With a parameter that is configured no context comes back without the
    certificate. -/
theorem wp_getSslContext (h : Named calls) :
    (getSslContext certParameterArn).wp process (Allowed certParameterArn)
      (fun _ calls' => Named calls' ∧ (isConfigured certParameterArn = true → Loaded calls'))
      (fun _ => Named) calls := by
  refine (wp_ask _ _).mpr ⟨trivial, fun r _ => wp_raise_bind (fun _ _ => ?_) fun _ _ => h.snoc rfl⟩
  refine (Prog.wp_bind _).mpr (Prog.wp_mono ?_ (fun _ _ => id) (wp_certPath (h.snoc rfl)))
  rintro path calls' ⟨rfl, hnamed, hkept⟩
  split
  · refine (Prog.wp_bind _).mpr (Prog.wp_mono ?_ (fun _ _ => id) (wp_certPath hnamed))
    rintro path calls'' ⟨rfl, hnamed', -⟩
    exact wp_loadCert hnamed'
  · rename_i hempty
    refine (wp_ret _).mpr ⟨hnamed, fun hconfigured => ?_⟩
    obtain ⟨path, hpath, hne⟩ := hkept hconfigured
    exact absurd (by rwa [hpath]) hempty

theorem wp_implement (op : Consul.Op) (h : Named calls) :
    (implement certParameterArn op).wp process (Allowed certParameterArn) (fun _ => Named) (fun _ => Named)
      calls := by
  cases op with
  | sslContext =>
      refine Prog.wp_attempt.mpr (Prog.wp_mono ?_ (fun _ _ => id) (wp_getSslContext h))
      exact fun _ _ hget => hget.1
  | _ => exact (wp_ask _ Prog.ret).mpr ⟨trivial, fun r _ => (wp_ret r).mpr (h.snoc rfl)⟩

end

-- ============================================================================
-- The invocations
-- ============================================================================

/-- What one invocation of a handler does, with the code of `get_ssl_context`. -/
def invocation (certParameterArn : Option String) (handler : Json → Consul.Py Json) (event : Json) : Py Json :=
  @Prog.expand Consul.Calls Calls Json (implement certParameterArn) id (handler event)

/-- The calls of a process that has served any number of invocations. -/
inductive Warm (certParameterArn : Option String) (handler : Json → Consul.Py Json) : Trace Calls → Prop where
  | cold : Warm certParameterArn handler []
  | invocation {calls calls' event tr q} (h : Warm certParameterArn handler calls)
      (hx : Exec process (Certificate.invocation certParameterArn handler event) calls tr q calls')
      (hended : ∀ op next, q ≠ .call op next) : Warm certParameterArn handler calls'

/-- Each call was allowed where it was made. -/
def Orderly (certParameterArn : Option String) (calls : Trace Calls) : Prop :=
  ∀ before ev after, calls = before ++ ev :: after → Allowed certParameterArn before ev.1

section
variable {certParameterArn : Option String} {handler : Json → Consul.Py Json} {event : Json}
  {calls calls' tr : Trace Calls} {q : Py Json}

theorem process_calls {p q : Py α} (h : Exec process p calls tr q calls') : calls' = calls ++ tr := by
  induction h with
  | rest hr =>
      cases hr
      exact (List.append_nil _).symm
  | call hr ha _ ih =>
      cases hr
      rw [ih, ha.2, List.append_assoc, List.singleton_append]

theorem wp_invocation (h : Named calls) : (invocation certParameterArn handler event).wp process
    (Allowed certParameterArn) (fun _ => Named) (fun _ => Named) calls :=
  Prog.wp_expand (fun hnamed hr => hr ▸ hnamed) (fun op _ => wp_implement op) h

/-- What is allowed after the calls was allowed before some of them. -/
theorem Orderly.left {more : Trace Calls} (h : Orderly certParameterArn (calls ++ more)) :
    Orderly certParameterArn calls := by
  intro before ev after hcalls
  exact h before ev (after ++ more) (by rw [hcalls, List.append_assoc, List.cons_append])

theorem Orderly.named (h : Orderly certParameterArn calls) : Named calls := by
  induction calls using List.reverseRecOn with
  | nil => exact named_of_none rfl
  | append_singleton calls ev ih =>
      have hallowed := h calls ev [] rfl
      obtain ⟨op, r⟩ := ev
      cases op with
      | setCertPath path =>
          intro path' hpath
          rw [kept_snoc] at hpath
          cases hpath
          exact hallowed.1
      | _ => exact (ih h.left).snoc rfl

/-- The calls of an invocation are allowed. -/
theorem Orderly.invocation (horderly : Orderly certParameterArn calls)
    (h : Exec process (invocation certParameterArn handler event) calls tr q calls') :
    Orderly certParameterArn calls' := by
  intro before ev after hcalls
  rw [process_calls h] at hcalls
  rcases split_of_append hcalls with ⟨mid, hearlier, -⟩ | ⟨mid, rfl, htr⟩
  · exact horderly before ev mid hearlier
  · rw [htr] at h
    obtain ⟨w₁, w₂, next, hbefore, -, hallowed⟩ := h.ok_of_split (wp_invocation horderly.named)
    rwa [process_calls hbefore] at hallowed

theorem Warm.orderly (h : Warm certParameterArn handler calls) : Orderly certParameterArn calls := by
  induction h with
  | cold =>
      intro before ev after hcalls
      simp at hcalls
  | invocation _ hx _ ih => exact ih.invocation hx

/-- A path that is kept stays. -/
theorem Orderly.kept_append {more : Trace Calls} {path : String}
    (h : Orderly certParameterArn (calls ++ more)) (hkept : kept calls = some path) :
    kept (calls ++ more) = some path := by
  induction more using List.reverseRecOn with
  | nil => rwa [List.append_nil]
  | append_singleton more ev ih =>
      rw [← List.append_assoc] at h ⊢
      have hbefore : kept (calls ++ more) = some path := ih h.left
      have hev : written? ev = none := by
        have hallowed := h (calls ++ more) ev [] rfl
        obtain ⟨op, r⟩ := ev
        cases op with
        | setCertPath path' => cases hbefore.symm.trans hallowed.2.1
        | _ => rfl
      rw [kept_snoc, hev, hbefore]
      rfl

end

-- ============================================================================
-- The requests
-- ============================================================================

/-- A request to the HTTP interface of Consul. -/
def isRequest : Consul.Op → Bool
  | .statusLeader _ => true
  | .statusPeers _ => true
  | .agentMembers _ => true
  | _ => false

section
variable {W α : Type} {K : Setting Consul.Calls W} {w w' : W} {tr : Trace Consul.Calls} {event : Json}
  {op : Consul.Op} {next : op.Reply → Consul.Py α}

theorem issues_getConsulHost (hop : isRequest op = true) : (getConsulHost event).Issues (· ≠ op) := by
  refine ⟨?_, fun _ => (Prog.issues_ofExcept_bind _ _).mpr fun _ _ => trivial⟩
  rintro rfl
  cases hop

/-- A request that comes after the call of `get_ssl_context` has its context. -/
theorem context_of_request {f : Unit → Consul.Py α}
    (h : Exec K (Consul.ask .sslContext >>= fun (r : Except PyExc Unit) => Consul.raise r >>= f) w tr
      (.call op next) w') (hop : isRequest op = true) : ⟨.sslContext, .ok ()⟩ ∈ tr := by
  have hother : Consul.Op.sslContext ≠ op := by
    rintro rfl
    cases hop
  obtain ⟨r, tr', w₁, w₂, rfl, -, -, h₁⟩ := Exec.call_call_inv h hother
  obtain ⟨u, rfl, -⟩ := Exec.ofExcept_bind_call_inv h₁
  exact List.mem_cons_self

theorem context_before_request {handler : Json → Consul.Py Json} {next : op.Reply → Consul.Py Json}
    (hhandler : handler = checkHandler ∨ handler = nodesHandler)
    (h : Exec K (handler event) w tr (.call op next) w') (hop : isRequest op = true) :
    ⟨.sslContext, .ok ()⟩ ∈ tr := by
  rcases hhandler with rfl | rfl
  · obtain ⟨host, t₁, t₂, w₁, rfl, -, h₁⟩ := Exec.bind_call_inv h (issues_getConsulHost hop)
    obtain ⟨expectedPeers, -, h₂⟩ := Exec.ofExcept_bind_call_inv h₁
    exact List.mem_append_right _ (context_of_request h₂ hop)
  · obtain ⟨host, t₁, t₂, w₁, rfl, -, h₁⟩ := Exec.bind_call_inv h (issues_getConsulHost hop)
    exact List.mem_append_right _ (context_of_request h₁ hop)

end

section
variable {α β : Type} {certParameterArn : Option String} {handler : Json → Consul.Py Json} {event : Json}
  {calls calls' tr : Trace Calls}

/-- A call that is not one of the handlers. -/
def isOwn : Op → Prop
  | .consul _ => False
  | _ => True

theorem issues_ask {op : Op} (h : isOwn op) : (ask op).Issues isOwn := ⟨h, fun _ => trivial⟩

theorem issues_ask_bind {op : Op} {f : op.Reply → Py α} (h : isOwn op) (hf : ∀ r, (f r).Issues isOwn) :
    (ask op >>= f).Issues isOwn :=
  ⟨h, hf⟩

theorem issues_raise (r : Except PyExc α) : (raise r).Issues isOwn := by
  cases r <;> trivial

theorem issues_raise_bind {r : Except PyExc α} {f : α → Py β} (hf : ∀ a, (f a).Issues isOwn) :
    (raise r >>= f).Issues isOwn :=
  Prog.Issues.bind (issues_raise r) hf

theorem issues_withFile (path : String) {body : Py Unit} (h : body.Issues isOwn) :
    (withFile path body).Issues isOwn := by
  refine Prog.Issues.bind h.attempt fun result => issues_ask_bind trivial fun r => issues_raise_bind fun _ => ?_
  exact issues_raise result

theorem issues_retrieveCert : (retrieveCert certParameterArn).Issues isOwn := by
  cases certParameterArn with
  | none => trivial
  | some arn =>
      rw [retrieveCert]
      split
      · trivial
      · refine issues_ask_bind trivial fun r => issues_raise_bind fun content => ?_
        refine issues_ask_bind trivial fun r => issues_raise_bind fun path => issues_withFile path ?_
        exact issues_ask_bind trivial fun r => issues_raise_bind fun _ => issues_ask trivial

theorem issues_certPath : (certPath certParameterArn).Issues isOwn := by
  refine issues_ask_bind trivial fun path => ?_
  split
  · exact issues_retrieveCert.bind fun _ => issues_ask trivial
  · exact issues_ask trivial

theorem issues_loadCert (path : Option String) : (loadCert path).Issues isOwn := by
  cases path with
  | none => trivial
  | some path => exact issues_ask_bind trivial fun r => issues_raise r

theorem issues_getSslContext : (getSslContext certParameterArn).Issues isOwn := by
  refine issues_ask_bind trivial fun r => issues_raise_bind fun _ => issues_certPath.bind fun path => ?_
  split
  · exact issues_certPath.bind issues_loadCert
  · trivial

/-- A request of an invocation is one of its handler. -/
theorem request_of_implement {op op' : Consul.Op} {next : op'.Reply → Py op.Reply}
    (h : Exec process (implement certParameterArn op) calls tr (.call (.consul op') next) calls') : op' = op := by
  have hask : ∀ {op'' : Consul.Op} {next : op'.Reply → Py op''.Reply},
      Exec process (ask (.consul op'')) calls tr (.call (.consul op') next) calls' → op' = op'' := by
    intro op'' next hx
    have hone : (ask (.consul op'')).Issues (· = Op.consul op'') := ⟨rfl, fun _ => trivial⟩
    exact Op.consul.inj (hx.issues hone).2.1
  cases op with
  | sslContext => exact (h.issues issues_getSslContext.attempt).2.1.elim
  | _ => exact hask h

/-- A context that has come back has loaded the file that is kept. -/
theorem load_of_getSslContext {u : Unit} (hconfigured : isConfigured certParameterArn = true)
    (hnamed : Named calls) (h : Exec process (getSslContext certParameterArn) calls tr (.ret u) calls') :
    ∃ path, kept calls' = some path ∧ ⟨.loadVerifyLocations path, .ok ()⟩ ∈ tr := by
  obtain ⟨before, path, hloaded, hkept⟩ := (h.ret_post (wp_getSslContext hnamed)).2 hconfigured
  refine ⟨path, hkept, ?_⟩
  have hcalls : calls ++ tr = before ++ [⟨.loadVerifyLocations path, .ok ()⟩] := (process_calls h).symm.trans hloaded
  -- the context is created by the first call, so that there is a last one
  obtain ⟨r, tr', w₁, w₂, rfl, -, -, -⟩ := Exec.call_ret_inv h
  rcases split_of_append hcalls with ⟨mid, -, hnil⟩ | ⟨mid, -, htr⟩
  · simp at hnil
  · rw [htr]
    exact List.mem_append_right _ List.mem_cons_self

/-- In every invocation of a process that serves any number of them, in any order of
    successes and failures of the calls: the parameter is asked for only under the
    configured name and only as long as no path is kept; a path is kept once, when
    its new file has taken the value of the parameter, and no other file is ever
    loaded; and with a parameter that is configured no request goes to Consul before
    this invocation has loaded that file. -/
theorem requests_verified (hhandler : handler = checkHandler ∨ handler = nodesHandler)
    (hwarm : Warm certParameterArn handler calls) {q : Py Json}
    (h : Exec process (invocation certParameterArn handler event) calls tr q calls') :
    Orderly certParameterArn calls' ∧
      (isConfigured certParameterArn = true → ∀ op next, q = .call (.consul op) next → isRequest op = true →
        ∃ path, kept calls' = some path ∧ ⟨.loadVerifyLocations path, .ok ()⟩ ∈ tr) := by
  have horderly : Orderly certParameterArn calls' := hwarm.orderly.invocation h
  refine ⟨horderly, ?_⟩
  rintro hconfigured op next rfl hop
  obtain ⟨calls₀, op₀, next₀, w₃, t₃, next', hrefined, hin⟩ := Exec.expand_call_inv h
  obtain rfl := request_of_implement hin
  -- the handler has called `get_ssl_context` before, at `w₁`, and it has come back at `w₂`
  obtain ⟨c₁, c₂, rfl⟩ := List.append_of_mem (context_before_request hhandler hrefined hop)
  obtain ⟨s, w₁, hbefore, hrest⟩ := hrefined.split
  cases hrest with
  | @call _ next₁ _ _ _ w₂ _ _ _ hr ha hafter =>
      cases hr
      obtain ⟨t, ht⟩ := ha
      obtain ⟨t₁, h₁⟩ := Exec.of_refined (S := Consul.Calls) (K := process) id hbefore
      obtain ⟨t₂, h₂⟩ := Exec.of_refined (S := Consul.Calls) (K := process) id hafter
      have hw₁ : w₁ = calls ++ t₁ := process_calls h₁
      have hw₂ : w₂ = w₁ ++ t := process_calls ht
      have hcalls' : calls' = w₂ ++ (t₂ ++ t₃) := by
        rw [process_calls hin, process_calls h₂, List.append_assoc]
      rw [hcalls'] at horderly ⊢
      have hnamed : Named w₁ := by
        rw [hw₂] at horderly
        exact horderly.left.left.named
      obtain ⟨path, hkept, hload⟩ := load_of_getSslContext hconfigured hnamed ht.attempt_ret_inv
      refine ⟨path, horderly.kept_append hkept, ?_⟩
      have htr : tr = t₁ ++ (t ++ (t₂ ++ t₃)) := by
        have hall : calls ++ tr = calls ++ (t₁ ++ (t ++ (t₂ ++ t₃))) := by
          rw [← process_calls h, hcalls', hw₂, hw₁, List.append_assoc, List.append_assoc]
        exact List.append_cancel_left hall
      rw [htr]
      exact List.mem_append_right _ (List.mem_append_left _ hload)

end

/-- The parameter store is throttled once, and then it answers. -/
def throttledAnswer (calls : Trace Calls) (op : Op) : Option (op.Reply × Trace Calls) :=
  let reply : Option op.Reply := match op with
    | .getCertPath => some (kept calls)
    | .setCertPath _ => some ()
    | .getParameter _ => some (if calls.any fun ev => ev.1 matches .getParameter _ then .ok "certificate"
        else .error (failure "throttled"))
    | .namedTemporaryFile => some (.ok "/tmp/ca.pem")
    | .write .. => some (.ok ())
    | .close _ => some (.ok ())
    | .createDefaultContext => some (.ok ())
    | .loadVerifyLocations _ => some (.ok ())
    | .consul (.getenv _) => some (some "integration")
    | .consul _ => none
  reply.map fun r => (r, calls ++ [⟨op, r⟩])

theorem throttledAnswer_answers (calls : Trace Calls) (op : Op) (r : op.Reply) (calls' : Trace Calls)
    (h : throttledAnswer calls op = some (r, calls')) : process.answers calls op r calls' := by
  obtain ⟨r', hr, heq⟩ := Option.map_eq_some_iff.mp h
  cases heq
  refine ⟨?_, rfl⟩
  cases op with
  | getCertPath => exact (Option.some.inj hr).symm
  | namedTemporaryFile =>
      cases hr
      rintro path ⟨⟩
      decide
  | _ => trivial

/-- One invocation of the health check, up to its first request. -/
def throttledWalk (calls : Trace Calls) : Trace Calls × Py Json × Trace Calls :=
  (invocation (some "ca") checkHandler (.obj [])).walk throttledAnswer calls

theorem throttledWalk_exec (calls : Trace Calls) : Exec process (invocation (some "ca") checkHandler (.obj []))
    calls (throttledWalk calls).1 (throttledWalk calls).2.1 (throttledWalk calls).2.2 :=
  Prog.walk_exec process throttledAnswer throttledAnswer_answers _ calls

def isAtRequest : Py Json → Bool
  | .call (.consul op) _ => isRequest op
  | _ => false

theorem requests_verified_throttled :
    ∃ path, kept (throttledWalk (throttledWalk []).2.2).2.2 = some path ∧
      ⟨.loadVerifyLocations path, .ok ()⟩ ∈ (throttledWalk (throttledWalk []).2.2).1 := by
  have hended : (throttledWalk []).2.1.thrown?.isSome = true := by decide +kernel
  have hrequest : isAtRequest (throttledWalk (throttledWalk []).2.2).2.1 = true := by decide +kernel
  have hfirst := throttledWalk_exec []
  have hsecond := throttledWalk_exec (throttledWalk []).2.2
  generalize (throttledWalk (throttledWalk []).2.2) = second at hsecond hrequest ⊢
  generalize (throttledWalk []).2.1 = q at hended hfirst
  have hwarm := Warm.invocation .cold hfirst fun op next hq => by
    rw [hq] at hended
    cases hended
  obtain ⟨-, hverified⟩ := requests_verified (.inl rfl) hwarm hsecond
  generalize second.2.1 = q₂ at hrequest hverified
  match q₂, hrequest with
  | .call (.consul op) next, hop => exact hverified (by decide) op next rfl hop

end Certificate

end AutoRecycle.Consul
