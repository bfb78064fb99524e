import InterClusterFabric.ModelCanonical
import InterClusterFabric.RuntimeCoordinator

/-! The agent of a cluster: what it does with the requests of the coordinator, and when it enforces a
grant. -/
namespace InterClusterFabric.RuntimeAgent
open CoreStatus CoreIds CoreTime CoreHash ModelRecords ModelCanonical ModelRegistry StoreMutation StoreDurable
open WireMessages RuntimeFencing LibraryChecked LibraryOrdMap LibraryProgram
open RuntimeCoordinator (Moment virtualConnection)

structure Config where
  cluster : ClusterId
  domain : AuthorityDomainId := .empty
  generation : Generation := ⟨0⟩
  policyGeneration : PolicyGeneration := ⟨1⟩
  state : ClusterState := .active
  endpoints : List EndpointRecord := []
  stateDirectory : Bytes := []
  channelKey : Bytes := []
  compactBytes : ℕ := 2097152
  compactRecords : ℕ := 8192
  requireCoordinator : Bool := true

/-- The process, and what it sees and touches of the outside, as in the coordinator. -/
structure Agent where
  config : Config
  store : DurableStore := {}
  recovery : Recovery := {}
  registry : Registry := {}
  term : Term := ⟨0⟩
  incarnation : IncarnationId := ⟨0⟩
  generation : Generation := ⟨0⟩
  policyGeneration : PolicyGeneration := ⟨0⟩
  clusterState : ClusterState := .unknown
  consentWithdrawn : Bool := false
  startedAt : Timestamp := ⟨0⟩
  coordinatorConnection : ℕ := 0
  coordinatorSession : SessionToken := ⟨0⟩
  coordinatorTerm : Term := ⟨0⟩
  coordinatorConnected : Bool := false
  connectScheduled : Bool := false
  enforced : UInt64 := 0
  fences : UInt64 := 0
  refusals : UInt64 := 0
  rejectedFrames : UInt64 := 0
  errorsReceived : UInt64 := 0
  recoveredGrantsFenced : UInt64 := 0
  moments : ℕ → Moment
  index : ℕ := 0
  files : Files := {}
  outbox : List Inbound := []
  controlOutbox : List (ℕ × Outbound) := []

abbrev AgentOp := Program Agent Status

def Agent.cluster (a : Agent) : ClusterId := a.config.cluster

/-! The environment. -/

def moment : AgentOp Moment := modifyGet fun a => (a.moments a.index, { a with index := a.index + 1 })

def now : AgentOp Timestamp := return (← moment).now

def appendMutation (mutation : Mutation) : AgentOp Unit := do
  let moment ← moment
  fun a =>
    let written := a.store.append a.files mutation moment.now moment.append
    (written.result.map fun _ => (), { a with store := written.store, files := written.files })

def appendAudit (action : String) (subject : Bytes) (outcome : Outcome) (detail : Bytes) : AgentOp Unit := do
  let a ← get
  if Limits.maxAuditRecords ≤ a.registry.audit.length then pure ()
  else
    let now ← now
    Program.focus Agent.registry (fun a registry => { a with registry })
      (RuntimeFencing.appendAudit now a.cluster.value (ascii action) subject outcome detail)
    Program.forEach (← get).registry.audit.getLast?.toList fun record => appendMutation (.auditAppend record)

/-- To the coordinator, while there is a connection to it. -/
def sendMessage (message : Inbound) : AgentOp Unit := do
  if (← get).coordinatorConnection = virtualConnection then
    throw (Status.make .unreachable (ascii "the coordinator connection is not established"))
  else
    match (← moment).delivery with
    | .absent => throw (Status.make .unreachable (ascii "the coordinator connection is gone"))
    | .failed status => throw status
    | .queued => modify fun a => { a with outbox := a.outbox ++ [message] }

def writeGrant (id : GrantId) (record : GrantRecord) : AgentOp Unit :=
  modify fun a => { a with registry := setGrant a.registry id record }

def countRefusal : AgentOp Unit := modify fun a => { a with refusals := a.refusals + 1 }

def enforcementDigestOf (grant : GrantRecord) : Digest := sha256 (encodeGrant grant)

/-! Requests about grants. -/

/-- The side of a cluster; of two sides the second counts. -/
def sideAmong (cluster : ClusterId) (parties : PerSide PartyRef) : Option Side :=
  if parties.second.cluster = cluster then some .second
  else if parties.first.cluster = cluster then some .first
  else none

def ownSide (cluster : ClusterId) (contract : ContractRecord) : Option Side := sideAmong cluster contract.parties

/-- Why the agent may not prepare a grant. -/
def prepareFault (a : Agent) (incoming : GrantRecord) : Option Bytes :=
  match a.registry.contracts[incoming.contract]? with
  | none => some (ascii "no local record of the contract this grant names")
  | some contract =>
    match ownSide a.cluster contract with
    | none => some (ascii "the grant does not involve this cluster")
    | some side =>
      match (contract.consents.get side).filter fun consent => consent.decision = .accepted with
      | none => some (ascii "this cluster has not consented to the contract")
      | some consent =>
        if consent.termsDigest ≠ incoming.termsDigest ∨ contract.termsDigest ≠ incoming.termsDigest then
          some (ascii "the grant does not cover the terms this cluster consented to")
        else if incoming.incarnations.get side ≠ a.incarnation ∨ incoming.generations.get side ≠ a.generation ∨
            incoming.policies.get side ≠ a.policyGeneration then
          some (ascii "the grant is bound to a superseded incarnation, generation, or policy generation")
        else if incoming.coordinatorTerm ≠ a.coordinatorTerm then
          some (ascii "the grant was issued under a superseded coordinator term")
        else
          match a.registry.clusters[a.cluster]?.bind fun cluster =>
              cluster.endpoints.find? fun e => e.id = (contract.parties.get side).endpoint with
          | none => some (ascii "the grant names an endpoint scope this cluster does not own")
          | some endpoint =>
            if endpoint.capacity < incoming.capacity then
              some (ascii "the granted capacity exceeds the declared endpoint capacity")
            else none

def onPrepareGrant (incoming : GrantRecord) : AgentOp Unit := do
  let a ← get
  let response : GrantPreparedMessage := {
    session := a.coordinatorSession, grant := incoming.id, attempt := incoming.attempt }
  match prepareFault a incoming with
  | some detail =>
    countRefusal
    sendMessage (.grantPrepared { response with detail })
  | none =>
    let observedAt ← now
    let grant := { incoming with
      state := .prepared
      note := ascii "prepared by the cluster agent; waiting for the coordinator commit"
      provenance := { incoming.provenance with source := .agentReported, verification := .verified, observedAt } }
    match ← (Program.focus Agent.registry (fun a registry => { a with registry })
        (Program.update fun registry => registry.putGrant grant)).attempt with
    | .error status => sendMessage (.grantPrepared { response with detail := status.message })
    | .ok () =>
      appendMutation (.grantPut grant)
      sendMessage (.grantPrepared { response with
        accepted := true, detail := ascii "prepared", enforcementDigest := enforcementDigestOf grant })

def onCommitGrant (id : GrantId) (attempt : AttemptId) : AgentOp Unit := do
  let a ← get
  let response : GrantCommittedMessage := { session := a.coordinatorSession, grant := id, attempt }
  match a.registry.grants[id]? with
  | none =>
    countRefusal
    sendMessage (.grantCommitted { response with detail := ascii "the grant is not recorded locally" })
  | some grant =>
    if grant.attempt ≠ attempt then
      sendMessage (.grantCommitted { response with
        detail := ascii "the commit names a different attempt than the prepared one" })
    else if grant.state ≠ .prepared ∧ grant.state ≠ .active then
      sendMessage (.grantCommitted { response with
        detail := ascii "the grant is in state " ++ grant.state.toText ++ ascii " and cannot be committed" })
    else
      let observedAt ← now
      let active := { grant with
        state := .active
        note := ascii "enforced by the cluster agent"
        provenance := { grant.provenance with observedAt } }
      writeGrant id active
      appendMutation (.grantPut active)
      appendAudit "commit-grant" id.toText .ok
        (ascii "the exact attempt the coordinator prepared is now enforced")
      sendMessage (.grantCommitted { response with
        installed := true, detail := ascii "enforced", enforcementDigest := enforcementDigestOf active })

/-- Whatever the grant's own attempt and state, it is aborted. -/
def onAbortGrant (id : GrantId) (attempt : AttemptId) (reason : Bytes) : AgentOp Unit := do
  let a ← get
  match a.registry.grants[id]? with
  | none => sendMessage (.grantAborted { session := a.coordinatorSession, grant := id, attempt, reason })
  | some grant =>
    let aborted := { grant with state := .aborted, note := reason }
    writeGrant id aborted
    appendMutation (.grantPut aborted)
    sendMessage (.grantAborted { session := a.coordinatorSession, grant := id, attempt, reason })

def fenceGrant (reason : Bytes) (results : List FenceResult) (id : GrantId) : AgentOp (List FenceResult) := do
  match (← get).registry.grants[id]? with
  | none => return results ++ [{ grant := id, outcome := .notFound }]
  | some grant =>
    if grant.state = .fenced then return results ++ [{ grant := id, outcome := .fenced }]
    else
      let fenced := { grant with state := .fenced, note := reason }
      writeGrant id fenced
      appendMutation (.grantPut fenced)
      modify fun a => { a with fences := a.fences + 1 }
      return results ++ [{ grant := id, outcome := .ok }]

def onFence (grants : List GrantId) (reason : Bytes) : AgentOp Unit := do
  let session := (← get).coordinatorSession
  let results ← Program.foldEach grants [] (fenceGrant reason)
  appendAudit "fence-grants" (← get).incarnation.toText .fenced
    (CoreStatus.decimal results.length ++ ascii " grants fenced on coordinator request")
  sendMessage (.fenceAck { session, results })

/-- What the agent reports of a grant: the digest of the first side stands for the record. -/
def statusEntry (grant : GrantRecord) : GrantStatusEntry where
  grant := grant.id
  attempt := grant.attempt
  state := grant.state
  enforcementDigest := grant.enforcementDigest.first

def onStatusRequest : AgentOp Unit := do
  let a ← get
  sendMessage (.statusReport {
    session := a.coordinatorSession
    grants := ((values a.registry.grants).take Limits.maxGrants).map statusEntry })

/-! What a request to abort does. -/

/-- Nothing was recorded. -/
def SameRegistry (a a' : Agent) : Prop := a'.registry = a.registry

instance : Std.Refl SameRegistry := ⟨fun _ => rfl⟩

instance : IsTrans Agent SameRegistry := ⟨fun _ _ _ h h' => h'.trans h⟩

section Environment

variable {a : Agent}

lemma moment_same : Steps SameRegistry moment a fun _ _ => True := ⟨rfl, fun _ _ => trivial⟩

lemma appendMutation_same (mutation : Mutation) : Steps SameRegistry (appendMutation mutation) a fun _ _ => True :=
  moment_same.bind fun _ _ _ _ => ⟨rfl, fun _ _ => trivial⟩

lemma sendMessage_same (message : Inbound) : Steps SameRegistry (sendMessage message) a fun _ _ => True := by
  refine Steps.get_bind ?_
  split
  · exact Steps.throw
  refine moment_same.bind fun m _ _ _ => ?_
  split
  · exact Steps.throw
  · exact Steps.throw
  · exact Steps.modify rfl trivial

end Environment

/-- The run of a request changes the record of a grant. -/
def AgentChanges (p : AgentOp Unit) (a : Agent) (id : GrantId) : Prop :=
  (p a).2.registry.grants[id]? ≠ a.registry.grants[id]?

/-- What an agent makes of a request to abort. -/
lemma onAbortGrant_grants (a : Agent) (id : GrantId) (attempt : AttemptId) (reason : Bytes) (other : GrantId) :
    (onAbortGrant id attempt reason a).2.registry.grants[other]? =
      if other = id then a.registry.grants[id]?.map fun grant => { grant with state := .aborted, note := reason }
      else a.registry.grants[other]? := by
  unfold onAbortGrant
  rw [Program.get_bind_run]
  cases hfind : a.registry.grants[id]? with
  | none =>
    simp only
    rw [(sendMessage_same _).related]
    split
    · rename_i hkey
      rw [hkey, hfind, Option.map_none]
    · rfl
  | some grant =>
    simp only
    set aborted : GrantRecord := { grant with state := .aborted, note := reason } with haborted
    have hwrite : writeGrant id aborted a = (.ok (), { a with registry := setGrant a.registry id aborted }) := rfl
    rw [Program.bind_ok hwrite, ((appendMutation_same _).bind fun _ _ _ _ => sendMessage_same _).related, setGrant,
      getElem?_insert_eq, Option.map_some]

end InterClusterFabric.RuntimeAgent
