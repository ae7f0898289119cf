import TennisAlerts.Recovery.Probe

/-!
# What the host checks

The decisions of `email_recovery_host.py` on the output of `git`, `docker` and `curl`
and on the results of its probes.
-/

namespace TennisAlerts.Recovery

/-! ## Containers -/

/-- What `docker compose ps` and `docker inspect` print for a service. -/
structure Inspection where
  listed : List String
  id : String
  image : String
  environment : List (String × String)
  service : Option String
  status : String
  command : Option (List String)

structure ContainerInfo where
  id : String
  image : String
  commit : Option String
  status : String
  command : Option (List String)
  deriving DecidableEq

/-- `[0-9a-f]{12,64}`. -/
def isContainerId (text : String) : Bool :=
  12 ≤ text.toList.length && text.toList.length ≤ 64 && text.toList.all fun character =>
    character.isDigit || ['a', 'b', 'c', 'd', 'e', 'f'].contains character

/-- The last value of a variable. -/
def environmentValue (environment : List (String × String)) (name : String) : Option String :=
  (environment.reverse.find? fun entry => entry.1 = name).map (·.2)

/-- `container_info`. -/
def containerInfo (service : String) (inspection : Inspection) : Except String ContainerInfo := do
  refuseIf (inspection.listed.length ≠ 1 || !inspection.listed.all isContainerId)
    "service must have exactly one existing container"
  refuseIf (inspection.service ≠ some service) "container service ownership mismatch"
  return {
    id := inspection.id
    image := inspection.image
    commit := environmentValue inspection.environment "DEPLOYMENT_COMMIT"
    status := inspection.status
    command := inspection.command }

/-- The output of the commands of `container_identity`. -/
structure Readings where
  head : String
  modified : String
  api : Inspection
  mail : Inspection
  wechat : Inspection
  revision : Option String

structure Identities where
  api : ContainerInfo
  mail : ContainerInfo
  wechat : ContainerInfo
  deriving DecidableEq

/-- `container_identity`. -/
def containerIdentity (expected : String) (allowApiStopped : Bool) (readings : Readings) :
    Except String Identities := do
  refuseIf (readings.head ≠ expected) "host worktree identity changed"
  refuseIf (readings.modified ≠ "") "host tracked files are modified"
  let api ← containerInfo "zacks-api" readings.api
  let mail ← containerInfo "zacks-notification-worker" readings.mail
  let wechat ← containerInfo "zacks-wechat-worker" readings.wechat
  refuseIf (!(api.status = "running" || (allowApiStopped && api.status = "exited")) ||
    api.commit ≠ some expected || mail.commit ≠ some expected)
    "API or email runtime identity mismatch"
  refuseIf (mail.image ≠ api.image) "API and email worker must use the same immutable image"
  refuseIf (!(["running", "exited", "created"].contains mail.status))
    "email container is not safely startable"
  refuseIf (!(["exited", "created"].contains wechat.status))
    "email-only recovery requires the WeChat consumer stopped"
  refuseIf (mail.command ≠ some ["python", "-m", "wechat_airflow.host_core.worker"])
    "existing container is not the canonical email worker"
  refuseIf (readings.revision ≠ some expected) "immutable image revision mismatch"
  return ⟨api, mail, wechat⟩

/-- `assert_same_containers`. -/
def assertSameContainers (original current : Identities) : Except String Unit :=
  refuseIf ([(original.api, current.api), (original.mail, current.mail),
      (original.wechat, current.wechat)].any fun pair =>
        pair.1.id ≠ pair.2.id || pair.1.image ≠ pair.2.image)
    "a concurrent operation replaced a container"

/-! ## Endpoints -/

structure Health where
  ok : Bool
  deploymentCommit : Option String
  runtime : Option String

structure EdgeHealth where
  ok : Bool
  deploymentCommit : Option String
  runtime : Option String
  cutover : Option Bool
  quiesced : Option Bool
  migrationEndpoint : Option Bool
  durableBusinessState : Option String

/-- The answers of the four endpoints; `ok` and `emailReady` tell whether the value is
`True`. -/
structure Endpoints where
  localHealth : Health
  readyOk : Bool
  emailReady : Bool
  edge : EdgeHealth
  publicHealth : Health

/-- The loop body of `endpoint_checks`. -/
def checkHealth (expected : String) (value : Health) : Except String Unit := do
  refuseIf (!value.ok || value.deploymentCommit ≠ some expected)
    "host/public API health or identity mismatch"
  refuseIf (value.runtime ≠ some "airflow-host") "API does not have host ownership"

/-- `endpoint_checks`. -/
def endpointChecks (expected : String) (endpoints : Endpoints) : Except String Unit := do
  checkHealth expected endpoints.localHealth
  checkHealth expected endpoints.publicHealth
  refuseIf (!endpoints.readyOk || !endpoints.emailReady) "email readiness failed"
  refuseIf (!(endpoints.edge.ok && endpoints.edge.deploymentCommit = some expected &&
      endpoints.edge.runtime = some "cloudflare-stateless-edge" &&
      endpoints.edge.cutover = some true && endpoints.edge.quiesced = some false &&
      endpoints.edge.migrationEndpoint = some false &&
      endpoints.edge.durableBusinessState = some "none"))
    "stateless edge identity or ownership mismatch"

/-! ## Probes -/

/-- The reason that `probe` raises; the names of `RecoveryRefused` are its pattern. -/
def probeReason (refusal : Refusal) : String :=
  refusal.getD "application_guard_rejected"

/-- `validate_snapshot`. -/
def validateSnapshot (expected : String) (snapshot : Snapshot) : Except String Unit := do
  refuseIf (!(snapshot.schemaReady && snapshot.emailConfiguration && snapshot.migrationComplete &&
      snapshot.everActivated))
    "email recovery prerequisites are not satisfied"
  refuseIf (snapshot.state.deploymentCommit ≠ expected || snapshot.state.wechatEnabled)
    "control identity or independent WeChat gate changed"
  refuseIf (snapshot.freshVenueCount < 1) "no fresh healthy venue observations"

/-- `fresh_heartbeat`. -/
def freshHeartbeat (expected : String) (since : Int) (active : Bool) (snapshot : Snapshot) : Bool :=
  snapshot.heartbeat.any fun heartbeat =>
    heartbeat.healthy && heartbeat.deploymentCommit = expected &&
      heartbeat.owner = some active &&
      heartbeat.mode = some (if active then "active" else "shadow") &&
      since < heartbeat.updatedAt && heartbeat.updatedAt ≤ snapshot.generatedAt &&
      snapshot.generatedAt - heartbeat.updatedAt < 120000000

end TennisAlerts.Recovery
