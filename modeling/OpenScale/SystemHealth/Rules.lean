import OpenScale.Library.StableSort

/-! The rules of system health: what an inspected container makes of a service, and which status
wins, by the control-plane and by the frontend. -/

namespace OpenScale.SystemHealth

inductive Status where
  | good
  | warn
  | crit
  deriving DecidableEq

/-- No console is the empty string, which is left out on the wire. -/
structure ServiceHealth where
  id : String
  name : String
  status : Status
  detail : String
  consoleUrl : String
  running : Bool
  deriving DecidableEq

structure Summary where
  services : List ServiceHealth
  overallStatus : Status
  deriving DecidableEq

section Docker

/-- The status of a container's health check, if it has one. -/
inductive HealthCheck where
  | none
  | starting
  | healthy
  | unhealthy
  deriving DecidableEq

structure ContainerState where
  running : Bool
  restarting : Bool
  oomKilled : Bool
  dead : Bool
  health : Option HealthCheck
  deriving DecidableEq

def withoutCheck (state : ContainerState) : Status × String :=
  if state.running then (.good, "")
  else if state.restarting then (.warn, "restarting")
  else if state.oomKilled then (.crit, "out of memory")
  else if state.dead then (.crit, "dead")
  else (.crit, "stopped")

/-- The health check decides, unless there is none or it says nothing. -/
def statusAndReason : Option ContainerState → Status × String
  | none => (.crit, "unknown state")
  | some state =>
    match state.health with
    | some .healthy => (.good, "")
    | some .starting => (.warn, "starting")
    | some .unhealthy => (.crit, "unhealthy")
    | some .none | none => withoutCheck state

structure WatchedService where
  id : String
  name : String
  containerName : String
  label : String
  consoleUrl : String
  deriving DecidableEq

def watchedServices : List WatchedService :=
  [⟨"minio", "MinIO", "openscale-minio", "lake@9000", "http://localhost:9101"⟩,
    ⟨"kafka", "Kafka", "openscale-kafka", "9092", ""⟩,
    ⟨"postgres", "Postgres", "openscale-postgres", "5432", ""⟩,
    ⟨"redis", "Redis", "openscale-redis", "6379", ""⟩,
    ⟨"prometheus", "Prometheus", "openscale-prometheus", ":9090", "http://localhost:9090"⟩,
    ⟨"grafana", "Grafana", "openscale-grafana", ":3000", "http://localhost:3000"⟩,
    ⟨"worker", "Worker", "openscale-worker", "job queue", ""⟩,
    ⟨"jupyter", "Jupyter", "openscale-jupyter", ":8888",
      "http://localhost:8888/lab?token=openscale-dev"⟩,
    ⟨"mlflow", "MLflow", "openscale-mlflow", ":5000", "http://localhost:5000"⟩]

def findWatchedService (id : String) : Option WatchedService :=
  watchedServices.find? fun svc => svc.id == id

/-- What `ContainerInspect` answers: an error, or a container whose state may be missing. -/
abbrev Inspection := Option (Option ContainerState)

/-- `latency` is the text of the milliseconds that the inspection took. -/
def check (svc : WatchedService) (info : Inspection) (latency : String) : ServiceHealth :=
  match info with
  | none => ⟨svc.id, svc.name, .crit, "not reachable · " ++ svc.label, svc.consoleUrl, false⟩
  | some state =>
    let (status, reason) := statusAndReason state
    let detail :=
      if reason ≠ "" then reason ++ " · " ++ svc.label else latency ++ "ms · " ++ svc.label
    ⟨svc.id, svc.name, status, detail, svc.consoleUrl, state.any ContainerState.running⟩

@[simp] theorem check_id (svc : WatchedService) (info : Inspection) (latency : String) :
    (check svc info latency).id = svc.id := by
  cases info <;> rfl

@[simp] theorem check_consoleUrl (svc : WatchedService) (info : Inspection) (latency : String) :
    (check svc info latency).consoleUrl = svc.consoleUrl := by
  cases info <;> rfl

theorem watchedServices_nodup : watchedServices.Nodup := by decide

theorem eq_of_id {first second : WatchedService} (one : first ∈ watchedServices)
    (two : second ∈ watchedServices) (same : first.id = second.id) : first = second := by
  have apart : ∀ a ∈ watchedServices, ∀ b ∈ watchedServices, a.id = b.id → a = b := by decide
  exact apart first one second two same

theorem mem_of_findWatchedService {id : String} {svc : WatchedService}
    (found : findWatchedService id = some svc) : svc ∈ watchedServices ∧ svc.id = id :=
  ⟨List.mem_of_find?_eq_some found, by simpa using List.find?_some found⟩

end Docker

section Overall

def severity : Status → Nat
  | .good => 0
  | .warn => 1
  | .crit => 2

/-- `DeriveOverallStatus` of the control-plane. -/
def deriveOverallStatus (services : List ServiceHealth) : Status :=
  services.foldl (fun worst service => if severity service.status > severity worst then
    service.status else worst) .good

namespace Frontend

/-- `deriveOverallStatus` of the frontend. -/
def deriveOverallStatus (services : List ServiceHealth) : Status :=
  if services.any fun service => service.status == .crit then .crit
  else if services.any fun service => service.status == .warn then .warn
  else .good

end Frontend

def worse (worst status : Status) : Status :=
  if severity status > severity worst then status else worst

theorem worse_assoc (a b c : Status) : worse (worse a b) c = worse a (worse b c) := by
  cases a <;> cases b <;> cases c <;> rfl

theorem foldl_worse (services : List ServiceHealth) (worst : Status) :
    services.foldl (fun worst service => worse worst service.status) worst =
      worse worst (Frontend.deriveOverallStatus services) := by
  induction services generalizing worst with
  | nil => cases worst <;> rfl
  | cons service services ih =>
    have first : Frontend.deriveOverallStatus (service :: services) =
        worse service.status (Frontend.deriveOverallStatus services) := by
      unfold Frontend.deriveOverallStatus
      cases crit : services.any (fun service => service.status == .crit) <;>
        cases warn : services.any (fun service => service.status == .warn) <;>
          cases status : service.status <;> simp [crit, warn, status, worse, severity]
    rw [List.foldl_cons, ih, first, worse_assoc]

theorem deriveOverallStatus_eq (services : List ServiceHealth) :
    deriveOverallStatus services = Frontend.deriveOverallStatus services := by
  have loop := foldl_worse services .good
  have least : worse .good (Frontend.deriveOverallStatus services) =
      Frontend.deriveOverallStatus services := by
    cases Frontend.deriveOverallStatus services <;> rfl
  exact loop.trans least

end Overall

section Display

def ServiceHealth.hasConsole (service : ServiceHealth) : Bool := service.consoleUrl ≠ ""

/-- `Number(Boolean(b.consoleUrl)) - Number(Boolean(a.consoleUrl))` is not above zero. -/
def consoleFirst (a b : ServiceHealth) : Bool := (b.hasConsole.toNat : Int) - a.hasConsole.toNat ≤ 0

def sortServicesForDisplay (services : List ServiceHealth) : List ServiceHealth :=
  services.mergeSort consoleFirst

theorem consoleFirst_key : Library.KeyFirst consoleFirst ServiceHealth.hasConsole := by
  intro a b
  unfold consoleFirst
  cases a.hasConsole <;> cases b.hasConsole <;> decide

theorem sortServicesForDisplay_eq (services : List ServiceHealth) :
    sortServicesForDisplay services =
    services.filter ServiceHealth.hasConsole ++ services.filter fun service =>
      !service.hasConsole :=
  consoleFirst_key.mergeSort_eq services

end Display

end OpenScale.SystemHealth
