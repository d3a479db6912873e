/-
# Daphne.Server.Kv — the configuration store behind the server's test routes

The storage proxy's key-value surface with the prefixes `roles/mod.rs` touches: task
configurations (with their expiration), the leader's and the collector's bearer tokens, and the
HPKE receiver configurations of each version. The KV client is not among the repository's files;
`putIfNotExists` is modelled from the spec (§4.3): it is atomic, returns the existing value on a
conflict without overwriting, and a storage failure writes nothing.

`KvM` runs a request against the store: an error ends the request but keeps what it wrote before.
`Keeps R m` says every run of `m` moves the store along `R`, and `KeepsOnError R m` says so of the
runs that end in an error; `Keeps.bind` and `Keeps.bind_onError` carry them through a request's
steps. `fetchReplayProtectionOverride` is the fail-safe read of the replay-protection override;
`internalDeleteAll`, `storageReadyCheck` and `internalEndpointForTask` are the other test routes of
`roles/mod.rs`.
-/
import Daphne.Messages.Report
import Daphne.Taskprov.Version
import Mathlib.Logic.Function.Basic
import Mathlib.Logic.Relation

namespace Daphne.Server

set_option autoImplicit false

/-! ## What the store holds -/

/-- The identifier of a task, 32 bytes. -/
abbrev TaskId := Messages.Id

/-- A bearer token, built from the string the command carries. -/
structure BearerToken where
  raw : String
  deriving DecidableEq, Repr

/-- An HPKE receiver configuration: a configuration and its private key. -/
structure HpkeReceiverConfig where
  config : Messages.HpkeConfig
  privateKey : Bytes
  deriving DecidableEq, Repr

/-- The Aggregator roles a test command names. -/
inductive DapRole where
  | leader
  | helper
  deriving DecidableEq, Repr

/-- `DapQueryConfig`. -/
inductive DapQueryConfig where
  | timeInterval
  | fixedSize (maxBatchSize : Option Nat)
  deriving DecidableEq, Repr

/-- `Prio3Config`, with the variants `internal_add_task` builds. -/
inductive Prio3Config where
  | count
  | sum (bits : Nat)
  | sumVec (bits length chunkLength : Nat)
  | histogram (length chunkLength : Nat)
  deriving DecidableEq, Repr

/-- `VdafConfig`, with the variant `internal_add_task` builds. -/
inductive VdafConfig where
  | prio3 (config : Prio3Config)
  deriving DecidableEq, Repr

/-- `DapTaskConfig`, with the fields `internal_add_task` sets. -/
structure DapTaskConfig where
  version : DapVersion
  leaderUrl : String
  helperUrl : String
  timePrecision : UInt64
  notBefore : UInt64
  notAfter : UInt64
  minBatchSize : UInt64
  query : DapQueryConfig
  vdaf : VdafConfig
  vdafVerifyKey : Bytes
  collectorHpkeConfig : Messages.HpkeConfig
  numAggSpanShards : Nat
  deriving DecidableEq, Repr

/-- `DapError`, with the one variant these routes raise: the `Fatal` error of `fatal_error!`,
with its `err` text. -/
inductive DapError where
  | fatal (err : String)
  deriving DecidableEq, Repr

/-- The entries of the KV store under the prefixes `roles/mod.rs` reads and writes. -/
structure KvStore where
  taskConfig : TaskId → Option (DapTaskConfig × UInt64)
  leaderBearerToken : TaskId → Option BearerToken
  collectorBearerToken : TaskId → Option BearerToken
  hpkeReceiverConfigSet : DapVersion → Option (List HpkeReceiverConfig)

/-- The empty store. -/
def KvStore.empty : KvStore where
  taskConfig _ := none
  leaderBearerToken _ := none
  collectorBearerToken _ := none
  hpkeReceiverConfigSet _ := none

/-! ## Requests against the store -/

/-- A request: it reads and writes the store, and may end with an error that keeps its writes. -/
abbrev KvM (α : Type) := ExceptT DapError (StateM KvStore) α

variable {α β : Type}

namespace KvM

/-- The result of running `m` on the store `kv`, and the store after it. -/
def exec (m : KvM α) (kv : KvStore) : Except DapError α × KvStore := m.run.run kv

@[simp] theorem exec_pure (a : α) (kv : KvStore) : exec (pure a) kv = (.ok a, kv) := rfl

@[simp] theorem exec_throw (e : DapError) (kv : KvStore) :
    exec (throw e : KvM α) kv = (.error e, kv) := rfl

@[simp] theorem exec_get (kv : KvStore) : exec (get : KvM KvStore) kv = (.ok kv, kv) := rfl

@[simp] theorem exec_set (kv kv' : KvStore) :
    exec (set kv' : KvM PUnit) kv = (.ok ⟨⟩, kv') := rfl

theorem exec_bind (m : KvM α) (f : α → KvM β) (kv : KvStore) :
    exec (m >>= f) kv = match exec m kv with
      | (.ok a, kv') => exec (f a) kv'
      | (.error e, kv') => (.error e, kv') := by
  unfold exec
  rcases h : m.run.run kv with ⟨_ | a, kv'⟩ <;>
    simp only [ExceptT.run_bind, StateT.run_bind, h] <;> rfl

end KvM

open KvM

/-- One entry of the store: how to read it and how to write it. -/
structure Entry (V : Type) where
  read : KvStore → Option V
  write : KvStore → V → KvStore

/-- Modelled from the spec: `put_if_not_exists`, atomic. On a conflict it returns the existing
value and writes nothing, otherwise it writes `value` and returns `none`. `failed` is a storage
failure, which writes nothing and which the caller's `map_err` reports as `err`. -/
def putIfNotExists {V : Type} (entry : Entry V) (value : V) (failed : Bool) (err : String) :
    KvM (Option V) := do
  if failed then throw (.fatal err)
  let kv ← get
  match entry.read kv with
  | some existing => pure (some existing)
  | none =>
    set (entry.write kv value)
    pure none

/-- What `putIfNotExists` can do: fail, or find a value and write nothing, or find none and
write. -/
theorem exec_putIfNotExists {V : Type} (entry : Entry V) (value : V) (failed : Bool) (err : String)
    (kv : KvStore) :
    exec (putIfNotExists entry value failed err) kv =
      if failed then (.error (.fatal err), kv)
      else match entry.read kv with
        | some existing => (.ok (some existing), kv)
        | none => (.ok none, entry.write kv value) := by
  unfold putIfNotExists
  cases failed with
  | true => rfl
  | false =>
    cases h : entry.read kv with
    | none =>
      simp [exec_bind, h]
      rfl
    | some existing => simp [exec_bind, h]

/-- The `TaskConfig` entry of a task; `put_if_not_exists_with_expiration` stores the expiration
with the configuration. -/
def taskConfigEntry (taskId : TaskId) : Entry (DapTaskConfig × UInt64) where
  read kv := kv.taskConfig taskId
  write kv config := { kv with taskConfig := Function.update kv.taskConfig taskId (some config) }

/-- The `LeaderBearerToken` entry of a task. -/
def leaderBearerTokenEntry (taskId : TaskId) : Entry BearerToken where
  read kv := kv.leaderBearerToken taskId
  write kv token :=
    { kv with leaderBearerToken := Function.update kv.leaderBearerToken taskId (some token) }

/-- The `CollectorBearerToken` entry of a task. -/
def collectorBearerTokenEntry (taskId : TaskId) : Entry BearerToken where
  read kv := kv.collectorBearerToken taskId
  write kv token :=
    { kv with collectorBearerToken := Function.update kv.collectorBearerToken taskId (some token) }

/-- The `HpkeReceiverConfigSet` entry of a version. -/
def hpkeReceiverConfigSetEntry (version : DapVersion) : Entry (List HpkeReceiverConfig) where
  read kv := kv.hpkeReceiverConfigSet version
  write kv configList := { kv with
    hpkeReceiverConfigSet := Function.update kv.hpkeReceiverConfigSet version (some configList) }

/-- Modelled from the spec: `get_cloned`, here reading the store as it is; `failed` is a storage
failure, reported as `err`. -/
def getCloned {V : Type} (entry : Entry V) (failed : Bool) (err : String) : KvM (Option V) := do
  if failed then throw (.fatal err)
  let kv ← get
  pure (entry.read kv)

/-- Modelled from the spec: `put`, an unconditional write; `failed` is a storage failure, which
writes nothing and is reported as `err`. -/
def put {V : Type} (entry : Entry V) (value : V) (failed : Bool) (err : String) : KvM Unit := do
  if failed then throw (.fatal err)
  modify fun kv => entry.write kv value

theorem exec_getCloned {V : Type} (entry : Entry V) (failed : Bool) (err : String)
    (kv : KvStore) :
    exec (getCloned entry failed err) kv =
      if failed then (.error (.fatal err), kv) else (.ok (entry.read kv), kv) := by
  cases failed <;> rfl

theorem exec_put {V : Type} (entry : Entry V) (value : V) (failed : Bool) (err : String)
    (kv : KvStore) :
    exec (put entry value failed err) kv =
      if failed then (.error (.fatal err), kv) else (.ok (), entry.write kv value) := by
  cases failed <;> rfl

/-- `put_if_not_exists` followed by an error on a conflict, the way `internal_add_task` writes
each entry: fail, or find a value and write nothing, or write. -/
theorem exec_putIfNotExists_orThrow {V : Type} (entry : Entry V) (value : V) (failed : Bool)
    (err : String) (e : DapError) (kv : KvStore) :
    exec (do
      let existing ← putIfNotExists entry value failed err
      if existing.isSome then throw e) kv =
      if failed then (.error (.fatal err), kv)
      else match entry.read kv with
        | some _ => (.error e, kv)
        | none => (.ok (), entry.write kv value) := by
  rw [exec_bind, exec_putIfNotExists]
  cases failed <;> cases entry.read kv <;> rfl

/-! ## Frames -/

/-- Every run of `m` ends in a store related to its start by `R`. -/
def Keeps (R : KvStore → KvStore → Prop) (m : KvM α) : Prop :=
  ∀ kv, R kv (exec m kv).2

/-- Every run of `m` that ends with an error ends in a store related to its start by `R`. -/
def KeepsOnError (R : KvStore → KvStore → Prop) (m : KvM α) : Prop :=
  ∀ kv e kv', exec m kv = (.error e, kv') → R kv kv'

section Frames

variable {R : KvStore → KvStore → Prop} {m : KvM α} {f : α → KvM β}

theorem Keeps.onError (keeps : Keeps R m) : KeepsOnError R m := by
  intro kv e kv' h
  simpa [h] using keeps kv

theorem Keeps.bind (trans : ∀ {a b c}, R a b → R b c → R a c) (first : Keeps R m)
    (second : ∀ a, Keeps R (f a)) : Keeps R (m >>= f) := by
  intro kv
  rw [exec_bind]
  have := first kv
  split
  · rename_i a kv' h
    rw [h] at this
    exact trans this (second a kv')
  · rename_i e kv' h
    rwa [h] at this

theorem keeps_pure (refl : ∀ a, R a a) (a : α) : Keeps R (pure a : KvM α) := fun kv => refl kv

theorem keeps_throw (refl : ∀ a, R a a) (e : DapError) : Keeps R (throw e : KvM α) :=
  fun kv => refl kv

variable {V : Type} (entry : Entry V) (value : V) (failed : Bool) (err : String) (e : DapError)

/-- A `put_if_not_exists` that raises `e` on a conflict moves the store along `R` when its one
write does. -/
theorem keeps_putIfNotExists_orThrow (refl : ∀ a, R a a)
    (write : ∀ kv, entry.read kv = none → R kv (entry.write kv value)) :
    Keeps R (do
      let existing ← putIfNotExists entry value failed err
      if existing.isSome then throw e) := by
  intro kv
  rw [exec_putIfNotExists_orThrow]
  cases failed with
  | true => exact refl kv
  | false =>
    cases absent : entry.read kv with
    | some _ => exact refl kv
    | none => exact write kv absent

end Frames

/-- `StateT.lift` of a computation that does not touch the store. -/
def liftExcept (e : Except DapError α) : KvM α :=
  match e with
  | .ok a => pure a
  | .error err => throw err

@[simp] theorem exec_liftExcept (e : Except DapError α) (kv : KvStore) :
    exec (liftExcept e) kv = (e, kv) := by
  cases e <;> rfl

theorem keeps_liftExcept {R : KvStore → KvStore → Prop} (refl : ∀ a, R a a)
    (e : Except DapError α) : Keeps R (liftExcept e) := by
  intro kv
  simpa using refl kv

/-! ## Runs -/

/-- What holds of the start, and of every step, holds of every state a run reaches. -/
theorem reachable_induction {σ : Type} {Next : σ → σ → Prop} (Inv : σ → Prop) {s s' : σ}
    (start : Inv s) (step : ∀ {x y}, Inv x → Next x y → Inv y)
    (reach : Relation.ReflTransGen Next s s') : Inv s' := by
  induction reach with
  | refl => exact start
  | tail _ next ih => exact step ih next

/-! ## The replay-protection override -/

/-- `ReplayProtection`. -/
inductive ReplayProtection where
  | enabled
  | insecureDisabled
  deriving DecidableEq, Repr

/-- `fetch_replay_protection_override`, given what the KV read of `SkipReplayProtection`
returned: a failed read counts as `false` (`.ok()`), and so does a missing key
(`unwrap_or_default`). -/
def fetchReplayProtectionOverride (read : Except String (Option Bool)) : ReplayProtection :=
  let skipReplayProtection := (read.toOption.bind id).getD false
  if skipReplayProtection then .insecureDisabled else .enabled

/-! ## The other test routes of `App` -/

/-- `internal_delete_all`, given whether the purge request could not be sent and whether the
storage proxy answered it with an error status; the two errors are the source's. The leader's test
state and the cache, which the store does not hold, are reset before the request. Modelled from
the spec: the storage proxy's purge (`DELETE {proxy}/storage_purge`), whose handler is not among
the repository's files, empties the store. -/
def internalDeleteAll (sendFails statusFails : Bool) : KvM Unit := do
  if sendFails then throw (.fatal "failed to send delete request to storage proxy")
  if statusFails then throw (.fatal "failed to clear storage proxy")
  set KvStore.empty

theorem exec_internalDeleteAll (sendFails statusFails : Bool) (kv : KvStore) :
    exec (internalDeleteAll sendFails statusFails) kv =
      if sendFails then (.error (.fatal "failed to send delete request to storage proxy"), kv)
      else if statusFails then (.error (.fatal "failed to clear storage proxy"), kv)
      else (.ok (), KvStore.empty) := by
  cases sendFails <;> cases statusFails <;> rfl

/-- `storage_ready_check`, given whether the readiness request could not be sent and whether the
storage proxy answered it with an error status. -/
def storageReadyCheck (sendFails statusFails : Bool) : Except DapError Unit :=
  if sendFails then .error (.fatal "failed to send ready check request to storage proxy")
  else if statusFails then .error (.fatal "storage proxy is not ready")
  else .ok ()

/-- The fields of the service configuration `internal_endpoint_for_task` reads: the Aggregator's
role and the path of its base URL, if one is configured. -/
structure ServiceConfig where
  role : DapRole
  baseUrlPath : Option String

/-- `InternalTestEndpointForTask`, with the field `internal_endpoint_for_task` reads. -/
structure InternalTestEndpointForTask where
  role : DapRole

/-- `App::internal_endpoint_for_task`; `versionAsRef` is `version.as_ref()`. -/
def internalEndpointForTask (serviceConfig : ServiceConfig) (versionAsRef : String)
    (cmd : InternalTestEndpointForTask) : Except DapError String :=
  if serviceConfig.role ≠ cmd.role then .error (.fatal "role mismatch")
  else match serviceConfig.baseUrlPath with
    | none => .error (.fatal "base_url not configured")
    | some path => .ok (path ++ versionAsRef ++ "/")

/-- The endpoint is returned exactly when the command's role is the Aggregator's and a base URL
is configured: it is the base URL's path, the version, and a slash. -/
theorem internalEndpointForTask_eq_ok_iff (serviceConfig : ServiceConfig) (versionAsRef : String)
    (cmd : InternalTestEndpointForTask) (endpoint : String) :
    internalEndpointForTask serviceConfig versionAsRef cmd = .ok endpoint ↔
      serviceConfig.role = cmd.role ∧
        ∃ path, serviceConfig.baseUrlPath = some path ∧ endpoint = path ++ versionAsRef ++ "/" := by
  unfold internalEndpointForTask
  by_cases same : serviceConfig.role = cmd.role <;> cases serviceConfig.baseUrlPath <;>
    simp [same, eq_comm]

end Daphne.Server
