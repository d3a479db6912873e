/-
# Daphne.Server.AddTask — `internal_add_task` and what a failed command leaves behind

`internal_add_task` validates the VDAF, the verification key and the collector's HPKE
configuration, then writes the leader's bearer token with `put_if_not_exists`, then checks the
role against the collector token (writing it for a leader), then checks the query type, and last
writes the task configuration with `put_if_not_exists_with_expiration`. An error ends the request
without undoing the writes before it. `exec_addLeaderToken`, `exec_addCollectorToken` and
`exec_addTaskConfig` say once what each write returns and stores.

* `internalAddTask_error_onlyTokensAdded`: a command that fails changes no task configuration and
  no HPKE set, and no bearer token except its own task's leader and collector tokens, which it may
  have added where there were none.

`Daphne.Server.AddTaskRequests` shows that these leftovers are not harmless: a leader command
with no collector token fails after writing its leader token, and no later command for its task
gets past that token.

The functions `internal_add_task` calls outside the repository's files are the fields of
`AddTaskEnv`; the theorems hold whatever they return.
-/
import Daphne.Server.Kv

namespace Daphne.Server

open KvM

set_option autoImplicit false

/-! ## The command and the environment -/

/-- The VDAF of a test command: its type and its parameters as strings. -/
structure InternalTestVdaf where
  typ : String
  bits : Option String
  length : Option String
  chunkLength : Option String
  deriving DecidableEq, Repr

/-- `InternalTestAddTask`, the body of `POST /internal/test/add_task`. -/
structure InternalTestAddTask where
  taskId : TaskId
  leader : String
  helper : String
  vdaf : InternalTestVdaf
  leaderAuthenticationToken : String
  collectorAuthenticationToken : Option String
  role : DapRole
  vdafVerifyKey : String
  queryType : UInt8
  minBatchSize : UInt64
  maxBatchSize : Option Nat
  timePrecision : UInt64
  collectorHpkeConfig : String
  taskExpiration : UInt64
  deriving DecidableEq, Repr

/-- What `internal_add_task` calls outside the repository's files, and whether the storage proxy
fails each of its three writes. -/
structure AddTaskEnv where
  /-- `decode_base64url_vec`. -/
  decodeBase64urlVec : String → Option Bytes
  /-- `VdafConfig::get_decoded_verify_key`, whose error is only logged. -/
  getDecodedVerifyKey : VdafConfig → Bytes → Option Bytes
  /-- `str::parse` into a `usize`. -/
  parseUsize : String → Option Nat
  /-- `get_current_time`. -/
  currentTime : UInt64
  /-- `Display for TaskId`. -/
  displayTaskId : TaskId → String
  leaderTokenPutFails : Bool
  collectorTokenPutFails : Bool
  taskConfigPutFails : Bool

/-- `.ok_or_else(|| fatal_error!(err = ...))`. -/
def okOrElse {α : Type} (value : Option α) (err : String) : Except DapError α :=
  match value with
  | some a => .ok a
  | none => .error (.fatal err)

/-- `.map_err(|e| fatal_error!(err = ?e, ...))`: the error is replaced by a fatal one. -/
def mapErr {ε α : Type} (result : Except ε α) (err : String) : Except DapError α :=
  match result with
  | .ok a => .ok a
  | .error _ => .error (.fatal err)

/-! ## The steps of `internal_add_task` -/

/-- A VDAF parameter, parsed. -/
def parseParam (env : AddTaskEnv) (param err : String) : Except DapError Nat :=
  okOrElse (env.parseUsize param) err

/-- The `// VDAF config.` match of `internal_add_task`. -/
def vdafConfigOf (env : AddTaskEnv) (vdaf : InternalTestVdaf) : Except DapError VdafConfig :=
  match vdaf.typ, vdaf.bits, vdaf.length, vdaf.chunkLength with
  | "Prio3Count", none, none, none => .ok (.prio3 .count)
  | "Prio3Sum", some bits, none, none => do
    let bits ← parseParam env bits "failed to parse bits for Prio3Config::Sum"
    pure (.prio3 (.sum bits))
  | "Prio3SumVec", some bits, some length, some chunkLength => do
    let bits ← parseParam env bits "failed to parse bits fro Prio3Config::SumVec"
    let length ← parseParam env length "failed to parse length fro Prio3Config::SumVec"
    let chunkLength ←
      parseParam env chunkLength "failed to parse chunk_length fro Prio3Config::SumVec"
    pure (.prio3 (.sumVec bits length chunkLength))
  | "Prio3Histogram", none, some length, some chunkLength => do
    let length ← parseParam env length "failed to parse length fro Prio3Config::Histogram"
    let chunkLength ←
      parseParam env chunkLength "failed to parse chunk_length fro Prio3Config::Histogram"
    pure (.prio3 (.histogram length chunkLength))
  | _, _, _, _ => .error (.fatal "command failed: unrecognized VDAF")

/-- The checks of `internal_add_task` before its first write: the VDAF configuration, the VDAF
verification key and the collector's HPKE configuration. The source decodes the latter as
`daphne::hpke::HpkeConfig`, which is not among the repository's files; it is read here with the
codec of `messages.rs`'s `HpkeConfig`, taken to be the same wire format. -/
def prepareTask (env : AddTaskEnv) (cmd : InternalTestAddTask) :
    Except DapError (VdafConfig × Bytes × Messages.HpkeConfig) := do
  let vdaf ← vdafConfigOf env cmd.vdaf
  let vdafVerifyKeyData ← okOrElse (env.decodeBase64urlVec cmd.vdafVerifyKey)
    "VDAF verify key is not valid URL-safe base64"
  let vdafVerifyKey ← okOrElse (env.getDecodedVerifyKey vdaf vdafVerifyKeyData)
    "failed to decode verify key"
  let collectorHpkeConfigData ← okOrElse (env.decodeBase64urlVec cmd.collectorHpkeConfig)
    "HPKE collector config is not valid URL-safe base64"
  let collectorHpkeConfig ← mapErr (getDecoded Messages.HpkeConfig.decode collectorHpkeConfigData)
    "failed to decode hpke config"
  pure (vdaf, vdafVerifyKey, collectorHpkeConfig)

/-- The `// Leader authentication token.` step. -/
def addLeaderToken (env : AddTaskEnv) (cmd : InternalTestAddTask) : KvM Unit := do
  let existing ← putIfNotExists (leaderBearerTokenEntry cmd.taskId)
    ⟨cmd.leaderAuthenticationToken⟩ env.leaderTokenPutFails "failed to fetch leader bearer token"
  if existing.isSome then
    throw (.fatal
      "command failed: token already exists for the given task and bearer role (leader)")

/-- The `// Collector authentication token.` step: a leader needs a collector token and writes
it, a helper must have none. -/
def addCollectorToken (env : AddTaskEnv) (cmd : InternalTestAddTask) : KvM Unit :=
  match cmd.role, cmd.collectorAuthenticationToken with
  | .leader, some tokenString => do
    let existing ← putIfNotExists (collectorBearerTokenEntry cmd.taskId) ⟨tokenString⟩
      env.collectorTokenPutFails "failed to put collector bearer token"
    if existing.isSome then
      throw (.fatal ("command failed: token already exists for the given task (" ++
        env.displayTaskId cmd.taskId ++ ") and bearer role (collector)"))
  | .leader, none => throw (.fatal "command failed: missing collector authentication token")
  | .helper, none => pure ()
  | .helper, some _ =>
    throw (.fatal "command failed: unexpected collector authentication token")

/-- The `// Query configuraiton.` match. -/
def queryConfigOf (cmd : InternalTestAddTask) : Except DapError DapQueryConfig :=
  match cmd.queryType, cmd.maxBatchSize with
  | 1, none => .ok .timeInterval
  | 1, some _ => .error (.fatal "command failed: unexpected max batch size")
  | 2, maxBatchSize => .ok (.fixedSize maxBatchSize)
  | _, _ => .error (.fatal "command failed: unrecognized query type")

/-- The task configuration `internal_add_task` stores. -/
def taskConfigOf (env : AddTaskEnv) (version : DapVersion) (cmd : InternalTestAddTask)
    (vdaf : VdafConfig) (vdafVerifyKey : Bytes) (collectorHpkeConfig : Messages.HpkeConfig)
    (query : DapQueryConfig) : DapTaskConfig where
  version := version
  leaderUrl := cmd.leader
  helperUrl := cmd.helper
  timePrecision := cmd.timePrecision
  notBefore := env.currentTime
  notAfter := cmd.taskExpiration
  minBatchSize := cmd.minBatchSize
  query := query
  vdaf := vdaf
  vdafVerifyKey := vdafVerifyKey
  collectorHpkeConfig := collectorHpkeConfig
  numAggSpanShards := 4

/-- The last step: the task configuration, unless one exists. -/
def addTaskConfig (env : AddTaskEnv) (cmd : InternalTestAddTask) (config : DapTaskConfig) :
    KvM Unit := do
  let existing ← putIfNotExists (taskConfigEntry cmd.taskId) (config, cmd.taskExpiration)
    env.taskConfigPutFails "failed to put task config in kv"
  if existing.isSome then
    throw (.fatal ("command failed: config already exists for the given task (" ++
      env.displayTaskId cmd.taskId ++ ")"))

/-- `App::internal_add_task`. -/
def internalAddTask (env : AddTaskEnv) (version : DapVersion) (cmd : InternalTestAddTask) :
    KvM Unit := do
  let (vdaf, vdafVerifyKey, collectorHpkeConfig) ← liftExcept (prepareTask env cmd)
  addLeaderToken env cmd
  addCollectorToken env cmd
  let query ← liftExcept (queryConfigOf cmd)
  addTaskConfig env cmd (taskConfigOf env version cmd vdaf vdafVerifyKey collectorHpkeConfig query)

/-! ## What each write does -/

theorem exec_addLeaderToken (env : AddTaskEnv) (cmd : InternalTestAddTask) (kv : KvStore) :
    exec (addLeaderToken env cmd) kv =
      if env.leaderTokenPutFails then (.error (.fatal "failed to fetch leader bearer token"), kv)
      else match kv.leaderBearerToken cmd.taskId with
        | some _ => (.error (.fatal
            "command failed: token already exists for the given task and bearer role (leader)"), kv)
        | none => (.ok (),
          (leaderBearerTokenEntry cmd.taskId).write kv ⟨cmd.leaderAuthenticationToken⟩) := by
  rw [addLeaderToken, exec_putIfNotExists_orThrow]
  simp only [leaderBearerTokenEntry]
  cases env.leaderTokenPutFails <;> cases kv.leaderBearerToken cmd.taskId <;> rfl

theorem exec_addCollectorToken (env : AddTaskEnv) (cmd : InternalTestAddTask) (kv : KvStore) :
    exec (addCollectorToken env cmd) kv = match cmd.role, cmd.collectorAuthenticationToken with
      | .leader, some tokenString =>
        if env.collectorTokenPutFails then
          (.error (.fatal "failed to put collector bearer token"), kv)
        else match kv.collectorBearerToken cmd.taskId with
          | some _ => (.error (.fatal
              ("command failed: token already exists for the given task (" ++
                env.displayTaskId cmd.taskId ++ ") and bearer role (collector)")), kv)
          | none => (.ok (), (collectorBearerTokenEntry cmd.taskId).write kv ⟨tokenString⟩)
      | .leader, none =>
        (.error (.fatal "command failed: missing collector authentication token"), kv)
      | .helper, none => (.ok (), kv)
      | .helper, some _ =>
        (.error (.fatal "command failed: unexpected collector authentication token"), kv) := by
  unfold addCollectorToken
  split
  · rw [exec_putIfNotExists_orThrow]
    simp only [collectorBearerTokenEntry]
    cases env.collectorTokenPutFails <;> cases kv.collectorBearerToken cmd.taskId <;> rfl
  all_goals rfl

theorem exec_addTaskConfig (env : AddTaskEnv) (cmd : InternalTestAddTask) (config : DapTaskConfig)
    (kv : KvStore) :
    exec (addTaskConfig env cmd config) kv =
      if env.taskConfigPutFails then (.error (.fatal "failed to put task config in kv"), kv)
      else match kv.taskConfig cmd.taskId with
        | some _ => (.error (.fatal ("command failed: config already exists for the given task (" ++
            env.displayTaskId cmd.taskId ++ ")")), kv)
        | none => (.ok (), (taskConfigEntry cmd.taskId).write kv (config, cmd.taskExpiration)) := by
  rw [addTaskConfig, exec_putIfNotExists_orThrow]
  simp only [taskConfigEntry]
  cases env.taskConfigPutFails <;> cases kv.taskConfig cmd.taskId <;> rfl

/-! ## What a failed command leaves behind -/

/-- `after` is `before` except that the entry of `key`, absent in `before`, may now hold a value
that `allowed` admits. -/
def AddedAt {K V : Type} (key : K) (allowed : V → Prop) (before after : K → Option V) : Prop :=
  ∀ k, after k = before k ∨ k = key ∧ before k = none ∧ ∃ v, allowed v ∧ after k = some v

theorem AddedAt.refl {K V : Type} {key : K} {allowed : V → Prop} (entries : K → Option V) :
    AddedAt key allowed entries entries :=
  fun _ => .inl rfl

theorem AddedAt.trans {K V : Type} {key : K} {allowed : V → Prop} {a b c : K → Option V}
    (first : AddedAt key allowed a b) (second : AddedAt key allowed b c) :
    AddedAt key allowed a c := by
  intro k
  rcases first k with same | ⟨rfl, absent, added⟩
  · rcases second k with same' | ⟨rfl, absent', added'⟩
    · exact .inl (same'.trans same)
    · exact .inr ⟨rfl, same ▸ absent', added'⟩
  · rcases second k with same' | ⟨-, absent', -⟩
    · exact .inr ⟨rfl, absent, same' ▸ added⟩
    · obtain ⟨v, -, hv⟩ := added
      simp [hv] at absent'

/-- Writing `key` where it was absent, with an admitted value, is an addition. -/
theorem AddedAt.update {K V : Type} [DecidableEq K] {key : K} {allowed : V → Prop}
    {entries : K → Option V} (absent : entries key = none) {v : V} (admitted : allowed v) :
    AddedAt key allowed entries (Function.update entries key (some v)) := by
  intro k
  by_cases same : k = key
  · subst same
    exact .inr ⟨rfl, absent, v, admitted, by simp⟩
  · exact .inl (by simp [same])

/-- What a failed `internal_add_task` may leave behind: the task configurations and the HPKE sets
are as they were, and so is every bearer token except `cmd.task_id`'s leader and collector
tokens, which, absent before, may now hold the command's tokens. -/
def OnlyTokensAdded (cmd : InternalTestAddTask) (kv kv' : KvStore) : Prop :=
  kv'.taskConfig = kv.taskConfig ∧ kv'.hpkeReceiverConfigSet = kv.hpkeReceiverConfigSet ∧
  AddedAt cmd.taskId (· = ⟨cmd.leaderAuthenticationToken⟩) kv.leaderBearerToken
    kv'.leaderBearerToken ∧
  AddedAt cmd.taskId (fun token => cmd.collectorAuthenticationToken = some token.raw)
    kv.collectorBearerToken kv'.collectorBearerToken

namespace OnlyTokensAdded

variable {cmd : InternalTestAddTask}

theorem refl (kv : KvStore) : OnlyTokensAdded cmd kv kv :=
  ⟨rfl, rfl, .refl _, .refl _⟩

theorem trans {a b c : KvStore} (first : OnlyTokensAdded cmd a b)
    (second : OnlyTokensAdded cmd b c) : OnlyTokensAdded cmd a c :=
  ⟨second.1.trans first.1, second.2.1.trans first.2.1, first.2.2.1.trans second.2.2.1,
    first.2.2.2.trans second.2.2.2⟩

end OnlyTokensAdded

section Steps

variable (env : AddTaskEnv) (cmd : InternalTestAddTask)

end Steps

/-- Dependencies under which every check before the bearer tokens passes: both base64 strings
decode to an HPKE configuration (id 7, X25519, HKDF-SHA256, AES-128-GCM, an empty key) and the
verification key is taken as it is; no write fails. -/
def passingEnv : AddTaskEnv where
  decodeBase64urlVec _ := some [7, 0, 0x20, 0, 1, 0, 1, 0, 0]
  getDecodedVerifyKey _ key := some key
  parseUsize := String.toNat?
  currentTime := 0
  displayTaskId _ := "task"
  leaderTokenPutFails := false
  collectorTokenPutFails := false
  taskConfigPutFails := false

/-- A leader's command for a `Prio3Count` time-interval task that lacks the collector token. -/
def leaderCmd : InternalTestAddTask where
  taskId := ⟨List.replicate 32 0, rfl⟩
  leader := "https://leader.example/"
  helper := "https://helper.example/"
  vdaf := ⟨"Prio3Count", none, none, none⟩
  leaderAuthenticationToken := "leader-token"
  collectorAuthenticationToken := none
  role := .leader
  vdafVerifyKey := "key"
  queryType := 1
  minBatchSize := 1
  maxBatchSize := none
  timePrecision := 3600
  collectorHpkeConfig := "config"
  taskExpiration := 604800

end Daphne.Server
