/-
# Daphne.Server.GenerateTask — the commands `generate-task` prints, and `internal_add_task`

`generate-task` prints two `InternalTestAddTask` commands for one fresh task, the leader's and the
helper's, with fixed endpoints, tokens and batch parameters, a random task id, a generated HPKE
receiver configuration for the collector, and a generated Prio3Sum verification key, both written
in URL-safe base64. `generateTask` is what it prints, given what it draws.

* `generateTask_same_config`: once the leader's Aggregator has accepted the leader's command and
  the helper's Aggregator the helper's, both store the same configuration and expiration under the
  task id, except `not_before`, which each takes from its own clock, and the version, which each
  takes from its own request: the checks and the stored configuration read neither the role nor
  the collector token, the only fields in which the two commands differ.
-/
import Daphne.Server.AddTaskRequests

namespace Daphne.Server

open KvM

set_option autoImplicit false

/-- What `generate-task` draws or calls outside the repository's files. -/
structure GenerateTaskEnv where
  /-- The seconds since the Unix epoch. -/
  now : UInt64
  /-- `TaskId(rng.gen())`. -/
  taskId : TaskId
  /-- `HpkeReceiverConfig::gen(rng.gen(), HpkeKemId::X25519HkdfSha256)`. -/
  collectorHpkeConfig : HpkeReceiverConfig
  /-- `VdafConfig::Prio3(Prio3Config::Sum { bits: 8 }).gen_verify_key()`. -/
  vdafVerifyKey : Bytes
  /-- `encode_base64url`. -/
  encodeBase64url : Bytes → String

/-- The two commands `generate-task` prints, the leader's and the helper's; `none` where
`get_encoded().unwrap()` of the collector's HPKE configuration panics. The expiration is
`now + 604_800` in `u64`. -/
def generateTask (g : GenerateTaskEnv) : Option (InternalTestAddTask × InternalTestAddTask) := do
  let collectorHpkeConfig ← g.collectorHpkeConfig.config.encode
  let vdaf : InternalTestVdaf := ⟨"Prio3Sum", some "8", none, none⟩
  let leader : InternalTestAddTask := {
    taskId := g.taskId
    leader := "http://localhost:8787/v09"
    helper := "http://localhost:8788/v09"
    vdaf := vdaf
    leaderAuthenticationToken := "I-am-the-leader"
    collectorAuthenticationToken := some "I-am-the-collector"
    role := .leader
    vdafVerifyKey := g.encodeBase64url g.vdafVerifyKey
    queryType := 2
    minBatchSize := 1
    maxBatchSize := some 12
    timePrecision := 3600
    collectorHpkeConfig := g.encodeBase64url collectorHpkeConfig
    taskExpiration := g.now + 604800 }
  pure (leader, { leader with collectorAuthenticationToken := none, role := .helper })

/-! ## The two Aggregators store the same task -/

/-- The checks before the first write read, of the environment, only the decoders and the parse,
and of the command only the VDAF, the verification key and the collector's configuration. -/
theorem prepareTask_congr {env env' : AddTaskEnv} {cmd cmd' : InternalTestAddTask}
    (sameDecode : env'.decodeBase64urlVec = env.decodeBase64urlVec)
    (sameKey : env'.getDecodedVerifyKey = env.getDecodedVerifyKey)
    (sameParse : env'.parseUsize = env.parseUsize) (sameVdaf : cmd'.vdaf = cmd.vdaf)
    (sameVerifyKey : cmd'.vdafVerifyKey = cmd.vdafVerifyKey)
    (sameConfig : cmd'.collectorHpkeConfig = cmd.collectorHpkeConfig) :
    prepareTask env' cmd' = prepareTask env cmd := by
  simp only [prepareTask, vdafConfigOf, parseParam, sameDecode, sameKey, sameParse, sameVdaf,
    sameVerifyKey, sameConfig]

/-- The leader's command carries the drawn task id, and the helper's is the leader's with the
helper's role and no collector token. -/
theorem generateTask_eq_some {g : GenerateTaskEnv} {forLeader forHelper : InternalTestAddTask}
    (generated : generateTask g = some (forLeader, forHelper)) :
    forLeader.taskId = g.taskId ∧
      forHelper = { forLeader with collectorAuthenticationToken := none, role := .helper } := by
  cases encoded : g.collectorHpkeConfig.config.encode with
  | none => simp [generateTask, encoded] at generated
  | some encoding =>
    simp only [generateTask, encoded, Option.bind_eq_bind, Option.some_bind, Option.pure_def,
      Option.some.injEq, Prod.mk.injEq] at generated
    obtain ⟨rfl, rfl⟩ := generated
    exact ⟨rfl, rfl⟩

/-- **The leader and the helper store the same task.** When the leader's Aggregator accepts the
leader's printed command and the helper's Aggregator the helper's, both store under the task id
the same configuration and expiration, except `not_before`, which each takes from its own clock,
and the version, which each takes from its own request (the version of its route). The two
Aggregators' dependencies are taken to decode and parse alike. -/
theorem generateTask_same_config (g : GenerateTaskEnv) {forLeader forHelper : InternalTestAddTask}
    (generated : generateTask g = some (forLeader, forHelper)) (env env' : AddTaskEnv)
    (sameDecode : env'.decodeBase64urlVec = env.decodeBase64urlVec)
    (sameKey : env'.getDecodedVerifyKey = env.getDecodedVerifyKey)
    (sameParse : env'.parseUsize = env.parseUsize) (version version' : DapVersion)
    (kv kv' : KvStore)
    (leaderOk : (exec (internalAddTask env version forLeader) kv).1 = .ok ())
    (helperOk : (exec (internalAddTask env' version' forHelper) kv').1 = .ok ()) :
    ∃ config expiration,
      (exec (internalAddTask env version forLeader) kv).2.taskConfig g.taskId =
        some (config, expiration) ∧
      (exec (internalAddTask env' version' forHelper) kv').2.taskConfig g.taskId =
        some ({ config with notBefore := env'.currentTime, version := version' }, expiration) := by
  obtain ⟨leaderTask, helper⟩ := generateTask_eq_some generated
  obtain ⟨leaderStored, leaderConfig⟩ :=
    AddTaskRequest.storedConfig_of_ok ⟨env, version, forLeader⟩ kv leaderOk
  have helperConfig :=
    (AddTaskRequest.storedConfig_of_ok ⟨env', version', forHelper⟩ kv' helperOk).2
  have agree : AddTaskRequest.storedConfig ⟨env', version', forHelper⟩ =
      (AddTaskRequest.storedConfig ⟨env, version, forLeader⟩).map fun stored =>
        ({ stored.1 with notBefore := env'.currentTime, version := version' }, stored.2) := by
    have sameQuery : queryConfigOf forHelper = queryConfigOf forLeader := by subst helper; rfl
    have samePrepare : prepareTask env' forHelper = prepareTask env forLeader :=
      prepareTask_congr sameDecode sameKey sameParse (by rw [helper]) (by rw [helper])
        (by rw [helper])
    simp only [AddTaskRequest.storedConfig, sameQuery, samePrepare]
    subst helper
    cases prepareTask env forLeader <;> cases queryConfigOf forLeader <;> rfl
  obtain ⟨stored, leaderSome⟩ := Option.isSome_iff_exists.mp leaderStored
  refine ⟨stored.1, stored.2, ?_, ?_⟩
  · rw [← leaderTask, leaderConfig, leaderSome]
  · have helperTask : forHelper.taskId = g.taskId := by rw [helper]; exact leaderTask
    rw [← helperTask, helperConfig, agree, leaderSome]
    rfl

/-- The test environment's decimal parse, over the string's characters (`String.toNat?` does not
reduce in the kernel). -/
def parseDecimal (s : String) : Option Nat :=
  if !s.toList.isEmpty && s.toList.all Char.isDigit then
    some (s.toList.foldl (fun n c => n * 10 + (c.toNat - '0'.toNat)) 0)
  else none

/-- `passingEnv` with a parse that reduces. -/
def parsingEnv : AddTaskEnv := { passingEnv with parseUsize := parseDecimal }

/-- A draw whose collector configuration has the named codes and an empty public key, and whose
verification key is the bytes `passingEnv` decodes every string to. -/
def exampleGenerator : GenerateTaskEnv where
  now := 0
  taskId := ⟨List.replicate 32 1, rfl⟩
  collectorHpkeConfig := ⟨⟨7, .x25519HkdfSha256, .hkdfSha256, .aes128Gcm, []⟩, []⟩
  vdafVerifyKey := [7, 0, 0x20, 0, 1, 0, 1, 0, 0]
  encodeBase64url _ := "base64"

/-- The example draw, accepted under Draft07 by a leader whose clock reads `0` and under Draft02
by a helper whose clock reads `3600`: both store the task, each with `not_before` from its own
clock and its own version. -/
theorem generateTask_same_config_exampleGenerator :
    ∃ forLeader forHelper, generateTask exampleGenerator = some (forLeader, forHelper) ∧
      ∃ config expiration,
        (exec (internalAddTask parsingEnv .draft07 forLeader) KvStore.empty).2.taskConfig
          exampleGenerator.taskId = some (config, expiration) ∧
        (exec (internalAddTask { parsingEnv with currentTime := 3600 } .draft02 forHelper)
          KvStore.empty).2.taskConfig exampleGenerator.taskId =
            some ({ config with notBefore := 3600, version := .draft02 }, expiration) :=
  ⟨_, _, rfl, generateTask_same_config exampleGenerator rfl parsingEnv
    { parsingEnv with currentTime := 3600 } rfl rfl rfl .draft07 .draft02 KvStore.empty
    KvStore.empty rfl rfl⟩

end Daphne.Server
