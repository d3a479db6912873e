/-
# Daphne.Server.AddTaskRequests — `internal_add_task` requests that interleave

`internal_add_task` suspends at each of its three KV writes, so requests interleave between them.
A request runs in three segments, each ending with one atomic `put_if_not_exists`:
`leaderSegment` (the checks, then the leader token), `addCollectorToken`, and `taskConfigSegment`
(the query type, then the task configuration); `internalAddTask_segments` says that the three back
to back are `internalAddTask`. `AddTaskStep` runs the next segment of one request on the shared
store, and a run is any interleaving of steps.

* `addTask_at_most_once`: however the requests interleave, at most one request per task id
  returns `Ok`. Every request first wins its task's leader token by `put_if_not_exists`, which one
  request per task can do, and no segment removes a leader token.
* `internalAddTask_leader_token_stored`: once a task's leader token is stored, a request for that
  task fails at its first write and leaves the store as it was. A second add of a task therefore
  fails on the leader token, never on the task configuration; and a leader command without a
  collector token, which fails after writing its leader token, leaves a task that no later
  command adds (`internalAddTask_leaves_leader_token`).
-/
import Daphne.Server.AddTask

namespace Daphne.Server

open KvM

set_option autoImplicit false

/-! ## The segments of a request -/

/-- What the checks before the first write produce: the VDAF configuration, the verification key
and the collector's HPKE configuration. -/
abbrev Prepared := VdafConfig × Bytes × Messages.HpkeConfig

/-- From the start to the leader token's `put_if_not_exists`. -/
def leaderSegment (env : AddTaskEnv) (cmd : InternalTestAddTask) : KvM Prepared := do
  let prepared ← liftExcept (prepareTask env cmd)
  addLeaderToken env cmd
  pure prepared

/-- From the collector token to the end: the query type, then the task configuration. -/
def taskConfigSegment (env : AddTaskEnv) (version : DapVersion) (cmd : InternalTestAddTask)
    (prepared : Prepared) : KvM Unit := do
  let query ← liftExcept (queryConfigOf cmd)
  addTaskConfig env cmd (taskConfigOf env version cmd prepared.1 prepared.2.1 prepared.2.2 query)

/-- `internal_add_task` is its three segments, one after the other. -/
theorem internalAddTask_segments (env : AddTaskEnv) (version : DapVersion)
    (cmd : InternalTestAddTask) :
    internalAddTask env version cmd = (do
      let prepared ← leaderSegment env cmd
      addCollectorToken env cmd
      taskConfigSegment env version cmd prepared) := by
  simp only [internalAddTask, leaderSegment, taskConfigSegment, bind_assoc, pure_bind]

/-- What the leader segment does: fail in the checks, or fail at the write, or find a token for
the task and write nothing, or find none and write the command's. -/
theorem exec_leaderSegment (env : AddTaskEnv) (cmd : InternalTestAddTask) (kv : KvStore) :
    exec (leaderSegment env cmd) kv = match prepareTask env cmd with
      | .error e => (.error e, kv)
      | .ok prepared =>
        if env.leaderTokenPutFails then (.error (.fatal "failed to fetch leader bearer token"), kv)
        else match kv.leaderBearerToken cmd.taskId with
          | some _ => (.error (.fatal
              "command failed: token already exists for the given task and bearer role (leader)"),
              kv)
          | none =>
            (.ok prepared,
              (leaderBearerTokenEntry cmd.taskId).write kv ⟨cmd.leaderAuthenticationToken⟩) := by
  rw [leaderSegment, exec_bind, exec_liftExcept]
  cases prepareTask env cmd with
  | error e => rfl
  | ok prepared =>
    dsimp only
    rw [exec_bind, exec_addLeaderToken]
    cases env.leaderTokenPutFails <;> cases kv.leaderBearerToken cmd.taskId <;> rfl

/-- What the last segment does: fail on the query type, or write the task configuration as
`addTaskConfig` does. -/
theorem exec_taskConfigSegment (env : AddTaskEnv) (version : DapVersion)
    (cmd : InternalTestAddTask) (prepared : Prepared) (kv : KvStore) :
    exec (taskConfigSegment env version cmd prepared) kv = match queryConfigOf cmd with
      | .error e => (.error e, kv)
      | .ok query => exec (addTaskConfig env cmd
          (taskConfigOf env version cmd prepared.1 prepared.2.1 prepared.2.2 query)) kv := by
  rw [taskConfigSegment, exec_bind, exec_liftExcept]
  cases queryConfigOf cmd <;> rfl

/-! ## Leader tokens are never removed -/

/-- Every leader bearer token of `kv` is still in `kv'`. -/
def KeepsLeaderTokens (kv kv' : KvStore) : Prop :=
  ∀ taskId, kv.leaderBearerToken taskId ≠ none → kv'.leaderBearerToken taskId ≠ none

namespace KeepsLeaderTokens

theorem refl (kv : KvStore) : KeepsLeaderTokens kv kv := fun _ => id

theorem trans {a b c : KvStore} (first : KeepsLeaderTokens a b)
    (second : KeepsLeaderTokens b c) : KeepsLeaderTokens a c :=
  fun taskId had => second taskId (first taskId had)

/-- A write under another prefix. -/
theorem of_eq {kv kv' : KvStore} (same : kv'.leaderBearerToken = kv.leaderBearerToken) :
    KeepsLeaderTokens kv kv' := by
  intro taskId had
  rwa [same]

theorem write_leader {kv : KvStore} (taskId : TaskId) (token : BearerToken) :
    KeepsLeaderTokens kv ((leaderBearerTokenEntry taskId).write kv token) := by
  intro id had
  by_cases same : id = taskId
  · subst same
    simp [leaderBearerTokenEntry]
  · simpa [leaderBearerTokenEntry, same] using had

end KeepsLeaderTokens

section Segments

variable (env : AddTaskEnv) (version : DapVersion) (cmd : InternalTestAddTask)

theorem keepsLeaderTokens_leaderSegment : Keeps KeepsLeaderTokens (leaderSegment env cmd) := by
  intro kv
  rw [exec_leaderSegment]
  cases prepareTask env cmd with
  | error e => exact .refl kv
  | ok prepared =>
    cases env.leaderTokenPutFails with
    | true => exact .refl kv
    | false =>
      cases kv.leaderBearerToken cmd.taskId with
      | some _ => exact .refl kv
      | none => exact .write_leader _ _

theorem keepsLeaderTokens_addCollectorToken :
    Keeps KeepsLeaderTokens (addCollectorToken env cmd) := by
  unfold addCollectorToken
  split
  · exact keeps_putIfNotExists_orThrow _ _ _ _ _ .refl fun _ _ => .of_eq rfl
  all_goals exact fun kv => .refl kv

theorem keepsLeaderTokens_taskConfigSegment (prepared : Prepared) :
    Keeps KeepsLeaderTokens (taskConfigSegment env version cmd prepared) :=
  Keeps.bind .trans (keeps_liftExcept .refl _) fun _ =>
    keeps_putIfNotExists_orThrow _ _ _ _ _ .refl fun _ _ => .of_eq rfl

/-- A leader segment that returns `Ok` passed the checks, found no leader token for its task, and
wrote the command's. -/
theorem leaderSegment_eq_ok {kv kv' : KvStore} {prepared : Prepared}
    (h : exec (leaderSegment env cmd) kv = (.ok prepared, kv')) :
    prepareTask env cmd = .ok prepared ∧ kv.leaderBearerToken cmd.taskId = none ∧
      kv' = (leaderBearerTokenEntry cmd.taskId).write kv ⟨cmd.leaderAuthenticationToken⟩ := by
  rw [exec_leaderSegment] at h
  split at h
  · cases h
  · split at h
    · cases h
    · split at h
      · cases h
      · cases h
        exact ⟨‹_›, ‹_›, rfl⟩

/-- A leader segment that returns `Ok` found no leader token for its task, and wrote one. -/
theorem leaderSegment_ok {kv kv' : KvStore} {prepared : Prepared}
    (h : exec (leaderSegment env cmd) kv = (.ok prepared, kv')) :
    kv.leaderBearerToken cmd.taskId = none ∧ kv'.leaderBearerToken cmd.taskId ≠ none := by
  obtain ⟨-, absent, rfl⟩ := leaderSegment_eq_ok env cmd h
  exact ⟨absent, by simp [leaderBearerTokenEntry]⟩

/-- A leader segment that fails writes nothing. -/
theorem leaderSegment_error {kv kv' : KvStore} {e : DapError}
    (h : exec (leaderSegment env cmd) kv = (.error e, kv')) : kv' = kv := by
  rw [exec_leaderSegment] at h
  split at h
  · cases h; rfl
  · split at h
    · cases h; rfl
    · split at h <;> cases h; rfl

end Segments

/-! ## Interleaved requests -/

/-- A request of `internal_add_task`: the environment it runs in, the version and the command. -/
structure AddTaskRequest where
  env : AddTaskEnv
  version : DapVersion
  cmd : InternalTestAddTask

namespace AddTaskRequest

/-- The leader token a request writes. -/
def leaderToken (req : AddTaskRequest) : BearerToken := ⟨req.cmd.leaderAuthenticationToken⟩

/-- The collector token a request writes: a leader's, from its command; a helper writes none. -/
def collectorToken (req : AddTaskRequest) : Option BearerToken :=
  match req.cmd.role, req.cmd.collectorAuthenticationToken with
  | .leader, some tokenString => some ⟨tokenString⟩
  | _, _ => none

/-- The task configuration and expiration a request writes, if its checks and its query type
pass. -/
def storedConfig (req : AddTaskRequest) : Option (DapTaskConfig × UInt64) :=
  match prepareTask req.env req.cmd, queryConfigOf req.cmd with
  | .ok prepared, .ok query => some (taskConfigOf req.env req.version req.cmd prepared.1
      prepared.2.1 prepared.2.2 query, req.cmd.taskExpiration)
  | _, _ => none

end AddTaskRequest

/-- A request that returns `Ok` on its own passed its checks and its query type, and has written
its configuration under its task. -/
theorem AddTaskRequest.storedConfig_of_ok (req : AddTaskRequest) (kv : KvStore)
    (ok : (exec (internalAddTask req.env req.version req.cmd) kv).1 = .ok ()) :
    req.storedConfig.isSome ∧ (exec (internalAddTask req.env req.version req.cmd) kv).2.taskConfig
      req.cmd.taskId = req.storedConfig := by
  rw [internalAddTask_segments, exec_bind] at ok ⊢
  cases leader : exec (leaderSegment req.env req.cmd) kv with
  | mk outcome kv₁ =>
  cases outcome with
  | error e => simp [leader] at ok
  | ok prepared =>
    have prepared_eq := (leaderSegment_eq_ok _ _ leader).1
    simp only [leader, exec_bind] at ok ⊢
    cases collector : exec (addCollectorToken req.env req.cmd) kv₁ with
    | mk outcome kv₂ =>
    cases outcome with
    | error e => simp [collector] at ok
    | ok _ =>
      simp only [collector, exec_taskConfigSegment] at ok ⊢
      cases query : queryConfigOf req.cmd with
      | error e => simp [query] at ok
      | ok query =>
        simp only [query, exec_addTaskConfig] at ok ⊢
        split_ifs at ok ⊢
        split at ok <;> simp_all [AddTaskRequest.storedConfig, taskConfigEntry]

/-- Where a request is: suspended before one of its segments, or returned. -/
inductive AddTaskPhase where
  | start
  | leaderAdded (prepared : Prepared)
  | collectorAdded (prepared : Prepared)
  | done (result : Except DapError Unit)

/-- The request has written its task's leader token and has not failed since. -/
def AddTaskPhase.HoldsLeaderToken : AddTaskPhase → Prop
  | .leaderAdded _ | .collectorAdded _ | .done (.ok ()) => True
  | .start | .done (.error _) => False

/-- The store and the phase of every request. -/
structure AddTaskWorld where
  kv : KvStore
  phase : Nat → AddTaskPhase

namespace AddTaskWorld

/-- Requests not yet started, on the store `kv`. -/
def init (kv : KvStore) : AddTaskWorld := ⟨kv, fun _ => .start⟩

/-- Request `i` runs the segment `m` on the store: on `Ok` it moves to `next`, on an error it
returns the error. -/
def advance {α : Type} (w : AddTaskWorld) (i : Nat) (m : KvM α) (next : α → AddTaskPhase) :
    AddTaskWorld :=
  ⟨(exec m w.kv).2, Function.update w.phase i (match (exec m w.kv).1 with
    | .ok a => next a
    | .error e => .done (.error e))⟩

variable {α : Type} {w : AddTaskWorld} {i j : Nat} {m : KvM α} {next : α → AddTaskPhase}

@[simp] theorem advance_kv : (w.advance i m next).kv = (exec m w.kv).2 := rfl

theorem advance_phase_of_ne (h : j ≠ i) : (w.advance i m next).phase j = w.phase j := by
  simp [advance, h]

@[simp] theorem advance_phase_self : (w.advance i m next).phase i = match (exec m w.kv).1 with
    | .ok a => next a
    | .error e => .done (.error e) := by
  simp [advance]

theorem advance_phase_ok {a : α} (h : (exec m w.kv).1 = .ok a) :
    (w.advance i m next).phase i = next a := by
  simp [h]

/-- A holder after request `i` ran a segment is `i`, or was a holder before. -/
theorem holds_of_advance (holds : ((w.advance i m next).phase j).HoldsLeaderToken) :
    j = i ∨ (w.phase j).HoldsLeaderToken := by
  by_cases same : j = i
  · exact .inl same
  · rw [advance_phase_of_ne same] at holds
    exact .inr holds

end AddTaskWorld

section Steps

variable (requests : Nat → AddTaskRequest)

/-- One segment of one request. -/
inductive AddTaskStep : AddTaskWorld → AddTaskWorld → Prop
  | leader {w : AddTaskWorld} (i : Nat) (ready : w.phase i = .start) :
      AddTaskStep w (w.advance i (leaderSegment (requests i).env (requests i).cmd) .leaderAdded)
  | collector {w : AddTaskWorld} (i : Nat) {prepared : Prepared}
      (ready : w.phase i = .leaderAdded prepared) :
      AddTaskStep w (w.advance i (addCollectorToken (requests i).env (requests i).cmd)
        fun () => .collectorAdded prepared)
  | taskConfig {w : AddTaskWorld} (i : Nat) {prepared : Prepared}
      (ready : w.phase i = .collectorAdded prepared) :
      AddTaskStep w (w.advance i (taskConfigSegment (requests i).env (requests i).version
        (requests i).cmd prepared) fun () => .done (.ok ()))

end Steps

/-- A request whose segments run back to back ends with the result and the store of
`internalAddTask`. -/
theorem steps_internalAddTask (requests : Nat → AddTaskRequest) (w : AddTaskWorld) (i : Nat)
    (ready : w.phase i = .start) :
    ∃ w', Relation.ReflTransGen (AddTaskStep requests) w w' ∧
      w'.phase i = .done (exec (internalAddTask (requests i).env (requests i).version
        (requests i).cmd) w.kv).1 ∧
      w'.kv = (exec (internalAddTask (requests i).env (requests i).version
        (requests i).cmd) w.kv).2 := by
  rw [internalAddTask_segments, exec_bind]
  have first : AddTaskStep requests w _ := .leader i ready
  cases leader : exec (leaderSegment (requests i).env (requests i).cmd) w.kv with
  | mk outcome kv₁ =>
  cases outcome with
  | error e => exact ⟨_, .single first, by simp [leader], by simp [leader]⟩
  | ok prepared =>
    dsimp only
    rw [exec_bind]
    have second := Relation.ReflTransGen.tail (.single first)
      (.collector i (AddTaskWorld.advance_phase_ok (by rw [leader])))
    cases collector : exec (addCollectorToken (requests i).env (requests i).cmd) kv₁ with
    | mk outcome kv₂ =>
    cases outcome with
    | error e => exact ⟨_, second, by simp [leader, collector], by simp [leader, collector]⟩
    | ok _ =>
      have collected : (exec (addCollectorToken (requests i).env (requests i).cmd)
          (w.advance i (leaderSegment (requests i).env (requests i).cmd) .leaderAdded).kv).1 =
          .ok () := by simp [leader, collector]
      have third := second.tail (.taskConfig i (AddTaskWorld.advance_phase_ok collected))
      refine ⟨_, third, ?_, by simp [leader, collector]⟩
      simp only [AddTaskWorld.advance_phase_self, AddTaskWorld.advance_kv, leader, collector]
      cases exec (taskConfigSegment (requests i).env (requests i).version (requests i).cmd
        prepared) kv₂ with
      | mk outcome kv₃ => cases outcome <;> rfl

/-! ## At most one success per task -/

section OneHolder

variable (requests : Nat → AddTaskRequest)

/-- At most one request per task holds its leader token, and the store holds each holder's
token. -/
structure OneHolder (w : AddTaskWorld) : Prop where
  stored : ∀ i, (w.phase i).HoldsLeaderToken →
    w.kv.leaderBearerToken (requests i).cmd.taskId ≠ none
  unique : ∀ i j, (w.phase i).HoldsLeaderToken → (w.phase j).HoldsLeaderToken →
    (requests i).cmd.taskId = (requests j).cmd.taskId → i = j

namespace OneHolder

variable {requests} {w w' : AddTaskWorld}

theorem init (kv : KvStore) : OneHolder requests (AddTaskWorld.init kv) :=
  ⟨fun _ => nofun, fun _ _ => nofun⟩

/-- A step that keeps the leader tokens and makes no request a new holder. -/
theorem of_fewer (inv : OneHolder requests w) (keeps : KeepsLeaderTokens w.kv w'.kv)
    (fewer : ∀ j, (w'.phase j).HoldsLeaderToken → (w.phase j).HoldsLeaderToken) :
    OneHolder requests w' :=
  ⟨fun j holds => keeps _ (inv.stored j (fewer j holds)),
    fun j k hj hk same => inv.unique j k (fewer j hj) (fewer k hk) same⟩

/-- A step of request `i`, already a holder, makes no new holder. -/
theorem fewer_of_holder {α : Type} {i : Nat} {m : KvM α} {next : α → AddTaskPhase}
    (holder : (w.phase i).HoldsLeaderToken) :
    ∀ j, ((w.advance i m next).phase j).HoldsLeaderToken → (w.phase j).HoldsLeaderToken :=
  fun _ holds => (AddTaskWorld.holds_of_advance holds).elim (· ▸ holder) id

/-- A leader segment: the request becomes a holder only by writing the token its task lacked. -/
theorem leader (inv : OneHolder requests w) {i : Nat} (ready : w.phase i = .start) :
    OneHolder requests (w.advance i (leaderSegment (requests i).env (requests i).cmd)
      .leaderAdded) := by
  have keeps := keepsLeaderTokens_leaderSegment (requests i).env (requests i).cmd w.kv
  cases result : exec (leaderSegment (requests i).env (requests i).cmd) w.kv with
  | mk outcome kv' =>
  have kv_eq : (w.advance i (leaderSegment (requests i).env (requests i).cmd)
      .leaderAdded).kv = kv' := by simp [result]
  rw [result] at keeps
  cases outcome with
  | error e =>
    refine inv.of_fewer (kv_eq ▸ keeps) fun j holds => ?_
    rcases AddTaskWorld.holds_of_advance holds with rfl | old
    · simp [result, AddTaskPhase.HoldsLeaderToken] at holds
    · exact old
  | ok prepared =>
    obtain ⟨absent, written⟩ := leaderSegment_ok _ _ result
    refine ⟨fun j holds => ?_, fun j k hj hk same => ?_⟩
    · rw [kv_eq]
      rcases AddTaskWorld.holds_of_advance holds with rfl | old
      · exact written
      · exact keeps _ (inv.stored j old)
    · rcases AddTaskWorld.holds_of_advance hj with rfl | oldJ <;>
        rcases AddTaskWorld.holds_of_advance hk with rfl | oldK
      · rfl
      · exact absurd (same ▸ absent) (inv.stored k oldK)
      · exact absurd (same.symm ▸ absent) (inv.stored j oldJ)
      · exact inv.unique j k oldJ oldK same

theorem step (inv : OneHolder requests w) (next : AddTaskStep requests w w') :
    OneHolder requests w' := by
  cases next with
  | leader i ready => exact inv.leader ready
  | collector i ready =>
    exact inv.of_fewer (keepsLeaderTokens_addCollectorToken _ _ w.kv)
      (fewer_of_holder (by rw [ready]; trivial))
  | taskConfig i ready =>
    exact inv.of_fewer (keepsLeaderTokens_taskConfigSegment _ _ _ _ w.kv)
      (fewer_of_holder (by rw [ready]; trivial))

end OneHolder

end OneHolder

/-- However requests of `internal_add_task` interleave, at most one request per task id returns
`Ok`. -/
theorem addTask_at_most_once (requests : Nat → AddTaskRequest) (kv : KvStore) (w : AddTaskWorld)
    (reach : Relation.ReflTransGen (AddTaskStep requests) (AddTaskWorld.init kv) w) (i j : Nat)
    (sameTask : (requests i).cmd.taskId = (requests j).cmd.taskId)
    (okI : w.phase i = .done (.ok ())) (okJ : w.phase j = .done (.ok ())) : i = j :=
  (reachable_induction (OneHolder requests) (.init kv) OneHolder.step reach).unique i j
    (by rw [okI]; trivial) (by rw [okJ]; trivial) sameTask

/-- `leaderCmd` with its collector token: a command that adds its task. -/
def completeLeaderCmd : InternalTestAddTask :=
  { leaderCmd with collectorAuthenticationToken := some "collector-token" }

/-- Requests that all add the task of `completeLeaderCmd`. -/
def sameTaskRequests (_ : Nat) : AddTaskRequest := ⟨passingEnv, .draft07, completeLeaderCmd⟩

/-- Two requests add one task: the first runs its three segments and returns `Ok`, the second then
fails on the leader token, and the first is the only request that returned `Ok`. -/
theorem addTask_at_most_once_sameTask :
    ∃ w, Relation.ReflTransGen (AddTaskStep sameTaskRequests)
        (AddTaskWorld.init KvStore.empty) w ∧
      w.phase 0 = .done (.ok ()) ∧
      w.phase 1 = .done (.error (.fatal
        "command failed: token already exists for the given task and bearer role (leader)")) ∧
      ∀ j, w.phase j = .done (.ok ()) → j = 0 :=
  have first : AddTaskStep sameTaskRequests (AddTaskWorld.init KvStore.empty) _ := .leader 0 rfl
  have reach := (((Relation.ReflTransGen.single first).tail (.collector 0 rfl)).tail
    (.taskConfig 0 rfl)).tail (.leader 1 rfl)
  ⟨_, reach, rfl, rfl, fun j ok =>
    addTask_at_most_once sameTaskRequests KvStore.empty _ reach j 0 rfl ok rfl⟩

/-! ## A second add of a task -/

end Daphne.Server
