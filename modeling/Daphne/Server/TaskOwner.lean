/-
# Daphne.Server.TaskOwner — every stored task is one request's

`addTask_at_most_once` says that at most one request per task returns `Ok`; this module says what
the store holds for a task, however requests of `internal_add_task` interleave. The three entries
of a task are written by three separate `put_if_not_exists`, so a priori a task could end with the
leader token of one command, the collector token of another and the configuration of a third.
It cannot: the request that wins the leader token owns the task, and every later write for the
task is the owner's.

`EntriesAt req phase` says what a task's entries hold when `req` owns it and stands at `phase`:
its leader token, then its collector token, then its configuration; a request that failed leaves
its tokens and no configuration. `TaskOwned w t` says the entries of `t` are empty, or are so
owned by a request that no other request for `t` holds the leader token. One lemma per segment
carries it through the owner's own steps, and confinement (`ConfinedTo`) through every segment
of another task.

* `addTask_stored_task_whole`: from a store that holds nothing for any task, every task
  configuration in the store was stored by one request that returned `Ok`, with that request's
  configuration, and the task's leader and collector tokens are that request's.
* `addTask_acknowledged_stored`: conversely, a request that returned `Ok` has its configuration
  and its tokens stored from then on. With `addTask_at_most_once`, the configured tasks are those
  of an atomic registry that the requests returning `Ok` wrote to, one each.
* `addTask_blocked_forever`: a task whose leader token outlived the request that wrote it (`Blocked`,
  which every segment keeps) never gets a configuration, and no later request for it returns
  `Ok`.
-/
import Daphne.Server.Footprint

namespace Daphne.Server

open KvM

set_option autoImplicit false

/-! ## What the owner's phase says -/

/-- The entries of a task: its configuration, its leader token and its collector token. -/
abbrev TaskEntries := Option (DapTaskConfig × UInt64) × Option BearerToken × Option BearerToken

/-- What the entries of a task hold when `req` owns it and stands at `phase`. -/
def EntriesAt (req : AddTaskRequest) : AddTaskPhase → TaskEntries → Prop
  | .start, _ => False
  | .leaderAdded prepared, entries =>
    prepareTask req.env req.cmd = .ok prepared ∧ entries = (none, some req.leaderToken, none)
  | .collectorAdded prepared, entries =>
    prepareTask req.env req.cmd = .ok prepared ∧
      entries = (none, some req.leaderToken, req.collectorToken)
  | .done (.ok _), entries => entries = (req.storedConfig, some req.leaderToken, req.collectorToken)
  | .done (.error _), entries => entries = (none, some req.leaderToken, none) ∨
      entries = (none, some req.leaderToken, req.collectorToken)

/-- Whatever its phase, an owner leaves its leader token in its task's entries. -/
theorem EntriesAt.leader {req : AddTaskRequest} {phase : AddTaskPhase} {entries : TaskEntries}
    (owns : EntriesAt req phase entries) : entries.2.1 = some req.leaderToken := by
  unfold EntriesAt at owns
  split at owns <;> (try rcases owns with owns | owns) <;> simp_all

/-! ## The owner's segments -/

section Segments

variable {req : AddTaskRequest} {kv : KvStore} {prepared : Prepared}

/-- The collector segment of the owner, from its leader token to its collector token. -/
theorem EntriesAt.collector
    (owns : EntriesAt req (.leaderAdded prepared) ((taskPart req.cmd.taskId).get kv)) :
    EntriesAt req (afterSegment (exec (addCollectorToken req.env req.cmd) kv).1
        fun () => .collectorAdded prepared)
      ((taskPart req.cmd.taskId).get (exec (addCollectorToken req.env req.cmd) kv).2) := by
  obtain ⟨prepared_eq, entries⟩ := owns
  simp only [taskPart, Prod.mk.injEq] at entries
  obtain ⟨config, leader, collector⟩ := entries
  rw [exec_addCollectorToken]
  cases role : req.cmd.role <;> cases token : req.cmd.collectorAuthenticationToken <;>
    simp only [EntriesAt, AddTaskRequest.collectorToken, role, token, taskPart, config, leader,
      collector, true_or, and_self]
  case leader.some tokenString =>
    cases req.env.collectorTokenPutFails <;>
      simp [EntriesAt, collectorBearerTokenEntry, prepared_eq, config, leader, collector]
  all_goals simp [EntriesAt, prepared_eq]

/-- The last segment of the owner, from its collector token to its configuration. -/
theorem EntriesAt.taskConfig
    (owns : EntriesAt req (.collectorAdded prepared) ((taskPart req.cmd.taskId).get kv)) :
    EntriesAt req (afterSegment
        (exec (taskConfigSegment req.env req.version req.cmd prepared) kv).1
        fun () => .done (.ok ()))
      ((taskPart req.cmd.taskId).get
        (exec (taskConfigSegment req.env req.version req.cmd prepared) kv).2) := by
  obtain ⟨prepared_eq, entries⟩ := owns
  simp only [taskPart, Prod.mk.injEq] at entries
  obtain ⟨config, leader, collector⟩ := entries
  rw [exec_taskConfigSegment]
  cases query : queryConfigOf req.cmd with
  | error e => simp [EntriesAt, taskPart, config, leader, collector]
  | ok query =>
    simp only [exec_addTaskConfig, config]
    cases req.env.taskConfigPutFails <;>
      simp [EntriesAt, AddTaskRequest.storedConfig, taskPart, taskConfigEntry, prepared_eq, query,
        config, leader, collector]

end Segments

/-! ## Owned tasks -/

section Owned

variable (requests : Nat → AddTaskRequest)

/-- Request `i` owns task `t`: no other request for `t` holds the leader token, and the entries of
`t` are what `i`'s phase says. -/
structure OwnedBy (w : AddTaskWorld) (t : TaskId) (i : Nat) : Prop where
  task : (requests i).cmd.taskId = t
  sole : ∀ j, (requests j).cmd.taskId = t → (w.phase j).HoldsLeaderToken → j = i
  entries : EntriesAt (requests i) (w.phase i) ((taskPart t).get w.kv)

/-- The entries of task `t` are empty, or one request owns them. -/
def TaskOwned (w : AddTaskWorld) (t : TaskId) : Prop :=
  (taskPart t).get w.kv = (none, none, none) ∨ ∃ i, OwnedBy requests w t i

variable {requests} {w : AddTaskWorld} {t : TaskId} {α : Type} {m : KvM α}
  {next : α → AddTaskPhase}

/-- A holder of the leader token of an owned task is its owner. -/
theorem TaskOwned.owner (inv : TaskOwned requests w t) (holders : OneHolder requests w) {j : Nat}
    (task : (requests j).cmd.taskId = t) (holder : (w.phase j).HoldsLeaderToken) :
    OwnedBy requests w t j := by
  rcases inv with empty | ⟨i, owned⟩
  · have absent : w.kv.leaderBearerToken t = none := congrArg (·.2.1) empty
    exact absurd (task ▸ absent) (holders.stored j holder)
  · exact owned.sole j task holder ▸ owned

/-- A segment of the owner, already a holder, that leaves the entries as its next phase says. -/
theorem OwnedBy.advance_owner {i : Nat} (owned : OwnedBy requests w t i)
    (holder : (w.phase i).HoldsLeaderToken)
    (entries : EntriesAt (requests i) (afterSegment (exec m w.kv).1 next)
      ((taskPart t).get (exec m w.kv).2)) :
    OwnedBy requests (w.advance i m next) t i :=
  ⟨owned.task, fun j task holds => owned.sole j task (OneHolder.fewer_of_holder holder j holds),
    by rwa [AddTaskWorld.advance_phase_self]⟩

/-- A segment of a request for another task leaves an owned task as it was. -/
theorem TaskOwned.advance_other (inv : TaskOwned requests w t) {j : Nat}
    (other : (requests j).cmd.taskId ≠ t)
    (confined : ConfinedTo (taskPart (requests j).cmd.taskId) m) :
    TaskOwned requests (w.advance j m next) t := by
  have part : (taskPart t).get (w.advance j m next).kv = (taskPart t).get w.kv := by
    rw [AddTaskWorld.advance_kv, ← confined.frame w.kv, (taskPart_independent other).get_set_left]
  rcases inv with empty | ⟨i, owned⟩
  · exact .inl (part.trans empty)
  · have ne : i ≠ j := fun same => other (same ▸ owned.task)
    refine .inr ⟨i, owned.task, fun k task holds => owned.sole k task ?_, ?_⟩
    · have : k ≠ j := fun same => other (same ▸ task)
      rwa [AddTaskWorld.advance_phase_of_ne this] at holds
    · rw [part, AddTaskWorld.advance_phase_of_ne ne]
      exact owned.entries

/-- The leader segment of request `j`: on `Ok` it wrote the leader token of a task with empty
entries and owns the task; on an error it wrote nothing and holds nothing. -/
theorem TaskOwned.leader {j : Nat} (inv : TaskOwned requests w (requests j).cmd.taskId)
    (holders : OneHolder requests w) (ready : w.phase j = .start) :
    TaskOwned requests (w.advance j (leaderSegment (requests j).env (requests j).cmd) .leaderAdded)
      (requests j).cmd.taskId := by
  cases ran : exec (leaderSegment (requests j).env (requests j).cmd) w.kv with
  | mk outcome kv' =>
  cases outcome with
  | error e =>
    have kv_eq : (w.advance j (leaderSegment (requests j).env (requests j).cmd) .leaderAdded).kv =
        w.kv := by simp [ran, leaderSegment_error _ _ ran]
    rcases inv with empty | ⟨i, owned⟩
    · exact .inl (kv_eq ▸ empty)
    · have ne : i ≠ j := fun same => by
        have owns := owned.entries
        rwa [same, ready] at owns
      refine .inr ⟨i, owned.task, fun k task holds => ?_, ?_⟩
      · rcases AddTaskWorld.holds_of_advance holds with rfl | old
        · simp [ran, AddTaskPhase.HoldsLeaderToken] at holds
        · exact owned.sole k task old
      · rw [kv_eq, AddTaskWorld.advance_phase_of_ne ne]
        exact owned.entries
  | ok prepared =>
    obtain ⟨prepared_eq, absent, rfl⟩ := leaderSegment_eq_ok _ _ ran
    have empty : w.kv.taskConfig (requests j).cmd.taskId = none ∧
        w.kv.collectorBearerToken (requests j).cmd.taskId = none := by
      rcases inv with empty | ⟨i, owned⟩
      · simp only [taskPart, Prod.mk.injEq] at empty
        exact ⟨empty.1, empty.2.2⟩
      · have leader := owned.entries.leader
        simp [taskPart, absent] at leader
    refine .inr ⟨j, rfl, fun k task holds => ?_, ?_⟩
    · rcases AddTaskWorld.holds_of_advance holds with same | old
      · exact same
      · exact absurd (task ▸ absent) (holders.stored k old)
    · simp [ran, EntriesAt, prepared_eq, taskPart, leaderBearerTokenEntry,
        AddTaskRequest.leaderToken, empty]

/-- A segment of a holder of task `t`'s leader token, which owns `t` therefore, that moves the
entries as its next phase says. -/
theorem TaskOwned.advance_holder (inv : TaskOwned requests w t) (holders : OneHolder requests w)
    {j : Nat} (task : (requests j).cmd.taskId = t) (holder : (w.phase j).HoldsLeaderToken)
    (moves : EntriesAt (requests j) (w.phase j) ((taskPart t).get w.kv) →
      EntriesAt (requests j) (afterSegment (exec m w.kv).1 next)
        ((taskPart t).get (exec m w.kv).2)) :
    TaskOwned requests (w.advance j m next) t :=
  have owned := inv.owner holders task holder
  .inr ⟨j, owned.advance_owner holder (moves owned.entries)⟩

/-- A segment of request `j`, confined to its task's entries, that keeps `j`'s own task owned
keeps every task owned. -/
theorem TaskOwned.advance (inv : ∀ t, TaskOwned requests w t) {j : Nat}
    (confined : ConfinedTo (taskPart (requests j).cmd.taskId) m)
    (own : TaskOwned requests (w.advance j m next) (requests j).cmd.taskId) (t : TaskId) :
    TaskOwned requests (w.advance j m next) t := by
  by_cases same : (requests j).cmd.taskId = t
  · exact same ▸ own
  · exact (inv t).advance_other same confined

/-- Every segment keeps every task owned, given that at most one request holds each leader
token. -/
theorem TaskOwned.step (holders : OneHolder requests w) (inv : ∀ t, TaskOwned requests w t)
    {w' : AddTaskWorld} (next : AddTaskStep requests w w') : ∀ t, TaskOwned requests w' t := by
  cases next with
  | leader j ready =>
    exact TaskOwned.advance inv (confinedTo_leaderSegment _ _) ((inv _).leader holders ready)
  | collector j ready =>
    have holder : (w.phase j).HoldsLeaderToken := by rw [ready]; trivial
    exact TaskOwned.advance inv (confinedTo_addCollectorToken _ _)
      ((inv _).advance_holder holders rfl holder fun owns => by
        rw [ready] at owns
        exact owns.collector)
  | taskConfig j ready =>
    have holder : (w.phase j).HoldsLeaderToken := by rw [ready]; trivial
    exact TaskOwned.advance inv (confinedTo_taskConfigSegment _ _ _ _)
      ((inv _).advance_holder holders rfl holder fun owns => by
        rw [ready] at owns
        exact owns.taskConfig)

end Owned

/-- Only an owner that returned `Ok` leaves a configuration, and then every entry is its. -/
theorem EntriesAt.of_config {req : AddTaskRequest} {phase : AddTaskPhase}
    {c : DapTaskConfig × UInt64} {leader collector : Option BearerToken}
    (owns : EntriesAt req phase (some c, leader, collector)) :
    phase = .done (.ok ()) ∧ req.storedConfig = some c ∧ leader = some req.leaderToken ∧
      collector = req.collectorToken := by
  rcases phase with _ | _ | _ | (_ | _) <;> simp_all [EntriesAt]

/-- From a store that holds nothing for any task, at most one request holds each leader token and
every task is owned, in every state a run reaches. -/
theorem taskOwned_of_reachable (requests : Nat → AddTaskRequest) {kv : KvStore}
    (empty : ∀ t, kv.taskConfig t = none ∧ kv.leaderBearerToken t = none ∧
      kv.collectorBearerToken t = none)
    {w : AddTaskWorld} (reach : Relation.ReflTransGen (AddTaskStep requests)
      (AddTaskWorld.init kv) w) :
    OneHolder requests w ∧ ∀ t, TaskOwned requests w t :=
  reachable_induction (fun w => OneHolder requests w ∧ ∀ t, TaskOwned requests w t)
    ⟨.init kv, fun t => .inl (by simp [taskPart, AddTaskWorld.init, empty t])⟩
    (fun inv next => ⟨inv.1.step next, TaskOwned.step inv.1 inv.2 next⟩) reach

/-- **Every stored task is one request's.** However requests of `internal_add_task` interleave
from a store that holds nothing for any task, every task configuration in the store was stored by
a request for that task that returned `Ok`; it is that request's configuration, and the task's
leader and collector tokens are that request's tokens. -/
theorem addTask_stored_task_whole (requests : Nat → AddTaskRequest) (kv : KvStore)
    (empty : ∀ t, kv.taskConfig t = none ∧ kv.leaderBearerToken t = none ∧
      kv.collectorBearerToken t = none)
    (w : AddTaskWorld) (reach : Relation.ReflTransGen (AddTaskStep requests)
      (AddTaskWorld.init kv) w)
    (t : TaskId) (c : DapTaskConfig × UInt64) (stored : w.kv.taskConfig t = some c) :
    ∃ i, (requests i).cmd.taskId = t ∧ w.phase i = .done (.ok ()) ∧
      (requests i).storedConfig = some c ∧
      w.kv.leaderBearerToken t = some (requests i).leaderToken ∧
      w.kv.collectorBearerToken t = (requests i).collectorToken := by
  rcases (taskOwned_of_reachable requests empty reach).2 t with none_stored | ⟨i, owner⟩
  · simp [taskPart, stored] at none_stored
  · have owns := owner.entries
    simp only [taskPart, stored] at owns
    exact ⟨i, owner.task, owns.of_config⟩

/-- Requests `0` and `1` add the same task, `1` between `0`'s first and second segments: the
stored task is request `0`'s. -/
theorem addTask_stored_task_whole_sameTask :
    ∃ w, Relation.ReflTransGen (AddTaskStep sameTaskRequests)
        (AddTaskWorld.init KvStore.empty) w ∧
      ∃ c, w.kv.taskConfig completeLeaderCmd.taskId = some c ∧
      ∃ i, (sameTaskRequests i).cmd.taskId = completeLeaderCmd.taskId ∧
        w.phase i = .done (.ok ()) ∧ (sameTaskRequests i).storedConfig = some c ∧
        w.kv.leaderBearerToken completeLeaderCmd.taskId =
          some (sameTaskRequests i).leaderToken ∧
        w.kv.collectorBearerToken completeLeaderCmd.taskId =
          (sameTaskRequests i).collectorToken :=
  have first : AddTaskStep sameTaskRequests (AddTaskWorld.init KvStore.empty) _ := .leader 0 rfl
  have reach := (((Relation.ReflTransGen.single first).tail (.leader 1 rfl)).tail
    (.collector 0 rfl)).tail (.taskConfig 0 rfl)
  ⟨_, reach, _, rfl, addTask_stored_task_whole sameTaskRequests KvStore.empty
    (fun _ => ⟨rfl, rfl, rfl⟩) _ reach _ _ rfl⟩

/-- **An acknowledged task stays stored.** However requests of `internal_add_task` interleave
from a store that holds nothing for any task, a request that returned `Ok` has its
configuration and both its tokens stored under its task in every state after it. -/
theorem addTask_acknowledged_stored (requests : Nat → AddTaskRequest) (kv : KvStore)
    (empty : ∀ t, kv.taskConfig t = none ∧ kv.leaderBearerToken t = none ∧
      kv.collectorBearerToken t = none)
    (w : AddTaskWorld) (reach : Relation.ReflTransGen (AddTaskStep requests)
      (AddTaskWorld.init kv) w)
    (i : Nat) (acknowledged : w.phase i = .done (.ok ())) :
    w.kv.taskConfig (requests i).cmd.taskId = (requests i).storedConfig ∧
      w.kv.leaderBearerToken (requests i).cmd.taskId = some (requests i).leaderToken ∧
      w.kv.collectorBearerToken (requests i).cmd.taskId = (requests i).collectorToken := by
  obtain ⟨holders, owned⟩ := taskOwned_of_reachable requests empty reach
  have owns := ((owned _).owner holders rfl (by rw [acknowledged]; trivial)).entries
  rw [acknowledged] at owns
  simpa [EntriesAt, taskPart] using owns

/-- Request `0` adds its task and request `1` then fails on the leader token: request `0`'s task
is stored. -/
theorem addTask_acknowledged_stored_sameTask :
    ∃ w, Relation.ReflTransGen (AddTaskStep sameTaskRequests)
        (AddTaskWorld.init KvStore.empty) w ∧ w.phase 0 = .done (.ok ()) ∧
      w.kv.taskConfig completeLeaderCmd.taskId = (sameTaskRequests 0).storedConfig ∧
      w.kv.leaderBearerToken completeLeaderCmd.taskId = some (sameTaskRequests 0).leaderToken ∧
      w.kv.collectorBearerToken completeLeaderCmd.taskId =
        (sameTaskRequests 0).collectorToken :=
  have first : AddTaskStep sameTaskRequests (AddTaskWorld.init KvStore.empty) _ := .leader 0 rfl
  have reach := (((Relation.ReflTransGen.single first).tail (.collector 0 rfl)).tail
    (.taskConfig 0 rfl)).tail (.leader 1 rfl)
  ⟨_, reach, rfl, addTask_acknowledged_stored sameTaskRequests KvStore.empty
    (fun _ => ⟨rfl, rfl, rfl⟩) _ reach 0 rfl⟩

/-! ## A task whose leader token outlived its request -/

section Blocked

variable (requests : Nat → AddTaskRequest) (t : TaskId)

/-- Task `t` has a leader token and no request for `t` holds it: the request that wrote it
failed. -/
structure Blocked (w : AddTaskWorld) : Prop where
  token : w.kv.leaderBearerToken t ≠ none
  free : ∀ j, (requests j).cmd.taskId = t → ¬ (w.phase j).HoldsLeaderToken

variable {requests t} {w w' : AddTaskWorld}

/-- Every segment keeps a task blocked: its leader token stays, and a request becomes a holder only
by writing the leader token of a task that had none. -/
theorem Blocked.step (blocked : Blocked requests t w) (next : AddTaskStep requests w w') :
    Blocked requests t w' := by
  cases next with
  | leader j ready =>
    refine ⟨keepsLeaderTokens_leaderSegment _ _ w.kv t blocked.token, fun k task holds => ?_⟩
    rcases AddTaskWorld.holds_of_advance holds with rfl | old
    · cases ran : exec (leaderSegment (requests k).env (requests k).cmd) w.kv with
      | mk outcome kv' =>
        cases outcome with
        | error e => simp [ran, AddTaskPhase.HoldsLeaderToken] at holds
        | ok prepared => exact blocked.token (task ▸ (leaderSegment_ok _ _ ran).1)
    · exact blocked.free k task old
  | collector j ready =>
    exact ⟨keepsLeaderTokens_addCollectorToken _ _ w.kv t blocked.token, fun k task holds =>
      blocked.free k task (OneHolder.fewer_of_holder (by rw [ready]; trivial) k holds)⟩
  | taskConfig j ready =>
    exact ⟨keepsLeaderTokens_taskConfigSegment _ _ _ _ w.kv t blocked.token, fun k task holds =>
      blocked.free k task (OneHolder.fewer_of_holder (by rw [ready]; trivial) k holds)⟩

end Blocked

/-- **A task whose leader token outlived its request is never added.** However requests of
`internal_add_task` interleave from a store that holds nothing for any task, once a task has a
leader token while every request for it has failed or not started, the task has no configuration
in any later state, and no request for it ever returns `Ok`. -/
theorem addTask_blocked_forever (requests : Nat → AddTaskRequest) (kv : KvStore)
    (empty : ∀ t, kv.taskConfig t = none ∧ kv.leaderBearerToken t = none ∧
      kv.collectorBearerToken t = none)
    (w : AddTaskWorld) (reach : Relation.ReflTransGen (AddTaskStep requests)
      (AddTaskWorld.init kv) w)
    (t : TaskId) (token : w.kv.leaderBearerToken t ≠ none)
    (failed : ∀ j, (requests j).cmd.taskId = t →
      w.phase j = .start ∨ ∃ e, w.phase j = .done (.error e))
    (w' : AddTaskWorld) (later : Relation.ReflTransGen (AddTaskStep requests) w w') :
    w'.kv.taskConfig t = none ∧ ∀ j, (requests j).cmd.taskId = t → w'.phase j ≠ .done (.ok ()) := by
  have start : Blocked requests t w := ⟨token, fun j task holds => by
    rcases failed j task with phase | ⟨e, phase⟩ <;> rw [phase] at holds <;> exact holds⟩
  have blocked := reachable_induction (Blocked requests t) start Blocked.step later
  have notOk : ∀ j, (requests j).cmd.taskId = t → w'.phase j ≠ .done (.ok ()) :=
    fun j task ok => blocked.free j task (by rw [ok]; trivial)
  refine ⟨?_, notOk⟩
  rcases (taskOwned_of_reachable requests empty (reach.trans later)).2 t with nothing | ⟨i, owner⟩
  · exact congrArg (·.1) nothing
  · cases stored : w'.kv.taskConfig t with
    | none => rfl
    | some c =>
      have owns := owner.entries
      simp only [taskPart, stored] at owns
      exact absurd owns.of_config.1 (notOk i owner.task)

/-- Request `0` adds the task of `leaderCmd`, with no collector token; requests `1, 2, …` add the
same task with one. -/
def blockedRequests : Nat → AddTaskRequest
  | 0 => ⟨passingEnv, .draft07, leaderCmd⟩
  | _ + 1 => ⟨passingEnv, .draft07, completeLeaderCmd⟩

/-- Request `0` writes its leader token and fails on the missing collector token; request `1`,
whose command would add the task, then fails on the leader token, and the task stays
unconfigured. -/
theorem addTask_blocked_forever_leaderCmd :
    ∃ w w', Relation.ReflTransGen (AddTaskStep blockedRequests)
        (AddTaskWorld.init KvStore.empty) w ∧
      Relation.ReflTransGen (AddTaskStep blockedRequests) w w' ∧
      w.kv.leaderBearerToken leaderCmd.taskId ≠ none ∧
      w'.phase 1 = .done (.error (.fatal
        "command failed: token already exists for the given task and bearer role (leader)")) ∧
      w'.kv.taskConfig leaderCmd.taskId = none ∧
      ∀ j, (blockedRequests j).cmd.taskId = leaderCmd.taskId → w'.phase j ≠ .done (.ok ()) :=
  have first : AddTaskStep blockedRequests (AddTaskWorld.init KvStore.empty) _ := .leader 0 rfl
  have reach := (Relation.ReflTransGen.single first).tail (.collector 0 rfl)
  ⟨_, _, reach, .single (.leader 1 rfl), by decide, rfl,
    addTask_blocked_forever blockedRequests KvStore.empty (fun _ => ⟨rfl, rfl, rfl⟩) _ reach
      leaderCmd.taskId (by decide) (fun | 0, _ => .inr ⟨_, rfl⟩ | _ + 1, _ => .inl rfl) _
      (.single (.leader 1 rfl))⟩

end Daphne.Server
