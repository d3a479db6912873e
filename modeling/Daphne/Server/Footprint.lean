/-
# Daphne.Server.Footprint — requests on different entries do not interfere

Each test route reads and writes a few entries of the store: `internal_add_task` the task
configuration and the two bearer tokens of its task, `internal_add_hpke_config` the receiver set
of its version. A `Part` is such a piece of the store, with the laws of a lens as fields, and
`ConfinedTo p m` says that `m` changes nothing outside `p` and that what it returns and leaves in
`p` depends on `p` alone. `ConfinedTo.bind` carries confinement through a request's steps, and
`ConfinedTo.commute` says that two requests confined to independent parts commute: run one after
the other (`serially`), in either order, each returns the same result and the store ends the same.

* `internalAddTask_commute`: two `internal_add_task` commands for different task ids.
* `internalAddTask_commute_addHpkeConfig`: an `internal_add_task` command and an
  `internal_add_hpke_config` request, whatever their task and version.
* `addTask_serializable`: in the interleaved runs of `AddTaskRequests`, a request whose task id
  no other request uses returns what it returns alone, and leaves its task's entries as it leaves
  them alone. The invariant `Serial` pairs the request's phase with its solo run (`SoloAt`); a
  segment of another request keeps it by confinement and independence, a segment of its own by
  confinement alone.

`internalAddTask_commute_otherTask` runs two commands for different tasks on the empty store, and
`addTask_serializable_interleaved` interleaves two such requests.
-/
import Daphne.Server.AddTask
import Daphne.Server.AddTaskRequests
import Daphne.Server.AddHpkeConfig

namespace Daphne.Server

open KvM

set_option autoImplicit false

/-! ## Parts of the store -/

/-- A piece of the store: `get` reads it and `set` writes it back, leaving the rest. -/
structure Part (S : Type) where
  get : KvStore → S
  set : KvStore → S → KvStore
  get_set : ∀ kv s, get (set kv s) = s
  set_get : ∀ kv, set kv (get kv) = kv
  set_set : ∀ kv s t, set (set kv s) t = set kv t

/-- Two parts that do not overlap: writing one leaves the other, and the writes commute. -/
structure Part.Independent {S T : Type} (p : Part S) (q : Part T) : Prop where
  get_set_right : ∀ kv t, p.get (q.set kv t) = p.get kv
  get_set_left : ∀ kv s, q.get (p.set kv s) = q.get kv
  set_comm : ∀ kv s t, p.set (q.set kv t) s = q.set (p.set kv s) t

/-- An entry that lives in the part `p`: its read depends on `p` alone, and its write changes `p`
alone, in a way that depends on `p` alone. -/
structure Entry.Within {V S : Type} (entry : Entry V) (p : Part S) : Prop where
  read : ∀ {kv kv'}, p.get kv = p.get kv' → entry.read kv = entry.read kv'
  frame : ∀ kv v, p.set kv (p.get (entry.write kv v)) = entry.write kv v
  write : ∀ {kv kv'} v, p.get kv = p.get kv' → p.get (entry.write kv v) = p.get (entry.write kv' v)

/-- The entries of one task: its configuration and its leader's and collector's bearer tokens. -/
def taskPart (taskId : TaskId) :
    Part (Option (DapTaskConfig × UInt64) × Option BearerToken × Option BearerToken) where
  get kv := (kv.taskConfig taskId, kv.leaderBearerToken taskId, kv.collectorBearerToken taskId)
  set kv s := { kv with
    taskConfig := Function.update kv.taskConfig taskId s.1
    leaderBearerToken := Function.update kv.leaderBearerToken taskId s.2.1
    collectorBearerToken := Function.update kv.collectorBearerToken taskId s.2.2 }
  get_set _ _ := by simp
  set_get _ := by simp
  set_set _ _ _ := by simp

/-- The receiver set of one version. -/
def hpkePart (version : DapVersion) : Part (Option (List HpkeReceiverConfig)) where
  get kv := kv.hpkeReceiverConfigSet version
  set kv s := { kv with
    hpkeReceiverConfigSet := Function.update kv.hpkeReceiverConfigSet version s }
  get_set _ _ := by simp
  set_get _ := by simp
  set_set _ _ _ := by simp

theorem taskPart_get_eq {taskId : TaskId} {kv kv' : KvStore}
    (h : (taskPart taskId).get kv = (taskPart taskId).get kv') :
    kv.taskConfig taskId = kv'.taskConfig taskId ∧
      kv.leaderBearerToken taskId = kv'.leaderBearerToken taskId ∧
      kv.collectorBearerToken taskId = kv'.collectorBearerToken taskId := by
  simpa [taskPart] using h

theorem taskPart_independent {taskId taskId' : TaskId} (different : taskId ≠ taskId') :
    (taskPart taskId).Independent (taskPart taskId') where
  get_set_right _ _ := by simp [taskPart, Function.update_noteq different]
  get_set_left _ _ := by simp [taskPart, Function.update_noteq different.symm]
  set_comm _ _ _ := by
    simp only [taskPart, Function.update_comm different.symm]

theorem taskPart_independent_hpkePart (taskId : TaskId) (version : DapVersion) :
    (taskPart taskId).Independent (hpkePart version) where
  get_set_right _ _ := rfl
  get_set_left _ _ := rfl
  set_comm _ _ _ := rfl

theorem within_taskConfigEntry (taskId : TaskId) :
    (taskConfigEntry taskId).Within (taskPart taskId) where
  read h := (taskPart_get_eq h).1
  frame _ _ := by simp [taskPart, taskConfigEntry]
  write _ h := by simp [taskPart, taskConfigEntry, (taskPart_get_eq h).2]

theorem within_leaderBearerTokenEntry (taskId : TaskId) :
    (leaderBearerTokenEntry taskId).Within (taskPart taskId) where
  read h := (taskPart_get_eq h).2.1
  frame _ _ := by simp [taskPart, leaderBearerTokenEntry]
  write _ h := by
    obtain ⟨config, _, collector⟩ := taskPart_get_eq h
    simp [taskPart, leaderBearerTokenEntry, config, collector]

theorem within_collectorBearerTokenEntry (taskId : TaskId) :
    (collectorBearerTokenEntry taskId).Within (taskPart taskId) where
  read h := (taskPart_get_eq h).2.2
  frame _ _ := by simp [taskPart, collectorBearerTokenEntry]
  write _ h := by simp [taskPart, collectorBearerTokenEntry, (taskPart_get_eq h).1,
    (taskPart_get_eq h).2.1]

theorem within_hpkeReceiverConfigSetEntry (version : DapVersion) :
    (hpkeReceiverConfigSetEntry version).Within (hpkePart version) where
  read h := h
  frame _ _ := by simp [hpkePart, hpkeReceiverConfigSetEntry]
  write _ _ := by simp [hpkePart, hpkeReceiverConfigSetEntry]

/-! ## Requests confined to a part -/

variable {α β : Type}

/-- `m` changes nothing outside `p`, and what it returns and leaves in `p` depends on `p`
alone. -/
structure ConfinedTo {S : Type} (p : Part S) (m : KvM α) : Prop where
  frame : ∀ kv, p.set kv (p.get (exec m kv).2) = (exec m kv).2
  determined : ∀ {kv kv'}, p.get kv = p.get kv' →
    (exec m kv).1 = (exec m kv').1 ∧ p.get (exec m kv).2 = p.get (exec m kv').2

namespace ConfinedTo

variable {S : Type} {p : Part S}

/-- A request that writes nothing and whose result depends on `p` alone. -/
theorem of_exec {m : KvM α} (unchanged : ∀ kv, (exec m kv).2 = kv)
    (result : ∀ {kv kv'}, p.get kv = p.get kv' → (exec m kv).1 = (exec m kv').1) :
    ConfinedTo p m where
  frame kv := by rw [unchanged]; exact p.set_get kv
  determined same := by simp only [unchanged]; exact ⟨result same, same⟩

theorem liftExcept (e : Except DapError α) : ConfinedTo p (Daphne.Server.liftExcept e) :=
  of_exec (fun _ => by simp) fun _ => by simp

theorem pure (a : α) : ConfinedTo p (Pure.pure a : KvM α) :=
  of_exec (fun _ => rfl) fun _ => rfl

theorem bind {m : KvM α} {f : α → KvM β} (first : ConfinedTo p m)
    (second : ∀ a, ConfinedTo p (f a)) : ConfinedTo p (m >>= f) where
  frame kv := by
    have firstFrame := first.frame kv
    rw [exec_bind]
    cases ran : exec m kv with
    | mk outcome kv₁ =>
      rw [ran] at firstFrame
      cases outcome with
      | error e => exact firstFrame
      | ok a =>
        calc p.set kv (p.get (exec (f a) kv₁).2)
            = p.set (p.set kv (p.get kv₁)) (p.get (exec (f a) kv₁).2) := (p.set_set _ _ _).symm
          _ = p.set kv₁ (p.get (exec (f a) kv₁).2) := by rw [firstFrame]
          _ = (exec (f a) kv₁).2 := (second a).frame kv₁
  determined {kv kv'} same := by
    obtain ⟨sameOutcome, samePart⟩ := first.determined same
    rw [exec_bind, exec_bind]
    cases ran : exec m kv with
    | mk outcome kv₁ =>
      cases ran' : exec m kv' with
      | mk outcome' kv₁' =>
        rw [ran, ran'] at sameOutcome samePart
        cases sameOutcome
        cases outcome with
        | error e => exact ⟨rfl, samePart⟩
        | ok a => exact (second a).determined samePart

variable {V : Type} {entry : Entry V} (within : entry.Within p) (value : V) (failed : Bool)
  (err : String)
include within

/-- A `put_if_not_exists` in `p` that raises `e` on a conflict. -/
theorem putIfNotExists_orThrow (e : DapError) :
    ConfinedTo p (do
      let existing ← putIfNotExists entry value failed err
      if existing.isSome then throw e) where
  frame kv := by
    rw [exec_putIfNotExists_orThrow]
    cases failed with
    | true => exact p.set_get kv
    | false =>
      cases entry.read kv with
      | some _ => exact p.set_get kv
      | none => exact within.frame kv value
  determined {kv kv'} same := by
    rw [exec_putIfNotExists_orThrow, exec_putIfNotExists_orThrow, within.read same]
    cases failed with
    | true => exact ⟨rfl, same⟩
    | false =>
      cases entry.read kv' with
      | some _ => exact ⟨rfl, same⟩
      | none => exact ⟨rfl, within.write value same⟩

theorem getCloned : ConfinedTo p (Daphne.Server.getCloned entry failed err) :=
  of_exec (fun kv => by rw [exec_getCloned]; split <;> rfl)
    fun same => by rw [exec_getCloned, exec_getCloned, within.read same]; split <;> rfl

theorem put : ConfinedTo p (Daphne.Server.put entry value failed err) where
  frame kv := by
    rw [exec_put]
    cases failed with
    | true => exact p.set_get kv
    | false => exact within.frame kv value
  determined same := by
    rw [exec_put, exec_put]
    cases failed with
    | true => exact ⟨rfl, same⟩
    | false => exact ⟨rfl, within.write value same⟩

end ConfinedTo

/-! ## Confined requests commute -/

/-- Two requests one after the other, each run to its end: their results, and the store after
both. -/
def serially (m : KvM α) (n : KvM β) (kv : KvStore) :
    (Except DapError α × Except DapError β) × KvStore :=
  (((exec m kv).1, (exec n (exec m kv).2).1), (exec n (exec m kv).2).2)

/-- Requests confined to independent parts commute: running `m` then `n` is running `n` then `m`
with the results swapped. -/
theorem ConfinedTo.commute {S T : Type} {p : Part S} {q : Part T} {m : KvM α} {n : KvM β}
    (confinedM : ConfinedTo p m) (confinedN : ConfinedTo q n) (independent : p.Independent q)
    (kv : KvStore) : serially m n kv = Prod.map Prod.swap id (serially n m kv) := by
  have pAfterN : p.get (exec n kv).2 = p.get kv := by
    rw [← confinedN.frame kv, independent.get_set_right]
  have qAfterM : q.get (exec m kv).2 = q.get kv := by
    rw [← confinedM.frame kv, independent.get_set_left]
  obtain ⟨sameM, samePartM⟩ := confinedM.determined pAfterN
  obtain ⟨sameN, samePartN⟩ := confinedN.determined qAfterM
  have stores : (exec n (exec m kv).2).2 = (exec m (exec n kv).2).2 :=
    calc (exec n (exec m kv).2).2
        = q.set (p.set kv (p.get (exec m kv).2)) (q.get (exec n kv).2) := by
          rw [confinedM.frame, ← samePartN, confinedN.frame]
      _ = p.set (q.set kv (q.get (exec n kv).2)) (p.get (exec m kv).2) :=
          (independent.set_comm _ _ _).symm
      _ = (exec m (exec n kv).2).2 := by
          rw [confinedN.frame, ← samePartM, confinedM.frame]
  simp only [serially, Prod.map_apply, Prod.swap_prod_mk, id, sameM, sameN, stores]

/-! ## The test routes -/

theorem confinedTo_addLeaderToken (env : AddTaskEnv) (cmd : InternalTestAddTask) :
    ConfinedTo (taskPart cmd.taskId) (addLeaderToken env cmd) :=
  .putIfNotExists_orThrow (within_leaderBearerTokenEntry cmd.taskId) _ _ _ _

theorem confinedTo_addCollectorToken (env : AddTaskEnv) (cmd : InternalTestAddTask) :
    ConfinedTo (taskPart cmd.taskId) (addCollectorToken env cmd) := by
  unfold addCollectorToken
  split
  · exact .putIfNotExists_orThrow (within_collectorBearerTokenEntry cmd.taskId) _ _ _ _
  all_goals exact .of_exec (fun _ => rfl) fun _ => rfl

theorem confinedTo_addTaskConfig (env : AddTaskEnv) (cmd : InternalTestAddTask)
    (config : DapTaskConfig) : ConfinedTo (taskPart cmd.taskId) (addTaskConfig env cmd config) :=
  .putIfNotExists_orThrow (within_taskConfigEntry cmd.taskId) _ _ _ _

theorem confinedTo_leaderSegment (env : AddTaskEnv) (cmd : InternalTestAddTask) :
    ConfinedTo (taskPart cmd.taskId) (leaderSegment env cmd) :=
  .bind (.liftExcept _) fun prepared =>
    .bind (confinedTo_addLeaderToken env cmd) fun _ => .pure prepared

theorem confinedTo_taskConfigSegment (env : AddTaskEnv) (version : DapVersion)
    (cmd : InternalTestAddTask) (prepared : Prepared) :
    ConfinedTo (taskPart cmd.taskId) (taskConfigSegment env version cmd prepared) :=
  .bind (.liftExcept _) fun _ => confinedTo_addTaskConfig env cmd _

/-- `internal_add_task` reads and writes only its own task's entries. -/
theorem confinedTo_internalAddTask (env : AddTaskEnv) (version : DapVersion)
    (cmd : InternalTestAddTask) :
    ConfinedTo (taskPart cmd.taskId) (internalAddTask env version cmd) := by
  rw [internalAddTask_segments]
  exact .bind (confinedTo_leaderSegment env cmd) fun prepared =>
    .bind (confinedTo_addCollectorToken env cmd) fun _ =>
      confinedTo_taskConfigSegment env version cmd prepared

/-- `internal_add_hpke_config` reads and writes only its version's receiver set. -/
theorem confinedTo_internalAddHpkeConfig (version : DapVersion)
    (newReceiver : HpkeReceiverConfig) (getFails putFails : Bool) :
    ConfinedTo (hpkePart version) (internalAddHpkeConfig version newReceiver getFails putFails) :=
  .bind (.getCloned (within_hpkeReceiverConfigSetEntry version) _ _) fun _ =>
    .bind (.liftExcept _) fun _ => .put (within_hpkeReceiverConfigSetEntry version) _ _ _

/-- **Commands for different tasks commute.** Two `internal_add_task` commands whose task ids
differ, run one after the other, return the same results in either order and leave the same
store. -/
theorem internalAddTask_commute (env env' : AddTaskEnv) (version version' : DapVersion)
    (cmd cmd' : InternalTestAddTask) (different : cmd.taskId ≠ cmd'.taskId) (kv : KvStore) :
    serially (internalAddTask env version cmd) (internalAddTask env' version' cmd') kv =
      Prod.map Prod.swap id
        (serially (internalAddTask env' version' cmd') (internalAddTask env version cmd) kv) :=
  (confinedTo_internalAddTask env version cmd).commute
    (confinedTo_internalAddTask env' version' cmd') (taskPart_independent different) kv

/-- A leader's command for another task than `completeLeaderCmd`'s. -/
def otherTaskCmd : InternalTestAddTask :=
  { completeLeaderCmd with taskId := ⟨List.replicate 32 1, rfl⟩ }

theorem internalAddTask_commute_otherTask :
    completeLeaderCmd.taskId ≠ otherTaskCmd.taskId ∧
    serially (internalAddTask passingEnv .draft07 completeLeaderCmd)
        (internalAddTask passingEnv .draft07 otherTaskCmd) KvStore.empty =
      Prod.map Prod.swap id (serially (internalAddTask passingEnv .draft07 otherTaskCmd)
        (internalAddTask passingEnv .draft07 completeLeaderCmd) KvStore.empty) :=
  ⟨by decide, internalAddTask_commute passingEnv passingEnv .draft07 .draft07 completeLeaderCmd
    otherTaskCmd (by decide) KvStore.empty⟩

/-- **Adding a task and adding an HPKE configuration commute**, whatever the task and the
version. -/
theorem internalAddTask_commute_addHpkeConfig (env : AddTaskEnv) (version : DapVersion)
    (cmd : InternalTestAddTask) (hpkeVersion : DapVersion) (newReceiver : HpkeReceiverConfig)
    (getFails putFails : Bool) (kv : KvStore) :
    serially (internalAddTask env version cmd)
        (internalAddHpkeConfig hpkeVersion newReceiver getFails putFails) kv =
      Prod.map Prod.swap id (serially (internalAddHpkeConfig hpkeVersion newReceiver getFails
        putFails) (internalAddTask env version cmd) kv) :=
  (confinedTo_internalAddTask env version cmd).commute
    (confinedTo_internalAddHpkeConfig hpkeVersion newReceiver getFails putFails)
    (taskPart_independent_hpkePart cmd.taskId hpkeVersion) kv

/-! ## Interleaved requests for a task of their own -/

/-- Where the request `req`, run alone from `kv₀`, stands after the segments that `phase` says it
has run, with the store `kv` it leaves. -/
def SoloAt (req : AddTaskRequest) (kv₀ : KvStore) : AddTaskPhase → KvStore → Prop
  | .start, kv => kv = kv₀
  | .leaderAdded prepared, kv => exec (leaderSegment req.env req.cmd) kv₀ = (.ok prepared, kv)
  | .collectorAdded prepared, kv => ∃ kv₁,
    exec (leaderSegment req.env req.cmd) kv₀ = (.ok prepared, kv₁) ∧
      exec (addCollectorToken req.env req.cmd) kv₁ = (.ok (), kv)
  | .done result, kv => exec (internalAddTask req.env req.version req.cmd) kv₀ = (result, kv)

/-- The phase a request moves to when a segment returns `outcome`. -/
abbrev afterSegment {α : Type} (outcome : Except DapError α) (next : α → AddTaskPhase) :
    AddTaskPhase :=
  match outcome with
  | .ok a => next a
  | .error e => .done (.error e)

section Solo

variable {req : AddTaskRequest} {kv₀ kv : KvStore}

theorem SoloAt.leader (solo : SoloAt req kv₀ .start kv) :
    SoloAt req kv₀ (afterSegment (exec (leaderSegment req.env req.cmd) kv).1 .leaderAdded)
      (exec (leaderSegment req.env req.cmd) kv).2 := by
  subst solo
  cases ran : exec (leaderSegment req.env req.cmd) kv with
  | mk outcome kv₁ =>
    cases outcome with
    | ok prepared => exact ran
    | error e =>
      show exec (internalAddTask req.env req.version req.cmd) kv = (.error e, kv₁)
      rw [internalAddTask_segments, exec_bind, ran]

theorem SoloAt.collector {prepared : Prepared} (solo : SoloAt req kv₀ (.leaderAdded prepared) kv) :
    SoloAt req kv₀ (afterSegment (exec (addCollectorToken req.env req.cmd) kv).1
      fun () => .collectorAdded prepared) (exec (addCollectorToken req.env req.cmd) kv).2 := by
  cases ran : exec (addCollectorToken req.env req.cmd) kv with
  | mk outcome kv₂ =>
    cases outcome with
    | ok _ => exact ⟨kv, solo, ran⟩
    | error e =>
      show exec (internalAddTask req.env req.version req.cmd) kv₀ = (.error e, kv₂)
      rw [internalAddTask_segments, exec_bind, solo]
      dsimp only
      rw [exec_bind, ran]

theorem SoloAt.taskConfig {prepared : Prepared}
    (solo : SoloAt req kv₀ (.collectorAdded prepared) kv) :
    SoloAt req kv₀
      (afterSegment (exec (taskConfigSegment req.env req.version req.cmd prepared) kv).1
        fun () => .done (.ok ()))
      (exec (taskConfigSegment req.env req.version req.cmd prepared) kv).2 := by
  obtain ⟨kv₁, leader, collector⟩ := solo
  have whole : exec (internalAddTask req.env req.version req.cmd) kv₀ =
      exec (taskConfigSegment req.env req.version req.cmd prepared) kv := by
    rw [internalAddTask_segments, exec_bind, leader]
    dsimp only
    rw [exec_bind, collector]
  cases ran : exec (taskConfigSegment req.env req.version req.cmd prepared) kv with
  | mk outcome kv₃ =>
    rw [ran] at whole
    cases outcome <;> exact whole

end Solo

section Serial

variable (requests : Nat → AddTaskRequest) (kv₀ : KvStore) (i : Nat)

/-- Request `i` stands where it would stand alone, and its task's entries hold what they would
hold. -/
def Serial (w : AddTaskWorld) : Prop :=
  ∃ kv, SoloAt (requests i) kv₀ (w.phase i) kv ∧
    (taskPart (requests i).cmd.taskId).get w.kv = (taskPart (requests i).cmd.taskId).get kv

variable {requests kv₀ i} {w : AddTaskWorld} {α : Type} {m : KvM α} {next : α → AddTaskPhase}

/-- A segment of another request, for another task, leaves request `i` and its entries. -/
theorem Serial.advance_other (inv : Serial requests kv₀ i w) {j : Nat} (other : j ≠ i)
    (otherTask : (requests j).cmd.taskId ≠ (requests i).cmd.taskId)
    (confined : ConfinedTo (taskPart (requests j).cmd.taskId) m) :
    Serial requests kv₀ i (w.advance j m next) := by
  obtain ⟨kv, solo, part⟩ := inv
  refine ⟨kv, by rwa [AddTaskWorld.advance_phase_of_ne other.symm], ?_⟩
  rw [AddTaskWorld.advance_kv, ← confined.frame w.kv,
    (taskPart_independent otherTask).get_set_left, part]

/-- A segment of request `i` does on the shared store what it does alone. -/
theorem Serial.advance_self (inv : Serial requests kv₀ i w)
    (confined : ConfinedTo (taskPart (requests i).cmd.taskId) m)
    (soloStep : ∀ kv, SoloAt (requests i) kv₀ (w.phase i) kv →
      SoloAt (requests i) kv₀ (afterSegment (exec m kv).1 next) (exec m kv).2) :
    Serial requests kv₀ i (w.advance i m next) := by
  obtain ⟨kv, solo, part⟩ := inv
  obtain ⟨sameOutcome, samePart⟩ := confined.determined part
  refine ⟨(exec m kv).2, ?_, samePart⟩
  rw [AddTaskWorld.advance_phase_self, sameOutcome]
  exact soloStep kv solo

/-- A segment of request `j`, confined to its task's entries, keeps `Serial` for request `i`,
provided that for `j = i` it is request `i`'s next step alone. -/
theorem Serial.advance (alone : ∀ j, j ≠ i → (requests j).cmd.taskId ≠ (requests i).cmd.taskId)
    (inv : Serial requests kv₀ i w) {j : Nat}
    (confined : ConfinedTo (taskPart (requests j).cmd.taskId) m)
    (soloStep : j = i → ∀ kv, SoloAt (requests i) kv₀ (w.phase i) kv →
      SoloAt (requests i) kv₀ (afterSegment (exec m kv).1 next) (exec m kv).2) :
    Serial requests kv₀ i (w.advance j m next) := by
  by_cases same : j = i
  · subst same
    exact inv.advance_self confined (soloStep rfl)
  · exact inv.advance_other same (alone j same) confined

theorem Serial.step (alone : ∀ j, j ≠ i → (requests j).cmd.taskId ≠ (requests i).cmd.taskId)
    (inv : Serial requests kv₀ i w) {w' : AddTaskWorld} (next : AddTaskStep requests w w') :
    Serial requests kv₀ i w' := by
  cases next with
  | leader j ready =>
    refine inv.advance alone (confinedTo_leaderSegment _ _) fun same _ solo => ?_
    subst same
    exact (ready ▸ solo : SoloAt _ _ .start _).leader
  | collector j ready =>
    refine inv.advance alone (confinedTo_addCollectorToken _ _) fun same _ solo => ?_
    subst same
    exact (ready ▸ solo : SoloAt _ _ (.leaderAdded _) _).collector
  | taskConfig j ready =>
    refine inv.advance alone (confinedTo_taskConfigSegment _ _ _ _) fun same _ solo => ?_
    subst same
    exact (ready ▸ solo : SoloAt _ _ (.collectorAdded _) _).taskConfig

end Serial

/-- **A request for a task of its own is serializable.** However requests of `internal_add_task`
interleave, a request whose task id no other request uses returns what it returns when it runs
alone on the starting store, and its task's entries end as they end when it runs alone. -/
theorem addTask_serializable (requests : Nat → AddTaskRequest) (kv : KvStore) (w : AddTaskWorld)
    (reach : Relation.ReflTransGen (AddTaskStep requests) (AddTaskWorld.init kv) w) (i : Nat)
    (alone : ∀ j, j ≠ i → (requests j).cmd.taskId ≠ (requests i).cmd.taskId)
    {result : Except DapError Unit} (returned : w.phase i = .done result) :
    result = (exec (internalAddTask (requests i).env (requests i).version (requests i).cmd) kv).1 ∧
      (taskPart (requests i).cmd.taskId).get w.kv = (taskPart (requests i).cmd.taskId).get
        (exec (internalAddTask (requests i).env (requests i).version (requests i).cmd) kv).2 := by
  have start : Serial requests kv i (AddTaskWorld.init kv) := ⟨kv, rfl, rfl⟩
  obtain ⟨kvSolo, solo, part⟩ := reachable_induction (Serial requests kv i) start
    (fun inv next => Serial.step alone inv next) reach
  rw [returned] at solo
  change exec _ kv = (result, kvSolo) at solo
  rw [solo]
  exact ⟨rfl, part⟩

/-- Request `0` adds the task of `completeLeaderCmd`; every other request adds another task. -/
def mixedRequests : Nat → AddTaskRequest
  | 0 => ⟨passingEnv, .draft07, completeLeaderCmd⟩
  | _ + 1 => ⟨passingEnv, .draft07, otherTaskCmd⟩

/-- Request `0` runs its segments around request `1`'s first one, and returns `Ok` as alone. -/
theorem addTask_serializable_interleaved :
    ∃ w, Relation.ReflTransGen (AddTaskStep mixedRequests) (AddTaskWorld.init KvStore.empty) w ∧
      w.phase 0 = .done (.ok ()) ∧
      (∀ j, j ≠ 0 → (mixedRequests j).cmd.taskId ≠ (mixedRequests 0).cmd.taskId) ∧
      .ok () = (exec (internalAddTask passingEnv .draft07 completeLeaderCmd) KvStore.empty).1 ∧
      (taskPart completeLeaderCmd.taskId).get w.kv = (taskPart completeLeaderCmd.taskId).get
        (exec (internalAddTask passingEnv .draft07 completeLeaderCmd) KvStore.empty).2 :=
  have first : AddTaskStep mixedRequests (AddTaskWorld.init KvStore.empty) _ := .leader 0 rfl
  have reach := (((Relation.ReflTransGen.single first).tail (.leader 1 rfl)).tail
    (.collector 0 rfl)).tail (.taskConfig 0 rfl)
  have alone : ∀ j, j ≠ 0 → (mixedRequests j).cmd.taskId ≠ (mixedRequests 0).cmd.taskId
    | 0, other => absurd rfl other
    | _ + 1, _ => (by decide : otherTaskCmd.taskId ≠ completeLeaderCmd.taskId)
  ⟨_, reach, rfl, alone,
    addTask_serializable mixedRequests KvStore.empty _ reach 0 alone rfl⟩

end Daphne.Server
