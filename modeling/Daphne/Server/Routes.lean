/-
# Daphne.Server.Routes — the two writing test routes, interleaved

The server runs `internal_add_task` and `internal_add_hpke_config` requests concurrently on one
store. `RouteWorld` holds the store and the phases of the requests of both routes, and `RouteStep`
runs the next step of any one request: a segment of an `internal_add_task` request (`AddTaskStep`),
or a read or a put of an `internal_add_hpke_config` request (`Step`).

The two routes write disjoint parts of the store: the task entries (`tasksPart`) and the receiver
sets (`hpkeSetsPart`). `ConfinedTo.exec_set` says that a request confined to one part runs the same
on a store whose independent part is replaced; an `internal_add_hpke_config` step reads and writes
the receiver sets only.

* `routes_project`: every interleaving of the two routes is, seen from the `internal_add_task`
  requests (their phases, on the store with the receiver sets it started with), an interleaving of
  those requests alone; and seen from the `internal_add_hpke_config` requests (on the store with
  the task entries it started with), an interleaving of those alone. What holds of every run of
  one route therefore holds while the other route runs too.
-/
import Daphne.Server.Footprint

namespace Daphne.Server

open KvM

set_option autoImplicit false

/-! ## The parts of the two routes -/

/-- The task entries of every task: the configurations and both kinds of bearer token. -/
def tasksPart : Part ((TaskId → Option (DapTaskConfig × UInt64)) ×
    (TaskId → Option BearerToken) × (TaskId → Option BearerToken)) where
  get kv := (kv.taskConfig, kv.leaderBearerToken, kv.collectorBearerToken)
  set kv s := { kv with
    taskConfig := s.1, leaderBearerToken := s.2.1, collectorBearerToken := s.2.2 }
  get_set _ _ := rfl
  set_get _ := rfl
  set_set _ _ _ := rfl

/-- The receiver sets of every version. -/
def hpkeSetsPart : Part (DapVersion → Option (List HpkeReceiverConfig)) where
  get kv := kv.hpkeReceiverConfigSet
  set kv s := { kv with hpkeReceiverConfigSet := s }
  get_set _ _ := rfl
  set_get _ := rfl
  set_set _ _ _ := rfl

theorem taskPart_independent_hpkeSetsPart (taskId : TaskId) :
    (taskPart taskId).Independent hpkeSetsPart :=
  ⟨fun _ _ => rfl, fun _ _ => rfl, fun _ _ _ => rfl⟩

variable {α : Type}

/-- A request confined to `p` runs the same on a store whose part `q`, independent of `p`, is
replaced: it returns the same, and leaves `q` as replaced. -/
theorem ConfinedTo.exec_set {S T : Type} {p : Part S} {q : Part T} {m : KvM α}
    (confined : ConfinedTo p m) (independent : p.Independent q) (kv : KvStore) (x : T) :
    exec m (q.set kv x) = ((exec m kv).1, q.set (exec m kv).2 x) := by
  obtain ⟨sameOutcome, samePart⟩ := confined.determined (independent.get_set_right kv x)
  refine Prod.ext sameOutcome ?_
  calc (exec m (q.set kv x)).2
      = p.set (q.set kv x) (p.get (exec m kv).2) := by rw [← samePart, confined.frame]
    _ = q.set (p.set kv (p.get (exec m kv).2)) x := independent.set_comm _ _ _
    _ = q.set (exec m kv).2 x := by rw [confined.frame]

/-! ## Both routes interleaved -/

/-- The store, the phases of the `internal_add_task` requests and of the
`internal_add_hpke_config` requests, and the receiver sets stored so far. -/
structure RouteWorld where
  kv : KvStore
  taskPhase : Nat → AddTaskPhase
  putSoFar : DapVersion → List (List HpkeReceiverConfig)
  hpkePhase : Nat → Phase

namespace RouteWorld

/-- No request started, on the store `kv`. -/
def init (kv : KvStore) : RouteWorld :=
  ⟨kv, fun _ => .start, (World.init kv).putSoFar, fun _ => .start⟩

/-- The world of the `internal_add_task` requests. -/
def tasks (w : RouteWorld) : AddTaskWorld := ⟨w.kv, w.taskPhase⟩

/-- The world of the `internal_add_hpke_config` requests. -/
def hpke (w : RouteWorld) : World := ⟨w.kv, w.putSoFar, w.hpkePhase⟩

/-- What the `internal_add_task` requests see: their phases, on the store with the receiver sets
of `kv₀`. -/
def tasksView (w : RouteWorld) (kv₀ : KvStore) : AddTaskWorld :=
  ⟨hpkeSetsPart.set w.kv (hpkeSetsPart.get kv₀), w.taskPhase⟩

/-- What the `internal_add_hpke_config` requests see: their phases and the sets stored so far, on
the store with the task entries of `kv₀`. -/
def hpkeView (w : RouteWorld) (kv₀ : KvStore) : World :=
  ⟨tasksPart.set w.kv (tasksPart.get kv₀), w.putSoFar, w.hpkePhase⟩

/-- `w` after a segment of an `internal_add_task` request moved its world to `next`. -/
def withTasks (w : RouteWorld) (next : AddTaskWorld) : RouteWorld :=
  { w with kv := next.kv, taskPhase := next.phase }

/-- `w` after a step of an `internal_add_hpke_config` request moved its world to `next`. -/
def withHpke (w : RouteWorld) (next : World) : RouteWorld :=
  { w with kv := next.kv, putSoFar := next.putSoFar, hpkePhase := next.phase }

end RouteWorld

section Steps

variable (taskRequests : Nat → AddTaskRequest) (hpkeRequests : Nat → AddHpkeConfigRequest)
  (Reads : World → DapVersion → Option (List HpkeReceiverConfig) → Prop)

/-- One step of one request of either route. -/
inductive RouteStep : RouteWorld → RouteWorld → Prop
  | addTask {w : RouteWorld} {next : AddTaskWorld} (step : AddTaskStep taskRequests w.tasks next) :
      RouteStep w (w.withTasks next)
  | addHpkeConfig {w : RouteWorld} {next : World} (step : Step hpkeRequests Reads w.hpke next) :
      RouteStep w (w.withHpke next)

end Steps

/-! ## Each route's view -/

section Views

variable {taskRequests : Nat → AddTaskRequest} {hpkeRequests : Nat → AddHpkeConfigRequest}
  {Reads : World → DapVersion → Option (List HpkeReceiverConfig) → Prop} {w : RouteWorld}
  {kv₀ : KvStore}

/-- A segment confined to one task's entries that is a step of the `internal_add_task` view on
the view's store is one on the store the routes share, and leaves the
`internal_add_hpke_config` view. -/
theorem views_advance {taskId : TaskId} {m : KvM α} {next : α → AddTaskPhase} {i : Nat}
    (confined : ConfinedTo (taskPart taskId) m)
    (step : AddTaskStep taskRequests (w.tasksView kv₀) ((w.tasksView kv₀).advance i m next)) :
    AddTaskStep taskRequests (w.tasksView kv₀)
        ((w.withTasks (w.tasks.advance i m next)).tasksView kv₀) ∧
      (w.withTasks (w.tasks.advance i m next)).hpkeView kv₀ = w.hpkeView kv₀ := by
  refine ⟨?_, ?_⟩
  · convert step using 1
    simp only [AddTaskWorld.advance, RouteWorld.withTasks, RouteWorld.tasksView, RouteWorld.tasks,
      confined.exec_set (taskPart_independent_hpkeSetsPart taskId)]
  · simp only [RouteWorld.hpkeView, RouteWorld.withTasks, AddTaskWorld.advance_kv,
      RouteWorld.tasks]
    rw [← confined.frame w.kv]
    rfl

/-- An `internal_add_task` segment is a step of the `internal_add_task` view, and leaves the
other view. -/
theorem views_addTask {next : AddTaskWorld} (step : AddTaskStep taskRequests w.tasks next) :
    AddTaskStep taskRequests (w.tasksView kv₀) ((w.withTasks next).tasksView kv₀) ∧
      (w.withTasks next).hpkeView kv₀ = w.hpkeView kv₀ := by
  cases step with
  | leader i ready => exact views_advance (confinedTo_leaderSegment _ _) (.leader i ready)
  | collector i ready => exact views_advance (confinedTo_addCollectorToken _ _) (.collector i ready)
  | taskConfig i ready =>
    exact views_advance (confinedTo_taskConfigSegment _ _ _ _) (.taskConfig i ready)

/-- An `internal_add_hpke_config` step is a step of the `internal_add_hpke_config` view, given
that a read allowed on a store is allowed on it with other task entries, and leaves the other
view. -/
theorem views_addHpkeConfig
    (readsLocal : ∀ (w : World) x version read, Reads w version read →
      Reads ⟨tasksPart.set w.kv x, w.putSoFar, w.phase⟩ version read)
    {next : World} (step : Step hpkeRequests Reads w.hpke next) :
    Step hpkeRequests Reads (w.hpkeView kv₀) ((w.withHpke next).hpkeView kv₀) ∧
      (w.withHpke next).tasksView kv₀ = w.tasksView kv₀ := by
  cases step with
  | get i read ready served => exact ⟨.get i read ready (readsLocal _ _ _ _ served), rfl⟩
  | getFailed i ready => exact ⟨.getFailed i ready, rfl⟩
  | put i pending => exact ⟨.put i pending, rfl⟩
  | putFailed i pending => exact ⟨.putFailed i pending, rfl⟩

end Views

/-- **Each route runs as if alone.** However the requests of `internal_add_task` and of
`internal_add_hpke_config` interleave, the `internal_add_task` requests' phases, on the store with
the receiver sets it started with, are reached by an interleaving of those requests alone; and the
`internal_add_hpke_config` requests' phases and sets, on the store with the task entries it started
with, by an interleaving of those alone. This holds for any read policy of
`internal_add_hpke_config` that reads the receiver sets only. -/
theorem routes_project (taskRequests : Nat → AddTaskRequest)
    (hpkeRequests : Nat → AddHpkeConfigRequest)
    (Reads : World → DapVersion → Option (List HpkeReceiverConfig) → Prop)
    (readsLocal : ∀ (w : World) x version read, Reads w version read →
      Reads ⟨tasksPart.set w.kv x, w.putSoFar, w.phase⟩ version read)
    (kv : KvStore) (w : RouteWorld)
    (reach : Relation.ReflTransGen (RouteStep taskRequests hpkeRequests Reads)
      (RouteWorld.init kv) w) :
    Relation.ReflTransGen (AddTaskStep taskRequests) (AddTaskWorld.init kv) (w.tasksView kv) ∧
      Relation.ReflTransGen (Step hpkeRequests Reads) (World.init kv) (w.hpkeView kv) := by
  induction reach with
  | refl => exact ⟨.refl, .refl⟩
  | tail _ next ih =>
    cases next with
    | addTask step =>
      obtain ⟨same, other⟩ := views_addTask step
      exact ⟨ih.1.tail same, other ▸ ih.2⟩
    | addHpkeConfig step =>
      obtain ⟨same, other⟩ := views_addHpkeConfig readsLocal step
      exact ⟨other ▸ ih.1, ih.2.tail same⟩

/-- `completeLeaderCmd` adds its task while the first example request adds its receiver through
the cache, their steps alternating. -/
theorem routes_project_alternating :
    ∃ w, Relation.ReflTransGen (RouteStep sameTaskRequests exampleRequests CachedRead)
        (RouteWorld.init KvStore.empty) w ∧
      w.taskPhase 0 = .done (.ok ()) ∧ w.hpkePhase 0 = .done (.ok ()) ∧
      Relation.ReflTransGen (AddTaskStep sameTaskRequests) (AddTaskWorld.init KvStore.empty)
        (w.tasksView KvStore.empty) ∧
      Relation.ReflTransGen (Step exampleRequests CachedRead) (World.init KvStore.empty)
        (w.hpkeView KvStore.empty) :=
  have first : RouteStep sameTaskRequests exampleRequests CachedRead
      (RouteWorld.init KvStore.empty) _ := .addTask (.leader 0 rfl)
  have reach := ((((Relation.ReflTransGen.single first).tail
    (.addHpkeConfig (.get 0 none rfl (.inr (.inl rfl))))).tail
    (.addTask (.collector 0 rfl))).tail
    (.addHpkeConfig (.put 0 rfl))).tail
    (.addTask (.taskConfig 0 rfl))
  ⟨_, reach, rfl, rfl, routes_project sameTaskRequests exampleRequests CachedRead
    (fun _ _ _ _ served => served) KvStore.empty _ reach⟩

end Daphne.Server
