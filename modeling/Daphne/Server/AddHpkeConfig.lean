/-
# Daphne.Server.AddHpkeConfig — concurrent `internal_add_hpke_config` requests

`internal_add_hpke_config` reads the version's HPKE receiver set with `get_cloned`, refuses a
receiver whose configuration id is already there, and writes the set back with the receiver
appended, by an unconditional `put`. Both KV calls suspend the request, so requests interleave
between them.

`internalAddHpkeConfig` is one request run on its own. `Step` is one step of one of any number of
requests: its read, served as a read policy allows, its put, or the failure of either; a run is
any interleaving of steps. `steps_internalAddHpkeConfig` says that a request whose two steps run
back to back does what `internalAddHpkeConfig` does.

* `addHpkeConfig_ids_nodup`: even when the cache serves a stale set, no stored set ever lists a
  configuration id twice;
* `addHpkeConfig_lost_update`: two requests that both read before either writes both succeed, and
  the first one's receiver is not stored;
* `addHpkeConfig_only_requested`: even from a stale cache, every stored receiver was stored under
  its version at the start or is the receiver of a request for that version;
* `addHpkeConfig_exclusive_acknowledged`: when every read returns the set as last stored (one
  process, whose cache writes through) and no request reads a version's set while another request
  for that version is between its read and its put, every acknowledged receiver stays stored.
-/
import Daphne.Server.Kv
import Mathlib.Data.List.Nodup

namespace Daphne.Server

open KvM

set_option autoImplicit false

/-! ## The request -/

/-- The configuration ids of a receiver list are pairwise distinct. -/
def NodupIds (configList : List HpkeReceiverConfig) : Prop :=
  (configList.map fun receiver => receiver.config.id).Nodup

instance : DecidablePred NodupIds := fun _ => inferInstanceAs (Decidable (List.Nodup _))

/-- The body of `internal_add_hpke_config` between its read and its write: the duplicate check,
then the push. -/
def pushReceiver (configList : List HpkeReceiverConfig) (newReceiver : HpkeReceiverConfig) :
    Except DapError (List HpkeReceiverConfig) :=
  if configList.any fun receiver => newReceiver.config.id == receiver.config.id then
    .error (.fatal ("receiver config with id " ++ toString newReceiver.config.id ++
      " already exists"))
  else .ok (configList ++ [newReceiver])

theorem pushReceiver_eq_ok {configList pushed : List HpkeReceiverConfig}
    {newReceiver : HpkeReceiverConfig} (h : pushReceiver configList newReceiver = .ok pushed) :
    newReceiver.config.id ∉ configList.map (fun receiver => receiver.config.id) ∧
      pushed = configList ++ [newReceiver] := by
  unfold pushReceiver at h
  split at h
  · cases h
  · rename_i fresh
    cases h
    simp only [List.any_eq_true, beq_iff_eq, not_exists, not_and] at fresh
    simp only [List.mem_map, not_exists, not_and, and_true]
    exact fun receiver mem same => fresh receiver mem same.symm

/-- A push keeps the ids distinct. -/
theorem NodupIds.push {configList pushed : List HpkeReceiverConfig}
    {newReceiver : HpkeReceiverConfig} (nodup : NodupIds configList)
    (h : pushReceiver configList newReceiver = .ok pushed) : NodupIds pushed := by
  obtain ⟨fresh, rfl⟩ := pushReceiver_eq_ok h
  simpa [NodupIds, List.nodup_append, fresh] using nodup

/-- `App::internal_add_hpke_config`, run on its own. -/
def internalAddHpkeConfig (version : DapVersion) (newReceiver : HpkeReceiverConfig)
    (getFails putFails : Bool) : KvM Unit := do
  let configList ← getCloned (hpkeReceiverConfigSetEntry version) getFails
    "failed to get hpke config"
  let configList ← liftExcept (pushReceiver (configList.getD []) newReceiver)
  put (hpkeReceiverConfigSetEntry version) configList putFails "failed to put hpke config"

/-- A request that fails writes nothing, whether its read, its duplicate check or its put
failed; unlike `internal_add_task`, a failed request leaves the store as it was. -/
theorem internalAddHpkeConfig_error (version : DapVersion) (newReceiver : HpkeReceiverConfig)
    (getFails putFails : Bool) (kv : KvStore) {e : DapError} {kv' : KvStore}
    (h : exec (internalAddHpkeConfig version newReceiver getFails putFails) kv = (.error e, kv')) :
    kv' = kv := by
  simp only [internalAddHpkeConfig, exec_bind, exec_getCloned, exec_liftExcept, exec_put] at h
  cases getFails
  · cases pushed : pushReceiver ((hpkeReceiverConfigSetEntry version).read kv |>.getD [])
      newReceiver <;> cases putFails <;> simp_all
  · simp_all

/-! ## Interleaved requests -/

/-- A request of `internal_add_hpke_config`: the version and the receiver to add. -/
structure AddHpkeConfigRequest where
  version : DapVersion
  newReceiver : HpkeReceiverConfig

/-- Where a request is. -/
inductive Phase where
  /-- It has not read yet. -/
  | start
  /-- It has read and checked, and is suspended on its put of `configList`. -/
  | putting (configList : List HpkeReceiverConfig)
  /-- It has returned `result`. -/
  | done (result : Except DapError Unit)

/-- Where a request is after its read: refused on a duplicate id, or about to put. -/
def Phase.afterGet (newReceiver : HpkeReceiverConfig) (read : Option (List HpkeReceiverConfig)) :
    Phase :=
  match pushReceiver (read.getD []) newReceiver with
  | .ok configList => .putting configList
  | .error e => .done (.error e)

/-- The store, every request's phase, and the HPKE sets stored so far under each version (the
initial ones included): what a stale cache can serve. -/
structure World where
  kv : KvStore
  putSoFar : DapVersion → List (List HpkeReceiverConfig)
  phase : Nat → Phase

namespace World

/-- Requests not yet started, on the store `kv`. -/
def init (kv : KvStore) : World where
  kv := kv
  putSoFar version := (kv.hpkeReceiverConfigSet version).toList
  phase _ := .start

/-- Request `i` moves to `phase`. -/
def setPhase (w : World) (i : Nat) (phase : Phase) : World :=
  { w with phase := Function.update w.phase i phase }

/-- A `put` of `configList` under `version`. -/
def put (w : World) (version : DapVersion) (configList : List HpkeReceiverConfig) : World where
  kv := (hpkeReceiverConfigSetEntry version).write w.kv configList
  putSoFar := Function.update w.putSoFar version (w.putSoFar version ++ [configList])
  phase := w.phase

/-- The set under `version`, empty when there is none (`unwrap_or_default`). -/
def stored (w : World) (version : DapVersion) : List HpkeReceiverConfig :=
  (w.kv.hpkeReceiverConfigSet version).getD []

variable {w : World} {i j : Nat} {phase : Phase} {version v : DapVersion}
  {configList : List HpkeReceiverConfig}

@[simp] theorem setPhase_kv : (w.setPhase i phase).kv = w.kv := rfl
@[simp] theorem setPhase_putSoFar : (w.setPhase i phase).putSoFar = w.putSoFar := rfl
@[simp] theorem setPhase_stored : (w.setPhase i phase).stored v = w.stored v := rfl
@[simp] theorem setPhase_phase_self : (w.setPhase i phase).phase i = phase := by
  simp [setPhase]
theorem setPhase_phase_of_ne (h : j ≠ i) : (w.setPhase i phase).phase j = w.phase j := by
  simp [setPhase, h]
/-- Request `j`'s phase after request `i` moved: `i`'s new one, or `j`'s own as it was. -/
theorem setPhase_phase_eq {phase' : Phase} (h : (w.setPhase i phase).phase j = phase') :
    j = i ∧ phase = phase' ∨ j ≠ i ∧ w.phase j = phase' := by
  by_cases same : j = i
  · subst same
    exact .inl ⟨rfl, by simpa using h⟩
  · exact .inr ⟨same, by rwa [setPhase_phase_of_ne same] at h⟩
@[simp] theorem put_phase : (w.put version configList).phase = w.phase := rfl
@[simp] theorem put_stored_self : (w.put version configList).stored version = configList := by
  simp [put, stored, hpkeReceiverConfigSetEntry]
theorem put_stored_of_ne (h : v ≠ version) : (w.put version configList).stored v = w.stored v := by
  simp [put, stored, hpkeReceiverConfigSetEntry, h]

end World

section Steps

variable (requests : Nat → AddHpkeConfigRequest)

/-- One step of one request. A read is served as `Reads` allows. -/
inductive Step (Reads : World → DapVersion → Option (List HpkeReceiverConfig) → Prop) :
    World → World → Prop
  | get {w : World} (i : Nat) (read : Option (List HpkeReceiverConfig))
      (ready : w.phase i = .start) (served : Reads w (requests i).version read) :
      Step Reads w (w.setPhase i (.afterGet (requests i).newReceiver read))
  | getFailed {w : World} (i : Nat) (ready : w.phase i = .start) :
      Step Reads w (w.setPhase i (.done (.error (.fatal "failed to get hpke config"))))
  | put {w : World} (i : Nat) {configList : List HpkeReceiverConfig}
      (pending : w.phase i = .putting configList) :
      Step Reads w ((w.put (requests i).version configList).setPhase i (.done (.ok ())))
  | putFailed {w : World} (i : Nat) {configList : List HpkeReceiverConfig}
      (pending : w.phase i = .putting configList) :
      Step Reads w (w.setPhase i (.done (.error (.fatal "failed to put hpke config"))))

/-- A read of the set as it is now. -/
def FreshRead (w : World) (version : DapVersion) (read : Option (List HpkeReceiverConfig)) :
    Prop :=
  read = w.kv.hpkeReceiverConfigSet version

/-- A read the cache may serve: the set as it is, a set stored earlier, or nothing. -/
def CachedRead (w : World) (version : DapVersion) (read : Option (List HpkeReceiverConfig)) :
    Prop :=
  read = w.kv.hpkeReceiverConfigSet version ∨ read = none ∨
    ∃ configList ∈ w.putSoFar version, read = some configList

/-- A fresh read while no request for the version is suspended on its put. -/
def ExclusiveRead (w : World) (version : DapVersion) (read : Option (List HpkeReceiverConfig)) :
    Prop :=
  FreshRead w version read ∧
    ∀ j configList, w.phase j = .putting configList → (requests j).version ≠ version

end Steps

/-! ## One request on its own -/

/-- A request whose read and put run back to back, reading the set as it is, ends with the store
and the result of `internalAddHpkeConfig`, whichever of its KV calls fail. -/
theorem steps_internalAddHpkeConfig (requests : Nat → AddHpkeConfigRequest)
    {Reads : World → DapVersion → Option (List HpkeReceiverConfig) → Prop}
    (fresh : ∀ w version, Reads w version (w.kv.hpkeReceiverConfigSet version)) (w : World)
    (i : Nat) (ready : w.phase i = .start) (getFails putFails : Bool) :
    ∃ w', Relation.ReflTransGen (Step requests Reads) w w' ∧
      w'.phase i = .done (exec (internalAddHpkeConfig (requests i).version
        (requests i).newReceiver getFails putFails) w.kv).1 ∧
      w'.kv = (exec (internalAddHpkeConfig (requests i).version (requests i).newReceiver getFails
        putFails) w.kv).2 := by
  have read : Step requests Reads w (w.setPhase i (.afterGet (requests i).newReceiver
      (w.kv.hpkeReceiverConfigSet (requests i).version))) := .get i _ ready (fresh w _)
  simp only [internalAddHpkeConfig, exec_bind, exec_getCloned]
  cases getFails with
  | true => exact ⟨_, .single (.getFailed i ready), by simp, rfl⟩
  | false =>
    simp only [Bool.false_eq_true, if_false, exec_liftExcept, hpkeReceiverConfigSetEntry]
    cases pushed : pushReceiver ((w.kv.hpkeReceiverConfigSet (requests i).version).getD [])
      (requests i).newReceiver with
    | error e =>
      refine ⟨_, .single read, ?_, rfl⟩
      simp [Phase.afterGet, pushed]
    | ok configList =>
      have pending : (w.setPhase i (.afterGet (requests i).newReceiver
          (w.kv.hpkeReceiverConfigSet (requests i).version))).phase i = .putting configList := by
        simp [Phase.afterGet, pushed]
      cases putFails with
      | true =>
        exact ⟨_, .tail (.single read) (.putFailed i pending), by simp [exec_put], by simp [exec_put]⟩
      | false =>
        exact ⟨_, .tail (.single read) (.put i pending), by simp [exec_put],
          by simp [exec_put, World.put, hpkeReceiverConfigSetEntry]⟩

/-! ## Distinct ids, even from a stale cache -/

/-- Every set stored, stored so far, or about to be put lists each configuration id once. -/
def IdsNodup (w : World) : Prop :=
  (∀ version configList, w.kv.hpkeReceiverConfigSet version = some configList →
    NodupIds configList) ∧
  (∀ version, ∀ configList ∈ w.putSoFar version, NodupIds configList) ∧
  (∀ i configList, w.phase i = .putting configList → NodupIds configList)

namespace IdsNodup

variable {w : World}

theorem init {kv : KvStore} (initial : ∀ version configList,
    kv.hpkeReceiverConfigSet version = some configList → NodupIds configList) :
    IdsNodup (World.init kv) := by
  refine ⟨initial, fun version configList mem => ?_, fun _ _ => nofun⟩
  cases stored : kv.hpkeReceiverConfigSet version with
  | none => simp [World.init, stored] at mem
  | some initialList =>
    simp only [World.init, stored, Option.toList_some, List.mem_singleton] at mem
    exact mem ▸ initial version initialList stored

theorem setPhase (inv : IdsNodup w) {i : Nat} {phase : Phase}
    (fresh : ∀ configList, phase = .putting configList → NodupIds configList) :
    IdsNodup (w.setPhase i phase) := by
  refine ⟨inv.1, inv.2.1, fun j configList pending => ?_⟩
  obtain ⟨-, rfl⟩ | ⟨-, pending⟩ := World.setPhase_phase_eq pending
  · exact fresh configList rfl
  · exact inv.2.2 j configList pending

theorem put (inv : IdsNodup w) {version : DapVersion} {configList : List HpkeReceiverConfig}
    (nodup : NodupIds configList) : IdsNodup (w.put version configList) := by
  refine ⟨fun v l stored => ?_, fun v l mem => ?_, inv.2.2⟩
  · by_cases same : v = version
    · subst same
      simp only [World.put, hpkeReceiverConfigSetEntry, Function.update_same,
        Option.some.injEq] at stored
      exact stored ▸ nodup
    · exact inv.1 v l (by simpa [World.put, hpkeReceiverConfigSetEntry, same] using stored)
  · by_cases same : v = version
    · subst same
      simp only [World.put, Function.update_same, List.mem_append, List.mem_singleton] at mem
      rcases mem with mem | rfl
      · exact inv.2.1 v l mem
      · exact nodup
    · exact inv.2.1 v l (by simpa [World.put, same] using mem)

/-- What the cache serves lists each id once. -/
theorem served (inv : IdsNodup w) {version : DapVersion} {read : Option (List HpkeReceiverConfig)}
    (served : CachedRead w version read) : NodupIds (read.getD []) := by
  rcases served with rfl | rfl | ⟨configList, mem, rfl⟩
  · cases stored : w.kv.hpkeReceiverConfigSet version with
    | none => simp [NodupIds]
    | some configList => exact inv.1 version configList stored
  · simp [NodupIds]
  · exact inv.2.1 version configList mem

theorem step (requests : Nat → AddHpkeConfigRequest) {w' : World} (inv : IdsNodup w)
    (next : Step requests CachedRead w w') : IdsNodup w' := by
  cases next with
  | get i read _ served =>
    refine inv.setPhase fun configList after => ?_
    cases pushed : pushReceiver (read.getD []) (requests i).newReceiver with
    | ok pushedList =>
      simp only [Phase.afterGet, pushed, Phase.putting.injEq] at after
      exact after ▸ (inv.served served).push pushed
    | error e => simp [Phase.afterGet, pushed] at after
  | getFailed => exact inv.setPhase fun _ h => by cases h
  | put i pending => exact (inv.put (inv.2.2 i _ pending)).setPhase fun _ h => by cases h
  | putFailed => exact inv.setPhase fun _ h => by cases h

end IdsNodup

/-- However the requests interleave, and even when the cache serves a set stored earlier or none,
no stored HPKE receiver set lists a configuration id twice. -/
theorem addHpkeConfig_ids_nodup (requests : Nat → AddHpkeConfigRequest) (kv : KvStore)
    (initial : ∀ version configList, kv.hpkeReceiverConfigSet version = some configList →
      NodupIds configList)
    (w : World) (reach : Relation.ReflTransGen (Step requests CachedRead) (World.init kv) w)
    (version : DapVersion) (configList : List HpkeReceiverConfig)
    (stored : w.kv.hpkeReceiverConfigSet version = some configList) : NodupIds configList :=
  (reachable_induction IdsNodup (.init initial) (IdsNodup.step requests) reach).1 version
    configList stored

/-- A receiver with configuration id `id` (X25519, HKDF-SHA256, AES-128-GCM, empty keys). -/
def exampleReceiver (id : UInt8) : HpkeReceiverConfig :=
  ⟨⟨id, .x25519HkdfSha256, .hkdfSha256, .aes128Gcm, []⟩, []⟩

/-- Requests `0, 1, …` adding the receivers with ids `1, 2, …` under Draft07. -/
def exampleRequests (i : Nat) : AddHpkeConfigRequest :=
  ⟨.draft07, exampleReceiver (UInt8.ofNat (i + 1))⟩

/-- A store holding the receiver with id `9` under every version. -/
def exampleStore : KvStore :=
  { KvStore.empty with hpkeReceiverConfigSet := fun _ => some [exampleReceiver 9] }

/-- Two interleaved requests on a store holding receiver `9`. The cache serves request 0 nothing,
though the store holds a set; request 1 reads the set and puts `[9, 2]`; request 0's put then
overwrites it with `[1]`. The stale read loses two receivers, and the stored set still lists each
id once. -/
theorem addHpkeConfig_ids_nodup_stale :
    ∃ w, Relation.ReflTransGen (Step exampleRequests CachedRead) (World.init exampleStore) w ∧
      w.kv.hpkeReceiverConfigSet .draft07 = some [exampleReceiver 1] ∧
      NodupIds [exampleReceiver 1] :=
  have reach : Relation.ReflTransGen (Step exampleRequests CachedRead) (World.init exampleStore) _ :=
    .tail (.tail (.tail (.single (.get 0 none rfl (.inr (.inl rfl)))) (.get 1 _ rfl (.inl rfl)))
      (.put 1 rfl)) (.put 0 rfl)
  ⟨_, reach, rfl, addHpkeConfig_ids_nodup exampleRequests exampleStore
    (fun _ _ stored => by cases stored; decide) _ reach .draft07 _ rfl⟩

/-! ## No receiver is invented or moved to another version -/

section Requested

variable (requests : Nat → AddHpkeConfigRequest) (kv₀ : KvStore)

/-- Every receiver of `configList` was in the set the store held under `version` at the start, or
is the receiver of a request for `version`. -/
def Requested (version : DapVersion) (configList : List HpkeReceiverConfig) : Prop :=
  ∀ receiver ∈ configList, receiver ∈ (kv₀.hpkeReceiverConfigSet version).getD [] ∨
    ∃ i, (requests i).version = version ∧ (requests i).newReceiver = receiver

/-- Every set stored, stored so far, or about to be put under a version lists only receivers
requested for that version. -/
def OnlyRequested (w : World) : Prop :=
  (∀ version, Requested requests kv₀ version (w.stored version)) ∧
  (∀ version, ∀ configList ∈ w.putSoFar version, Requested requests kv₀ version configList) ∧
  (∀ i configList, w.phase i = .putting configList →
    Requested requests kv₀ (requests i).version configList)

namespace OnlyRequested

variable {requests kv₀} {w : World}

theorem init : OnlyRequested requests kv₀ (World.init kv₀) := by
  refine ⟨fun _ _ mem => .inl mem, fun version configList mem receiver inList => .inl ?_,
    fun _ _ => nofun⟩
  cases stored : kv₀.hpkeReceiverConfigSet version with
  | none => simp [World.init, stored] at mem
  | some initialList =>
    simp only [World.init, stored, Option.toList_some, List.mem_singleton] at mem
    simpa [stored, mem] using inList

theorem setPhase (inv : OnlyRequested requests kv₀ w) {i : Nat} {phase : Phase}
    (requested : ∀ configList, phase = .putting configList →
      Requested requests kv₀ (requests i).version configList) :
    OnlyRequested requests kv₀ (w.setPhase i phase) := by
  refine ⟨inv.1, inv.2.1, fun j configList pending => ?_⟩
  obtain ⟨rfl, rfl⟩ | ⟨-, pending⟩ := World.setPhase_phase_eq pending
  · exact requested configList rfl
  · exact inv.2.2 j configList pending

theorem put (inv : OnlyRequested requests kv₀ w) {version : DapVersion}
    {configList : List HpkeReceiverConfig} (requested : Requested requests kv₀ version configList) :
    OnlyRequested requests kv₀ (w.put version configList) := by
  refine ⟨fun v => ?_, fun v l mem => ?_, inv.2.2⟩
  · by_cases same : v = version
    · subst same
      simpa using requested
    · simpa [World.put_stored_of_ne same] using inv.1 v
  · by_cases same : v = version
    · subst same
      simp only [World.put, Function.update_same, List.mem_append, List.mem_singleton] at mem
      rcases mem with mem | rfl
      · exact inv.2.1 v l mem
      · exact requested
    · exact inv.2.1 v l (by simpa [World.put, same] using mem)

/-- What the cache serves under a version lists only receivers requested for it. -/
theorem served (inv : OnlyRequested requests kv₀ w) {version : DapVersion}
    {read : Option (List HpkeReceiverConfig)} (served : CachedRead w version read) :
    Requested requests kv₀ version (read.getD []) := by
  rcases served with rfl | rfl | ⟨configList, mem, rfl⟩
  · exact inv.1 version
  · exact fun _ => nofun
  · exact inv.2.1 version configList mem

theorem step {w' : World} (inv : OnlyRequested requests kv₀ w)
    (next : Step requests CachedRead w w') : OnlyRequested requests kv₀ w' := by
  cases next with
  | get i read _ served =>
    refine inv.setPhase fun configList after => ?_
    cases pushed : pushReceiver (read.getD []) (requests i).newReceiver with
    | ok pushedList =>
      simp only [Phase.afterGet, pushed, Phase.putting.injEq] at after
      obtain ⟨-, rfl⟩ := pushReceiver_eq_ok pushed
      intro receiver mem
      rw [← after, List.mem_append, List.mem_singleton] at mem
      rcases mem with mem | rfl
      · exact inv.served served receiver mem
      · exact .inr ⟨i, rfl, rfl⟩
    | error e => simp [Phase.afterGet, pushed] at after
  | getFailed => exact inv.setPhase fun _ h => by cases h
  | put i pending => exact (inv.put (inv.2.2 i _ pending)).setPhase fun _ h => by cases h
  | putFailed => exact inv.setPhase fun _ h => by cases h

end OnlyRequested

end Requested

/-- However the requests interleave, and even when the cache serves a set stored earlier or none,
every receiver stored under a version was stored under it at the start or is the receiver of a
request for that version: no receiver is made up, and none lands under another version. -/
theorem addHpkeConfig_only_requested (requests : Nat → AddHpkeConfigRequest) (kv : KvStore)
    (w : World) (reach : Relation.ReflTransGen (Step requests CachedRead) (World.init kv) w)
    (version : DapVersion) (receiver : HpkeReceiverConfig) (stored : receiver ∈ w.stored version) :
    receiver ∈ (kv.hpkeReceiverConfigSet version).getD [] ∨
      ∃ i, (requests i).version = version ∧ (requests i).newReceiver = receiver :=
  (reachable_induction (OnlyRequested requests kv) .init OnlyRequested.step reach).1 version
    receiver stored

/-- The interleaving of `addHpkeConfig_ids_nodup_stale`, with request 0's stale read: the
receiver `1` that ends stored was not in the store at the start, so it is a request's. -/
theorem addHpkeConfig_only_requested_stale :
    ∃ w, Relation.ReflTransGen (Step exampleRequests CachedRead) (World.init exampleStore) w ∧
      exampleReceiver 1 ∈ w.stored .draft07 ∧
      ∃ i, (exampleRequests i).version = .draft07 ∧
        (exampleRequests i).newReceiver = exampleReceiver 1 :=
  have reach : Relation.ReflTransGen (Step exampleRequests CachedRead) (World.init exampleStore) _ :=
    .tail (.tail (.tail (.single (.get 0 none rfl (.inr (.inl rfl)))) (.get 1 _ rfl (.inl rfl)))
      (.put 1 rfl)) (.put 0 rfl)
  have stored : exampleReceiver 1 ∈ World.stored _ .draft07 := by decide
  ⟨_, reach, stored, (addHpkeConfig_only_requested exampleRequests exampleStore _ reach .draft07
    (exampleReceiver 1) stored).resolve_left (by decide)⟩

/-! ## Acknowledged receivers -/

/-- Two requests that both read the empty set before either writes: both succeed, and the set
ends holding only the second one's receiver. -/
theorem addHpkeConfig_lost_update :
    ∃ w, Relation.ReflTransGen (Step exampleRequests FreshRead) (World.init KvStore.empty) w ∧
      w.phase 0 = .done (.ok ()) ∧ w.phase 1 = .done (.ok ()) ∧
      w.stored .draft07 = [(exampleRequests 1).newReceiver] ∧
      (exampleRequests 0).newReceiver ∉ w.stored .draft07 :=
  ⟨_, .tail (.tail (.tail (.single (.get 0 none rfl rfl)) (.get 1 none rfl rfl)) (.put 0 rfl))
    (.put 1 rfl), rfl, rfl, rfl, by decide⟩

section Exclusive

variable (requests : Nat → AddHpkeConfigRequest)

/-- Every acknowledged receiver is stored; a request about to put holds its receiver and all that
is stored under its version; and no two requests for one version are about to put. -/
def Acknowledged (w : World) : Prop :=
  (∀ i, w.phase i = .done (.ok ()) → (requests i).newReceiver ∈ w.stored (requests i).version) ∧
  (∀ i configList, w.phase i = .putting configList →
    (requests i).newReceiver ∈ configList ∧ w.stored (requests i).version ⊆ configList) ∧
  (∀ i j configList configList', w.phase i = .putting configList →
    w.phase j = .putting configList' → (requests i).version = (requests j).version → i = j)

namespace Acknowledged

variable {requests} {w : World}

theorem init (kv : KvStore) : Acknowledged requests (World.init kv) :=
  ⟨fun _ => nofun, fun _ _ => nofun, fun _ _ _ _ => nofun⟩

/-- A request that fails leaves the invariant as it was. -/
theorem fail (inv : Acknowledged requests w) (i : Nat) (e : DapError) :
    Acknowledged requests (w.setPhase i (.done (.error e))) := by
  have old : ∀ j phase, (w.setPhase i (.done (.error e))).phase j = phase →
      phase ≠ .done (.error e) → w.phase j = phase := fun _ _ h ne =>
    (World.setPhase_phase_eq h).elim (fun moved => absurd moved.2.symm ne) And.right
  refine ⟨fun j acked => ?_, fun j configList pending => ?_, fun j k l l' pj pk => ?_⟩
  · simpa using inv.1 j (old _ _ acked (by simp))
  · simpa using inv.2.1 j configList (old _ _ pending (by simp))
  · exact inv.2.2 j k l l' (old _ _ pj (by simp)) (old _ _ pk (by simp))

/-- An exclusive read that passes the check leaves its request about to put its receiver on top
of the stored set. -/
theorem get (inv : Acknowledged requests w) {i : Nat} (ready : w.phase i = .start)
    {read : Option (List HpkeReceiverConfig)}
    (served : ExclusiveRead requests w (requests i).version read) :
    Acknowledged requests (w.setPhase i (.afterGet (requests i).newReceiver read)) := by
  obtain ⟨fresh, alone⟩ := served
  cases pushed : pushReceiver (read.getD []) (requests i).newReceiver with
  | error e =>
    simpa [Phase.afterGet, pushed] using inv.fail i e
  | ok configList =>
    obtain ⟨-, rfl⟩ := pushReceiver_eq_ok pushed
    have now : w.stored (requests i).version = read.getD [] := by rw [fresh]; rfl
    simp only [Phase.afterGet, pushed]
    refine ⟨fun j acked => ?_, fun j l pending => ?_, fun j k l l' pj pk same => ?_⟩
    · obtain ⟨-, ⟨⟩⟩ | ⟨-, acked⟩ := World.setPhase_phase_eq acked
      simpa using inv.1 j acked
    · obtain ⟨rfl, ⟨⟩⟩ | ⟨-, pending⟩ := World.setPhase_phase_eq pending
      · simp [now]
      · simpa using inv.2.1 j l pending
    · obtain ⟨rfl, -⟩ | ⟨-, oldJ⟩ := World.setPhase_phase_eq pj <;>
        obtain ⟨rfl, -⟩ | ⟨-, oldK⟩ := World.setPhase_phase_eq pk
      · rfl
      · exact absurd same.symm (alone k l' oldK)
      · exact absurd same (alone j l oldJ)
      · exact inv.2.2 j k l l' oldJ oldK same

/-- A put keeps every acknowledged receiver: it writes everything stored under its version, and
no other request for that version is about to put. -/
theorem put (inv : Acknowledged requests w) {i : Nat} {configList : List HpkeReceiverConfig}
    (pending : w.phase i = .putting configList) :
    Acknowledged requests
      ((w.put (requests i).version configList).setPhase i (.done (.ok ()))) := by
  obtain ⟨mine, covers⟩ := inv.2.1 i configList pending
  have other : ∀ j l, w.phase j = .putting l → j ≠ i →
      (requests j).version ≠ (requests i).version :=
    fun j _ pj ji same => ji (inv.2.2 j i _ _ pj pending same)
  have kept : ∀ v, ∀ r ∈ w.stored v,
      r ∈ (w.put (requests i).version configList).stored v := by
    intro v r mem
    by_cases same : v = (requests i).version
    · subst same
      simpa using covers mem
    · rwa [World.put_stored_of_ne same]
  refine ⟨fun j acked => ?_, fun j l pj => ?_, fun j k l l' pj pk same => ?_⟩
  · obtain ⟨rfl, -⟩ | ⟨-, acked⟩ := World.setPhase_phase_eq acked
    · simpa using mine
    · simpa using kept _ _ (inv.1 j acked)
  · obtain ⟨-, ⟨⟩⟩ | ⟨ji, pj⟩ := World.setPhase_phase_eq pj
    rw [World.setPhase_stored, World.put_stored_of_ne (other j l pj ji)]
    exact inv.2.1 j l pj
  · obtain ⟨-, ⟨⟩⟩ | ⟨-, pj⟩ := World.setPhase_phase_eq pj
    obtain ⟨-, ⟨⟩⟩ | ⟨-, pk⟩ := World.setPhase_phase_eq pk
    exact inv.2.2 j k l l' pj pk same

theorem step {w' : World} (inv : Acknowledged requests w)
    (next : Step requests (ExclusiveRead requests) w w') : Acknowledged requests w' := by
  cases next with
  | get i read ready served => exact inv.get ready served
  | getFailed i => exact inv.fail i _
  | put i pending => exact inv.put pending
  | putFailed i => exact inv.fail i _

end Acknowledged

/-- When every read returns the set as last stored, and no request reads a version's set while
another request for that version is suspended between its read and its put, a request that
returned `Ok` has its receiver stored, from its put on: no acknowledged addition is lost. -/
theorem addHpkeConfig_exclusive_acknowledged (kv : KvStore) (w : World)
    (reach : Relation.ReflTransGen (Step requests (ExclusiveRead requests)) (World.init kv) w)
    (i : Nat) (acknowledged : w.phase i = .done (.ok ())) :
    (requests i).newReceiver ∈ w.stored (requests i).version :=
  (reachable_induction (Acknowledged requests) (.init kv) Acknowledged.step reach).1 i acknowledged

end Exclusive

/-- Two requests on the empty store, request 1 reading after request 0's put with no put pending:
both are acknowledged, and request 1's put keeps request 0's receiver. -/
theorem addHpkeConfig_exclusive_acknowledged_two :
    ∃ w, Relation.ReflTransGen (Step exampleRequests (ExclusiveRead exampleRequests))
      (World.init KvStore.empty) w ∧ w.phase 0 = .done (.ok ()) ∧ w.phase 1 = .done (.ok ()) ∧
      (exampleRequests 0).newReceiver ∈ w.stored (exampleRequests 0).version ∧
      (exampleRequests 1).newReceiver ∈ w.stored (exampleRequests 1).version :=
  have reach : Relation.ReflTransGen (Step exampleRequests (ExclusiveRead exampleRequests))
      (World.init KvStore.empty) _ := by
    refine .tail (.tail (.tail (.single (.get 0 none rfl ⟨rfl, fun _ _ => nofun⟩)) (.put 0 rfl))
      (.get 1 _ rfl ⟨rfl, fun j _ pending => ?_⟩)) (.put 1 rfl)
    by_cases first : j = 0 <;> simp [World.setPhase, World.init, first] at pending
  ⟨_, reach, rfl, rfl,
    addHpkeConfig_exclusive_acknowledged exampleRequests KvStore.empty _ reach 0 rfl,
    addHpkeConfig_exclusive_acknowledged exampleRequests KvStore.empty _ reach 1 rfl⟩

end Daphne.Server
