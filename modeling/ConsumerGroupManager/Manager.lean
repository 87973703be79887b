import ConsumerGroupManager.Basic

/-!
# manager の状態と操作

`kafkaConsumerGroupManagerImpl` の関数を `ManagerM`（`EStateM Err Manager`）の値にする。
`EStateM` は error のときも状態を持ち帰るので、`if err != nil { return err }` は bind である。
`managed` と `sessions` は作った順の番号で指す heap、`calls` は観測のための ghost の履歴。
goroutine の交錯は `Concurrent/` で扱う。
-/

namespace Consumer

/-- 環境：何回目の factory 呼び出しが成功するか、どの session の `Close()` が成功するか。 -/
structure Env where
  factoryOk : Nat → Bool
  closeOk : Nat → Bool

def Env.ok : Env := ⟨fun _ => true, fun _ => true⟩

inductive Call where
  | stop (lock : CommandLock) (groupId : String) (result : Option Err)
  | start (lock : CommandLock) (groupId : String) (result : Option Err)
  | setFactory (factory : Factory)
  deriving DecidableEq, Repr

/-- `kafkaConsumerGroupManagerImpl`。`groups` の `AList` の並びを Go の map の走査順とする。 -/
structure Manager where
  factory : Factory
  groups : AList (fun _ : String => Nat)
  managed : Nat → ManagedGroup
  nextManaged : Nat
  sessions : Nat → Session
  nextSession : Nat
  attempts : Nat
  calls : List Call

/-- `NewConsumerGroupManager`。handler の登録は `handler` が表す。 -/
def NewConsumerGroupManager (brokers : List String) (config : Nat) : Manager where
  factory := ⟨config, brokers⟩
  groups := ∅
  managed := fun _ => default
  nextManaged := 0
  sessions := fun _ => default
  nextSession := 0
  attempts := 0
  calls := []

abbrev ManagerM := EStateM Err Manager

namespace Manager

@[simps]
def setManaged (m : Manager) (mg : Nat) (g : ManagedGroup) : Manager :=
  { m with managed := Function.update m.managed mg g }

def setStatus (m : Manager) (mg : Nat) (st : Status) : Manager :=
  m.setManaged mg { m.managed mg with status := st }

@[simps]
def markClosed (m : Manager) (k : Nat) : Manager :=
  { m with sessions := Function.update m.sessions k { m.sessions k with closed := true } }

@[simps]
def record (m : Manager) (c : Call) : Manager := { m with calls := m.calls ++ [c] }

end Manager

section Operations

variable (env : Env)

/-! ## map -/

def getGroup (groupId : String) : ManagerM (Option Nat) := fun m =>
  .ok (m.groups.lookup groupId) m

def setGroup (groupId : String) (group : Nat) : ManagerM Unit := fun m =>
  .ok () { m with groups := m.groups.insert groupId group }

def removeGroup (groupId : String) : ManagerM Unit := fun m =>
  .ok () { m with groups := m.groups.erase groupId }

/-! ## factory と session -/

/-- Modelled from the spec: `createConsumerGroup`（§4.1）。成否は環境が呼び出しの回数で決める。 -/
def createConsumerGroup (groupId : String) : ManagerM Nat := fun m =>
  if env.factoryOk m.attempts then
    .ok m.nextSession { m with
      sessions := Function.update m.sessions m.nextSession ⟨groupId, m.factory, false⟩
      nextSession := m.nextSession + 1
      attempts := m.attempts + 1 }
  else .error (.factory m.attempts) { m with attempts := m.attempts + 1 }

def closeSession (k : Nat) : ManagerM Unit := fun m =>
  if env.closeOk k then .ok () (m.markClosed k) else .error (.close k) (m.markClosed k)

/-! ## managed group -/

/-- Modelled from the spec: `createManagedGroup`（§4.4）。 -/
def createManagedGroup (group : Nat) : ManagerM Nat := fun m =>
  .ok m.nextManaged
    { m.setManaged m.nextManaged ⟨.running group, none⟩ with nextManaged := m.nextManaged + 1 }

/-- Modelled from the spec: `managedGroup.stop`（§4.2）。 -/
def stop (mg : Nat) : ManagerM Unit := fun m =>
  match (m.managed mg).status with
  | .running k => closeSession env k (m.setStatus mg .stopped)
  | _ => .error .notRunning m

/-- Modelled from the spec: `managedGroup.close`（§4.2）のうち `released_signal` を待った後の段。
`cancel_outer` と待ちは `Concurrent/CloseWait.lean` にある。 -/
def close (mg : Nat) : ManagerM Unit := fun m =>
  match (m.managed mg).status with
  | .running k => closeSession env k (m.setStatus mg .closed)
  | .stopped => .ok () (m.setStatus mg .closed)
  | .closed => .error .groupClosed m

/-- `managedGrp.start(group)`。`startConsumerGroup` は戻り値を見ないので、失敗は捨てる。 -/
def start (mg group : Nat) : ManagerM Unit := fun m =>
  match (m.managed mg).start group with
  | .ok g => .ok () (m.setManaged mg g)
  | .error _ => .ok () m

def processLock (lock : CommandLock) (before : Bool) (mg : Nat) : ManagerM Unit := fun m =>
  match (m.managed mg).processLock lock before with
  | .ok g => .ok () (m.setManaged mg g)
  | .error e => .error e m

/-! ## lock -/

/-- `lockBefore`。group がなければ何もしない。 -/
def lockBefore (lock : CommandLock) (groupId : String) : ManagerM Unit := do
  let some group ← getGroup groupId | pure ()
  processLock lock true group

def unlockAfter (lock : CommandLock) (groupId : String) : ManagerM Unit := do
  let some group ← getGroup groupId | pure ()
  processLock lock false group

/-! ## control-protocol の stop と start -/

/-- 呼び出しとその結果を ghost の履歴に残す。 -/
def traced (call : Option Err → Call) (x : ManagerM Unit) : ManagerM Unit := fun m =>
  match x m with
  | .ok _ m' => .ok () (m'.record (call none))
  | .error e m' => .error e (m'.record (call (some e)))

def stopConsumerGroup (lock : CommandLock) (groupId : String) : ManagerM Unit :=
  traced (.stop lock groupId) do
    lockBefore lock groupId
    let some managedGrp ← getGroup groupId | throw (.stopNotManaged groupId)
    stop env managedGrp
    unlockAfter lock groupId

def startConsumerGroup (lock : CommandLock) (groupId : String) : ManagerM Unit :=
  traced (.start lock groupId) do
    lockBefore lock groupId
    let some managedGrp ← getGroup groupId | throw (.startNotManaged groupId)
    let group ← createConsumerGroup env groupId
    start managedGrp group
    unlockAfter lock groupId

/-! ## 公開の操作 -/

/-- `StartConsumerGroup`。consume loop は `Concurrent/Threads.lean` の thread である。 -/
def StartConsumerGroup (groupId : String) : ManagerM Unit := do
  let group ← createConsumerGroup env groupId
  let managedGrp ← createManagedGroup group
  setGroup groupId managedGrp

def CloseConsumerGroup (groupId : String) : ManagerM Unit := do
  let some managedGrp ← getGroup groupId | throw (.closeNotManaged groupId)
  close env managedGrp
  removeGroup groupId

/-- `Errors`。永続する error channel を group の番号で表す。 -/
def Errors (groupId : String) (m : Manager) : Option Nat := m.groups.lookup groupId

def IsManaged (groupId : String) (m : Manager) : Bool := (m.groups.lookup groupId).isSome

/-- `consume`。group の中の supervised loop（§4.2）は `Concurrent/Threads.lean` で扱う。 -/
def consume (groupId : String) : ManagerM Nat := do
  let some managedGrp ← getGroup groupId | throw (.consumeNotManaged groupId)
  pure managedGrp

/-! ## Reconfigure -/

/-- Go の `err := f()`：失敗を値として受け取り、先へ進む。 -/
def capture (x : ManagerM Unit) : ManagerM (Option Err) := fun m =>
  match x m with
  | .ok _ m' => .ok none m'
  | .error e m' => .ok (some e) m'

/-- `multierr.AppendInto`。合わせた error をその部品の列で表す。 -/
def appendInto (multiErr : List Err) (err : Err) : List Err := multiErr ++ [err]

def stopGroups : List String → List Err → List String → ManagerM (List Err × List String)
  | [], multiErr, groupsToRestart => pure (multiErr, groupsToRestart)
  | groupId :: rest, multiErr, groupsToRestart => do
    match ← capture (stopConsumerGroup env ⟨internalToken, true, false⟩ groupId) with
    | some err => stopGroups rest (appendInto multiErr err) groupsToRestart
    | none => stopGroups rest multiErr (groupsToRestart ++ [groupId])

def startGroups : List String → List Err → ManagerM (List Err)
  | [], multiErr => pure multiErr
  | groupId :: rest, multiErr => do
    match ← capture (startConsumerGroup env ⟨internalToken, false, true⟩ groupId) with
    | some err => startGroups rest (appendInto multiErr err)
    | none => startGroups rest multiErr

def setFactory (factory : Factory) : ManagerM Unit := fun m =>
  .ok () ({ m with factory } |>.record (.setFactory factory))

def Reconfigure (brokers : List String) (config : Nat) : ManagerM (List Err) := do
  let groupIds := (← get).groups.keys
  let (multiErr, groupsToRestart) ← stopGroups env groupIds [] []
  setFactory ⟨config, brokers⟩
  startGroups env groupsToRestart multiErr

/-! ## control-protocol の handler -/

structure ConsumerGroupAsyncCommand where
  version : UInt16
  groupId : String
  lock : CommandLock
  deriving DecidableEq, Repr

inductive Notification where
  | success
  | failed (err : Err)
  deriving DecidableEq, Repr

inductive OpCode where
  | stopConsumerGroup
  | startConsumerGroup
  deriving DecidableEq, Repr

/-- `NewConsumerGroupManager` が op code ごとに登録する関数。 -/
def handler : OpCode → CommandLock → String → ManagerM Unit
  | .stopConsumerGroup => stopConsumerGroup env
  | .startConsumerGroup => startConsumerGroup env

/-- `processAsyncGroupNotification`。src/ にない `ConsumerGroupAsyncCommandVersion` は引数 `version`。 -/
def processAsyncGroupNotification (version : UInt16) (parsed : Option ConsumerGroupAsyncCommand)
    (groupFunction : CommandLock → String → ManagerM Unit) : ManagerM (Option Notification) :=
  fun m =>
    match parsed with
    | none => .ok none m
    | some cmd =>
      if cmd.version ≠ version then
        .ok (some (.failed (.versionMismatch version cmd.version))) m
      else
        match groupFunction cmd.lock cmd.groupId m with
        | .ok _ m' => .ok (some .success) m'
        | .error err m' => .ok (some (.failed err)) m'

end Operations

end Consumer
