import ConsumerGroupManager.Run
import ConsumerGroupManager.Properties.Steps

/-!
# goroutine の交錯

一つの呼び出しを、Go の lock の切れ目ごとの段に分けた thread にする。`groupLock` の下の
`getGroup`・`setGroup`・`removeGroup`、group の mutex の下の `processLock`・`stop`・`start`・`close`、
factory の呼び出し、`Reconfigure` の key の読み取りがそれぞれ一段である。一段は逐次の模型の関数を
そのまま使う（thread 一つなら逐次の関数と同じになることは `Solo.lean`）。
-/

namespace Consumer

/-- 観測する段：command の lock・`stop()`・`start()` と、consume loop の `m.consume` の結果。 -/
inductive Act where
  | locked (mg : Nat)
  | stopped (mg : Nat)
  | started (mg : Nat)
  | consumed (groupId : String) (mg : Nat)
  | consumeFailed (err : Err)
  deriving DecidableEq, Repr

/-! ## control の stop と start -/

/-- `stopConsumerGroup`・`startConsumerGroup` の途中。`act` は stop なら `stop()`、start なら factory。 -/
inductive CmdPc where
  | lockBefore
  | lock (mg : Nat)
  | getGroup
  | act (mg : Nat)
  | start (mg group : Nat)
  | unlockAfter
  | unlock (mg : Nat)
  | done (res : Option Err)
  deriving DecidableEq, Repr

def cmdCall : OpCode → CommandLock → String → Option Err → Call
  | .stopConsumerGroup => .stop
  | .startConsumerGroup => .start

def notManaged : OpCode → String → Err
  | .stopConsumerGroup => .stopNotManaged
  | .startConsumerGroup => .startNotManaged

section Command

variable (env : Env) (op : OpCode) (lock : CommandLock) (g : String)

/-- command が返る（`traced`）。 -/
def cmdDone (res : Option Err) (m : Manager) : CmdPc × Manager × List Act :=
  (.done res, m.record (cmdCall op lock g res), [])

@[simp] theorem cmdDone_pc (res : Option Err) (m : Manager) : (cmdDone op lock g res m).1 = .done res := rfl

@[simp] theorem cmdDone_acts (res : Option Err) (m : Manager) : (cmdDone op lock g res m).2.2 = [] := rfl

def cmdStep : CmdPc → Manager → CmdPc × Manager × List Act
  | .lockBefore, m =>
    match m.groups.lookup g with
    | some mg => (.lock mg, m, [])
    | none => (.getGroup, m, [])
  | .lock mg, m =>
    match processLock lock true mg m with
    | .ok _ m' => (.getGroup, m', if lock.lockBefore then [.locked mg] else [])
    | .error e m' => cmdDone op lock g (some e) m'
  | .getGroup, m =>
    match m.groups.lookup g with
    | some mg => (.act mg, m, [])
    | none => cmdDone op lock g (some (notManaged op g)) m
  | .act mg, m =>
    match op with
    | .stopConsumerGroup =>
      match stop env mg m with
      | .ok _ m' => (.unlockAfter, m', [.stopped mg])
      | .error e m' => cmdDone op lock g (some e) m'
    | .startConsumerGroup =>
      match createConsumerGroup env g m with
      | .ok k m' => (.start mg k, m', [])
      | .error e m' => cmdDone op lock g (some e) m'
  | .start mg k, m => (.unlockAfter, stateOf (start mg k m), [.started mg])
  | .unlockAfter, m =>
    match m.groups.lookup g with
    | some mg => (.unlock mg, m, [])
    | none => cmdDone op lock g none m
  | .unlock mg, m =>
    match processLock lock false mg m with
    | .ok _ m' => cmdDone op lock g none m'
    | .error e m' => cmdDone op lock g (some e) m'
  | .done res, m => (.done res, m, [])

end Command

/-! ## Reconfigure -/

/-- `Reconfigure` の途中。`snapshot` は `for groupId := range m.groups` で key を読む段。 -/
inductive ReconfPc where
  | snapshot
  | stopping (groupId : String) (pc : CmdPc) (rest : List String) (multiErr : List Err)
      (groupsToRestart : List String)
  | setFactory (multiErr : List Err) (groupsToRestart : List String)
  | starting (groupId : String) (pc : CmdPc) (rest : List String) (multiErr : List Err)
  | done (multiErr : List Err)
  deriving DecidableEq, Repr

def stopNext : List String → List Err → List String → ReconfPc
  | [], multiErr, groupsToRestart => .setFactory multiErr groupsToRestart
  | g :: rest, multiErr, groupsToRestart => .stopping g .lockBefore rest multiErr groupsToRestart

def startNext : List String → List Err → ReconfPc
  | [], multiErr => .done multiErr
  | g :: rest, multiErr => .starting g .lockBefore rest multiErr

/-- 一つの stop が返ったら error を積むか、restart に回す。 -/
def afterStop (g : String) (rest : List String) (multiErr : List Err)
    (groupsToRestart : List String) : CmdPc → ReconfPc
  | .done res => stopNext rest (multiErr ++ res.toList)
      (groupsToRestart ++ if res = none then [g] else [])
  | pc => .stopping g pc rest multiErr groupsToRestart

def afterStart (g : String) (rest : List String) (multiErr : List Err) : CmdPc → ReconfPc
  | .done res => startNext rest (multiErr ++ res.toList)
  | pc => .starting g pc rest multiErr

def reconfStep (env : Env) (brokers : List String) (config : Nat) :
    ReconfPc → Manager → ReconfPc × Manager × List Act
  | .snapshot, m => (stopNext m.groups.keys [] [], m, [])
  | .stopping g pc rest multiErr groupsToRestart, m =>
    let r := cmdStep env .stopConsumerGroup ⟨internalToken, true, false⟩ g pc m
    (afterStop g rest multiErr groupsToRestart r.1, r.2.1, r.2.2)
  | .setFactory multiErr groupsToRestart, m =>
    (startNext groupsToRestart multiErr, stateOf (setFactory ⟨config, brokers⟩ m), [])
  | .starting g pc rest multiErr, m =>
    let r := cmdStep env .startConsumerGroup ⟨internalToken, false, true⟩ g pc m
    (afterStart g rest multiErr r.1, r.2.1, r.2.2)
  | .done multiErr, m => (.done multiErr, m, [])

/-! ## StartConsumerGroup と CloseConsumerGroup -/

/-- `StartConsumerGroup` の途中。`spawn` は `startExistingConsumerGroup` で consume loop を起こす段。 -/
inductive StartPc where
  | create
  | spawn (group : Nat)
  | manage (group : Nat)
  | register (managedGrp : Nat)
  | done (res : Option Err)
  deriving DecidableEq, Repr

inductive ClosePc where
  | getGroup
  | close (mg : Nat)
  | remove
  | done (res : Option Err)
  deriving DecidableEq, Repr

inductive Thread where
  | startGroup (groupId : String) (pc : StartPc)
  | closeGroup (groupId : String) (pc : ClosePc)
  | command (op : OpCode) (lock : CommandLock) (groupId : String) (pc : CmdPc)
  | reconfigure (brokers : List String) (config : Nat) (pc : ReconfPc)
  /-- Modelled from the spec: §4.2 の supervised loop。一段ごとに manager の `consume` を呼ぶ。 -/
  | consumeLoop (groupId : String)
  deriving DecidableEq, Repr

section Step

variable (env : Env)

def startStep (g : String) : StartPc → Manager → StartPc × Manager × List Thread
  | .create, m =>
    match createConsumerGroup env g m with
    | .ok k m' => (.spawn k, m', [])
    | .error e m' => (.done (some e), m', [])
  | .spawn k, m => (.manage k, m, [.consumeLoop g])
  | .manage k, m =>
    match createManagedGroup k m with
    | .ok mg m' => (.register mg, m', [])
    | .error e m' => (.done (some e), m', [])
  | .register mg, m => (.done none, stateOf (setGroup g mg m), [])
  | .done res, m => (.done res, m, [])

def closeStep (g : String) : ClosePc → Manager → ClosePc × Manager
  | .getGroup, m =>
    match m.groups.lookup g with
    | some mg => (.close mg, m)
    | none => (.done (some (.closeNotManaged g)), m)
  | .close mg, m =>
    match close env mg m with
    | .ok _ m' => (.remove, m')
    | .error e m' => (.done (some e), m')
  | .remove, m => (.done none, stateOf (removeGroup g m))
  | .done res, m => (.done res, m)

def consumeAct (g : String) (m : Manager) : Act :=
  match consume g m with
  | .ok mg _ => .consumed g mg
  | .error e _ => .consumeFailed e

/-- 一段：次の姿、状態、観測、起こした goroutine。 -/
def Thread.step : Thread → Manager → Thread × Manager × List Act × List Thread
  | .startGroup g pc, m =>
    let r := startStep env g pc m
    (.startGroup g r.1, r.2.1, [], r.2.2)
  | .closeGroup g pc, m =>
    let r := closeStep env g pc m
    (.closeGroup g r.1, r.2, [], [])
  | .command op lock g pc, m =>
    let r := cmdStep env op lock g pc m
    (.command op lock g r.1, r.2.1, r.2.2, [])
  | .reconfigure brokers config pc, m =>
    let r := reconfStep env brokers config pc m
    (.reconfigure brokers config r.1, r.2.1, r.2.2, [])
  | .consumeLoop g, m => (.consumeLoop g, m, [consumeAct g m], [])

def Thread.finished : Thread → Bool
  | .startGroup _ (.done _) | .closeGroup _ (.done _) | .command _ _ _ (.done _)
  | .reconfigure _ _ (.done _) => true
  | _ => false

end Step

/-! ## 系 -/

structure Sys where
  m : Manager
  threads : List Thread
  log : List (Nat × Act)

/-- goroutine `i` の一段。起こした goroutine は列の後ろに足す。 -/
def Sys.step (env : Env) (s : Sys) (i : Nat) : Sys :=
  match s.threads.get? i with
  | none => s
  | some t =>
    let r := t.step env s.m
    { m := r.2.1
      threads := s.threads.set i r.1 ++ r.2.2.2
      log := s.log ++ r.2.2.1.map (i, ·) }

theorem Sys.step_none (env : Env) {s : Sys} {i : Nat} (h : s.threads[i]? = none) : s.step env i = s := by
  simp [Sys.step, h]

theorem Sys.step_some (env : Env) {s : Sys} {i : Nat} {t : Thread} (h : s.threads[i]? = some t) :
    s.step env i =
      { m := (t.step env s.m).2.1
        threads := s.threads.set i (t.step env s.m).1 ++ (t.step env s.m).2.2.2
        log := s.log ++ (t.step env s.m).2.2.1.map (i, ·) } := by
  simp [Sys.step, h]

def Sys.run (env : Env) (s : Sys) : List Nat → Sys
  | [] => s
  | i :: is => (s.step env i).run env is

def Sys.Reaches (env : Env) (s s' : Sys) : Prop := ∃ schedule, s.run env schedule = s'

def Sys.init (m : Manager) (threads : List Thread) : Sys := ⟨m, threads, []⟩

theorem Sys.run_append (env : Env) (s : Sys) (l₁ l₂ : List Nat) :
    s.run env (l₁ ++ l₂) = (s.run env l₁).run env l₂ := by
  induction l₁ generalizing s with
  | nil => rfl
  | cons i is ih => exact ih _

theorem Sys.Reaches.trans {env : Env} {s₁ s₂ s₃ : Sys} (h₁ : s₁.Reaches env s₂)
    (h₂ : s₂.Reaches env s₃) : s₁.Reaches env s₃ := by
  obtain ⟨l₁, rfl⟩ := h₁
  obtain ⟨l₂, rfl⟩ := h₂
  exact ⟨l₁ ++ l₂, Sys.run_append env s₁ l₁ l₂⟩

/-! ## consume loop と map -/

/-- 起こされた直後の consume loop の `consume` は、"g" がまだ map にないので失敗する。 -/
theorem consume_before_register_fails :
    ∃ s, (Sys.init (NewConsumerGroupManager [] 0) [.startGroup "g" .create]).run Env.ok
        [0, 0, 1, 0, 0] = s ∧
      (1, .consumeFailed (.consumeNotManaged "g")) ∈ s.log ∧
      (Err.consumeNotManaged "g").message = some "consume called on nonexistent groupId \x27g\x27" ∧
      IsManaged "g" s.m = true :=
  ⟨_, rfl, by decide⟩

end Consumer
