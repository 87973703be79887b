import ConsumerGroupManager.Concurrent.Threads
import ConsumerGroupManager.Properties.Sessions
import Mathlib.Logic.Relation

/-!
# 交錯しても、managed group は §4.2 の状態機械に沿って動く

spec §4.2 の managed group は三つの状態を持つ：Running（session を持つ）、Stopped、Closed。遷移は四つで、
`stop()` が Running を Stopped に、`start(group)` が Stopped を Running に、`close()` が Running と
Stopped を Closed にする。Closed から出る遷移はない（`Lifecycle`）。

manager が managed group の状態を書くのは `stop`、`start`、`close` と、新しい番号に group を作る
`createManagedGroup` だけである。だから goroutine がどう交錯しても、作られた managed group の状態は一歩ごとに
動かないか遷移を一つ進み（`Manager.Follows`）、実行の全体ではこの状態機械の道をたどる。特に、
`CloseConsumerGroup` が閉じた group を、後から走る start の command や Reconfigure が開き直すことはない。
group が session を替えるのは、いったん Stopped を通ってからである。
-/

namespace Consumer

/-- **spec §4.2 の managed group の状態機械。** -/
inductive Lifecycle : Status → Status → Prop
  | stop (k : Nat) : Lifecycle (.running k) .stopped
  | start (k : Nat) : Lifecycle .stopped (.running k)
  | closeRunning (k : Nat) : Lifecycle (.running k) .closed
  | closeStopped : Lifecycle .stopped .closed

/-- Closed に着いた道は、そこから動かない。 -/
theorem Lifecycle.closed_of_reaches {st : Status} (h : Relation.ReflTransGen Lifecycle .closed st) :
    st = .closed := by
  induction h with
  | refl => rfl
  | tail _ hstep ih => subst ih; cases hstep

/-- 一歩の後、作られた managed group の状態は動かないか、状態機械の遷移を一つ進んでいる。番号は減らない。 -/
def Manager.Follows (m m' : Manager) : Prop :=
  m.nextManaged ≤ m'.nextManaged ∧
    ∀ mg < m.nextManaged, Relation.ReflGen Lifecycle (m.managed mg).status (m'.managed mg).status

namespace Manager.Follows

variable {m m' : Manager}

theorem refl (m : Manager) : m.Follows m := ⟨Nat.le_refl _, fun _ _ => .refl⟩

/-- 状態も番号も変えない。 -/
theorem of_status (hn : m'.nextManaged = m.nextManaged) (hs : ∀ x, (m'.managed x).status = (m.managed x).status) :
    m.Follows m' :=
  ⟨hn.ge, fun x _ => hs x ▸ .refl⟩

/-- 一つの group を遷移させ、その group の session に `Close()` を呼ぶ（呼ばないこともある）。 -/
theorem setStatus {mg : Nat} {st : Status} (h : Lifecycle (m.managed mg).status st) :
    m.Follows (m.setStatus mg st) := by
  refine ⟨Nat.le_refl _, fun x _ => ?_⟩
  rw [setStatus_status]
  split
  · subst x; exact .single h
  · exact .refl

theorem markClosed (h : m.Follows m') (k : Nat) : m.Follows (m'.markClosed k) := h

end Manager.Follows

/-! ## 状態を書く操作 -/

section Primitives

variable {env : Env} {m : Manager} {lock : CommandLock} {before : Bool} {g : String} {mg : Nat}

theorem follows_processLock {r : EStateM.Result Err Manager Unit} (h : processLock lock before mg m = r) :
    m.Follows (stateOf r) :=
  have hc : SameCore m (stateOf r) := h ▸ sameCore_processLock
  .of_status hc.nextManaged hc.status

/-- `stop()`：Running の group を Stopped にする。Running でなければ何もしない。 -/
theorem follows_stop {r : EStateM.Result Err Manager Unit} (h : stop env mg m = r) : m.Follows (stateOf r) := by
  subst h
  cases hs : stop env mg m with
  | ok u m₁ =>
    obtain ⟨k, hk, -, rfl⟩ := stop_ok hs
    exact (Manager.Follows.setStatus (hk ▸ .stop k)).markClosed k
  | error e m₁ =>
    rcases stop_error hs with ⟨k, hk, -, -, rfl⟩ | ⟨-, -, rfl⟩
    · exact (Manager.Follows.setStatus (hk ▸ .stop k)).markClosed k
    · exact .refl _

/-- `close()`：Running か Stopped の group を Closed にする。Closed なら何もしない。 -/
theorem follows_close {r : EStateM.Result Err Manager Unit} (h : close env mg m = r) :
    m.Follows (stateOf r) := by
  subst h
  cases hs : close env mg m with
  | ok u m₁ =>
    rcases close_ok hs with ⟨hst, rfl⟩ | ⟨k, hk, -, rfl⟩
    · exact .setStatus (hst ▸ .closeStopped)
    · exact (Manager.Follows.setStatus (hk ▸ .closeRunning k)).markClosed k
  | error e m₁ =>
    rcases close_error hs with ⟨k, hk, -, -, rfl⟩ | ⟨-, -, rfl⟩
    · exact (Manager.Follows.setStatus (hk ▸ .closeRunning k)).markClosed k
    · exact .refl _

/-- `managedGrp.start(group)`：Stopped の group を Running にする。そうでなければ何もしない。 -/
theorem follows_start (mg k : Nat) (m : Manager) : m.Follows (stateOf (start mg k m)) := by
  rw [start_apply, stateOf_ok]
  split
  · next hst => exact .setStatus (hst ▸ .start k)
  · exact .refl m

theorem follows_createConsumerGroup {r : EStateM.Result Err Manager Nat} (h : createConsumerGroup env g m = r) :
    m.Follows (stateOf r) := by
  subst h
  cases hc : createConsumerGroup env g m with
  | ok k m₁ => obtain ⟨-, -, rfl⟩ := createConsumerGroup_ok hc; exact .refl m
  | error e m₁ => obtain ⟨-, -, rfl⟩ := createConsumerGroup_error hc; exact .refl m

/-- `createManagedGroup`：新しい番号に group を作る。作られていた group には触れない。 -/
theorem follows_createManagedGroup (k : Nat) (m : Manager) :
    m.Follows { m.setManaged m.nextManaged ⟨.running k, none⟩ with nextManaged := m.nextManaged + 1 } := by
  refine ⟨Nat.le_succ _, fun x hx => ?_⟩
  simp only [Manager.setManaged_managed, Function.update_noteq (Nat.ne_of_lt hx)]
  exact .refl

end Primitives

/-! ## 一つの goroutine の一歩 -/

theorem cmdStep_follows (env : Env) (op : OpCode) (lock : CommandLock) (g : String) (pc : CmdPc) (m : Manager) :
    m.Follows (cmdStep env op lock g pc m).2.1 := by
  cases pc with
  | lockBefore | getGroup | unlockAfter => simp only [cmdStep]; split <;> exact .refl m
  | lock mg | unlock mg =>
    simp only [cmdStep]
    split <;> (rename_i h; exact follows_processLock h)
  | act mg =>
    cases op with
    | stopConsumerGroup => simp only [cmdStep]; split <;> (rename_i h; exact follows_stop h)
    | startConsumerGroup => simp only [cmdStep]; split <;> (rename_i h; exact follows_createConsumerGroup h)
  | start mg k => exact follows_start mg k m
  | done => exact .refl m

theorem reconfStep_follows (env : Env) (brokers : List String) (config : Nat) (pc : ReconfPc) (m : Manager) :
    m.Follows (reconfStep env brokers config pc m).2.1 := by
  cases pc with
  | stopping g pc => exact cmdStep_follows env _ _ g pc m
  | starting g pc => exact cmdStep_follows env _ _ g pc m
  | snapshot | setFactory | done => exact .refl m

/-- **goroutine のどの一歩も、作られた managed group を状態機械に沿って動かす。** -/
theorem Thread.step_follows (env : Env) (t : Thread) (m : Manager) : m.Follows (t.step env m).2.1 := by
  cases t with
  | startGroup g pc =>
    cases pc with
    | create => simp only [Thread.step, startStep]; split <;> (rename_i h; exact follows_createConsumerGroup h)
    | manage k => exact follows_createManagedGroup k m
    | spawn | register | done => exact .refl m
  | closeGroup g pc =>
    cases pc with
    | getGroup => simp only [Thread.step, closeStep]; split <;> exact .refl m
    | close mg => simp only [Thread.step, closeStep]; split <;> (rename_i h; exact follows_close h)
    | remove | done => exact .refl m
  | command op lock g pc => exact cmdStep_follows env op lock g pc m
  | reconfigure brokers config pc => exact reconfStep_follows env brokers config pc m
  | consumeLoop => exact .refl m

theorem Sys.step_follows (env : Env) (s : Sys) (i : Nat) : s.m.Follows (s.step env i).m := by
  cases ht : s.threads[i]? with
  | none => rw [Sys.step_none env ht]; exact .refl _
  | some t => rw [Sys.step_some env ht]; exact Thread.step_follows env t s.m

/-- 実行の全体では、作られた managed group の状態は状態機械の道をたどる。 -/
theorem Sys.run_follows (env : Env) (s : Sys) (sched : List Nat) :
    s.m.nextManaged ≤ (s.run env sched).m.nextManaged ∧ ∀ mg < s.m.nextManaged,
      Relation.ReflTransGen Lifecycle (s.m.managed mg).status ((s.run env sched).m.managed mg).status := by
  induction sched generalizing s with
  | nil => exact ⟨Nat.le_refl _, fun _ _ => .refl⟩
  | cons i is ih =>
    obtain ⟨hn, hst⟩ := Sys.step_follows env s i
    obtain ⟨hn', hst'⟩ := ih (s.step env i)
    exact ⟨hn.trans hn', fun mg hmg => (hst mg hmg).to_reflTransGen.trans (hst' mg (Nat.lt_of_lt_of_le hmg hn))⟩

/-- **どう交錯しても、作られた managed group は §4.2 の状態機械の道をたどり、閉じた group は閉じたままである。** -/
theorem managed_groups_follow_lifecycle (env : Env) (s : Sys) (sched : List Nat) (mg : Nat)
    (hmg : mg < s.m.nextManaged) :
    Relation.ReflTransGen Lifecycle (s.m.managed mg).status ((s.run env sched).m.managed mg).status ∧
      ((s.m.managed mg).status = .closed → ((s.run env sched).m.managed mg).status = .closed) := by
  have h := (Sys.run_follows env s sched).2 mg hmg
  exact ⟨h, fun hc => Lifecycle.closed_of_reaches (hc ▸ h)⟩

/-- "a" の start の command が group を引いた後で `CloseConsumerGroup("a")` がその group を閉じる。
command の `managedGrp.start(group)` は閉じた group を開き直さない。 -/
theorem managed_groups_follow_lifecycle_run :
    let s := (Sys.init (NewConsumerGroupManager [] 0) [.startGroup "a" .create,
      .command .startConsumerGroup ⟨"T", false, false⟩ "a" .lockBefore, .closeGroup "a" .getGroup,
      .reconfigure ["b"] 1 .snapshot]).run Env.ok [0, 0, 0, 0]
    0 < s.m.nextManaged ∧
      Relation.ReflTransGen Lifecycle (s.m.managed 0).status
        ((s.run Env.ok [1, 1, 1, 2, 2, 2, 3, 1, 1, 1, 1, 3, 3, 3, 3, 3, 3]).m.managed 0).status ∧
      ((s.m.managed 0).status = .closed →
        ((s.run Env.ok [1, 1, 1, 2, 2, 2, 3, 1, 1, 1, 1, 3, 3, 3, 3, 3, 3]).m.managed 0).status = .closed) :=
  ⟨by decide, managed_groups_follow_lifecycle Env.ok _ _ 0 (by decide)⟩

end Consumer
