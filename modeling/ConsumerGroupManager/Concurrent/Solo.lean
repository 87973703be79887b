import ConsumerGroupManager.Concurrent.Threads
import ConsumerGroupManager.Properties.Reconfigure

/-!
# 一つの goroutine だけを走らせる

ほかの goroutine に割り込まれなければ、thread の段を順にたどった結果は逐次の模型の関数と同じである。
二つの模型はこれでつながる：`Threads.lean` の段は逐次の関数を細かく切ったものにすぎず、
交錯だけが新しい振る舞いを生む。

* `cmd_finishes` — command は `stopConsumerGroup`・`startConsumerGroup` と同じ結果で返る
* `solo_command`・`solo_startGroup`・`solo_closeGroup`・`solo_reconfigure` — thread の列で言い直したもの

証明は command の段ごとに「残りの動作」を置き、後ろの段から順に示す。
-/

namespace Consumer

variable {α : Type} {env : Env} {m : Manager}

/-- 結果の error。 -/
def errOf : EStateM.Result Err Manager α → Option Err
  | .ok _ _ => none
  | .error e _ => some e

@[simp] theorem errOf_ok (a : α) (m : Manager) : errOf (.ok a m : EStateM.Result Err Manager α) = none :=
  rfl

@[simp] theorem errOf_error (e : Err) (m : Manager) :
    errOf (.error e m : EStateM.Result Err Manager α) = some e := rfl

@[simp] theorem errOf_toResult (res : Option Err) (m : Manager) : errOf (toResult res m) = res := by
  cases res <;> rfl

/-! ## command -/

/-- 一つの command を邪魔されずに走らせると、`pc` から `done res` に着き、状態は `m'` になる。
着くまでの段はどれも返っていない。 -/
inductive CmdFinishes (env : Env) (op : OpCode) (lock : CommandLock) (g : String) :
    CmdPc → Manager → Option Err → Manager → Prop
  | last {pc : CmdPc} {m : Manager} {res : Option Err} {m' : Manager} :
      (∀ r, pc ≠ .done r) → (cmdStep env op lock g pc m).1 = .done res →
      (cmdStep env op lock g pc m).2.1 = m' → CmdFinishes env op lock g pc m res m'
  | step {pc pc' : CmdPc} {m m₁ : Manager} {res : Option Err} {m' : Manager} :
      (∀ r, pc ≠ .done r) → (cmdStep env op lock g pc m).1 = pc' →
      (cmdStep env op lock g pc m).2.1 = m₁ →
      CmdFinishes env op lock g pc' m₁ res m' → CmdFinishes env op lock g pc m res m'

section Command

variable {op : OpCode} {lock : CommandLock} {g : String}

/-- 返った command の状態：残りの動作の後に、結果を ghost の履歴に残したもの。 -/
def cmdFin (op : OpCode) (lock : CommandLock) (g : String) (r : EStateM.Result Err Manager α) :
    Manager :=
  (stateOf r).record (cmdCall op lock g (errOf r))

/-- command の、group を引いた後の残り。 -/
def cmdRest (env : Env) (op : OpCode) (lock : CommandLock) (g : String) (mg : Nat) : ManagerM Unit :=
  match op with
  | .stopConsumerGroup => stop env mg >>= fun _ => unlockAfter lock g
  | .startConsumerGroup =>
    createConsumerGroup env g >>= fun k => start mg k >>= fun _ => unlockAfter lock g

/-- command の、`lockBefore` の後の残り。 -/
def cmdFromGet (env : Env) (op : OpCode) (lock : CommandLock) (g : String) : ManagerM Unit :=
  getGroup g >>= fun o => match o with
    | some mg => cmdRest env op lock g mg
    | _ => throw (notManaged op g)

theorem finishes_unlock (mg : Nat) :
    CmdFinishes env op lock g (.unlock mg) m (errOf (processLock lock false mg m))
      (cmdFin op lock g (processLock lock false mg m)) := by
  refine .last (fun _ => CmdPc.noConfusion) ?_ ?_ <;>
    · simp only [cmdStep, cmdFin]
      cases processLock lock false mg m <;> rfl

theorem finishes_unlockAfter :
    CmdFinishes env op lock g .unlockAfter m (errOf (unlockAfter lock g m))
      (cmdFin op lock g (unlockAfter lock g m)) := by
  cases hg : m.groups.lookup g with
  | none =>
    rw [unlockAfter_none hg]
    exact .last (fun _ => CmdPc.noConfusion) (by simp [cmdStep, hg, cmdDone])
      (by simp [cmdStep, hg, cmdDone, cmdFin])
  | some mg =>
    rw [unlockAfter_some hg]
    exact .step (fun _ => CmdPc.noConfusion) (by simp [cmdStep, hg]) (by simp [cmdStep, hg])
      (finishes_unlock mg)

theorem finishes_start (mg k : Nat) :
    CmdFinishes env op lock g (.start mg k) m (errOf ((start mg k >>= fun _ => unlockAfter lock g) m))
      (cmdFin op lock g ((start mg k >>= fun _ => unlockAfter lock g) m)) := by
  simp only [bind_apply, start_apply]
  exact .step (fun _ => CmdPc.noConfusion) rfl (by simp [cmdStep, start_apply]) finishes_unlockAfter

theorem finishes_act (mg : Nat) :
    CmdFinishes env op lock g (.act mg) m (errOf (cmdRest env op lock g mg m))
      (cmdFin op lock g (cmdRest env op lock g mg m)) := by
  cases op with
  | stopConsumerGroup =>
    simp only [cmdRest, bind_apply]
    cases hs : stop env mg m with
    | ok u m₁ =>
      exact .step (fun _ => CmdPc.noConfusion) (by simp [cmdStep, hs]) (by simp [cmdStep, hs])
        finishes_unlockAfter
    | error e m₁ =>
      exact .last (fun _ => CmdPc.noConfusion) (by simp [cmdStep, hs, cmdDone])
        (by simp [cmdStep, hs, cmdDone, cmdFin])
  | startConsumerGroup =>
    simp only [cmdRest, bind_apply]
    cases hc : createConsumerGroup env g m with
    | ok k m₁ =>
      have := (finishes_start mg k : CmdFinishes env .startConsumerGroup lock g (.start mg k) m₁ _ _)
      rw [bind_apply] at this
      exact .step (fun _ => CmdPc.noConfusion) (by simp [cmdStep, hc]) (by simp [cmdStep, hc]) this
    | error e m₁ =>
      exact .last (fun _ => CmdPc.noConfusion) (by simp [cmdStep, hc, cmdDone])
        (by simp [cmdStep, hc, cmdDone, cmdFin])

theorem finishes_getGroup :
    CmdFinishes env op lock g .getGroup m (errOf (cmdFromGet env op lock g m))
      (cmdFin op lock g (cmdFromGet env op lock g m)) := by
  simp only [cmdFromGet, bind_apply, getGroup_apply]
  cases hg : m.groups.lookup g with
  | none =>
    exact .last (fun _ => CmdPc.noConfusion) (by simp [cmdStep, hg, cmdDone])
      (by simp [cmdStep, hg, cmdDone, cmdFin])
  | some mg =>
    exact .step (fun _ => CmdPc.noConfusion) (by simp [cmdStep, hg]) (by simp [cmdStep, hg])
      (finishes_act mg)

theorem finishes_lock (mg : Nat) :
    CmdFinishes env op lock g (.lock mg) m
      (errOf ((processLock lock true mg >>= fun _ => cmdFromGet env op lock g) m))
      (cmdFin op lock g ((processLock lock true mg >>= fun _ => cmdFromGet env op lock g) m)) := by
  simp only [bind_apply]
  cases hp : processLock lock true mg m with
  | ok u m₁ =>
    exact .step (fun _ => CmdPc.noConfusion) (by simp [cmdStep, hp]) (by simp [cmdStep, hp])
      finishes_getGroup
  | error e m₁ =>
    exact .last (fun _ => CmdPc.noConfusion) (by simp [cmdStep, hp, cmdDone])
      (by simp [cmdStep, hp, cmdDone, cmdFin])

theorem finishes_lockBefore :
    CmdFinishes env op lock g .lockBefore m
      (errOf ((lockBefore lock g >>= fun _ => cmdFromGet env op lock g) m))
      (cmdFin op lock g ((lockBefore lock g >>= fun _ => cmdFromGet env op lock g) m)) := by
  cases hg : m.groups.lookup g with
  | none =>
    rw [bind_apply, lockBefore_none hg]
    exact .step (fun _ => CmdPc.noConfusion) (by simp [cmdStep, hg]) (by simp [cmdStep, hg])
      finishes_getGroup
  | some mg =>
    have := (finishes_lock mg : CmdFinishes env op lock g (.lock mg) m _ _)
    rw [bind_apply, lockBefore_some hg]
    rw [bind_apply] at this
    exact .step (fun _ => CmdPc.noConfusion) (by simp [cmdStep, hg]) (by simp [cmdStep, hg]) this

/-- handler の関数は、`lockBefore` と、その後の残りを `traced` で包んだものである。 -/
theorem handler_eq (op : OpCode) :
    handler env op lock g = traced (cmdCall op lock g)
      (lockBefore lock g >>= fun _ => cmdFromGet env op lock g) := by
  cases op <;> simp only [handler, stopConsumerGroup, startConsumerGroup, cmdFromGet, cmdRest] <;> rfl

theorem traced_fin (x : ManagerM Unit) :
    errOf (traced (cmdCall op lock g) x m) = errOf (x m) ∧
      stateOf (traced (cmdCall op lock g) x m) = cmdFin op lock g (x m) := by
  unfold traced cmdFin
  cases x m <;> exact ⟨rfl, rfl⟩

/-- **command を一つだけ走らせる。** `lockBefore` の段から始めた command は、`stopConsumerGroup`・
`startConsumerGroup`（handler の関数）と同じ error と状態で返る。 -/
theorem cmd_finishes (op : OpCode) :
    CmdFinishes env op lock g .lockBefore m (errOf (handler env op lock g m))
      (stateOf (handler env op lock g m)) := by
  rw [handler_eq, (traced_fin _).1, (traced_fin _).2]
  exact finishes_lockBefore

end Command

/-! ## goroutine の列で -/

/-- goroutine の一段（観測と起こした goroutine は捨てる）。 -/
def Thread.next (env : Env) (a : Thread × Manager) : Thread × Manager :=
  ((a.1.step env a.2).1, (a.1.step env a.2).2.1)

/-- 一つの goroutine だけを何段か進める。 -/
def SoloSteps (env : Env) : Thread × Manager → Thread × Manager → Prop :=
  Relation.ReflTransGen fun a b => Thread.next env a = b

section Solo

variable {op : OpCode} {lock : CommandLock} {g : String} {pc : CmdPc} {res : Option Err}
  {m' : Manager} {brokers : List String} {config : Nat}

theorem CmdFinishes.not_done (h : CmdFinishes env op lock g pc m res m') : ∀ r, pc ≠ .done r := by
  cases h <;> assumption

theorem CmdFinishes.solo (h : CmdFinishes env op lock g pc m res m') :
    SoloSteps env (.command op lock g pc, m) (.command op lock g (.done res), m') := by
  induction h with
  | last _ h₁ h₂ => exact .single (by simp [Thread.next, Thread.step, h₁, h₂])
  | step _ h₁ h₂ _ ih => exact .head (by simp [Thread.next, Thread.step, h₁, h₂]) ih

/-- **control の command を一つだけ走らせる。** handler の関数と同じ error と状態で返る。 -/
theorem solo_command (op : OpCode) (lock : CommandLock) (g : String) (m : Manager) :
    SoloSteps env (.command op lock g .lockBefore, m)
      (.command op lock g (.done (errOf (handler env op lock g m))), stateOf (handler env op lock g m)) :=
  cmd_finishes op |>.solo

theorem afterStop_of_not_done {rest : List String} {errs : List Err} {rs : List String}
    (h : ∀ r, pc ≠ .done r) : afterStop g rest errs rs pc = .stopping g pc rest errs rs := by
  cases pc <;> first | rfl | exact absurd rfl (h _)

theorem afterStart_of_not_done {rest : List String} {errs : List Err} (h : ∀ r, pc ≠ .done r) :
    afterStart g rest errs pc = .starting g pc rest errs := by
  cases pc <;> first | rfl | exact absurd rfl (h _)

/-- Reconfigure の中の stop は、一つの command と同じに進む。 -/
theorem CmdFinishes.stopping {rest : List String} {errs : List Err} {rs : List String}
    (h : CmdFinishes env .stopConsumerGroup ⟨internalToken, true, false⟩ g pc m res m') :
    SoloSteps env (.reconfigure brokers config (.stopping g pc rest errs rs), m)
      (.reconfigure brokers config
        (stopNext rest (errs ++ res.toList) (rs ++ if res = none then [g] else [])), m') := by
  induction h with
  | last _ h₁ h₂ => exact .single (by simp [Thread.next, Thread.step, reconfStep, h₁, h₂, afterStop])
  | step _ h₁ h₂ hn ih =>
    refine .head ?_ ih
    simp [Thread.next, Thread.step, reconfStep, h₁, h₂, afterStop_of_not_done hn.not_done]

/-- Reconfigure の中の start は、一つの command と同じに進む。 -/
theorem CmdFinishes.starting {rest : List String} {errs : List Err}
    (h : CmdFinishes env .startConsumerGroup ⟨internalToken, false, true⟩ g pc m res m') :
    SoloSteps env (.reconfigure brokers config (.starting g pc rest errs), m)
      (.reconfigure brokers config (startNext rest (errs ++ res.toList)), m') := by
  induction h with
  | last _ h₁ h₂ => exact .single (by simp [Thread.next, Thread.step, reconfStep, h₁, h₂, afterStart])
  | step _ h₁ h₂ hn ih =>
    refine .head ?_ ih
    simp [Thread.next, Thread.step, reconfStep, h₁, h₂, afterStart_of_not_done hn.not_done]

/-- 前半の loop を一つの goroutine で走らせると、`stopGroups` の結果で factory の差し替えに着く。 -/
theorem solo_stopNext (env : Env) (brokers : List String) (config : Nat) (ks : List String)
    (errs : List Err) (rs : List String) (m : Manager) :
    ∃ p m', stopGroups env ks errs rs m = .ok p m' ∧
      SoloSteps env (.reconfigure brokers config (stopNext ks errs rs), m)
        (.reconfigure brokers config (.setFactory p.1 p.2), m') := by
  induction ks generalizing errs rs m with
  | nil => exact ⟨_, _, rfl, .refl⟩
  | cons g ks ih =>
    obtain ⟨res, m₁, h₁⟩ := exists_toResult (stopConsumerGroup env ⟨internalToken, true, false⟩ g m)
    have hf := (cmd_finishes .stopConsumerGroup :
      CmdFinishes env .stopConsumerGroup ⟨internalToken, true, false⟩ g .lockBefore m _ _)
    simp only [handler, h₁, errOf_toResult, stateOf_toResult] at hf
    obtain ⟨p, m', h, hs⟩ := ih (errs ++ res.toList) (rs ++ if res = none then [g] else []) m₁
    exact ⟨p, m', (stopGroups_cons env h₁).trans h, hf.stopping.trans hs⟩

/-- 後半の loop を一つの goroutine で走らせると、`startGroups` の結果で返る。 -/
theorem solo_startNext (env : Env) (brokers : List String) (config : Nat) (rs : List String)
    (errs : List Err) (m : Manager) :
    ∃ errs' m', startGroups env rs errs m = .ok errs' m' ∧
      SoloSteps env (.reconfigure brokers config (startNext rs errs), m)
        (.reconfigure brokers config (.done errs'), m') := by
  induction rs generalizing errs m with
  | nil => exact ⟨_, _, rfl, .refl⟩
  | cons g rs ih =>
    obtain ⟨res, m₁, h₁⟩ := exists_toResult (startConsumerGroup env ⟨internalToken, false, true⟩ g m)
    have hf := (cmd_finishes .startConsumerGroup :
      CmdFinishes env .startConsumerGroup ⟨internalToken, false, true⟩ g .lockBefore m _ _)
    simp only [handler, h₁, errOf_toResult, stateOf_toResult] at hf
    obtain ⟨errs', m', h, hs⟩ := ih (errs ++ res.toList) m₁
    exact ⟨errs', m', (startGroups_cons env h₁).trans h, hf.starting.trans hs⟩

/-- **Reconfigure を一つだけ走らせる。** `Reconfigure` と同じ error の列と状態で返る。 -/
theorem solo_reconfigure (brokers : List String) (config : Nat) (m : Manager) :
    ∃ errs m', Reconfigure env brokers config m = .ok errs m' ∧
      SoloSteps env (.reconfigure brokers config .snapshot, m)
        (.reconfigure brokers config (.done errs), m') := by
  obtain ⟨p, m₁, hs, hs'⟩ := solo_stopNext env brokers config m.groups.keys [] [] m
  obtain ⟨errs, m', ht, ht'⟩ :=
    solo_startNext env brokers config p.2 p.1 (stateOf (setFactory ⟨config, brokers⟩ m₁))
  refine ⟨errs, m', by simpa [Reconfigure_apply, hs] using ht, .head rfl (hs'.trans (.head ?_ ht'))⟩
  simp [Thread.next, Thread.step, reconfStep]

/-- **StartConsumerGroup を一つだけ走らせる。** consume loop を一つ起こすほかは、
`StartConsumerGroup` と同じ error と状態で返る。 -/
theorem solo_startGroup (g : String) (m : Manager) :
    SoloSteps env (.startGroup g .create, m)
      (.startGroup g (.done (errOf (StartConsumerGroup env g m))), stateOf (StartConsumerGroup env g m)) := by
  unfold StartConsumerGroup
  cases hc : createConsumerGroup env g m with
  | error e m₁ =>
    rw [bind_apply, hc]
    exact .single (by simp [Thread.next, Thread.step, startStep, hc])
  | ok k m₁ =>
    simp only [bind_apply, hc, createManagedGroup_apply, setGroup_apply]
    exact .head (b := (Thread.startGroup g (.spawn k), m₁)) (by simp [Thread.next, Thread.step, startStep, hc]) <|
      .head rfl <| .head rfl <| .single rfl

/-- **CloseConsumerGroup を一つだけ走らせる。** -/
theorem solo_closeGroup (g : String) (m : Manager) :
    SoloSteps env (.closeGroup g .getGroup, m)
      (.closeGroup g (.done (errOf (CloseConsumerGroup env g m))), stateOf (CloseConsumerGroup env g m)) := by
  cases hg : m.groups.lookup g with
  | none =>
    rw [CloseConsumerGroup_none hg]
    exact .single (by simp [Thread.next, Thread.step, closeStep, hg])
  | some mg =>
    rw [CloseConsumerGroup_some hg, bind_apply]
    refine .head (b := (Thread.closeGroup g (.close mg), m)) (by simp [Thread.next, Thread.step, closeStep, hg]) ?_
    cases hc : close env mg m with
    | error e m₁ => exact .single (by simp [Thread.next, Thread.step, closeStep, hc])
    | ok u m₁ =>
      exact .head (b := (Thread.closeGroup g .remove, m₁)) (by simp [Thread.next, Thread.step, closeStep, hc])
        (.single rfl)

end Solo

end Consumer
