import ConsumerGroupManager.Properties.Sessions

/-!
# start の command は `managedGrp.start(group)` の失敗を見ずに成功を返す

`startConsumerGroup` は factory で新しい session を作って `managedGrp.start(group)` に渡すが、その戻り値を
捨てる（`consumer_manager.go` の 283 行）。spec §4.2 の `start` は Stopped の group にしか session を入れず、
Running なら "no-op with error"、Closed なら error を返す。だから Running か Closed の group への
start の command は、lock が取れて factory が成功すれば、どの group の状態も変えないまま
`NotifySuccess` を返す。作った session は開いたままで、どの group の session でもない。
session の勘定（`SessionsAccounted`：factory から得た session は、閉じられたか map の group の session
である）は、それまで成り立っていても、この一つの command で壊れる。
-/

namespace Consumer

variable {env : Env} {m : Manager} {lock : CommandLock} {mg : Nat}

/-- lock が空か自分の token なら、`processLock` は成功する。状態は変えず、lock は空か自分の token のまま。 -/
theorem ManagedGroup.processLock_of_free {g : ManagedGroup} (before : Bool)
    (h : g.lockedBy = none ∨ g.lockedBy = some lock.token) :
    ∃ g', g.processLock lock before = .ok g' ∧ g'.status = g.status ∧
      (g'.lockedBy = none ∨ g'.lockedBy = some lock.token) := by
  cases hp : g.processLock lock before with
  | error e =>
    obtain ⟨-, holder, hh, hne, -⟩ := ManagedGroup.processLock_eq_error.mp hp
    rcases h with h | h <;> rw [h] at hh <;> cases hh
    exact absurd rfl hne
  | ok g' =>
    refine ⟨g', rfl, ManagedGroup.processLock_status hp, ?_⟩
    rw [ManagedGroup.processLock_lockedBy hp]
    split
    · split <;> simp
    · exact h

theorem processLock_of_free (before : Bool)
    (h : (m.managed mg).lockedBy = none ∨ (m.managed mg).lockedBy = some lock.token) :
    ∃ r, processLock lock before mg m = .ok () (m.setManaged mg r) ∧ r.status = (m.managed mg).status ∧
      (r.lockedBy = none ∨ r.lockedBy = some lock.token) := by
  obtain ⟨r, hr, hs, hl⟩ := ManagedGroup.processLock_of_free before h
  exact ⟨r, by simp only [processLock, hr], hs, hl⟩

/-- **Stopped でない group への `startConsumerGroup` の成功。** lock が取れて factory が成功すれば、
`startConsumerGroup` は成功を返す。どの group の状態も変わらず、番号 `m.nextSession` の開いた session が残る。 -/
theorem startConsumerGroup_of_not_stopped {g : String} (hg : m.groups.lookup g = some mg)
    (hst : (m.managed mg).status ≠ .stopped)
    (hl : (m.managed mg).lockedBy = none ∨ (m.managed mg).lockedBy = some lock.token)
    (hf : env.factoryOk m.attempts = true) :
    ∃ m', startConsumerGroup env lock g m = .ok () m' ∧ (∀ x, (m'.managed x).status = (m.managed x).status) ∧
      m'.nextSession = m.nextSession + 1 ∧ (m'.sessions m.nextSession).closed = false := by
  obtain ⟨r, hr, hrs, hrl⟩ := processLock_of_free true hl
  -- factory の session は、`start` が何もしないので、どの group にも入らない
  set M : Manager := { m.setManaged mg r with
    sessions := Function.update m.sessions m.nextSession ⟨g, m.factory, false⟩
    nextSession := m.nextSession + 1
    attempts := m.attempts + 1 } with hM
  have hc : createConsumerGroup env g (m.setManaged mg r) = .ok m.nextSession M := by
    simp only [createConsumerGroup, Manager.setManaged_attempts, hf, if_true]; rfl
  have hfree : (M.managed mg).lockedBy = none ∨ (M.managed mg).lockedBy = some lock.token := by
    simpa [hM] using hrl
  obtain ⟨r', hr', hr's, -⟩ := processLock_of_free false hfree
  refine ⟨(M.setManaged mg r').record (.start lock g none), ?_, fun x => ?_, rfl, by simp [hM]⟩
  · have hM' : (M.managed mg).status ≠ .stopped := by simpa [hM, hrs] using hst
    simp only [startConsumerGroup_some hg, traced, bind_apply, hr, hc, start_apply, if_neg hM', hr']
  · by_cases hx : x = mg
    · subst hx; simpa [hM, hrs] using hr's
    · simp [hM, hx]

/-- **start の command は、Stopped でない group に向かっても成功を返し、session を漏らす。** -/
theorem start_command_succeeds_without_starting (env : Env) (version : UInt16) (m : Manager)
    (cmd : ConsumerGroupAsyncCommand) (mg : Nat) (hm : Accounted m) (hv : cmd.version = version)
    (hg : m.groups.lookup cmd.groupId = some mg) (hst : (m.managed mg).status ≠ .stopped)
    (hl : (m.managed mg).lockedBy = none ∨ (m.managed mg).lockedBy = some cmd.lock.token)
    (hf : env.factoryOk m.attempts = true) :
    (handle env version (.command .startConsumerGroup (some cmd)) m).1 = .notify (some .success) ∧
      (∀ x, ((handle env version (.command .startConsumerGroup (some cmd)) m).2.managed x).status =
        (m.managed x).status) ∧
      ¬ SessionsAccounted (handle env version (.command .startConsumerGroup (some cmd)) m).2 := by
  obtain ⟨m', hs, hst', hn, hk⟩ := startConsumerGroup_of_not_stopped hg hst hl hf
  have hh : handle env version (.command .startConsumerGroup (some cmd)) m = (.notify (some .success), m') := by
    simp only [handle, processAsyncGroupNotification, hv, ne_eq, not_true_eq_false, if_false, handler, hs]
  rw [hh]
  refine ⟨rfl, hst', fun hacc => ?_⟩
  -- 新しい session は閉じられておらず、それで Running の group はない
  rcases hacc m.nextSession (by show m.nextSession < m'.nextSession; omega) with hc | ⟨x, -, hx, -⟩
  · rw [hk] at hc; cases hc
  · rw [hst'] at hx
    exact Nat.lt_irrefl _ (hm.running_lt x _ hx)

/-- "a" を start した直後（Running）に、token "T" の start の command がもう一度届く。返事は
`NotifySuccess` で、group は Running のまま、command が作った session 1 はどこにも入らない。 -/
theorem start_command_succeeds_without_starting_run :
    let m := (run Env.ok 1 [.startConsumerGroup "a"] (NewConsumerGroupManager [] 0)).2
    let cmd : ConsumerGroupAsyncCommand := ⟨1, "a", ⟨"T", true, true⟩⟩
    Accounted m ∧ cmd.version = 1 ∧ m.groups.lookup cmd.groupId = some 0 ∧ (m.managed 0).status ≠ .stopped ∧
      ((m.managed 0).lockedBy = none ∨ (m.managed 0).lockedBy = some cmd.lock.token) ∧
      Env.ok.factoryOk m.attempts = true ∧
      (handle Env.ok 1 (.command .startConsumerGroup (some cmd)) m).1 = .notify (some .success) ∧
      (∀ x, ((handle Env.ok 1 (.command .startConsumerGroup (some cmd)) m).2.managed x).status =
        (m.managed x).status) ∧
      ¬ SessionsAccounted (handle Env.ok 1 (.command .startConsumerGroup (some cmd)) m).2 :=
  have hm := accounted_run 1 [.startConsumerGroup "a"] _ (Accounted.init [] 0) (by decide)
  ⟨hm, rfl, by decide, by decide, by decide, rfl,
    start_command_succeeds_without_starting Env.ok 1 _ _ 0 hm rfl (by decide) (by decide) (by decide) rfl⟩

end Consumer
