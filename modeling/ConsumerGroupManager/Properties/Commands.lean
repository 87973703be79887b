import ConsumerGroupManager.Properties.Steps

/-!
# 失敗した stop と start が残すもの

spec は失敗した操作を「Surfaced to caller; no state change」とする。コードはそうなっていない。
`lockBefore` は操作より先に lock を取り、その後の `return err` はどれもそれを外さない。
`stop()` の中で session の `Close()` が失敗したときは、group はもう Stopped である。
`unlockAfter` が別の token に阻まれたときは、stop や start はもう済んでいる。

ここでは失敗の起きる場所ごとに、入力のどの条件でそこで失敗し、何を返し、何を残すかを述べる。
-/

namespace Consumer

variable {env : Env} {lock : CommandLock} {g : String} {m : Manager} {mg : Nat}

/-- 操作の前の失敗の後：どの group も状態（今の session を含む）は同じで、session の表も同じ。
lock は同じか、`g` の group が command の token を持つようになった（`lockBefore` が取った）。 -/
def FailedBefore (lock : CommandLock) (g : String) (m m' : Manager) : Prop :=
  m'.sessions = m.sessions ∧ ∀ mg, (m'.managed mg).status = (m.managed mg).status ∧
    ((m'.managed mg).lockedBy = (m.managed mg).lockedBy ∨
      m.groups.lookup g = some mg ∧ lock.lockBefore = true ∧
        (m'.managed mg).lockedBy = some lock.token)

/-- `lockBefore` が取った lock。 -/
theorem FailedBefore.locked {r : ManagedGroup} (hg : m.groups.lookup g = some mg)
    (hr : (m.managed mg).processLock lock true = .ok r) :
    FailedBefore lock g m (m.setManaged mg r) := by
  refine ⟨rfl, fun x => ?_⟩
  by_cases hx : x = mg
  · subst hx
    have hl := ManagedGroup.processLock_lockedBy hr
    simp only [Manager.setManaged_managed, Function.update_same,
      ManagedGroup.processLock_status hr, true_and]
    cases hb : lock.lockBefore <;> simp_all [ManagedGroup.acts]
  · simp [hx]

/-- `processLock` が失敗するかは lock だけで決まる。 -/
theorem ManagedGroup.processLock_error_of_lockedBy {r r' : ManagedGroup} {before : Bool} {e : Err}
    (h : r.processLock lock before = .error e) (hl : r'.lockedBy = r.lockedBy) :
    r'.processLock lock before = .error e := by
  rw [ManagedGroup.processLock_eq_error, hl]
  exact ManagedGroup.processLock_eq_error.mp h

/-- stop の後の group の表：`mg` は Stopped で、lock は `lockBefore` の後のまま。 -/
theorem stopped_managed {r : ManagedGroup} (k : Nat) (c : Call) :
    ((((m.setManaged mg r).setStatus mg .stopped).markClosed k).record c).managed =
      Function.update m.managed mg ⟨.stopped, r.lockedBy⟩ := by
  funext x
  rcases eq_or_ne x mg with rfl | hx <;> simp [Manager.setStatus, *]

/-! ## stop -/

/-- **失敗した `stopConsumerGroup`。** `Close()` の失敗と `unlockAfter` の衝突では、group はもう Stopped である。 -/
theorem stopConsumerGroup_failures (env : Env) (lock : CommandLock) (hg : m.groups.lookup g = some mg) :
    (∀ e, (m.managed mg).processLock lock true = .error e →
      ∃ m', stopConsumerGroup env lock g m = .error e m' ∧ m'.managed = m.managed ∧ m'.sessions = m.sessions) ∧
    ∀ r, (m.managed mg).processLock lock true = .ok r →
      ((∀ k, r.status ≠ .running k) →
        ∃ m', stopConsumerGroup env lock g m = .error .notRunning m' ∧ FailedBefore lock g m m') ∧
      ∀ k, r.status = .running k →
        (env.closeOk k = false → ∃ m', stopConsumerGroup env lock g m = .error (.close k) m' ∧
          m'.managed = Function.update m.managed mg ⟨.stopped, r.lockedBy⟩ ∧
          m'.sessions = Function.update m.sessions k { m.sessions k with closed := true }) ∧
        (∀ e, env.closeOk k = true → r.processLock lock false = .error e →
          ∃ m', stopConsumerGroup env lock g m = .error e m' ∧
            m'.managed = Function.update m.managed mg ⟨.stopped, r.lockedBy⟩ ∧
            m'.sessions = Function.update m.sessions k { m.sessions k with closed := true }) := by
  refine ⟨fun e he => ?_, fun r hr => ⟨fun hnr => ?_, fun k hk => ⟨fun hc => ?_, fun e hc he => ?_⟩⟩⟩
  · have h : stopConsumerGroup env lock g m = .error e (m.record (.stop lock g (some e))) := by
      simp only [stopConsumerGroup_some hg, traced, bind_apply, processLock, he]
    exact ⟨_, h, rfl, rfl⟩
  · have hs : stop env mg (m.setManaged mg r) = .error .notRunning (m.setManaged mg r) := by
      cases hst : r.status with
      | running k => exact absurd hst (hnr k)
      | stopped | closed => simp [stop, hst]
    have h : stopConsumerGroup env lock g m =
        .error .notRunning ((m.setManaged mg r).record (.stop lock g (some .notRunning))) := by
      simp only [stopConsumerGroup_some hg, traced, bind_apply, processLock, hr, hs]
    exact ⟨_, h, FailedBefore.locked hg hr⟩
  · have h : stopConsumerGroup env lock g m = .error (.close k)
        ((((m.setManaged mg r).setStatus mg .stopped).markClosed k).record (.stop lock g (some (.close k)))) := by
      simp only [stopConsumerGroup_some hg, traced, bind_apply, processLock, hr, stop, Manager.setManaged_managed,
        Function.update_same, hk, closeSession, hc, Bool.false_eq_true, if_false]
    exact ⟨_, h, stopped_managed k _, rfl⟩
  · have hu : ⟨.stopped, r.lockedBy⟩ = (((m.setManaged mg r).setStatus mg .stopped).markClosed k).managed mg := by
      simp [Manager.setStatus]
    have he' : (⟨.stopped, r.lockedBy⟩ : ManagedGroup).processLock lock false = .error e :=
      ManagedGroup.processLock_error_of_lockedBy he rfl
    have h : stopConsumerGroup env lock g m = .error e
        ((((m.setManaged mg r).setStatus mg .stopped).markClosed k).record (.stop lock g (some e))) := by
      simp only [stopConsumerGroup_some hg, traced, bind_apply, processLock, hr, stop, Manager.setManaged_managed,
        Function.update_same, hk, closeSession, hc, if_true, ← hu, he']
    exact ⟨_, h, stopped_managed k _, rfl⟩

/-! ## start -/

/-- **失敗した `startConsumerGroup`。** `unlockAfter` の衝突では、新しい session はもう渡されている。 -/
theorem startConsumerGroup_failures (env : Env) (lock : CommandLock) (hg : m.groups.lookup g = some mg) :
    (∀ e, (m.managed mg).processLock lock true = .error e →
      ∃ m', startConsumerGroup env lock g m = .error e m' ∧ m'.managed = m.managed ∧ m'.sessions = m.sessions) ∧
    ∀ r, (m.managed mg).processLock lock true = .ok r →
      (env.factoryOk m.attempts = false →
        ∃ m', startConsumerGroup env lock g m = .error (.factory m.attempts) m' ∧ FailedBefore lock g m m') ∧
      (∀ e, env.factoryOk m.attempts = true → r.processLock lock false = .error e →
        ∃ m', startConsumerGroup env lock g m = .error e m' ∧
          m'.managed = Function.update m.managed mg
            (if r.status = .stopped then ⟨.running m.nextSession, r.lockedBy⟩ else r) ∧
          m'.sessions = Function.update m.sessions m.nextSession ⟨g, m.factory, false⟩) := by
  refine ⟨fun e he => ?_, fun r hr => ⟨fun hf => ?_, fun e hf he => ?_⟩⟩
  · have h : startConsumerGroup env lock g m = .error e (m.record (.start lock g (some e))) := by
      simp only [startConsumerGroup_some hg, traced, bind_apply, processLock, he]
    exact ⟨_, h, rfl, rfl⟩
  · have h : startConsumerGroup env lock g m = .error (.factory m.attempts)
        ({ m.setManaged mg r with attempts := m.attempts + 1 }.record (.start lock g (some (.factory m.attempts)))) := by
      simp only [startConsumerGroup_some hg, traced, bind_apply, processLock, hr, createConsumerGroup,
        Manager.setManaged_attempts, hf, Bool.false_eq_true, if_false]
    exact ⟨_, h, FailedBefore.locked hg hr⟩
  · set M : Manager := { m.setManaged mg r with
      sessions := Function.update m.sessions m.nextSession ⟨g, m.factory, false⟩
      nextSession := m.nextSession + 1
      attempts := m.attempts + 1 } with hM
    have hc : createConsumerGroup env g (m.setManaged mg r) = .ok m.nextSession M := by
      simp only [createConsumerGroup, Manager.setManaged_attempts, hf, if_true]; rfl
    set N := if (M.managed mg).status = .stopped then M.setStatus mg (.running m.nextSession) else M with hN
    have hNm : N.managed = Function.update m.managed mg
        (if r.status = .stopped then ⟨.running m.nextSession, r.lockedBy⟩ else r) := by
      funext x
      rcases eq_or_ne x mg with rfl | hx <;> split_ifs <;> simp_all [Manager.setStatus]
    have hu : (N.managed mg).processLock lock false = .error e := by
      rw [hNm, Function.update_same]
      split <;> exact ManagedGroup.processLock_error_of_lockedBy he rfl
    have h : startConsumerGroup env lock g m = .error e (N.record (.start lock g (some e))) := by
      simp only [startConsumerGroup_some hg, traced, bind_apply, processLock, hr, hc, start_apply, ← hN, hu]
    refine ⟨_, h, hNm, ?_⟩
    simp only [Manager.record_sessions, hN, hM]
    split <;> rfl

/-- **失敗した stop と start が残すもの**（失敗の起きる場所ごとに）。 -/
theorem failed_command_outcomes (env : Env) (lock : CommandLock) (g : String) (m : Manager) :
    (m.groups.lookup g = none →
      (∃ m', stopConsumerGroup env lock g m = .error (.stopNotManaged g) m' ∧
        m'.managed = m.managed ∧ m'.sessions = m.sessions) ∧
      ∃ m', startConsumerGroup env lock g m = .error (.startNotManaged g) m' ∧
        m'.managed = m.managed ∧ m'.sessions = m.sessions) ∧
    ∀ mg, m.groups.lookup g = some mg →
      ((∀ e, (m.managed mg).processLock lock true = .error e →
        ∃ m', stopConsumerGroup env lock g m = .error e m' ∧ m'.managed = m.managed ∧ m'.sessions = m.sessions) ∧
      ∀ r, (m.managed mg).processLock lock true = .ok r →
        ((∀ k, r.status ≠ .running k) →
          ∃ m', stopConsumerGroup env lock g m = .error .notRunning m' ∧ FailedBefore lock g m m') ∧
        ∀ k, r.status = .running k →
          (env.closeOk k = false → ∃ m', stopConsumerGroup env lock g m = .error (.close k) m' ∧
            m'.managed = Function.update m.managed mg ⟨.stopped, r.lockedBy⟩ ∧
            m'.sessions = Function.update m.sessions k { m.sessions k with closed := true }) ∧
          (∀ e, env.closeOk k = true → r.processLock lock false = .error e →
            ∃ m', stopConsumerGroup env lock g m = .error e m' ∧
              m'.managed = Function.update m.managed mg ⟨.stopped, r.lockedBy⟩ ∧
              m'.sessions = Function.update m.sessions k { m.sessions k with closed := true })) ∧
      (∀ e, (m.managed mg).processLock lock true = .error e →
        ∃ m', startConsumerGroup env lock g m = .error e m' ∧ m'.managed = m.managed ∧ m'.sessions = m.sessions) ∧
      ∀ r, (m.managed mg).processLock lock true = .ok r →
        (env.factoryOk m.attempts = false →
          ∃ m', startConsumerGroup env lock g m = .error (.factory m.attempts) m' ∧ FailedBefore lock g m m') ∧
        (∀ e, env.factoryOk m.attempts = true → r.processLock lock false = .error e →
          ∃ m', startConsumerGroup env lock g m = .error e m' ∧
            m'.managed = Function.update m.managed mg
              (if r.status = .stopped then ⟨.running m.nextSession, r.lockedBy⟩ else r) ∧
            m'.sessions = Function.update m.sessions m.nextSession ⟨g, m.factory, false⟩) :=
  ⟨fun hg => ⟨⟨_, stopConsumerGroup_none hg, rfl, rfl⟩, ⟨_, startConsumerGroup_none hg, rfl, rfl⟩⟩,
    fun _ hg => ⟨stopConsumerGroup_failures env lock hg, startConsumerGroup_failures env lock hg⟩⟩

/-- 一つの group を start しただけの状態で、`LockBefore` 付きの start command が factory の失敗で
返ると、group は command の token で lock されたままになる。 -/
theorem failed_start_command_keeps_lock :
    let m := stateOf (StartConsumerGroup Env.ok "g" (NewConsumerGroupManager [] 0))
    ∃ e m', startConsumerGroup ⟨fun n => n == 0, fun _ => true⟩ ⟨"T", true, false⟩ "g" m =
      .error e m' ∧ (m'.managed 0).lockedBy = some "T" ∧ (m.managed 0).lockedBy = none :=
  ⟨_, _, rfl, by decide, by decide⟩

end Consumer
