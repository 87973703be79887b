import ConsumerGroupManager.Properties.Reconfigure
import ConsumerGroupManager.Concurrent.Threads

/-!
# 逐次の実行で group が使う factory

control-protocol の command を含まない逐次の実行では、factory も `Close()` も失敗しなければ、
map にある group はどれも lock のない Running で、その session は manager が今持つ factory、
つまり最後の `Reconfigure` が入れた factory で作られている（`FactoryCurrent`）。

1. `StartConsumerGroup` は今の factory で session を作り、新しい番号の group に渡す。
2. `CloseConsumerGroup` は一つの id を外すだけで、ほかの group には触れない。
3. `Reconfigure` は、lock のない Running の group ならどれも止めて start し直し、
   restart の session は新しい factory のものである（`Reconfigure_spec`）。
4. 要求の列についての帰納法。

goroutine が交錯すると、これは成り立たない（`Concurrent/Races.lean`）。
-/

namespace Consumer

variable {env : Env} {g : String} {m : Manager}

/-- **map の group は今の factory の上で動いている。** map の値は作られた相異なる managed group を指し、
その group は lock のない Running で、その session は作られた後のもので、今の factory のものである。 -/
structure FactoryCurrent (m : Manager) : Prop where
  mapped_lt : ∀ g mg, m.groups.lookup g = some mg → mg < m.nextManaged
  injective : ∀ g₁ g₂ mg, m.groups.lookup g₁ = some mg → m.groups.lookup g₂ = some mg → g₁ = g₂
  current : ∀ g mg, m.groups.lookup g = some mg → ∃ k < m.nextSession,
    m.managed mg = ⟨.running k, none⟩ ∧ (m.sessions k).factory = m.factory

theorem FactoryCurrent.init (brokers : List String) (config : Nat) :
    FactoryCurrent (NewConsumerGroupManager brokers config) where
  mapped_lt _ _ h := by simp [NewConsumerGroupManager] at h
  injective _ _ _ h := by simp [NewConsumerGroupManager] at h
  current _ _ h := by simp [NewConsumerGroupManager] at h

/-! ## 操作ごとの保存 -/

/-- factory が成功すれば、`StartConsumerGroup` は今の factory の新しい session を持つ新しい group を
id に入れて返る。 -/
theorem StartConsumerGroup_of_factoryOk (h : env.factoryOk m.attempts = true) :
    StartConsumerGroup env g m = .ok () { m with
      groups := m.groups.insert g m.nextManaged
      managed := Function.update m.managed m.nextManaged ⟨.running m.nextSession, none⟩
      nextManaged := m.nextManaged + 1
      sessions := Function.update m.sessions m.nextSession ⟨g, m.factory, false⟩
      nextSession := m.nextSession + 1
      attempts := m.attempts + 1 } := by
  simp only [StartConsumerGroup, bind_apply, createConsumerGroup, h, if_true, createManagedGroup_apply,
    setGroup_apply]
  rfl

/-- `StartConsumerGroup` は `FactoryCurrent` を保つ。id がすでに map にあってもよい（上書きされた group は
map から消えるだけである）。 -/
theorem FactoryCurrent.startConsumerGroup (h : FactoryCurrent m) (hf : env.factoryOk m.attempts = true) :
    FactoryCurrent (stateOf (StartConsumerGroup env g m)) := by
  rw [StartConsumerGroup_of_factoryOk hf, stateOf_ok]
  refine ⟨fun g' mg' h' => ?_, insert_fresh_injective h.mapped_lt h.injective, fun g' mg' h' => ?_⟩
  · rcases lookup_insert_eq_some.mp h' with ⟨-, rfl⟩ | ⟨-, h'⟩
    · exact Nat.lt_succ_self _
    · exact Nat.lt_succ_of_lt (h.mapped_lt g' mg' h')
  · rcases lookup_insert_eq_some.mp h' with ⟨-, rfl⟩ | ⟨-, h'⟩
    · exact ⟨m.nextSession, Nat.lt_succ_self _, by simp, by simp⟩
    · obtain ⟨k, hk, hmg, hs⟩ := h.current g' mg' h'
      have hne : mg' ≠ m.nextManaged := Nat.ne_of_lt (h.mapped_lt g' mg' h')
      exact ⟨k, Nat.lt_succ_of_lt hk, by simp [hne, hmg], by simp [Nat.ne_of_lt hk, hs]⟩

/-- `CloseConsumerGroup` は `FactoryCurrent` を保つ。閉じた group は map から外れ、ほかの group は
別の番号なので変わらない。 -/
theorem FactoryCurrent.closeConsumerGroup (h : FactoryCurrent m) :
    FactoryCurrent (stateOf (CloseConsumerGroup Env.ok g m)) ∧
      (stateOf (CloseConsumerGroup Env.ok g m)).factory = m.factory := by
  cases hg : m.groups.lookup g with
  | none => rw [CloseConsumerGroup_none hg]; exact ⟨h, rfl⟩
  | some mg =>
    obtain ⟨k, -, hmg, -⟩ := h.current g mg hg
    have hc : close Env.ok mg m = .ok () ((m.setStatus mg .closed).markClosed k) := by
      simp [close, hmg, closeSession, Env.ok]
    simp only [CloseConsumerGroup_some hg, bind_apply, hc, removeGroup_apply, stateOf_ok]
    refine ⟨⟨fun g' mg' h' => h.mapped_lt g' mg' (lookup_erase_eq_some h').2,
      fun g₁ g₂ mg' h₁ h₂ => h.injective g₁ g₂ mg' (lookup_erase_eq_some h₁).2 (lookup_erase_eq_some h₂).2,
      fun g' mg' h' => ?_⟩, rfl⟩
    obtain ⟨hge, h'⟩ := lookup_erase_eq_some h'
    obtain ⟨j, hj, hmg', hs⟩ := h.current g' mg' h'
    have hne : mg' ≠ mg := fun he => hge (h.injective g' g mg' h' (he ▸ hg))
    refine ⟨j, hj, by simp [hne, hmg'], ?_⟩
    obtain rfl | hjk := eq_or_ne j k
    · simpa using hs
    · simpa [hjk] using hs

/-- 何も失敗しない環境の `Reconfigure` は `FactoryCurrent` を保ち、factory を入れ替える。 -/
theorem FactoryCurrent.reconfigure (h : FactoryCurrent m) (brokers : List String) (config : Nat) :
    FactoryCurrent (stateOf (Reconfigure Env.ok brokers config m)) ∧
      (stateOf (Reconfigure Env.ok brokers config m)).factory = ⟨config, brokers⟩ := by
  obtain ⟨errs, m', stops, starts, hR, -, -, -, hf, hnew, -, hnm, hfac, hgrp⟩ :=
    Reconfigure_spec Env.ok brokers config m fun g₁ _ g₂ _ => h.injective g₁ g₂
  have hgr : m'.groups = m.groups := by
    simpa [hR] using (keepsGroups_Reconfigure : Keeps Manager.groups (Reconfigure Env.ok brokers config)) m
  rw [hR, stateOf_ok]
  refine ⟨⟨fun g mg hg => hnm ▸ h.mapped_lt g mg (hgr ▸ hg),
    fun g₁ g₂ mg h₁ h₂ => h.injective g₁ g₂ mg (hgr ▸ h₁) (hgr ▸ h₂), fun g mg hg => ?_⟩, hf⟩
  rw [hgr] at hg
  obtain ⟨k, -, hmg, -⟩ := h.current g mg hg
  obtain ⟨res, -, hfail, hok⟩ := hgrp g mg hg
  cases res with
  | some e =>
    -- Running で lock のない group の stop は失敗しない
    cases (hfail (by simp)).2.2.2 k (by rw [hmg]) rfl (.inl (by rw [hmg]))
  | none =>
    obtain ⟨-, r, hr, hok', -⟩ := hok rfl
    obtain ⟨k', hk₁, hk₂, hm'⟩ := hok' (hfac (fun _ => rfl) _ hr)
    exact ⟨k', hk₂, hm', by rw [hnew k' hk₁ hk₂, hf]⟩

/-! ## 要求の列 -/

/-- control-protocol の command でない要求（公開の関数の呼び出し）。 -/
def Request.isPublic : Request → Bool
  | .command _ _ => false
  | _ => true

/-- 要求の後の factory：`Reconfigure` ならその brokers と config、ほかは前のまま。 -/
def Request.factoryAfter (f : Factory) : Request → Factory
  | .reconfigure brokers config => ⟨config, brokers⟩
  | _ => f

theorem FactoryCurrent.handle (version : UInt16) (r : Request) (hr : r.isPublic = true)
    (h : FactoryCurrent m) :
    FactoryCurrent (handle Env.ok version r m).2 ∧
      (handle Env.ok version r m).2.factory = r.factoryAfter m.factory := by
  cases r with
  | reconfigure b c => rw [handle_reconfigure_snd]; exact h.reconfigure b c
  | startConsumerGroup g =>
    rw [Consumer.handle, errReply_snd]
    refine ⟨h.startConsumerGroup rfl, ?_⟩
    rw [StartConsumerGroup_of_factoryOk rfl]; rfl
  | closeConsumerGroup g =>
    rw [Consumer.handle, errReply_snd]
    exact h.closeConsumerGroup
  | errors g | isManaged g => exact ⟨h, rfl⟩
  | command => cases hr

theorem FactoryCurrent.run (version : UInt16) (rs : List Request) (hrs : ∀ r ∈ rs, r.isPublic = true)
    (h : FactoryCurrent m) :
    FactoryCurrent (run Env.ok version rs m).2 ∧
      (run Env.ok version rs m).2.factory = rs.foldl Request.factoryAfter m.factory := by
  induction rs generalizing m with
  | nil => exact ⟨h, rfl⟩
  | cons r rs ih =>
    obtain ⟨h₁, hf₁⟩ := h.handle version r (hrs r (.head _))
    obtain ⟨h₂, hf₂⟩ := ih (fun r' hr' => hrs r' (.tail _ hr')) h₁
    exact ⟨h₂, hf₂.trans (by rw [hf₁]; rfl)⟩

/-- **逐次の実行で、map の group は最後に入れた factory の上で動く。** -/
theorem groups_run_on_current_factory (version : UInt16) (brokers : List String) (config : Nat)
    (rs : List Request) (hrs : ∀ r ∈ rs, r.isPublic = true) :
    let m := (run Env.ok version rs (NewConsumerGroupManager brokers config)).2
    m.factory = rs.foldl Request.factoryAfter ⟨config, brokers⟩ ∧
      ∀ g mg, m.groups.lookup g = some mg →
        ∃ k, m.managed mg = ⟨.running k, none⟩ ∧ (m.sessions k).factory = m.factory := by
  obtain ⟨h, hf⟩ := (FactoryCurrent.init brokers config).run version rs hrs
  exact ⟨hf, fun g mg hg => (h.current g mg hg).imp fun _ ⟨_, hk⟩ => hk⟩

/-- 二つの group を start し、Reconfigure し、一つを close し、もう一つ start する列。 -/
theorem groups_run_on_current_factory_run :
    let rs : List Request := [.startConsumerGroup "a", .startConsumerGroup "b", .reconfigure ["new"] 1,
      .closeConsumerGroup "a", .startConsumerGroup "c", .isManaged "b"]
    (∀ r ∈ rs, r.isPublic = true) ∧
      let m := (run Env.ok 1 rs (NewConsumerGroupManager ["old"] 0)).2
      m.factory = rs.foldl Request.factoryAfter ⟨0, ["old"]⟩ ∧
        ∀ g mg, m.groups.lookup g = some mg →
          ∃ k, m.managed mg = ⟨.running k, none⟩ ∧ (m.sessions k).factory = m.factory :=
  ⟨by decide, groups_run_on_current_factory 1 ["old"] 0 _ (by decide)⟩

/-- 呼び出しが重なると成り立たない：Reconfigure の後に入った "g" は古い factory の session で動く。 -/
theorem reconfigure_misses_concurrent_start :
    ∃ s, (Sys.init (NewConsumerGroupManager ["old"] 0)
        [.startGroup "g" .create, .reconfigure ["new"] 1 .snapshot]).run Env.ok [0, 1, 1, 0, 0, 0] = s ∧
      (s.threads.get? 0).map Thread.finished = some true ∧
      (s.threads.get? 1).map Thread.finished = some true ∧
      s.m.groups.lookup "g" = some 0 ∧ (s.m.managed 0).status = .running 0 ∧
      (s.m.sessions 0).factory = ⟨0, ["old"]⟩ ∧ s.m.factory = ⟨1, ["new"]⟩ :=
  ⟨_, rfl, by decide⟩

end Consumer
