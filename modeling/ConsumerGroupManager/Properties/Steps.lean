import ConsumerGroupManager.Manager

/-!
# 一つの操作が何をするか

`Manager.lean` の各関数について、成功と失敗それぞれの結果を言う反転補題を一つずつ置く。
後の証明はこれらを引くだけで、関数を開かない。

`EStateM` の bind は `bind_apply` で一段ずつ開き、失敗がどの段で起きたかは
`bind_eq_error` で分ける。
-/

namespace Consumer

variable {α β : Type} {env : Env} {m m' : Manager} {e : Err}

/-! ## `EStateM` -/

@[simp] theorem bind_apply (x : ManagerM α) (f : α → ManagerM β) (m : Manager) :
    (x >>= f) m = match x m with
      | .ok a m' => f a m'
      | .error e m' => .error e m' := by
  show EStateM.bind x f m = _
  unfold EStateM.bind
  cases x m <;> rfl

@[simp] theorem pure_apply (a : α) (m : Manager) : (pure a : ManagerM α) m = .ok a m := rfl

@[simp] theorem throw_apply (e : Err) (m : Manager) : (throw e : ManagerM α) m = .error e m := rfl

/-- bind の成功は、両段の成功である。 -/
theorem bind_eq_ok {x : ManagerM α} {f : α → ManagerM β} {b : β}
    (h : (x >>= f) m = .ok b m') : ∃ a m₁, x m = .ok a m₁ ∧ f a m₁ = .ok b m' := by
  rw [bind_apply] at h
  cases hx : x m with
  | ok a m₁ => rw [hx] at h; exact ⟨a, m₁, rfl, h⟩
  | error e₁ m₁ => rw [hx] at h; cases h

/-- bind の失敗は、前の段の失敗か、前の段が成功した後の失敗である。 -/
theorem bind_eq_error {x : ManagerM α} {f : α → ManagerM β}
    (h : (x >>= f) m = .error e m') :
    x m = .error e m' ∨ ∃ a m₁, x m = .ok a m₁ ∧ f a m₁ = .error e m' := by
  rw [bind_apply] at h
  cases hx : x m with
  | ok a m₁ => rw [hx] at h; exact .inr ⟨a, m₁, rfl, h⟩
  | error e₁ m₁ => rw [hx] at h; cases h; exact .inl rfl

/-- 結果の状態。Go の関数は失敗しても、そこまでに変えた状態を残す。 -/
def stateOf : EStateM.Result Err Manager α → Manager
  | .ok _ m => m
  | .error _ m => m

@[simp] theorem stateOf_ok (a : α) (m : Manager) : stateOf (.ok a m : EStateM.Result Err Manager α) = m :=
  rfl

@[simp] theorem stateOf_error (e : Err) (m : Manager) :
    stateOf (.error e m : EStateM.Result Err Manager α) = m := rfl

theorem stateOf_bind_ok {x : ManagerM α} {f : α → ManagerM β} {a : α} {m₁ : Manager}
    (h : x m = .ok a m₁) : stateOf ((x >>= f) m) = stateOf (f a m₁) := by
  rw [bind_apply, h]

theorem stateOf_bind_error {x : ManagerM α} {f : α → ManagerM β} {m₁ : Manager}
    (h : x m = .error e m₁) : stateOf ((x >>= f) m) = m₁ := by
  rw [bind_apply, h]
  rfl

/-! ## 射影で見て変えない動作 -/

section Keeps

variable {γ : Type} {f : Manager → γ}

/-- 動作 `x` は、射影 `f` で見た状態を変えない（成功しても失敗しても）。 -/
def Keeps (f : Manager → γ) (x : ManagerM α) : Prop := ∀ m, f (stateOf (x m)) = f m

theorem Keeps.pure' (a : α) : Keeps f (pure a : ManagerM α) := fun _ => rfl

/-- 結果が分かっている呼び出しについての `Keeps`。 -/
theorem Keeps.of_eq {x : ManagerM α} (hx : Keeps f x) {r : EStateM.Result Err Manager α} (h : x m = r) :
    f (stateOf r) = f m := h ▸ hx m

theorem Keeps.bind {x : ManagerM α} {k : α → ManagerM β} (hx : Keeps f x) (hk : ∀ a, Keeps f (k a)) :
    Keeps f (x >>= k) := by
  intro m
  rw [bind_apply]
  have := hx m
  cases h : x m with
  | ok a m₁ => rw [h] at this; exact (hk a m₁).trans this
  | error e m₁ => rw [h] at this; exact this

theorem Keeps.traced {c : Option Err → Call} {x : ManagerM Unit} (hx : Keeps f x)
    (hr : ∀ m c, f (m.record c) = f m) : Keeps f (traced c x) := by
  intro m
  have := hx m
  unfold Consumer.traced
  split <;> simp_all

theorem Keeps.capture {x : ManagerM Unit} (hx : Keeps f x) : Keeps f (capture x) := by
  intro m
  have := hx m
  unfold Consumer.capture
  split <;> simp_all

end Keeps

/-! ## map -/

@[simp] theorem getGroup_apply (g : String) (m : Manager) :
    getGroup g m = .ok (m.groups.lookup g) m := rfl

@[simp] theorem setGroup_apply (g : String) (mg : Nat) (m : Manager) :
    setGroup g mg m = .ok () { m with groups := m.groups.insert g mg } := rfl

@[simp] theorem removeGroup_apply (g : String) (m : Manager) :
    removeGroup g m = .ok () { m with groups := m.groups.erase g } := rfl

section Map

variable {s : AList (fun _ : String => Nat)} {g g' : String} {mg mg' : Nat}

/-- `setGroup` の後で id を引く：入れた id なら入れた group、ほかの id なら前と同じ。 -/
theorem lookup_insert_eq_some :
    (s.insert g mg).lookup g' = some mg' ↔ (g' = g ∧ mg' = mg) ∨ (g' ≠ g ∧ s.lookup g' = some mg') := by
  by_cases hg : g' = g
  · subst hg; simp [AList.lookup_insert, eq_comm]
  · simp [AList.lookup_insert_ne hg, hg]

/-- `removeGroup` の後で引ける id は、消した id でなく、前も同じ group を指していた。 -/
theorem lookup_erase_eq_some (h : (s.erase g).lookup g' = some mg') :
    g' ≠ g ∧ s.lookup g' = some mg' := by
  by_cases hg : g' = g
  · subst hg; rw [AList.lookup_erase] at h; cases h
  · rw [AList.lookup_erase_ne hg] at h; exact ⟨hg, h⟩

/-- map のどの id も指していない `n` を入れても、値は相異なるままである。 -/
theorem insert_injective {n : Nat} (hfresh : ∀ g', s.lookup g' ≠ some n)
    (hinj : ∀ g₁ g₂ mg, s.lookup g₁ = some mg → s.lookup g₂ = some mg → g₁ = g₂) :
    ∀ g₁ g₂ mg, (s.insert g n).lookup g₁ = some mg → (s.insert g n).lookup g₂ = some mg → g₁ = g₂ := by
  intro g₁ g₂ mg h₁ h₂
  rcases lookup_insert_eq_some.mp h₁ with ⟨hg₁, hm⟩ | ⟨-, h₁⟩ <;>
    rcases lookup_insert_eq_some.mp h₂ with ⟨hg₂, hm⟩ | ⟨-, h₂⟩
  · exact hg₁.trans hg₂.symm
  · exact absurd (hm ▸ h₂) (hfresh g₂)
  · exact absurd (hm ▸ h₁) (hfresh g₁)
  · exact hinj g₁ g₂ mg h₁ h₂

/-- map の値がどれも `n` より小さく相異なれば、`n` を入れた後も相異なる。 -/
theorem insert_fresh_injective {n : Nat} (hlt : ∀ g mg, s.lookup g = some mg → mg < n)
    (hinj : ∀ g₁ g₂ mg, s.lookup g₁ = some mg → s.lookup g₂ = some mg → g₁ = g₂) :
    ∀ g₁ g₂ mg, (s.insert g n).lookup g₁ = some mg → (s.insert g n).lookup g₂ = some mg → g₁ = g₂ :=
  insert_injective (fun g' h => Nat.lt_irrefl n (hlt g' n h)) hinj

end Map

/-! ## heap の書き換え -/

@[simp] theorem Manager.setStatus_managed (m : Manager) (mg : Nat) (st : Status) :
    (m.setStatus mg st).managed = Function.update m.managed mg { m.managed mg with status := st } :=
  rfl

@[simp] theorem Manager.setStatus_groups (m : Manager) (mg : Nat) (st : Status) :
    (m.setStatus mg st).groups = m.groups := rfl

@[simp] theorem Manager.setStatus_sessions (m : Manager) (mg : Nat) (st : Status) :
    (m.setStatus mg st).sessions = m.sessions := rfl

@[simp] theorem Manager.setStatus_nextSession (m : Manager) (mg : Nat) (st : Status) :
    (m.setStatus mg st).nextSession = m.nextSession := rfl

@[simp] theorem Manager.setStatus_factory (m : Manager) (mg : Nat) (st : Status) :
    (m.setStatus mg st).factory = m.factory := rfl

/-! ## factory と session -/

/-- **factory の呼び出しの成功**：今の factory で番号 `nextSession` の session を作る。 -/
theorem createConsumerGroup_ok {g : String} {k : Nat} (h : createConsumerGroup env g m = .ok k m') :
    env.factoryOk m.attempts = true ∧ k = m.nextSession ∧
      m' = { m with
        sessions := Function.update m.sessions m.nextSession ⟨g, m.factory, false⟩
        nextSession := m.nextSession + 1
        attempts := m.attempts + 1 } := by
  unfold createConsumerGroup at h
  split at h <;> cases h
  exact ⟨‹_›, rfl, rfl⟩

/-- factory の呼び出しの失敗：呼んだ回数だけが増える。 -/
theorem createConsumerGroup_error {g : String} (h : createConsumerGroup env g m = .error e m') :
    env.factoryOk m.attempts = false ∧ e = .factory m.attempts ∧
      m' = { m with attempts := m.attempts + 1 } := by
  unfold createConsumerGroup at h
  split at h <;> cases h
  exact ⟨Bool.eq_false_iff.mpr ‹_›, rfl, rfl⟩

theorem closeSession_ok {k : Nat} {u : Unit} (h : closeSession env k m = .ok u m') :
    env.closeOk k = true ∧ m' = m.markClosed k := by
  unfold closeSession at h
  split at h <;> cases h
  exact ⟨‹_›, rfl⟩

theorem closeSession_error {k : Nat} (h : closeSession env k m = .error e m') :
    env.closeOk k = false ∧ e = .close k ∧ m' = m.markClosed k := by
  unfold closeSession at h
  split at h <;> cases h
  exact ⟨Bool.eq_false_iff.mpr ‹_›, rfl, rfl⟩

/-! ## managed group -/

/-- `processLock` の成功：記録を `ManagedGroup.processLock` の結果に置き換える。 -/
theorem processLock_ok {lock : CommandLock} {before : Bool} {mg : Nat} {u : Unit}
    (h : processLock lock before mg m = .ok u m') :
    ∃ r, (m.managed mg).processLock lock before = .ok r ∧ m' = m.setManaged mg r := by
  unfold processLock at h
  split at h <;> cases h
  exact ⟨_, ‹_›, rfl⟩

/-- `processLock` の失敗：状態は変わらない。 -/
theorem processLock_error {lock : CommandLock} {before : Bool} {mg : Nat}
    (h : processLock lock before mg m = .error e m') :
    (m.managed mg).processLock lock before = .error e ∧ m' = m := by
  unfold processLock at h
  split at h <;> cases h
  exact ⟨‹_›, rfl⟩

/-- **`stop` の成功**：Running の group を Stopped にし、その session を閉じた。 -/
theorem stop_ok {mg : Nat} {u : Unit} (h : stop env mg m = .ok u m') :
    ∃ k, (m.managed mg).status = .running k ∧ env.closeOk k = true ∧
      m' = (m.setStatus mg .stopped).markClosed k := by
  unfold stop at h
  split at h
  · obtain ⟨hc, rfl⟩ := closeSession_ok h
    exact ⟨_, ‹_›, hc, rfl⟩
  · cases h

/-- `stop` の失敗：session の `Close()` の失敗（状態は進む）か、Running でない（何も変えない）。 -/
theorem stop_error {mg : Nat} (h : stop env mg m = .error e m') :
    (∃ k, (m.managed mg).status = .running k ∧ env.closeOk k = false ∧ e = .close k ∧
      m' = (m.setStatus mg .stopped).markClosed k) ∨
    ((∀ k, (m.managed mg).status ≠ .running k) ∧ e = .notRunning ∧ m' = m) := by
  unfold stop at h
  split at h
  · obtain ⟨hc, rfl, rfl⟩ := closeSession_error h
    exact .inl ⟨_, ‹_›, hc, rfl, rfl⟩
  · cases h
    exact .inr ⟨‹_›, rfl, rfl⟩

/-- `start`（戻り値は捨てる）：Stopped なら session を入れて Running に、そうでなければ何もしない。 -/
theorem start_apply (mg k : Nat) (m : Manager) :
    start mg k m = .ok ()
      (if (m.managed mg).status = .stopped then m.setStatus mg (.running k) else m) := by
  unfold start
  split
  · next r h =>
    obtain ⟨hs, rfl⟩ := ManagedGroup.start_eq_ok.mp h
    simp [hs, Manager.setStatus]
  · next h =>
    rw [if_neg]
    intro hs
    obtain ⟨st, l⟩ := m.managed mg
    simp_all [ManagedGroup.start]

/-- **`close` の成功**：Closed に移り、Running だったならその session を閉じた。 -/
theorem close_ok {mg : Nat} {u : Unit} (h : close env mg m = .ok u m') :
    ((m.managed mg).status = .stopped ∧ m' = m.setStatus mg .closed) ∨
    ∃ k, (m.managed mg).status = .running k ∧ env.closeOk k = true ∧
      m' = (m.setStatus mg .closed).markClosed k := by
  unfold close at h
  split at h
  · obtain ⟨hc, rfl⟩ := closeSession_ok h
    exact .inr ⟨_, ‹_›, hc, rfl⟩
  · cases h
    exact .inl ⟨‹_›, rfl⟩
  · cases h

/-- `close` の失敗：session の `Close()` の失敗（Closed には移る）か、すでに Closed。 -/
theorem close_error {mg : Nat} (h : close env mg m = .error e m') :
    (∃ k, (m.managed mg).status = .running k ∧ env.closeOk k = false ∧ e = .close k ∧
      m' = (m.setStatus mg .closed).markClosed k) ∨
    ((m.managed mg).status = .closed ∧ e = .groupClosed ∧ m' = m) := by
  unfold close at h
  split at h
  · obtain ⟨hc, rfl, rfl⟩ := closeSession_error h
    exact .inl ⟨_, ‹_›, hc, rfl, rfl⟩
  · cases h
  · cases h
    exact .inr ⟨‹_›, rfl, rfl⟩

/-- `createManagedGroup`：番号 `nextManaged` に、lock のない Running の group を置く。 -/
theorem createManagedGroup_apply (k : Nat) (m : Manager) :
    createManagedGroup k m = .ok m.nextManaged
      { m.setManaged m.nextManaged ⟨.running k, none⟩ with nextManaged := m.nextManaged + 1 } :=
  rfl

/-! ## lock -/

theorem lockBefore_none {lock : CommandLock} {g : String} (hg : m.groups.lookup g = none) :
    lockBefore lock g m = .ok () m := by
  simp [lockBefore, hg]

theorem lockBefore_some {lock : CommandLock} {g : String} {mg : Nat}
    (hg : m.groups.lookup g = some mg) : lockBefore lock g m = processLock lock true mg m := by
  simp [lockBefore, hg]

theorem unlockAfter_none {lock : CommandLock} {g : String} (hg : m.groups.lookup g = none) :
    unlockAfter lock g m = .ok () m := by
  simp [unlockAfter, hg]

theorem unlockAfter_some {lock : CommandLock} {g : String} {mg : Nat}
    (hg : m.groups.lookup g = some mg) : unlockAfter lock g m = processLock lock false mg m := by
  simp [unlockAfter, hg]

/-! ## ghost の履歴 -/

theorem traced_error {c : Option Err → Call} {x : ManagerM Unit}
    (h : traced c x m = .error e m') : ∃ m₁, x m = .error e m₁ ∧ m' = m₁.record (c (some e)) := by
  unfold traced at h
  split at h <;> cases h
  exact ⟨_, ‹_›, rfl⟩

/-- 履歴に残すことのほかは、中の動作の後の状態である。 -/
theorem stateOf_traced (c : Option Err → Call) (x : ManagerM Unit) (m : Manager) :
    ∃ res, stateOf (traced c x m) = (stateOf (x m)).record (c res) := by
  unfold traced
  cases x m with
  | ok _ m' => exact ⟨none, rfl⟩
  | error e m' => exact ⟨some e, rfl⟩

/-- `capture` は失敗しない。結果は中の動作の error（あれば）である。 -/
theorem capture_apply (x : ManagerM Unit) (m : Manager) :
    capture x m = match x m with
      | .ok _ m' => .ok none m'
      | .error e m' => .ok (some e) m' := rfl

/-! ## `CloseConsumerGroup` -/

theorem CloseConsumerGroup_none {g : String} (hg : m.groups.lookup g = none) :
    CloseConsumerGroup env g m = .error (.closeNotManaged g) m := by
  simp [CloseConsumerGroup, hg]

theorem CloseConsumerGroup_some {g : String} {mg : Nat} (hg : m.groups.lookup g = some mg) :
    CloseConsumerGroup env g m = (close env mg >>= fun _ => removeGroup g) m := by
  simp [CloseConsumerGroup, hg]

/-! ## control-protocol の stop と start

逐次の実行では、三度の `getGroup` はどれも同じ group を返す（間の段は map に触れない）。
それを一度にまとめた形に書き直す。
-/

/-- map にない group の stop は、何もせずに失敗する。 -/
theorem stopConsumerGroup_none {lock : CommandLock} {g : String} (hg : m.groups.lookup g = none) :
    stopConsumerGroup env lock g m =
      .error (.stopNotManaged g) (m.record (.stop lock g (some (.stopNotManaged g)))) := by
  simp [stopConsumerGroup, traced, lockBefore, hg]

/-- **map にある group の stop**：lock して止め、unlock する。 -/
theorem stopConsumerGroup_some {lock : CommandLock} {g : String} {mg : Nat}
    (hg : m.groups.lookup g = some mg) :
    stopConsumerGroup env lock g m =
      traced (.stop lock g)
        (processLock lock true mg >>= fun _ => stop env mg >>= fun _ => processLock lock false mg)
        m := by
  unfold stopConsumerGroup traced
  simp only [lockBefore, unlockAfter, bind_apply, getGroup_apply, hg]
  cases hp : processLock lock true mg m with
  | error e₁ m₁ => rfl
  | ok u m₁ =>
    obtain ⟨r, -, rfl⟩ := processLock_ok hp
    cases hs : stop env mg (m.setManaged mg r) with
    | error e₂ m₂ => simp [hg, hs]
    | ok u₂ m₂ =>
      obtain ⟨k, -, -, rfl⟩ := stop_ok hs
      simp [hg, hs]

/-- map にない group の start は、何もせずに失敗する。factory も呼ばない。 -/
theorem startConsumerGroup_none {lock : CommandLock} {g : String} (hg : m.groups.lookup g = none) :
    startConsumerGroup env lock g m =
      .error (.startNotManaged g) (m.record (.start lock g (some (.startNotManaged g)))) := by
  simp [startConsumerGroup, traced, lockBefore, hg]

/-- **map にある group の start**：lock し、新しい session を作って渡し、unlock する。 -/
theorem startConsumerGroup_some {lock : CommandLock} {g : String} {mg : Nat}
    (hg : m.groups.lookup g = some mg) :
    startConsumerGroup env lock g m =
      traced (.start lock g)
        (processLock lock true mg >>= fun _ => createConsumerGroup env g >>= fun k =>
          start mg k >>= fun _ => processLock lock false mg) m := by
  unfold startConsumerGroup traced
  simp only [lockBefore, unlockAfter, bind_apply, getGroup_apply, hg]
  cases hp : processLock lock true mg m with
  | error e₁ m₁ => rfl
  | ok u m₁ =>
    obtain ⟨r, -, rfl⟩ := processLock_ok hp
    cases hc : createConsumerGroup env g (m.setManaged mg r) with
    | error e₂ m₂ => simp [hg, hc]
    | ok k m₂ =>
      obtain ⟨-, rfl, rfl⟩ := createConsumerGroup_ok hc
      by_cases hst : r.status = .stopped <;> simp [hst, hg, hc, start_apply]

end Consumer
