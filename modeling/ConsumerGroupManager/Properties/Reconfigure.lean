import ConsumerGroupManager.Properties.Registry

/-!
# Reconfigure

`Reconfigure` は map の key を一つずつ内部の token で止め（`stopGroups`）、factory を差し替え、
止められた group を start し直す（`startGroups`）。ここでは二つの loop を accumulator ごと
帰納法で追い、呼び出しの並び、restart する group の集合、合わせた error を決める。

* `stopGroups_spec` — 前半の loop。各 key の stop の結果と、group ごとの変化
* `startGroups_spec` — 後半の loop。restart の結果と、新しい session の factory
* `Reconfigure_spec` — 二つを factory の差し替えでつないだもの。group ごとの結末
* `Reconfigure_stops_then_restarts` — 呼び出しの順序、restart の集合、合わせた error、古い factory
* `Reconfigure_failed_groups_stay_locked` — stop か restart に失敗した group の内部の lock は外れない

key が相異なる group を指すこと（`Distinct`）を前提に置く。map に入る group は
`createManagedGroup` が毎回新しく作るので、前提を守る実行で到達する状態ではつねに成り立つ（`Sessions.lean` の `Accounted.distinct`）。
-/

namespace Consumer

variable {α : Type} {lock : CommandLock} {g : String} {mg x : Nat} {m m' : Manager}

/-! ## 結果の形 -/

/-- `error` を返す関数の結果を、error（あれば）と状態から組む。 -/
def toResult : Option Err → Manager → EStateM.Result Err Manager Unit
  | none, m => .ok () m
  | some e, m => .error e m

@[simp] theorem stateOf_toResult (res : Option Err) (m : Manager) : stateOf (toResult res m) = m := by
  cases res <;> rfl

theorem exists_toResult (r : EStateM.Result Err Manager Unit) : ∃ res m, r = toResult res m := by
  cases r with
  | ok _ m => exact ⟨none, m, rfl⟩
  | error e m => exact ⟨some e, m, rfl⟩

theorem capture_eq {x : ManagerM Unit} {res : Option Err} {m₁ : Manager}
    (h : x m = toResult res m₁) : capture x m = .ok res m₁ := by
  rw [capture_apply, h]
  cases res <;> rfl

theorem processLock_of_not_acts {before : Bool} (h : ManagedGroup.acts lock before = false) :
    processLock lock before mg m = .ok () m := by
  simp only [processLock, ManagedGroup.processLock, h]
  simp [Manager.setManaged]

/-! ## ほかの group に触れないこと -/

theorem keepsManaged_processLock {before : Bool} (hx : x ≠ mg) :
    Keeps (fun m => m.managed x) (processLock lock before mg) := by
  intro m
  unfold processLock
  split <;> simp [hx]

theorem keepsManaged_stop (env : Env) (hx : x ≠ mg) : Keeps (fun m => m.managed x) (stop env mg) := by
  intro m
  unfold stop closeSession
  split
  · split <;> simp [hx]
  · rfl

theorem keepsManaged_start {k : Nat} (hx : x ≠ mg) : Keeps (fun m => m.managed x) (start mg k) := by
  intro m
  rw [start_apply]
  split <;> simp [hx]

theorem keepsManaged_createConsumerGroup (env : Env) :
    Keeps (fun m => m.managed x) (createConsumerGroup env g) := by
  intro m
  unfold createConsumerGroup
  split <;> rfl

/-- stop は `g` の group のほかの group に触れない。 -/
theorem managed_stopConsumerGroup (env : Env) (lock : CommandLock)
    (hx : ∀ mg, m.groups.lookup g = some mg → x ≠ mg) :
    (stateOf (stopConsumerGroup env lock g m)).managed x = m.managed x := by
  cases hg : m.groups.lookup g with
  | none => rw [stopConsumerGroup_none hg]; rfl
  | some mg =>
    rw [stopConsumerGroup_some hg]
    have hx := hx mg hg
    exact (((keepsManaged_processLock hx).bind fun _ =>
      (keepsManaged_stop env hx).bind fun _ => keepsManaged_processLock hx).traced fun _ _ => rfl) m

/-- start は `g` の group のほかの group に触れない。 -/
theorem managed_startConsumerGroup (env : Env) (lock : CommandLock)
    (hx : ∀ mg, m.groups.lookup g = some mg → x ≠ mg) :
    (stateOf (startConsumerGroup env lock g m)).managed x = m.managed x := by
  cases hg : m.groups.lookup g with
  | none => rw [startConsumerGroup_none hg]; rfl
  | some mg =>
    rw [startConsumerGroup_some hg]
    have hx := hx mg hg
    exact (((keepsManaged_processLock hx).bind fun _ =>
      (keepsManaged_createConsumerGroup env).bind fun _ =>
        (keepsManaged_start hx).bind fun _ => keepsManaged_processLock hx).traced fun _ _ => rfl) m

/-! ## 前後の状態の関係 -/

/-- 動作 `x` の前後の状態は `R` で結ばれる（成功しても失敗しても）。 -/
def Guarantees (R : Manager → Manager → Prop) (x : ManagerM α) : Prop := ∀ m, R m (stateOf (x m))

section Guarantees

variable {β : Type} {R : Manager → Manager → Prop}

theorem Guarantees.bind {x : ManagerM α} {k : α → ManagerM β}
    (trans : ∀ {a b c}, R a b → R b c → R a c) (hx : Guarantees R x)
    (hk : ∀ a, Guarantees R (k a)) : Guarantees R (x >>= k) := by
  intro m
  rw [bind_apply]
  have := hx m
  cases h : x m with
  | ok a m₁ => rw [h] at this; exact trans this (hk a m₁)
  | error e m₁ => rw [h] at this; exact this

theorem Guarantees.traced {c : Option Err → Call} {x : ManagerM Unit} (hx : Guarantees R x)
    (hr : ∀ m m' c, R m m' → R m (m'.record c)) : Guarantees R (traced c x) := by
  intro m
  have := hx m
  unfold Consumer.traced
  split <;> simp_all

end Guarantees

/-- Reconfigure の前半が変えないもの：map、factory、二つの番号と各 session の factory。 -/
structure StopFrame (m m' : Manager) : Prop where
  groups : m'.groups = m.groups
  factory : m'.factory = m.factory
  nextSession : m'.nextSession = m.nextSession
  sessions : ∀ k, (m'.sessions k).factory = (m.sessions k).factory
  nextManaged : m'.nextManaged = m.nextManaged

theorem StopFrame.refl : StopFrame m m := ⟨rfl, rfl, rfl, fun _ => rfl, rfl⟩

theorem StopFrame.trans {m₁ : Manager} (h₁ : StopFrame m m₁) (h₂ : StopFrame m₁ m') :
    StopFrame m m' :=
  ⟨h₂.groups.trans h₁.groups, h₂.factory.trans h₁.factory, h₂.nextSession.trans h₁.nextSession,
    fun k => (h₂.sessions k).trans (h₁.sessions k), h₂.nextManaged.trans h₁.nextManaged⟩

theorem StopFrame.record (c : Call) (h : StopFrame m m') : StopFrame m (m'.record c) :=
  ⟨h.groups, h.factory, h.nextSession, h.sessions, h.nextManaged⟩

theorem StopFrame.setManaged {r : ManagedGroup} : StopFrame m (m.setManaged mg r) :=
  ⟨rfl, rfl, rfl, fun _ => rfl, rfl⟩

theorem StopFrame.markClosed {k : Nat} : StopFrame m (m.markClosed k) := by
  refine ⟨rfl, rfl, rfl, fun j => ?_, rfl⟩
  by_cases hj : j = k
  · subst hj; simp
  · simp [hj]

theorem stopFrame_processLock {before : Bool} : Guarantees StopFrame (processLock lock before mg) := by
  intro m
  unfold processLock
  split
  · exact StopFrame.setManaged
  · exact StopFrame.refl

theorem stopFrame_stop (env : Env) : Guarantees StopFrame (stop env mg) := by
  intro m
  unfold stop closeSession
  split
  · split <;> exact StopFrame.setManaged.trans StopFrame.markClosed
  · exact StopFrame.refl

theorem stopFrame_stopConsumerGroup (env : Env) (lock : CommandLock) (g : String) :
    Guarantees StopFrame (stopConsumerGroup env lock g) := by
  intro m
  cases hg : m.groups.lookup g with
  | none => rw [stopConsumerGroup_none hg]; exact StopFrame.refl.record _
  | some mg =>
    rw [stopConsumerGroup_some hg]
    exact (((Guarantees.bind (R := StopFrame) StopFrame.trans stopFrame_processLock fun _ =>
      Guarantees.bind (R := StopFrame) StopFrame.trans (stopFrame_stop env) fun _ =>
        stopFrame_processLock).traced
        fun _ _ c h => h.record c) m)

/-- Reconfigure の後半が守るもの：map、factory と managed group の数は変わらず、古い session は
そのまま、新しい session はどれも今の factory で作られる。 -/
structure StartFrame (m m' : Manager) : Prop where
  groups : m'.groups = m.groups
  factory : m'.factory = m.factory
  le : m.nextSession ≤ m'.nextSession
  old : ∀ k < m.nextSession, (m'.sessions k).factory = (m.sessions k).factory
  new : ∀ k, m.nextSession ≤ k → k < m'.nextSession → (m'.sessions k).factory = m.factory
  nextManaged : m'.nextManaged = m.nextManaged

theorem StartFrame.refl : StartFrame m m :=
  ⟨rfl, rfl, le_rfl, fun _ _ => rfl, fun _ h₁ h₂ => absurd h₂ (not_lt.mpr h₁), rfl⟩

theorem StartFrame.trans {m₁ : Manager} (h₁ : StartFrame m m₁) (h₂ : StartFrame m₁ m') :
    StartFrame m m' where
  groups := h₂.groups.trans h₁.groups
  factory := h₂.factory.trans h₁.factory
  le := h₁.le.trans h₂.le
  old k hk := (h₂.old k (lt_of_lt_of_le hk h₁.le)).trans (h₁.old k hk)
  new k hk₁ hk₂ := by
    by_cases hk : k < m₁.nextSession
    · rw [h₂.old k hk]; exact h₁.new k hk₁ hk
    · rw [h₂.new k (not_lt.mp hk) hk₂, h₁.factory]
  nextManaged := h₂.nextManaged.trans h₁.nextManaged

theorem StartFrame.record (c : Call) (h : StartFrame m m') : StartFrame m (m'.record c) :=
  ⟨h.groups, h.factory, h.le, h.old, h.new, h.nextManaged⟩

/-! ## 内部の token での stop と start -/

/-- 内部の token（`LockBefore` だけ）での stop が group の記録をどう変えたか。 -/
def StopOutcome (closeOk : Nat → Bool) (r : ManagedGroup) (res : Option Err) (r' : ManagedGroup) :
    Prop :=
  (res = none → r'.status = .stopped ∧ r'.lockedBy = some internalToken ∧ ∃ k, r.status = .running k) ∧
  ((∀ k, r.status ≠ .running k) → r'.status = r.status ∧ res ≠ none) ∧
  (r.lockedBy = none ∨ r.lockedBy = some internalToken → r'.lockedBy = some internalToken) ∧
  (∀ k, r.status = .running k → closeOk k = true →
    r.lockedBy = none ∨ r.lockedBy = some internalToken → res = none)

theorem stopConsumerGroup_internal (env : Env) (hg : m.groups.lookup g = some mg) :
    ∃ res m', stopConsumerGroup env ⟨internalToken, true, false⟩ g m = toResult res m' ∧
      StopOutcome env.closeOk (m.managed mg) res (m'.managed mg) ∧
      m'.calls = m.calls ++ [.stop ⟨internalToken, true, false⟩ g res] := by
  rw [stopConsumerGroup_some hg]
  unfold traced
  simp only [bind_apply]
  cases hp : processLock ⟨internalToken, true, false⟩ true mg m with
  | error e₁ m₁ =>
    obtain ⟨hc, hm⟩ := processLock_error hp
    subst m₁
    obtain ⟨-, h, hh, hne, rfl⟩ := ManagedGroup.processLock_eq_error.mp hc
    -- lock は別の token のもの
    have hheld : ¬ ((m.managed mg).lockedBy = none ∨ (m.managed mg).lockedBy = some internalToken) := by
      rintro (hl | hl) <;> rw [hh] at hl <;> simp_all
    exact ⟨some _, _, rfl, ⟨by simp, fun _ => ⟨rfl, by simp⟩, fun hl => absurd hl hheld,
      fun _ _ _ hl => absurd hl hheld⟩, rfl⟩
  | ok u m₁ =>
    obtain ⟨r, hr, rfl⟩ := processLock_ok hp
    have hrs := ManagedGroup.processLock_status hr
    have hrl := ManagedGroup.processLock_lockedBy hr
    simp only [ManagedGroup.acts, ite_true] at hrl
    cases hs : stop env mg (m.setManaged mg r) with
    | error e₂ m₂ =>
      simp only [hs]
      rcases stop_error hs with ⟨k, hk, hc, -, rfl⟩ | ⟨hn, -, rfl⟩
      · simp [hrs] at hk
        refine ⟨some e₂, _, rfl, ⟨by simp, fun hn => absurd hk (hn k), fun _ => by simp [hrl],
          fun k' hk' hc' _ => ?_⟩, rfl⟩
        rw [hk] at hk'
        cases hk'
        simp [hc] at hc'
      · simp only [Manager.setManaged_managed, Function.update_same, hrs] at hn
        exact ⟨some e₂, _, rfl, ⟨by simp, fun _ => by simp [hrs], fun _ => by simp [hrl],
          fun k hk => absurd hk (hn k)⟩, rfl⟩
    | ok u₂ m₂ =>
      obtain ⟨k, hk, -, rfl⟩ := stop_ok hs
      simp only [hs, processLock_of_not_acts
        (show ManagedGroup.acts ⟨internalToken, true, false⟩ false = false from rfl)]
      simp at hk
      refine ⟨none, _, rfl, ⟨fun _ => ⟨by simp, by simp [hrl], k, hrs ▸ hk⟩,
        fun hn => absurd (hrs ▸ hk) (hn k), fun _ => by simp [hrl], fun _ _ _ _ => rfl⟩, rfl⟩

/-- 内部の token での stop、一つの key（map になくてもよい）。 -/
theorem stopConsumerGroup_key (env : Env) (g : String) (m : Manager) :
    ∃ res m', stopConsumerGroup env ⟨internalToken, true, false⟩ g m = toResult res m' ∧
      (∀ mg, m.groups.lookup g = some mg →
        StopOutcome env.closeOk (m.managed mg) res (m'.managed mg)) ∧
      (∀ x, m.groups.lookup g ≠ some x → m'.managed x = m.managed x) ∧
      m'.calls = m.calls ++ [.stop ⟨internalToken, true, false⟩ g res] ∧ StopFrame m m' := by
  cases hg : m.groups.lookup g with
  | none =>
    exact ⟨some (.stopNotManaged g), _, stopConsumerGroup_none hg, by simp, fun _ _ => rfl, rfl,
      StopFrame.refl.record _⟩
  | some mg =>
    obtain ⟨res, m', h, ho, hc⟩ := stopConsumerGroup_internal env hg
    have hf := stopFrame_stopConsumerGroup env ⟨internalToken, true, false⟩ g m
    rw [h, stateOf_toResult] at hf
    refine ⟨res, m', h, fun mg' hmg => by cases hmg; exact ho, fun x hx => ?_, hc, hf⟩
    have := managed_stopConsumerGroup env ⟨internalToken, true, false⟩ (x := x) (m := m) (g := g)
      (fun mg' hmg hxe => hx (by rw [← hg, hmg, hxe]))
    rwa [h, stateOf_toResult] at this

/-- **内部の token での start、止めた group。** 成功すれば新しい session で Running になり、
lock が外れる。factory が失敗すれば group は変わらない。 -/
theorem startConsumerGroup_internal (env : Env) (hg : m.groups.lookup g = some mg)
    (hs : (m.managed mg).status = .stopped) (hl : (m.managed mg).lockedBy = some internalToken) :
    ∃ res m', startConsumerGroup env ⟨internalToken, false, true⟩ g m = toResult res m' ∧
      m'.calls = m.calls ++ [.start ⟨internalToken, false, true⟩ g res] ∧
      (res = none → m'.nextSession = m.nextSession + 1 ∧
        m'.managed mg = ⟨.running m.nextSession, none⟩) ∧
      (res ≠ none → m'.managed mg = m.managed mg) ∧ (env.factoryOk m.attempts = true → res = none) ∧
      StartFrame m m' := by
  rw [startConsumerGroup_some hg]
  unfold traced
  simp only [bind_apply, processLock_of_not_acts
    (show ManagedGroup.acts ⟨internalToken, false, true⟩ true = false from rfl)]
  cases hc : createConsumerGroup env g m with
  | error e₁ m₁ =>
    obtain ⟨hf, rfl, rfl⟩ := createConsumerGroup_error hc
    exact ⟨some _, _, rfl, rfl, by simp, fun _ => rfl, fun h => absurd h (by simp [hf]),
      ⟨rfl, rfl, le_rfl, fun _ _ => rfl, fun _ h₁ h₂ => absurd h₂ (not_lt.mpr h₁), rfl⟩⟩
  | ok k m₁ =>
    obtain ⟨-, rfl, rfl⟩ := createConsumerGroup_ok hc
    simp only [start_apply, hs, if_true]
    simp only [processLock, ManagedGroup.processLock, ManagedGroup.acts, Manager.setStatus_managed,
      Function.update_same, hl, if_true]
    refine ⟨none, _, rfl, rfl, fun _ => ⟨rfl, by simp⟩, fun h => absurd rfl h, fun _ => rfl, ?_⟩
    refine ⟨rfl, rfl, by simp, fun j hj => ?_, fun j hj₁ hj₂ => ?_, rfl⟩
    · simp [Manager.setStatus, Function.update_noteq (Nat.ne_of_lt hj)]
    · have : j = m.nextSession := by simp at hj₂; omega
      subst this
      simp [Manager.setStatus]

/-! ## 二つの loop -/

/-- 始めの map で、`ks` の key は相異なる group を指す。 -/
def Distinct (m : Manager) (ks : List String) : Prop :=
  ∀ g₁ ∈ ks, ∀ g₂ ∈ ks, ∀ mg, m.groups.lookup g₁ = some mg → m.groups.lookup g₂ = some mg → g₁ = g₂

theorem Distinct.tail {k : String} {ks : List String} (h : Distinct m (k :: ks)) : Distinct m ks :=
  fun g₁ h₁ g₂ h₂ => h g₁ (.tail _ h₁) g₂ (.tail _ h₂)

theorem Distinct.of_groups {ks : List String} (h : Distinct m ks) (hg : m'.groups = m.groups) :
    Distinct m' ks := by
  rw [Distinct, hg]
  exact h

section Loops

variable (env : Env)

/-- 前半の loop の一段。 -/
theorem stopGroups_cons {ks : List String} {errs : List Err} {rs : List String} {res : Option Err}
    {m₁ : Manager} (h : stopConsumerGroup env ⟨internalToken, true, false⟩ g m = toResult res m₁) :
    stopGroups env (g :: ks) errs rs m =
      stopGroups env ks (errs ++ res.toList) (rs ++ if res = none then [g] else []) m₁ := by
  simp only [stopGroups, bind_apply, capture_eq h]
  cases res <;> simp [appendInto]

/-- **Reconfigure の前半。** 各 key に一度ずつ内部の token で stop を呼び、結果を accumulator に積む。
それぞれの group は自分の stop の結果どおりに変わり、ほかの group は変わらない。 -/
theorem stopGroups_spec (ks : List String) (errs : List Err) (rs : List String) (m : Manager)
    (hnd : ks.Nodup) (hd : Distinct m ks) :
    ∃ stops : List (String × Option Err), ∃ m',
      stopGroups env ks errs rs m =
        .ok (errs ++ stops.filterMap (·.2), rs ++ (stops.filter (·.2 = none)).map (·.1)) m' ∧
      stops.map (·.1) = ks ∧
      m'.calls = m.calls ++ stops.map (fun p => .stop ⟨internalToken, true, false⟩ p.1 p.2) ∧
      (∀ p ∈ stops, ∀ mg, m.groups.lookup p.1 = some mg →
        StopOutcome env.closeOk (m.managed mg) p.2 (m'.managed mg)) ∧
      (∀ x, (∀ g ∈ ks, m.groups.lookup g ≠ some x) → m'.managed x = m.managed x) ∧
      StopFrame m m' := by
  induction ks generalizing errs rs m with
  | nil => exact ⟨[], m, by simp [stopGroups], rfl, by simp, by simp, fun _ _ => rfl, StopFrame.refl⟩
  | cons g ks ih =>
    obtain ⟨res, m₁, h₁, ho₁, hx₁, hc₁, hf₁⟩ := stopConsumerGroup_key env g m
    obtain ⟨stops, m', h, hk, hc, ho, hx, hf⟩ :=
      ih (errs ++ res.toList) (rs ++ if res = none then [g] else []) m₁ (List.nodup_cons.mp hnd).2
        (hd.tail.of_groups hf₁.groups)
    have hng : g ∉ ks := (List.nodup_cons.mp hnd).1
    -- `g` の group は、後の key の stop に触れられない
    have hlater : ∀ mg, m.groups.lookup g = some mg → m'.managed mg = m₁.managed mg := by
      intro mg hmg
      refine hx mg fun g' hg' hl => hng ?_
      rw [hf₁.groups] at hl
      exact hd g' (.tail _ hg') g (.head _) mg hl hmg ▸ hg'
    refine ⟨(g, res) :: stops, m', ?_, by simp [hk], ?_, ?_, ?_, hf₁.trans hf⟩
    · rw [stopGroups_cons env h₁, h]
      cases res <;> simp
    · rw [hc, hc₁]; simp
    · rintro p (_ | ⟨_, hp⟩) mg hmg
      · rw [hlater mg hmg]; exact ho₁ mg hmg
      · have hne : m.groups.lookup g ≠ some mg := fun hl => by
          have hp₁ : p.1 ∈ ks := hk ▸ List.mem_map_of_mem _ hp
          exact hng (hd p.1 (.tail _ hp₁) g (.head _) mg hmg hl ▸ hp₁)
        rw [← hx₁ mg hne]
        exact ho p hp mg (hf₁.groups ▸ hmg)
    · intro x hxk
      rw [hx x fun g' hg' => hf₁.groups ▸ hxk g' (.tail _ hg'), hx₁ x (hxk g (.head _))]

/-- 後半の loop の一段。 -/
theorem startGroups_cons {rs : List String} {errs : List Err} {res : Option Err} {m₁ : Manager}
    (h : startConsumerGroup env ⟨internalToken, false, true⟩ g m = toResult res m₁) :
    startGroups env (g :: rs) errs m = startGroups env rs (errs ++ res.toList) m₁ := by
  simp only [startGroups, bind_apply, capture_eq h]
  cases res <;> simp [appendInto]

/-- **Reconfigure の後半。** 止めた group それぞれに一度ずつ内部の token で start を呼ぶ。
成功した group は新しい session で Running になり、失敗した group は変わらない。 -/
theorem startGroups_spec (rs : List String) (errs : List Err) (m : Manager) (hnd : rs.Nodup)
    (hd : Distinct m rs)
    (hst : ∀ g ∈ rs, ∃ mg, m.groups.lookup g = some mg ∧ (m.managed mg).status = .stopped ∧
      (m.managed mg).lockedBy = some internalToken) :
    ∃ starts : List (String × Option Err), ∃ m',
      startGroups env rs errs m = .ok (errs ++ starts.filterMap (·.2)) m' ∧
      starts.map (·.1) = rs ∧
      m'.calls = m.calls ++ starts.map (fun p => .start ⟨internalToken, false, true⟩ p.1 p.2) ∧
      (∀ p ∈ starts, ∀ mg, m.groups.lookup p.1 = some mg →
        (p.2 = none → ∃ k, m.nextSession ≤ k ∧ k < m'.nextSession ∧
          m'.managed mg = ⟨.running k, none⟩) ∧
        (p.2 ≠ none → m'.managed mg = m.managed mg)) ∧
      (∀ x, (∀ g ∈ rs, m.groups.lookup g ≠ some x) → m'.managed x = m.managed x) ∧
      ((∀ a, env.factoryOk a = true) → ∀ p ∈ starts, p.2 = none) ∧
      StartFrame m m' := by
  induction rs generalizing errs m with
  | nil =>
    exact ⟨[], m, by simp [startGroups], rfl, by simp, by simp, fun _ _ => rfl, by simp,
      StartFrame.refl⟩
  | cons g rs ih =>
    obtain ⟨mg, hg, hs, hl⟩ := hst g (.head _)
    obtain ⟨res, m₁, h₁, hc₁, hok₁, herr₁, hfac₁, hf₁⟩ := startConsumerGroup_internal env hg hs hl
    have hng : g ∉ rs := (List.nodup_cons.mp hnd).1
    have hne : ∀ g' ∈ rs, ∀ x, m.groups.lookup g' = some x → x ≠ mg := fun g' hg' x hx hxe =>
      hng (hd g' (.tail _ hg') g (.head _) mg (hxe ▸ hx) hg ▸ hg')
    have hx₁ : ∀ x, x ≠ mg → m₁.managed x = m.managed x := fun x hx => by
      have := managed_startConsumerGroup env ⟨internalToken, false, true⟩ (x := x) (m := m) (g := g)
        fun mg' hmg hxe => hx (by rw [hxe]; exact Option.some.inj (hmg.symm.trans hg))
      rwa [h₁, stateOf_toResult] at this
    have hst₁ : ∀ g' ∈ rs, ∃ mg', m₁.groups.lookup g' = some mg' ∧
        (m₁.managed mg').status = .stopped ∧ (m₁.managed mg').lockedBy = some internalToken := by
      intro g' hg'
      obtain ⟨mg', hmg', hs', hl'⟩ := hst g' (.tail _ hg')
      rw [hf₁.groups]
      refine ⟨mg', hmg', ?_⟩
      rw [hx₁ mg' (hne g' hg' mg' hmg')]
      exact ⟨hs', hl'⟩
    obtain ⟨starts, m', h, hk, hc, ho, hx, hfac, hf⟩ :=
      ih (errs ++ res.toList) m₁ (List.nodup_cons.mp hnd).2 (hd.tail.of_groups hf₁.groups) hst₁
    have hlater : m'.managed mg = m₁.managed mg :=
      hx mg fun g' hg' hl' => hne g' hg' mg (hf₁.groups ▸ hl') rfl
    refine ⟨(g, res) :: starts, m', ?_, by simp [hk], ?_, ?_, ?_,
      fun hok p hp => ?_, hf₁.trans hf⟩
    · rw [startGroups_cons env h₁, h]
      cases res <;> simp
    · rw [hc, hc₁]; simp
    · rintro p (_ | ⟨_, hp⟩) mg' hmg'
      · rw [hg] at hmg'; cases hmg'
        rw [hlater]
        refine ⟨fun hr => ⟨_, le_rfl, ?_, (hok₁ hr).2⟩, herr₁⟩
        have := hf.le
        rw [(hok₁ hr).1] at this
        omega
      · have hp₁ : p.1 ∈ rs := hk ▸ List.mem_map_of_mem _ hp
        obtain ⟨h1, h2⟩ := ho p hp mg' (hf₁.groups ▸ hmg')
        rw [hx₁ mg' (hne p.1 hp₁ mg' hmg')] at h2
        refine ⟨fun hr => ?_, h2⟩
        obtain ⟨k, hk', hk'', hm⟩ := h1 hr
        exact ⟨k, hf₁.le.trans hk', hk'', hm⟩
    · intro x hxk
      rw [hx x fun g' hg' => hf₁.groups ▸ hxk g' (.tail _ hg'),
        hx₁ x fun hxe => hxk g (.head _) (hxe ▸ hg)]
    · rcases List.mem_cons.mp hp with rfl | hp
      · exact hfac₁ (hok _)
      · exact hfac hok p hp

end Loops

/-! ## Reconfigure 全体 -/

@[simp] theorem setFactory_apply (f : Factory) (m : Manager) :
    setFactory f m = .ok () ({ m with factory := f }.record (.setFactory f)) := rfl

theorem Reconfigure_apply (env : Env) (brokers : List String) (config : Nat) (m : Manager) :
    Reconfigure env brokers config m =
      (stopGroups env m.groups.keys [] [] >>= fun p =>
        setFactory ⟨config, brokers⟩ >>= fun _ => startGroups env p.2 p.1) m := rfl

theorem mem_keys_of_lookup {g : String} {mg : Nat} (hg : m.groups.lookup g = some mg) :
    g ∈ m.groups.keys :=
  AList.mem_keys.mp (AList.lookup_isSome.mp (by simp [hg]))

theorem mem_stops_of_lookup {stops : List (String × Option Err)} {g : String} {mg : Nat}
    (hk : stops.map (·.1) = m.groups.keys) (hg : m.groups.lookup g = some mg) :
    ∃ res, (g, res) ∈ stops := by
  obtain ⟨⟨g', res⟩, hp, rfl⟩ := List.mem_map.mp (hk ▸ mem_keys_of_lookup hg)
  exact ⟨res, hp⟩

/-- key が相異なれば、key ごとの結果は一つに決まる。 -/
theorem result_unique {stops : List (String × Option Err)} {g : String} {a b : Option Err}
    (hnd : (stops.map (·.1)).Nodup) (ha : (g, a) ∈ stops) (hb : (g, b) ∈ stops) : a = b :=
  (Prod.mk.inj (List.inj_on_of_nodup_map hnd ha hb rfl)).2

/-- Reconfigure が restart する key：stop が nil を返した key（Go の `groupsToRestart`）。 -/
def groupsToRestart (stops : List (String × Option Err)) : List String :=
  (stops.filter (·.2 = none)).map (·.1)

theorem mem_groupsToRestart {stops : List (String × Option Err)} {g : String} :
    g ∈ groupsToRestart stops ↔ (g, none) ∈ stops := by
  simp [groupsToRestart]

theorem groupsToRestart_nodup {stops : List (String × Option Err)} (h : (stops.map (·.1)).Nodup) :
    (groupsToRestart stops).Nodup :=
  List.Nodup.sublist ((List.filter_sublist _).map _) h

/-- **Reconfigure を二つの loop に分ける。** restart する group はどれも内部の token で lock された Stopped である。 -/
theorem Reconfigure_split (env : Env) (brokers : List String) (config : Nat) (m : Manager)
    (hd : Distinct m m.groups.keys) :
    ∃ stops : List (String × Option Err), ∃ m₁,
      stopGroups env m.groups.keys [] [] m = .ok (stops.filterMap (·.2), groupsToRestart stops) m₁ ∧
      stops.map (·.1) = m.groups.keys ∧
      m₁.calls = m.calls ++ stops.map (fun p => .stop ⟨internalToken, true, false⟩ p.1 p.2) ∧
      (∀ p ∈ stops, ∀ mg, m.groups.lookup p.1 = some mg →
        StopOutcome env.closeOk (m.managed mg) p.2 (m₁.managed mg)) ∧
      StopFrame m m₁ ∧
      Reconfigure env brokers config m = startGroups env (groupsToRestart stops)
        (stops.filterMap (·.2)) (stateOf (setFactory ⟨config, brokers⟩ m₁)) ∧
      Distinct m (groupsToRestart stops) ∧
      ∀ g ∈ groupsToRestart stops, ∃ mg, m.groups.lookup g = some mg ∧
        (m₁.managed mg).status = .stopped ∧ (m₁.managed mg).lockedBy = some internalToken := by
  obtain ⟨stops, m₁, hs, hk, hc₁, ho, -, hf₁⟩ :=
    stopGroups_spec env m.groups.keys [] [] m m.groups.keys_nodup hd
  simp only [List.nil_append] at hs
  have hkeys : ∀ g ∈ groupsToRestart stops, g ∈ m.groups.keys := fun g hg =>
    hk ▸ List.mem_map_of_mem _ (mem_groupsToRestart.mp hg)
  refine ⟨stops, m₁, hs, hk, hc₁, ho, hf₁, ?_, fun g₁ h₁ g₂ h₂ => hd g₁ (hkeys g₁ h₁) g₂ (hkeys g₂ h₂),
    fun g hg => ?_⟩
  · simp only [Reconfigure_apply, bind_apply, hs]
    rfl
  · obtain ⟨mg, hmg⟩ := Option.isSome_iff_exists.mp
      (AList.lookup_isSome.mpr (AList.mem_keys.mpr (hkeys g hg)))
    obtain ⟨h1, h2, -⟩ := (ho _ (mem_groupsToRestart.mp hg) mg hmg).1 rfl
    exact ⟨mg, hmg, h1, h2⟩

/-- **Reconfigure の仕様。** 呼び出しの並び、合わせた error、group ごとの結末。 -/
theorem Reconfigure_spec (env : Env) (brokers : List String) (config : Nat) (m : Manager)
    (hd : Distinct m m.groups.keys) :
    ∃ errs m', ∃ stops starts : List (String × Option Err),
      Reconfigure env brokers config m = .ok errs m' ∧
      stops.map (·.1) = m.groups.keys ∧
      starts.map (·.1) = (stops.filter (·.2 = none)).map (·.1) ∧
      m'.calls = m.calls ++ stops.map (fun p => .stop ⟨internalToken, true, false⟩ p.1 p.2) ++
        .setFactory ⟨config, brokers⟩ ::
          starts.map (fun p => .start ⟨internalToken, false, true⟩ p.1 p.2) ∧
      m'.factory = ⟨config, brokers⟩ ∧
      (∀ k, m.nextSession ≤ k → k < m'.nextSession → (m'.sessions k).factory = ⟨config, brokers⟩) ∧
      errs = stops.filterMap (·.2) ++ starts.filterMap (·.2) ∧
      m'.nextManaged = m.nextManaged ∧
      ((∀ a, env.factoryOk a = true) → ∀ p ∈ starts, p.2 = none) ∧
      ∀ g mg, m.groups.lookup g = some mg → ∃ res, (g, res) ∈ stops ∧
        (res ≠ none → StopOutcome env.closeOk (m.managed mg) res (m'.managed mg)) ∧
        (res = none → (∃ k, (m.managed mg).status = .running k) ∧ ∃ r, (g, r) ∈ starts ∧
          (r = none → ∃ k, m.nextSession ≤ k ∧ k < m'.nextSession ∧
            m'.managed mg = ⟨.running k, none⟩) ∧
          (r ≠ none → (m'.managed mg).status = .stopped ∧
            (m'.managed mg).lockedBy = some internalToken)) := by
  obtain ⟨stops, m₁, -, hk, hc₁, ho, hf₁, hR, hdr, hst⟩ := Reconfigure_split env brokers config m hd
  have hnd : (stops.map (·.1)).Nodup := hk ▸ m.groups.keys_nodup
  obtain ⟨starts, m', hst', hk', hc₂, ho', hx', hfac, hf₂⟩ :=
    startGroups_spec env (groupsToRestart stops) (stops.filterMap (·.2))
      (stateOf (setFactory ⟨config, brokers⟩ m₁)) (groupsToRestart_nodup hnd)
      (hdr.of_groups hf₁.groups) fun g hg => by
        obtain ⟨mg, h⟩ := hst g hg
        exact ⟨mg, hf₁.groups ▸ h⟩
  refine ⟨_, m', stops, starts, hR.trans hst', hk, hk', ?_, hf₂.factory, ?_, rfl,
    hf₂.nextManaged.trans hf₁.nextManaged, hfac, ?_⟩
  · rw [hc₂]; simp [hc₁]
  · intro k h₁ h₂
    exact hf₂.new k (by simpa [hf₁.nextSession] using h₁) h₂
  intro g mg hg
  obtain ⟨res, hres⟩ := mem_stops_of_lookup hk hg
  have ho₁ := ho _ hres mg hg
  refine ⟨res, hres, fun hne => ?_, fun hr => ⟨(ho₁.1 hr).2.2, ?_⟩⟩
  · -- stop が失敗した group は restart されず、stop の後のまま
    rw [hx' mg fun g' hg' hl => ?_]
    · exact ho₁
    · have hg'k : g' ∈ m.groups.keys := hk ▸ List.mem_map_of_mem _ (mem_groupsToRestart.mp hg')
      obtain rfl := hd g' hg'k g (mem_keys_of_lookup hg) mg (hf₁.groups ▸ hl) hg
      exact hne (result_unique hnd hres (mem_groupsToRestart.mp hg'))
  · subst hr
    obtain ⟨⟨g', r⟩, hp, rfl⟩ := List.mem_map.mp (hk' ▸ mem_groupsToRestart.mpr hres :
      g ∈ starts.map (·.1))
    obtain ⟨h1, h2⟩ := ho' _ hp mg (hf₁.groups ▸ hg)
    refine ⟨r, hp, fun hr => ?_, fun hne => ?_⟩
    · obtain ⟨k, hk₁, hk₂, hm⟩ := h1 hr
      exact ⟨k, hf₁.nextSession.symm.trans_le hk₁, hk₂, hm⟩
    · rw [h2 hne]
      exact ⟨(ho₁.1 rfl).1, (ho₁.1 rfl).2.1⟩

/-- **Reconfigure の手順と結果。** すべての stop の後で factory を差し替え、止められた group だけを start する。 -/
theorem Reconfigure_stops_then_restarts (env : Env) (brokers : List String) (config : Nat)
    (m : Manager) (hd : Distinct m m.groups.keys) :
    ∃ errs m', ∃ stops starts : List (String × Option Err),
      Reconfigure env brokers config m = .ok errs m' ∧
      stops.map (·.1) = m.groups.keys ∧
      starts.map (·.1) = (stops.filter (·.2 = none)).map (·.1) ∧
      m'.calls = m.calls ++ stops.map (fun p => .stop ⟨internalToken, true, false⟩ p.1 p.2) ++
        .setFactory ⟨config, brokers⟩ ::
          starts.map (fun p => .start ⟨internalToken, false, true⟩ p.1 p.2) ∧
      m'.factory = ⟨config, brokers⟩ ∧
      (∀ k, m.nextSession ≤ k → k < m'.nextSession → (m'.sessions k).factory = ⟨config, brokers⟩) ∧
      errs = stops.filterMap (·.2) ++ starts.filterMap (·.2) ∧
      (errs = [] ↔ (∀ p ∈ stops, p.2 = none) ∧ ∀ p ∈ starts, p.2 = none) ∧
      (∀ g mg k, m.groups.lookup g = some mg → (m'.managed mg).status = .running k →
        (m'.sessions k).factory = ⟨config, brokers⟩ ∨ ∃ e, (g, some e) ∈ stops ∧ e ∈ errs) ∧
      (∀ g mg, m.groups.lookup g = some mg → (m.managed mg).status = .stopped →
        (m'.managed mg).status = .stopped) := by
  obtain ⟨errs, m', stops, starts, hR, hk, hk', hc, hf, hnew, rfl, -, -, hgrp⟩ :=
    Reconfigure_spec env brokers config m hd
  refine ⟨_, m', stops, starts, hR, hk, hk', hc, hf, hnew, rfl, ?_, ?_, ?_⟩
  · simp only [List.append_eq_nil, List.filterMap_eq_nil_iff]
  · intro g mg k hg hrun
    obtain ⟨res, hres, hfail, hok⟩ := hgrp g mg hg
    cases res with
    | some e => exact .inr ⟨e, hres, List.mem_append_left _ (List.mem_filterMap.mpr ⟨_, hres, rfl⟩)⟩
    | none =>
      obtain ⟨-, r, -, hr, hr'⟩ := hok rfl
      cases r with
      | none =>
        obtain ⟨k', hk₁, hk₂, hm⟩ := hr rfl
        rw [hm] at hrun
        cases hrun
        exact .inl (hnew _ hk₁ hk₂)
      | some e => cases (hr' (by simp)).1.symm.trans hrun
  · intro g mg hg hstop
    obtain ⟨res, -, hfail, hok⟩ := hgrp g mg hg
    have hnr : ∀ k, (m.managed mg).status ≠ .running k := fun k => by rw [hstop]; simp
    cases res with
    | none => obtain ⟨⟨k, hk⟩, -⟩ := hok rfl; exact absurd hk (hnr k)
    | some e => exact ((hfail (by simp)).2.1 hnr).1.trans hstop

/-- 二つの group を start しただけの registry で、Reconfigure は前提を満たして返る。 -/
theorem Reconfigure_two_groups :
    let m := stateOf ((StartConsumerGroup Env.ok "a" >>= fun _ => StartConsumerGroup Env.ok "b")
      (NewConsumerGroupManager ["old"] 0))
    Distinct m m.groups.keys ∧ ∃ errs m', Reconfigure Env.ok ["new"] 1 m = .ok errs m' := by
  intro m
  have hd : Distinct m m.groups.keys := by
    have hk : m.groups.keys = ["b", "a"] := rfl
    have ha : m.groups.lookup "a" = some 0 := rfl
    have hb : m.groups.lookup "b" = some 1 := rfl
    intro g₁ h₁ g₂ h₂ mg l₁ l₂
    simp only [hk, List.mem_cons, List.mem_singleton, List.not_mem_nil, or_false] at h₁ h₂
    rcases h₁ with rfl | rfl <;> rcases h₂ with rfl | rfl <;> simp_all
  obtain ⟨errs, m', -, -, h, -⟩ := Reconfigure_stops_then_restarts Env.ok ["new"] 1 m hd
  exact ⟨hd, errs, m', h⟩

/-! ## Reconfigure が外さない lock -/

/-- **失敗した group の lock。** 始めに lock されていなかった group で、stop か restart が失敗した
ものは、Reconfigure が返ったとき内部の token で lock されたままである。 -/
theorem Reconfigure_failed_groups_stay_locked (env : Env) (brokers : List String) (config : Nat)
    (m : Manager) (hd : Distinct m m.groups.keys) :
    ∃ errs m', ∃ stops starts : List (String × Option Err),
      Reconfigure env brokers config m = .ok errs m' ∧
      stops.map (·.1) = m.groups.keys ∧
      starts.map (·.1) = (stops.filter (·.2 = none)).map (·.1) ∧
      m'.calls = m.calls ++ stops.map (fun p => .stop ⟨internalToken, true, false⟩ p.1 p.2) ++
        .setFactory ⟨config, brokers⟩ ::
          starts.map (fun p => .start ⟨internalToken, false, true⟩ p.1 p.2) ∧
      errs = stops.filterMap (·.2) ++ starts.filterMap (·.2) ∧
      ∀ g mg, m.groups.lookup g = some mg → (m.managed mg).lockedBy = none →
        (∃ e, (g, some e) ∈ stops ∨ (g, some e) ∈ starts) →
        (m'.managed mg).lockedBy = some internalToken := by
  obtain ⟨errs, m', stops, starts, hR, hk, hk', hc, -, -, herrs, -, -, hgrp⟩ :=
    Reconfigure_spec env brokers config m hd
  have hnd : (stops.map (·.1)).Nodup := hk ▸ m.groups.keys_nodup
  have hnd' : (starts.map (·.1)).Nodup :=
    hk' ▸ List.Nodup.sublist ((List.filter_sublist _).map _) hnd
  refine ⟨errs, m', stops, starts, hR, hk, hk', hc, herrs, fun g mg hg hfree ⟨e, he⟩ => ?_⟩
  obtain ⟨res, hres, hfail, hok⟩ := hgrp g mg hg
  cases res with
  | some e' => exact (hfail (by simp)).2.2.1 (.inl hfree)
  | none =>
    obtain ⟨-, r, hr, -, hr'⟩ := hok rfl
    rcases he with he | he
    · cases result_unique hnd hres he
    · cases result_unique hnd' hr he
      exact (hr' (by simp)).2

/-- group を一つ start しただけの registry は前提を満たし、restart の factory 呼び出しが失敗しても
Reconfigure は返る。 -/
theorem Reconfigure_failed_groups_stay_locked_one :
    let m := stateOf (StartConsumerGroup Env.ok "g" (NewConsumerGroupManager ["old"] 0))
    Distinct m m.groups.keys ∧
      ∃ errs m', Reconfigure ⟨fun n => n == 0, fun _ => true⟩ ["new"] 1 m = .ok errs m' := by
  intro m
  have hd : Distinct m m.groups.keys := by
    intro g₁ h₁ g₂ h₂ _ _ _
    have hk : m.groups.keys = ["g"] := rfl
    rw [hk, List.mem_singleton] at h₁ h₂
    rw [h₁, h₂]
  obtain ⟨errs, m', -, -, h, -⟩ := Reconfigure_failed_groups_stay_locked ⟨fun n => n == 0, fun _ => true⟩
    ["new"] 1 m hd
  exact ⟨hd, errs, m', h⟩

/-- 一つの group を start した後、restart の factory 呼び出しだけが失敗すると、Reconfigure は
factory の error を返し、group は map に残ったまま内部の token で lock されている。 -/
theorem Reconfigure_failed_restart_keeps_lock :
    let env : Env := ⟨fun n => n == 0, fun _ => true⟩
    let m := stateOf (StartConsumerGroup env "g" (NewConsumerGroupManager ["old"] 0))
    ∃ m', Reconfigure env ["new"] 1 m = .ok [.factory 1] m' ∧ IsManaged "g" m' = true ∧
      (m'.managed 0).lockedBy = some internalToken :=
  ⟨_, rfl, rfl, rfl⟩

end Consumer
