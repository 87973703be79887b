import ConsumerGroupManager.Properties.Reconfigure
import ConsumerGroupManager.Concurrent.Threads

/-!
# session の勘定

factory から得た session はどれも、`Close()` が呼ばれたか、map にある managed group の今の session
であるかのどちらかで、二つの managed group が同じ session を持つことはない（`Accounted`）。

これは無条件には成り立たない。

* `StartConsumerGroup` は map にすでにある id の group を、close せずに上書きする。
  spec はこれを呼び出し側の precondition とする（「no group with this id is currently registered」）。
* `startConsumerGroup` は session を作ってから `start()` を呼び、その結果を見ない。
  Running や Closed の group では `start()` が何もしないので、作った session は誰のものにもならない。

そこで、要求ごとの前提 `admissible` を置き、それを守る逐次の実行でつねに `Accounted` が成り立つことを示す。
証明は操作ごとに一つの保存の lemma を置き、`run` の帰納法でまとめる。
-/

namespace Consumer

variable {env : Env} {lock : CommandLock} {g : String} {mg : Nat} {m m' : Manager}

/-- managed group `mg` が map にある。 -/
def Mapped (m : Manager) (mg : Nat) : Prop := ∃ g, m.groups.lookup g = some mg

/-- **session の勘定。** map の値は作られた managed group を指し、相異なる。Running の group の session は
作られた後のもので、group ごとに違う。作った session はどれも閉じられたか、map にある group が持つ。 -/
structure Accounted (m : Manager) : Prop where
  mapped_lt : ∀ g mg, m.groups.lookup g = some mg → mg < m.nextManaged
  injective : ∀ g₁ g₂ mg, m.groups.lookup g₁ = some mg → m.groups.lookup g₂ = some mg → g₁ = g₂
  running_lt : ∀ mg k, (m.managed mg).status = .running k → k < m.nextSession
  unique : ∀ mg₁ mg₂ k, (m.managed mg₁).status = .running k →
    (m.managed mg₂).status = .running k → mg₁ = mg₂
  owned : ∀ k < m.nextSession, (m.sessions k).closed = true ∨
    ∃ mg, Mapped m mg ∧ (m.managed mg).status = .running k

theorem Accounted.init (brokers : List String) (config : Nat) :
    Accounted (NewConsumerGroupManager brokers config) where
  mapped_lt _ _ h := by simp [NewConsumerGroupManager] at h
  injective _ _ _ h := by simp [NewConsumerGroupManager] at h
  running_lt _ _ h := by simp [NewConsumerGroupManager, default] at h
  unique _ _ _ h := by simp [NewConsumerGroupManager, default] at h
  owned _ h := absurd h (Nat.not_lt_zero _)

theorem Accounted.distinct (h : Accounted m) : Distinct m m.groups.keys :=
  fun g₁ _ g₂ _ => h.injective g₁ g₂

/-! ## `Accounted` が見ないもの -/

/-- `Accounted` が見るものが同じ：map、group の状態、二つの番号、session の閉じた印。 -/
structure SameCore (m m' : Manager) : Prop where
  groups : m'.groups = m.groups
  status : ∀ mg, (m'.managed mg).status = (m.managed mg).status
  nextManaged : m'.nextManaged = m.nextManaged
  nextSession : m'.nextSession = m.nextSession
  closed : ∀ k, (m'.sessions k).closed = (m.sessions k).closed

theorem Accounted.of_sameCore (h : Accounted m) (hc : SameCore m m') : Accounted m' := by
  obtain ⟨hg, hs, hm, hn, hcl⟩ := hc
  refine ⟨?_, ?_, ?_, ?_, ?_⟩ <;> simp only [Mapped, hg, hs, hm, hn, hcl]
  exacts [h.mapped_lt, h.injective, h.running_lt, h.unique, h.owned]

theorem sameCore_record (c : Call) : SameCore m (m.record c) :=
  ⟨rfl, fun _ => rfl, rfl, rfl, fun _ => rfl⟩

theorem sameCore_processLock {before : Bool} :
    SameCore m (stateOf (processLock lock before mg m)) := by
  unfold processLock
  split
  · next r hr =>
    refine ⟨rfl, fun x => ?_, rfl, rfl, fun _ => rfl⟩
    by_cases hx : x = mg
    · subst hx; simpa using ManagedGroup.processLock_status hr
    · simp [hx]
  · exact ⟨rfl, fun _ => rfl, rfl, rfl, fun _ => rfl⟩

/-! ## 状態を変える一歩 -/

/-- Running でない状態にするのは、その group の session が閉じられていれば `Accounted` を保つ。 -/
theorem Accounted.setStatus_idle {st : Status} (h : Accounted m) (hst : ∀ j, st ≠ .running j)
    (hk : ∀ j, (m.managed mg).status = .running j → (m.sessions j).closed = true) :
    Accounted (m.setStatus mg st) := by
  have hs : ∀ x j, ((m.setStatus mg st).managed x).status = .running j →
      x ≠ mg ∧ (m.managed x).status = .running j := by
    intro x j hx
    by_cases hxe : x = mg
    · subst hxe; simp at hx; exact absurd hx (hst j)
    · simpa [hxe] using hx
  refine ⟨h.mapped_lt, h.injective, fun x j hx => h.running_lt x j (hs x j hx).2,
    fun x₁ x₂ j h₁ h₂ => h.unique x₁ x₂ j (hs x₁ j h₁).2 (hs x₂ j h₂).2, fun j hj => ?_⟩
  rcases h.owned j hj with hc | ⟨x, hx, hr⟩
  · exact .inl hc
  · by_cases hxe : x = mg
    · subst hxe; exact .inl (hk j hr)
    · exact .inr ⟨x, hx, by simpa [hxe] using hr⟩

/-- `Close()` を呼んだ印は `Accounted` を保つ。 -/
theorem Accounted.markClosed {k : Nat} (h : Accounted m) : Accounted (m.markClosed k) := by
  refine ⟨h.mapped_lt, h.injective, h.running_lt, h.unique, fun j hj => ?_⟩
  by_cases hjk : j = k
  · subst hjk; simp
  · simpa [hjk, Mapped] using h.owned j hj

/-- **Running の group を止めるか閉じる。** 状態を Running でないものにし、その session に
`Close()` を呼ぶ（`stop()` と `close()`）。 -/
theorem Accounted.retire {k : Nat} {st : Status} (h : Accounted m)
    (hk : (m.managed mg).status = .running k) (hst : ∀ j, st ≠ .running j) :
    Accounted ((m.setStatus mg st).markClosed k) := by
  have : (m.setStatus mg st).markClosed k = (m.markClosed k).setStatus mg st := rfl
  rw [this]
  refine h.markClosed.setStatus_idle hst fun j hj => ?_
  have : j = k := by simp_all
  subst this
  simp

theorem setStatus_status (st : Status) (x : Nat) :
    ((m.setStatus mg st).managed x).status = if x = mg then st else (m.managed x).status := by
  by_cases hx : x = mg <;> simp [hx]

/-- 新しい session `m.nextSession` で Running になったのが `a` だけなら、Running の group の session は
新しい番号までに収まり、相異なるままである。 -/
theorem Accounted.running_fresh (h : Accounted m) {m' : Manager} {a : Nat}
    (hs : ∀ x j, (m'.managed x).status = .running j →
      (x = a ∧ j = m.nextSession) ∨ (x ≠ a ∧ (m.managed x).status = .running j)) :
    (∀ x j, (m'.managed x).status = .running j → j < m.nextSession + 1) ∧
      ∀ x₁ x₂ j, (m'.managed x₁).status = .running j → (m'.managed x₂).status = .running j → x₁ = x₂ := by
  refine ⟨fun x j hx => ?_, fun x₁ x₂ j h₁ h₂ => ?_⟩
  · rcases hs x j hx with ⟨-, rfl⟩ | ⟨-, hr⟩
    · exact Nat.lt_succ_self _
    · exact Nat.lt_succ_of_lt (h.running_lt x j hr)
  · rcases hs x₁ j h₁ with ⟨hx₁, hj⟩ | ⟨-, hr₁⟩ <;> rcases hs x₂ j h₂ with ⟨hx₂, hj⟩ | ⟨-, hr₂⟩
    · exact hx₁.trans hx₂.symm
    · exact absurd (hj ▸ h.running_lt x₂ j hr₂) (Nat.lt_irrefl _)
    · exact absurd (hj ▸ h.running_lt x₁ j hr₁) (Nat.lt_irrefl _)
    · exact h.unique x₁ x₂ j hr₁ hr₂

/-- **factory の新しい session を、map にある Stopped の group に渡す**（成功した
`startConsumerGroup`）。 -/
theorem Accounted.startFresh (h : Accounted m) (hmap : Mapped m mg)
    (hst : (m.managed mg).status = .stopped) (s : Session) :
    Accounted ({ m with
      sessions := Function.update m.sessions m.nextSession s
      nextSession := m.nextSession + 1
      attempts := m.attempts + 1 }.setStatus mg (.running m.nextSession)) := by
  have hs : ∀ x j, (((({ m with
      sessions := Function.update m.sessions m.nextSession s
      nextSession := m.nextSession + 1
      attempts := m.attempts + 1 } : Manager).setStatus mg (.running m.nextSession)).managed x).status =
        .running j) → (x = mg ∧ j = m.nextSession) ∨ (x ≠ mg ∧ (m.managed x).status = .running j) := by
    intro x j hx
    rw [setStatus_status] at hx
    split_ifs at hx with hxe
    · exact .inl ⟨hxe, by cases hx; rfl⟩
    · exact .inr ⟨hxe, hx⟩
  refine ⟨h.mapped_lt, h.injective, (h.running_fresh hs).1, (h.running_fresh hs).2, fun j hj => ?_⟩
  rcases Nat.lt_succ_iff_lt_or_eq.mp hj with hj | rfl
  · have hne : j ≠ m.nextSession := Nat.ne_of_lt hj
    rcases h.owned j hj with hc | ⟨x, hx, hr⟩
    · exact .inl (by simpa [hne] using hc)
    · have hxe : x ≠ mg := fun hxe => by rw [hxe, hst] at hr; cases hr
      exact .inr ⟨x, hx, by rw [setStatus_status, if_neg hxe]; exact hr⟩
  · exact .inr ⟨mg, hmap, by simp⟩

/-- **新しい id に、新しい session を持つ新しい managed group を入れる**（成功した
`StartConsumerGroup`）。 -/
theorem Accounted.insertFresh (h : Accounted m) (hg : m.groups.lookup g = none) (s : Session) :
    Accounted { ({ m with
      sessions := Function.update m.sessions m.nextSession s
      nextSession := m.nextSession + 1
      attempts := m.attempts + 1 } : Manager).setManaged m.nextManaged ⟨.running m.nextSession, none⟩ with
        nextManaged := m.nextManaged + 1
        groups := m.groups.insert g m.nextManaged } := by
  have hfresh : ∀ x j, (m.managed x).status = .running j → Mapped m x → x ≠ m.nextManaged :=
    fun x _ _ ⟨g', hx⟩ hxe => Nat.lt_irrefl _ (hxe ▸ h.mapped_lt g' x hx)
  refine ⟨fun g' mg' h' => ?_, insert_fresh_injective h.mapped_lt h.injective,
    (h.running_fresh (a := m.nextManaged) ?hs).1,
    (h.running_fresh (a := m.nextManaged) ?hs).2, fun j hj => ?_⟩
  case hs =>
    intro x j hx
    by_cases hxe : x = m.nextManaged
    · subst hxe; simp at hx; exact .inl ⟨rfl, hx.symm⟩
    · simp [hxe] at hx; exact .inr ⟨hxe, hx⟩
  · rcases lookup_insert_eq_some.mp h' with ⟨-, rfl⟩ | ⟨-, h'⟩
    · exact Nat.lt_succ_self _
    · exact Nat.lt_succ_of_lt (h.mapped_lt g' mg' h')
  · rcases Nat.lt_succ_iff_lt_or_eq.mp hj with hj | rfl
    · have hne : j ≠ m.nextSession := Nat.ne_of_lt hj
      rcases h.owned j hj with hc | ⟨x, ⟨g', hx⟩, hr⟩
      · exact .inl (by simpa [hne] using hc)
      · have hxe := hfresh x j hr ⟨g', hx⟩
        have hge : g' ≠ g := fun hge => by rw [hge, hg] at hx; cases hx
        exact .inr ⟨x, ⟨g', by rw [AList.lookup_insert_ne hge]; exact hx⟩, by simpa [hxe] using hr⟩
    · exact .inr ⟨m.nextManaged, ⟨g, AList.lookup_insert _⟩, by simp⟩

/-- **map から外す**：Running でない group の id を消すのは `Accounted` を保つ（成功した
`CloseConsumerGroup`）。 -/
theorem Accounted.erase (h : Accounted m) (hg : m.groups.lookup g = some mg)
    (hc : ∀ k, (m.managed mg).status ≠ .running k) :
    Accounted { m with groups := m.groups.erase g } := by
  refine ⟨fun g' mg' h' => h.mapped_lt g' mg' (lookup_erase_eq_some h').2,
    fun g₁ g₂ mg' h₁ h₂ => h.injective g₁ g₂ mg' (lookup_erase_eq_some h₁).2 (lookup_erase_eq_some h₂).2,
    h.running_lt, h.unique, fun j hj => ?_⟩
  rcases h.owned j hj with hcl | ⟨x, ⟨g', hx⟩, hr⟩
  · exact .inl hcl
  · have hge : g' ≠ g := fun hge => by
      rw [hge, hg] at hx; cases hx; exact hc j hr
    exact .inr ⟨x, ⟨g', by rw [AList.lookup_erase_ne hge]; exact hx⟩, hr⟩

/-! ## 操作ごとの保存 -/

/-- 前後の状態の関係：前で `Accounted` なら後でも。 -/
def KeepsAccounted (m m' : Manager) : Prop := Accounted m → Accounted m'

theorem KeepsAccounted.trans {a b c : Manager} (h₁ : KeepsAccounted a b) (h₂ : KeepsAccounted b c) :
    KeepsAccounted a c := fun h => h₂ (h₁ h)

theorem KeepsAccounted.record (c : Call) (h : KeepsAccounted m m') :
    KeepsAccounted m (m'.record c) := fun hm => (h hm).of_sameCore (sameCore_record c)

theorem keepsAccounted_processLock {before : Bool} :
    Guarantees KeepsAccounted (processLock lock before mg) :=
  fun _ h => h.of_sameCore sameCore_processLock

theorem keepsAccounted_stop : Guarantees KeepsAccounted (stop env mg) := by
  intro m h
  cases hs : stop env mg m with
  | ok u m' =>
    obtain ⟨k, hk, -, rfl⟩ := stop_ok hs
    exact h.retire hk (by simp)
  | error e m' =>
    rcases stop_error hs with ⟨k, hk, -, -, rfl⟩ | ⟨-, -, rfl⟩
    · exact h.retire hk (by simp)
    · exact h

/-- **control の stop は `Accounted` を保つ**（どの lock でも、どこで失敗しても）。 -/
theorem keepsAccounted_stopConsumerGroup : Guarantees KeepsAccounted (stopConsumerGroup env lock g) := by
  intro m
  cases hg : m.groups.lookup g with
  | none => rw [stopConsumerGroup_none hg]; exact fun h => h.of_sameCore (sameCore_record _)
  | some mg =>
    rw [stopConsumerGroup_some hg]
    exact ((Guarantees.bind (R := KeepsAccounted) KeepsAccounted.trans keepsAccounted_processLock
      fun _ => Guarantees.bind (R := KeepsAccounted) KeepsAccounted.trans keepsAccounted_stop
        fun _ => keepsAccounted_processLock).traced fun _ _ c h => h.record c) m

/-- **control の start は、Stopped の group（か map にない id）になら `Accounted` を保つ。** -/
theorem accounted_startConsumerGroup (h : Accounted m)
    (hs : ∀ mg, m.groups.lookup g = some mg → (m.managed mg).status = .stopped) :
    Accounted (stateOf (startConsumerGroup env lock g m)) := by
  cases hg : m.groups.lookup g with
  | none => rw [startConsumerGroup_none hg]; exact h.of_sameCore (sameCore_record _)
  | some mg =>
    rw [startConsumerGroup_some hg]
    obtain ⟨res, hres⟩ := stateOf_traced (.start lock g)
      (processLock lock true mg >>= fun _ => createConsumerGroup env g >>= fun k =>
        start mg k >>= fun _ => processLock lock false mg) m
    rw [hres]
    refine Accounted.of_sameCore ?_ (sameCore_record _)
    cases hp : processLock lock true mg m with
    | error e₁ m₁ =>
      rw [stateOf_bind_error hp]
      obtain ⟨-, rfl⟩ := processLock_error hp
      exact h
    | ok u m₁ =>
      rw [stateOf_bind_ok hp]
      have h₁ : Accounted (stateOf (processLock lock true mg m)) := h.of_sameCore sameCore_processLock
      rw [hp] at h₁
      obtain ⟨r, hr, rfl⟩ := processLock_ok hp
      cases hc : createConsumerGroup env g (m.setManaged mg r) with
      | error e₂ m₂ =>
        rw [stateOf_bind_error hc]
        obtain ⟨-, -, rfl⟩ := createConsumerGroup_error hc
        exact h₁.of_sameCore ⟨rfl, fun _ => rfl, rfl, rfl, fun _ => rfl⟩
      | ok k m₂ =>
        rw [stateOf_bind_ok hc, bind_apply, start_apply]
        obtain ⟨-, rfl, rfl⟩ := createConsumerGroup_ok hc
        have hst : ((m.setManaged mg r).managed mg).status = .stopped := by
          simpa [ManagedGroup.processLock_status hr] using hs mg hg
        simp only [hst, if_true]
        exact (h₁.startFresh ⟨g, hg⟩ hst _).of_sameCore sameCore_processLock

/-- **新しい id への `StartConsumerGroup` は `Accounted` を保つ。** -/
theorem accounted_StartConsumerGroup (h : Accounted m) (hg : m.groups.lookup g = none) :
    Accounted (stateOf (StartConsumerGroup env g m)) := by
  unfold StartConsumerGroup
  cases hc : createConsumerGroup env g m with
  | error e m₁ =>
    rw [stateOf_bind_error hc]
    obtain ⟨-, -, rfl⟩ := createConsumerGroup_error hc
    exact h.of_sameCore ⟨rfl, fun _ => rfl, rfl, rfl, fun _ => rfl⟩
  | ok k m₁ =>
    rw [stateOf_bind_ok hc, bind_apply, createManagedGroup_apply]
    obtain ⟨-, rfl, rfl⟩ := createConsumerGroup_ok hc
    exact h.insertFresh hg _

/-- **`CloseConsumerGroup` は `Accounted` を保つ。** 成功すれば group は Closed で、map から外れる。 -/
theorem accounted_CloseConsumerGroup (h : Accounted m) :
    Accounted (stateOf (CloseConsumerGroup env g m)) := by
  cases hg : m.groups.lookup g with
  | none => rw [CloseConsumerGroup_none hg]; exact h
  | some mg =>
    rw [CloseConsumerGroup_some hg]
    cases hc : close env mg m with
    | error e m₁ =>
      rw [stateOf_bind_error hc]
      rcases close_error hc with ⟨k, hk, -, -, rfl⟩ | ⟨-, -, rfl⟩
      · exact h.retire hk (by simp)
      · exact h
    | ok u m₁ =>
      rw [stateOf_bind_ok hc]
      rcases close_ok hc with ⟨hst, rfl⟩ | ⟨k, hk, -, rfl⟩
      · exact (h.setStatus_idle (by simp) fun j hj => by rw [hst] at hj; cases hj).erase hg (by simp)
      · exact (h.retire hk (by simp)).erase hg (by simp)

/-! ## Reconfigure -/

theorem accounted_stopGroups (env : Env) (ks : List String) (errs : List Err) (rs : List String)
    (m : Manager) (h : Accounted m) : Accounted (stateOf (stopGroups env ks errs rs m)) := by
  induction ks generalizing errs rs m with
  | nil => exact h
  | cons g ks ih =>
    obtain ⟨res, m₁, h₁, -⟩ := stopConsumerGroup_key env g m
    rw [stopGroups_cons env h₁]
    have h₂ : Accounted (stateOf (stopConsumerGroup env ⟨internalToken, true, false⟩ g m)) :=
      keepsAccounted_stopConsumerGroup m h
    rw [h₁, stateOf_toResult] at h₂
    exact ih _ _ _ h₂

/-- 後半の loop は、相異なる Stopped の group だけを start するなら `Accounted` を保つ。 -/
theorem accounted_startGroups (env : Env) (rs : List String) (errs : List Err) (m : Manager)
    (hnd : rs.Nodup) (hd : Distinct m rs)
    (hst : ∀ g ∈ rs, ∀ mg, m.groups.lookup g = some mg → (m.managed mg).status = .stopped)
    (h : Accounted m) : Accounted (stateOf (startGroups env rs errs m)) := by
  induction rs generalizing errs m with
  | nil => exact h
  | cons g rs ih =>
    obtain ⟨res, m₁, h₁⟩ := exists_toResult (startConsumerGroup env ⟨internalToken, false, true⟩ g m)
    rw [startGroups_cons env h₁]
    have ha : Accounted (stateOf (startConsumerGroup env ⟨internalToken, false, true⟩ g m)) :=
      accounted_startConsumerGroup h (hst g (.head _))
    have hgr : (stateOf (startConsumerGroup env ⟨internalToken, false, true⟩ g m)).groups = m.groups :=
      keepsGroups_startConsumerGroup m
    rw [h₁, stateOf_toResult] at ha hgr
    refine ih _ m₁ (List.nodup_cons.mp hnd).2 (hd.tail.of_groups hgr) (fun g' hg' mg' hmg' => ?_) ha
    rw [hgr] at hmg'
    -- `g` の start は、後の key の group に触れない
    have hx := managed_startConsumerGroup env ⟨internalToken, false, true⟩ (x := mg') (m := m) (g := g)
      fun mg₀ hmg₀ hxe => (List.nodup_cons.mp hnd).1
        (hd g' (.tail _ hg') g (.head _) mg' hmg' (hxe ▸ hmg₀) ▸ hg')
    rw [h₁, stateOf_toResult] at hx
    rw [hx]
    exact hst g' (.tail _ hg') mg' hmg'

/-- **Reconfigure は `Accounted` を保つ。** 止めるのはどの group でもよく、start し直すのは
自分が止めた（Stopped の）group だけだからである。 -/
theorem accounted_Reconfigure (env : Env) (brokers : List String) (config : Nat) (h : Accounted m) :
    Accounted (stateOf (Reconfigure env brokers config m)) := by
  obtain ⟨stops, m₁, hs, hk, -, -, hf₁, hR, hdr, hst⟩ :=
    Reconfigure_split env brokers config m h.distinct
  have h₁ : Accounted m₁ := by simpa [hs] using accounted_stopGroups env m.groups.keys [] [] m h
  rw [hR]
  refine accounted_startGroups env _ _ _ (groupsToRestart_nodup (hk ▸ m.groups.keys_nodup))
    (hdr.of_groups hf₁.groups) (fun g hg mg hmg => ?_)
    (h₁.of_sameCore ⟨rfl, fun _ => rfl, rfl, rfl, fun _ => rfl⟩)
  obtain ⟨mg', hmg', hst', -⟩ := hst g hg
  have : m.groups.lookup g = some mg := hf₁.groups ▸ hmg
  rw [Option.some.inj (this.symm.trans hmg')]
  exact hst'

/-! ## 要求の列 -/

/-- 呼び出し側が守る前提。`StartConsumerGroup` は map にない id にだけ送る（§4.4 の precondition）。
control の start command は、Stopped の group か map にない id にだけ送る。 -/
def admissible (m : Manager) : Request → Bool
  | .startConsumerGroup g => (m.groups.lookup g).isNone
  | .command .startConsumerGroup (some cmd) =>
    match m.groups.lookup cmd.groupId with
    | some mg => (m.managed mg).status == .stopped
    | none => true
  | _ => true

/-- どの要求もその時点の状態で前提を守る列。 -/
def admissibleRun (env : Env) (version : UInt16) : List Request → Manager → Bool
  | [], _ => true
  | r :: rs, m => admissible m r && admissibleRun env version rs (handle env version r m).2

theorem stateOf_processAsyncGroupNotification (version : UInt16) (cmd : ConsumerGroupAsyncCommand)
    (f : CommandLock → String → ManagerM Unit) :
    stateOf (processAsyncGroupNotification version (some cmd) f m) =
      if cmd.version = version then stateOf (f cmd.lock cmd.groupId m) else m := by
  unfold processAsyncGroupNotification
  by_cases hv : cmd.version = version
  · simp only [hv, ne_eq, not_true_eq_false, if_false, if_true]
    cases f cmd.lock cmd.groupId m <;> rfl
  · simp [hv]

/-- **前提を守る要求は `Accounted` を保つ。** -/
theorem accounted_handle (version : UInt16) (r : Request) (h : Accounted m)
    (ha : admissible m r = true) : Accounted (handle env version r m).2 := by
  cases r with
  | reconfigure b c => rw [handle_reconfigure_snd]; exact accounted_Reconfigure env b c h
  | startConsumerGroup g =>
    rw [handle, errReply_snd]
    exact accounted_StartConsumerGroup h (by simpa [admissible] using ha)
  | closeConsumerGroup g => rw [handle, errReply_snd]; exact accounted_CloseConsumerGroup h
  | errors g => exact h
  | isManaged g => exact h
  | command op p =>
    rw [handle_command_snd]
    cases p with
    | none => exact h
    | some cmd =>
      rw [stateOf_processAsyncGroupNotification]
      split
      · cases op with
        | stopConsumerGroup => exact keepsAccounted_stopConsumerGroup m h
        | startConsumerGroup =>
          exact accounted_startConsumerGroup h fun mg hmg => by simpa [admissible, hmg] using ha
      · exact h

theorem accounted_run (version : UInt16) (rs : List Request) (m : Manager) (h : Accounted m)
    (ha : admissibleRun env version rs m = true) : Accounted (run env version rs m).2 := by
  induction rs generalizing m with
  | nil => exact h
  | cons r rs ih =>
    simp only [admissibleRun, Bool.and_eq_true] at ha
    exact ih _ (accounted_handle version r h ha.1) ha.2

/-- factory から得た session はどれも、`Close()` が呼ばれたか、map にあるただ一つの managed group の
今の session である。 -/
def SessionsAccounted (m : Manager) : Prop :=
  ∀ k < m.nextSession, (m.sessions k).closed = true ∨
    ∃ mg, Mapped m mg ∧ (m.managed mg).status = .running k ∧
      ∀ mg', Mapped m mg' → (m.managed mg').status = .running k → mg' = mg

theorem Accounted.sessionsAccounted (h : Accounted m) : SessionsAccounted m := fun k hk =>
  (h.owned k hk).imp_right fun ⟨mg, hm, hr⟩ => ⟨mg, hm, hr, fun mg' _ hr' => h.unique mg' mg k hr' hr⟩

/-- 前提を守る要求は、map の group を close せずに上書きしたり外したりしない。 -/
theorem handle_replaces_only_closed (version : UInt16) (r : Request) (ha : admissible m r = true)
    (g : String) (mg : Nat) (hg : m.groups.lookup g = some mg)
    (hne : (handle env version r m).2.groups.lookup g ≠ some mg) :
    ((handle env version r m).2.managed mg).status = .closed := by
  cases r with
  | startConsumerGroup g' =>
    rw [handle, errReply_snd] at hne ⊢
    have hg' : m.groups.lookup g' = none := by simpa [admissible] using ha
    have hge : g ≠ g' := fun hge => by rw [hge, hg'] at hg; cases hg
    cases hs : StartConsumerGroup env g' m with
    | ok u m' =>
      obtain ⟨mg', hgr⟩ := StartConsumerGroup_ok_groups hs
      rw [hs, stateOf_ok, hgr, AList.lookup_insert_ne hge] at hne
      exact absurd hg hne
    | error e m' =>
      rw [hs, stateOf_error, StartConsumerGroup_error_groups hs] at hne
      exact absurd hg hne
  | closeConsumerGroup g' =>
    rw [handle, errReply_snd] at hne ⊢
    cases hs : CloseConsumerGroup env g' m with
    | error e m' =>
      rw [hs, stateOf_error, CloseConsumerGroup_error_groups hs] at hne
      exact absurd hg hne
    | ok u m' =>
      rw [hs, stateOf_ok, CloseConsumerGroup_ok_groups hs] at hne
      have hge : g = g' := by
        by_contra hge
        rw [AList.lookup_erase_ne hge] at hne
        exact hne hg
      subst hge
      rw [CloseConsumerGroup_some hg] at hs
      obtain ⟨_, m₁, hc, h⟩ := bind_eq_ok hs
      cases h
      rcases close_ok hc with ⟨-, rfl⟩ | ⟨k, -, -, rfl⟩ <;> simp [removeGroup]
  | reconfigure | errors | isManaged | command =>
    exact (hne (by rw [handle_groups (by rfl)]; exact hg)).elim

/-- **session は漏れない（前提を守る逐次の実行で）。** -/
theorem sessions_closed_or_owned (env : Env) (version : UInt16) (brokers : List String) (config : Nat)
    (rs : List Request) (ha : admissibleRun env version rs (NewConsumerGroupManager brokers config) = true) :
    SessionsAccounted (run env version rs (NewConsumerGroupManager brokers config)).2 ∧
    ∀ r, admissible (run env version rs (NewConsumerGroupManager brokers config)).2 r = true →
      ∀ g mg, (run env version rs (NewConsumerGroupManager brokers config)).2.groups.lookup g = some mg →
        (handle env version r (run env version rs (NewConsumerGroupManager brokers config)).2).2.groups.lookup g ≠
          some mg →
        ((handle env version r (run env version rs (NewConsumerGroupManager brokers config)).2).2.managed mg).status =
          .closed :=
  ⟨(accounted_run version rs _ (Accounted.init brokers config) ha).sessionsAccounted,
    fun r hr g mg hg hne => handle_replaces_only_closed version r hr g mg hg hne⟩

/-- group を start し、control の command で止めて start し直し、Reconfigure し、close する列は
前提を守り、終わった状態で session は漏れていない。 -/
theorem sessions_closed_or_owned_run :
    let rs : List Request := [.startConsumerGroup "a",
      .command .stopConsumerGroup (some ⟨1, "a", ⟨"T", true, false⟩⟩),
      .command .startConsumerGroup (some ⟨1, "a", ⟨"T", false, true⟩⟩),
      .reconfigure ["c"] 1, .closeConsumerGroup "a"]
    admissibleRun Env.ok 1 rs (NewConsumerGroupManager ["b"] 0) = true ∧
      SessionsAccounted (run Env.ok 1 rs (NewConsumerGroupManager ["b"] 0)).2 :=
  ⟨by decide, (sessions_closed_or_owned Env.ok 1 ["b"] 0 _ (by decide)).1⟩

/-- 同じ id に二度 `StartConsumerGroup` すると、最初の group は close されずに上書きされ、
その session は閉じられないまま、map のどの group の session でもなくなる。 -/
theorem start_same_id_twice_leaks_session :
    ¬ SessionsAccounted (run Env.ok 1 [.startConsumerGroup "g", .startConsumerGroup "g"]
      (NewConsumerGroupManager [] 0)).2 := by
  intro h
  rcases h 0 (by decide) with hc | ⟨mg, ⟨g, hg⟩, hr, -⟩
  · exact absurd hc (by decide)
  · have he : (run Env.ok 1 [.startConsumerGroup "g", .startConsumerGroup "g"]
        (NewConsumerGroupManager [] 0)).2.groups.entries = [⟨"g", 1⟩] := rfl
    have hm := AList.mem_lookup_iff.mp hg
    rw [he, List.mem_singleton, Sigma.mk.inj_iff, heq_iff_eq] at hm
    rw [hm.2] at hr
    exact absurd hr (by decide)

/-- **前提を外すか、呼び出しが重なると session は漏れる。** -/
theorem sessions_leak_counterexamples :
    ¬ SessionsAccounted (run Env.ok 1 [.startConsumerGroup "g", .startConsumerGroup "g"]
      (NewConsumerGroupManager [] 0)).2 ∧
    let m := (run Env.ok 1 [.startConsumerGroup "g",
      .command .stopConsumerGroup (some ⟨1, "g", ⟨"T", false, false⟩⟩)] (NewConsumerGroupManager [] 0)).2
    let s := (Sys.init m [.command .startConsumerGroup ⟨"T", false, false⟩ "g" .lockBefore,
      .closeGroup "g" .getGroup]).run Env.ok [0, 0, 0, 1, 1, 1, 0, 0, 0]
    admissible m (.command .startConsumerGroup (some ⟨1, "g", ⟨"T", false, false⟩⟩)) = true ∧
      s.threads.all Thread.finished = true ∧ ¬ SessionsAccounted s.m := by
  refine ⟨start_same_id_twice_leaks_session, by decide, by decide, fun h => ?_⟩
  rcases h 1 (by decide) with hc | ⟨mg, ⟨g, hg⟩, -⟩
  · exact absurd hc (by decide)
  · -- close の後で map は空である
    exact nomatch hg

end Consumer
