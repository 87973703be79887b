import ConsumerGroupManager.Run
import ConsumerGroupManager.Properties.Steps

/-!
# map は成功した start と close の履歴で決まる

`groups` を書き換えるのは `setGroup`（`StartConsumerGroup` の最後の段）と
`removeGroup`（`CloseConsumerGroup` の最後の段）だけである。

1. それ以外の動作はどれも `groups` を変えない（`Keeps Manager.groups`）。
   control-protocol の stop と start、`Reconfigure`、`Errors`、`IsManaged` がそうである。
2. 失敗した `StartConsumerGroup` と `CloseConsumerGroup` は `setGroup`・`removeGroup` まで届かない。
3. 1 と 2 から、一つの要求が map の key をどう変えるかが決まり（`mem_handle`）、
   列についての帰納法で、空の map から始めた実行の key が trace の `Live` と一致する。
-/

namespace Consumer

variable {α : Type} {env : Env} {version : UInt16} {lock : CommandLock} {g : String} {mg : Nat}
  {m m' : Manager} {e : Err}

/-! ## map に触れない動作 -/

/-- map と、次に作る managed group の番号。`createManagedGroup`、`setGroup`、`removeGroup` だけが変える。 -/
def Manager.registry (m : Manager) : AList (fun _ : String => Nat) × Nat := (m.groups, m.nextManaged)

theorem keepsRegistry_processLock {before : Bool} :
    Keeps Manager.registry (processLock lock before mg) := by
  intro m
  unfold processLock
  split <;> rfl

theorem keepsRegistry_stop : Keeps Manager.registry (stop env mg) := by
  intro m
  unfold stop closeSession
  split
  · split <;> rfl
  · rfl

theorem keepsRegistry_close : Keeps Manager.registry (close env mg) := by
  intro m
  unfold close closeSession
  split
  · split <;> rfl
  all_goals rfl

theorem keepsRegistry_start {k : Nat} : Keeps Manager.registry (start mg k) := by
  intro m
  rw [start_apply]
  split <;> rfl

theorem keepsRegistry_createConsumerGroup : Keeps Manager.registry (createConsumerGroup env g) := by
  intro m
  unfold createConsumerGroup
  split <;> rfl

theorem keepsGroups_processLock {before : Bool} : Keeps Manager.groups (processLock lock before mg) :=
  fun m => congrArg Prod.fst (keepsRegistry_processLock m)

theorem keepsGroups_stop : Keeps Manager.groups (stop env mg) :=
  fun m => congrArg Prod.fst (keepsRegistry_stop m)

theorem keepsGroups_start {k : Nat} : Keeps Manager.groups (start mg k) :=
  fun m => congrArg Prod.fst (keepsRegistry_start m)

theorem keepsGroups_createConsumerGroup : Keeps Manager.groups (createConsumerGroup env g) :=
  fun m => congrArg Prod.fst (keepsRegistry_createConsumerGroup m)

theorem keepsGroups_stopConsumerGroup : Keeps Manager.groups (stopConsumerGroup env lock g) := by
  intro m
  cases hg : m.groups.lookup g with
  | none => rw [stopConsumerGroup_none hg]; rfl
  | some mg =>
    rw [stopConsumerGroup_some hg]
    exact ((keepsGroups_processLock.bind fun _ =>
      keepsGroups_stop.bind fun _ => keepsGroups_processLock).traced fun _ _ => rfl) m

theorem keepsGroups_startConsumerGroup : Keeps Manager.groups (startConsumerGroup env lock g) := by
  intro m
  cases hg : m.groups.lookup g with
  | none => rw [startConsumerGroup_none hg]; rfl
  | some mg =>
    rw [startConsumerGroup_some hg]
    exact ((keepsGroups_processLock.bind fun _ =>
      keepsGroups_createConsumerGroup.bind fun _ =>
        keepsGroups_start.bind fun _ => keepsGroups_processLock).traced fun _ _ => rfl) m

theorem keepsGroups_stopGroups :
    ∀ (gs : List String) (errs : List Err) (rs : List String),
      Keeps Manager.groups (stopGroups env gs errs rs)
  | [], _, _ => Keeps.pure' _
  | _ :: gs, _, _ =>
    (Keeps.capture keepsGroups_stopConsumerGroup).bind fun r => by
      cases r <;> exact keepsGroups_stopGroups gs _ _

theorem keepsGroups_startGroups :
    ∀ (gs : List String) (errs : List Err), Keeps Manager.groups (startGroups env gs errs)
  | [], _ => Keeps.pure' _
  | _ :: gs, _ =>
    (Keeps.capture keepsGroups_startConsumerGroup).bind fun r => by
      cases r <;> exact keepsGroups_startGroups gs _

theorem keepsGroups_Reconfigure {brokers : List String} {config : Nat} :
    Keeps Manager.groups (Reconfigure env brokers config) :=
  (show Keeps Manager.groups (get : ManagerM Manager) from fun _ => rfl).bind fun _ =>
    (keepsGroups_stopGroups _ _ _).bind fun _ =>
      (show Keeps Manager.groups (setFactory _) from fun _ => rfl).bind fun _ =>
        keepsGroups_startGroups _ _

theorem keepsGroups_handler (op : OpCode) :
    ∀ c g, Keeps Manager.groups (handler env op c g) := by
  cases op
  · exact fun _ _ => keepsGroups_stopConsumerGroup
  · exact fun _ _ => keepsGroups_startConsumerGroup

theorem keepsGroups_processAsyncGroupNotification {p : Option ConsumerGroupAsyncCommand}
    {f : CommandLock → String → ManagerM Unit} (hf : ∀ c g, Keeps Manager.groups (f c g)) :
    Keeps Manager.groups (processAsyncGroupNotification version p f) := by
  intro m
  unfold processAsyncGroupNotification
  cases p with
  | none => rfl
  | some cmd =>
    have := hf cmd.lock cmd.groupId m
    simp only
    split
    · rfl
    · split <;> simp_all

/-! ## 失敗した start と close -/

/-- **失敗した `StartConsumerGroup` は map を変えない。** 失敗するのは factory だけである。 -/
theorem StartConsumerGroup_error_groups (h : StartConsumerGroup env g m = .error e m') :
    m'.groups = m.groups := by
  unfold StartConsumerGroup at h
  rcases bind_eq_error h with h | ⟨k, m₁, hc, h⟩
  · exact (createConsumerGroup_error h).2.2 ▸ rfl
  · rw [bind_apply, createManagedGroup_apply] at h
    cases h

/-- 成功した `StartConsumerGroup` は、新しい group を `g` に入れる。 -/
theorem StartConsumerGroup_ok_groups {u : Unit} (h : StartConsumerGroup env g m = .ok u m') :
    ∃ mg, m'.groups = m.groups.insert g mg := by
  unfold StartConsumerGroup at h
  obtain ⟨k, m₁, hc, h⟩ := bind_eq_ok h
  obtain ⟨-, -, rfl⟩ := createConsumerGroup_ok hc
  rw [bind_apply, createManagedGroup_apply] at h
  cases h
  exact ⟨_, rfl⟩

/-- **失敗した `CloseConsumerGroup` は map を変えない。** -/
theorem CloseConsumerGroup_error_groups (h : CloseConsumerGroup env g m = .error e m') :
    m'.groups = m.groups := by
  cases hg : m.groups.lookup g with
  | none => rw [CloseConsumerGroup_none hg] at h; cases h; rfl
  | some mg =>
    rw [CloseConsumerGroup_some hg] at h
    rcases bind_eq_error h with h | ⟨_, m₁, _, h⟩
    · rcases close_error h with ⟨k, -, -, -, rfl⟩ | ⟨-, -, rfl⟩ <;> rfl
    · cases h

/-- 成功した `CloseConsumerGroup` は `g` を map から外す。 -/
theorem CloseConsumerGroup_ok_groups {u : Unit} (h : CloseConsumerGroup env g m = .ok u m') :
    m'.groups = m.groups.erase g := by
  cases hg : m.groups.lookup g with
  | none => rw [CloseConsumerGroup_none hg] at h; cases h
  | some mg =>
    rw [CloseConsumerGroup_some hg] at h
    obtain ⟨_, m₁, hc, h⟩ := bind_eq_ok h
    cases h
    rcases close_ok hc with ⟨-, rfl⟩ | ⟨k, -, -, rfl⟩ <;> rfl

/-! ## 一つの要求と map -/

/-- 要求の後の状態は、その要求の操作が残した状態である。 -/
theorem handle_reconfigure_snd (b : List String) (c : Nat) :
    (handle env version (.reconfigure b c) m).2 = stateOf (Reconfigure env b c m) := by
  simp only [handle]
  cases Reconfigure env b c m <;> rfl

theorem errReply_snd (x : EStateM.Result Err Manager Unit) : (errReply x).2 = stateOf x := by
  cases x <;> rfl

theorem handle_command_snd (op : OpCode) (p : Option ConsumerGroupAsyncCommand) :
    (handle env version (.command op p) m).2 =
      stateOf (processAsyncGroupNotification version p (handler env op) m) := by
  simp only [handle]
  cases processAsyncGroupNotification version p (handler env op) m <;> rfl

/-- map を書き換えうる要求：`StartConsumerGroup` と `CloseConsumerGroup`。 -/
def Request.touchesMap : Request → Bool
  | .startConsumerGroup _ | .closeConsumerGroup _ => true
  | _ => false

/-- **それ以外の要求は map を変えない。** -/
theorem handle_groups {r : Request} (h : r.touchesMap = false) :
    (handle env version r m).2.groups = m.groups := by
  cases r with
  | reconfigure b c => rw [handle_reconfigure_snd]; exact keepsGroups_Reconfigure m
  | startConsumerGroup => cases h
  | closeConsumerGroup => cases h
  | errors => rfl
  | isManaged => rfl
  | command op p =>
    rw [handle_command_snd]
    exact keepsGroups_processAsyncGroupNotification (keepsGroups_handler op) m

/-- **一つの要求が map の key をどう変えるか。** 成功した start は足し、成功した close は外す。 -/
theorem mem_handle (r : Request) (m : Manager) (g : String) :
    g ∈ (handle env version r m).2.groups ↔
      (r, (handle env version r m).1) = (.startConsumerGroup g, .err none) ∨
      (g ∈ m.groups ∧ (r, (handle env version r m).1) ≠ (.closeConsumerGroup g, .err none)) := by
  cases r with
  | startConsumerGroup g' =>
    simp only [handle, errReply]
    cases hs : StartConsumerGroup env g' m with
    | ok u m' =>
      obtain ⟨mg, hgr⟩ := StartConsumerGroup_ok_groups hs
      simp [hgr, eq_comm]
    | error e m' => simp [StartConsumerGroup_error_groups hs]
  | closeConsumerGroup g' =>
    simp only [handle, errReply]
    cases hs : CloseConsumerGroup env g' m with
    | ok u m' => simp [CloseConsumerGroup_ok_groups hs, AList.mem_erase, and_comm, eq_comm]
    | error e m' => simp [CloseConsumerGroup_error_groups hs]
  | reconfigure b c => rw [handle_groups (r := .reconfigure b c) rfl]; simp
  | errors g' => rw [handle_groups (r := .errors g') rfl]; simp
  | isManaged g' => rw [handle_groups (r := .isManaged g') rfl]; simp
  | command op p => rw [handle_groups (r := .command op p) rfl]; simp

/-! ## 実行と履歴 -/

/-- `g` の `StartConsumerGroup` が nil を返し、その後 `g` の `CloseConsumerGroup` が nil を
返していない。 -/
def Live (tr : List (Request × Reply)) (g : String) : Prop :=
  ∃ i, tr[i]? = some (.startConsumerGroup g, .err none) ∧
    (.closeConsumerGroup g, .err none) ∉ tr.drop (i + 1)

theorem live_cons (x : Request × Reply) (tr : List (Request × Reply)) (g : String) :
    Live (x :: tr) g ↔
      (x = (.startConsumerGroup g, .err none) ∧ (.closeConsumerGroup g, .err none) ∉ tr) ∨
        Live tr g := by
  constructor
  · rintro ⟨_ | i, hi, hc⟩
    · simp_all
    · exact .inr ⟨i, by simpa using hi, by simpa using hc⟩
  · rintro (⟨rfl, hc⟩ | ⟨i, hi, hc⟩)
    · exact ⟨0, by simp, by simpa using hc⟩
    · exact ⟨i + 1, by simpa using hi, by simpa using hc⟩

/-- **実行の後の map の key。** 初めからあって close されていないか、`Live` である。 -/
theorem mem_run (rs : List Request) (m : Manager) (g : String) :
    g ∈ (run env version rs m).2.groups ↔
      (g ∈ m.groups ∧ (.closeConsumerGroup g, .err none) ∉ (run env version rs m).1) ∨
        Live (run env version rs m).1 g := by
  induction rs generalizing m with
  | nil => simp [run, Live]
  | cons r rs ih =>
    simp only [run, ih, live_cons, mem_handle, List.mem_cons, not_or]
    tauto

/-- map を書き換えない要求だけの実行は、どの id の group も変えない。 -/
theorem groups_run {rs : List Request} (h : ∀ r ∈ rs, r.touchesMap = false) (m : Manager) :
    (run env version rs m).2.groups = m.groups := by
  induction rs generalizing m with
  | nil => rfl
  | cons r rs ih =>
    simp only [run]
    rw [ih (fun r' hr' => h r' (.tail _ hr')), handle_groups (h r (.head _))]

/-- **map は成功した start と close の履歴で決まる。** -/
theorem groups_follow_start_close_history (env : Env) (version : UInt16)
    (brokers : List String) (config : Nat) :
    (∀ rs g, let z := run env version rs (NewConsumerGroupManager brokers config)
      (g ∈ z.2.groups ↔ Live z.1 g) ∧ (IsManaged g z.2 = true ↔ Live z.1 g)) ∧
    (∀ g m e m', StartConsumerGroup env g m = .error e m' → m'.groups = m.groups) ∧
    (∀ g m e m', CloseConsumerGroup env g m = .error e m' → m'.groups = m.groups) ∧
    (∀ r m, r.touchesMap = false → (handle env version r m).2.groups = m.groups) ∧
    (∀ rs m g, (∀ r ∈ rs, r.touchesMap = false) →
      Errors g (run env version rs m).2 = Errors g m) := by
  have hmem : ∀ rs g, g ∈ (run env version rs (NewConsumerGroupManager brokers config)).2.groups ↔
      Live (run env version rs (NewConsumerGroupManager brokers config)).1 g := fun rs g => by
    rw [mem_run]
    simp [NewConsumerGroupManager, AList.mem_keys]
  refine ⟨fun rs g => ⟨hmem rs g, ?_⟩, fun _ _ _ _ => StartConsumerGroup_error_groups,
    fun _ _ _ _ => CloseConsumerGroup_error_groups, fun _ _ => handle_groups,
    fun rs m g h => by simp only [Errors, groups_run h]⟩
  rw [IsManaged, AList.lookup_isSome]
  exact hmem rs g

end Consumer
