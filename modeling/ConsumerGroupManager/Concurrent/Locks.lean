import ConsumerGroupManager.Concurrent.Distinct

/-!
# lock は持ち主の token でしか外れない

§4.2 の lock discipline では、別の token が持つ lock に `processLock` を呼ぶと LockConflict で
失敗する。ここでは、goroutine がどう交錯しても、token `T` が持つ lock は、`T` を持つ goroutine
（`T` の command、`T` が内部の token なら `Reconfigure`）が動くまで外れも移りもしないことを示す。

* lock を変える段は、command の `processLock` と `createManagedGroup` だけである
  （`Thread.step_locks`）。`processLock` は別の token の lock を変えない（`processLock_locks`）。
* `createManagedGroup` が作る group はまだ lock を持たない。`nextManaged` から先の group は lock を
  持たず、goroutine が次に `processLock` を呼ぶ group はどれも作られたもの（`LockRun`）。
-/

namespace Consumer

variable {env : Env} {m : Manager}

/-! ## manager の lock -/

/-- managed group ごとの lock の持ち主。 -/
def Manager.locks (m : Manager) (x : Nat) : Option String := (m.managed x).lockedBy

@[simp] theorem Manager.locks_setStatus (m : Manager) (mg : Nat) (st : Status) :
    (m.setStatus mg st).locks = m.locks := by
  funext x
  by_cases hx : x = mg <;> simp [Manager.locks, hx]

@[simp] theorem Manager.locks_markClosed (m : Manager) (k : Nat) : (m.markClosed k).locks = m.locks := rfl

theorem keepsLocks_stop {mg : Nat} : Keeps Manager.locks (stop env mg) := by
  intro m
  unfold stop closeSession
  split
  · split <;> simp
  · rfl

theorem keepsLocks_close {mg : Nat} : Keeps Manager.locks (close env mg) := by
  intro m
  unfold close closeSession
  split
  · split <;> simp
  · simp
  · rfl

theorem keepsLocks_start {mg k : Nat} : Keeps Manager.locks (start mg k) := by
  intro m
  rw [start_apply]
  split <;> simp

theorem keepsLocks_createConsumerGroup {g : String} : Keeps Manager.locks (createConsumerGroup env g) := by
  intro m
  unfold createConsumerGroup
  split <;> rfl

/-- **`processLock` が変える lock は `mg` のものだけで、別の token が持つ lock は変えない。** -/
theorem processLock_locks {lock : CommandLock} {before : Bool} {mg x : Nat}
    (h : (stateOf (processLock lock before mg m)).locks x ≠ m.locks x) :
    x = mg ∧ ∀ T, m.locks x = some T → lock.token = T := by
  unfold processLock at h
  split at h
  · next g' hg' =>
    by_cases hx : x = mg
    · subst hx
      simp only [stateOf_ok, Manager.locks, Manager.setManaged_managed, Function.update_same] at h
      refine ⟨rfl, fun T hT => ?_⟩
      cases hacts : ManagedGroup.acts lock before
      · -- この段で lock を扱わなければ、持ち主は変わらない
        rw [ManagedGroup.processLock_lockedBy hg', hacts] at h
        exact absurd rfl h
      · by_contra hne
        rw [ManagedGroup.processLock_eq_error.mpr ⟨hacts, T, hT, fun e => hne e.symm, rfl⟩] at hg'
        cases hg'
    · simp [Manager.locks, hx] at h
  · exact absurd rfl h

/-! ## goroutine の一歩が変える lock -/

/-- command の段が次に `processLock` を呼ぶ group。 -/
def CmdPc.lockTarget : CmdPc → Option Nat
  | .lock mg | .unlock mg => some mg
  | _ => none

/-- Reconfigure の中の command が次に `processLock` を呼ぶ group。 -/
def ReconfPc.lockTarget : ReconfPc → Option Nat
  | .stopping _ pc _ _ _ | .starting _ pc _ _ => pc.lockTarget
  | _ => none

/-- goroutine が次に `processLock` を呼ぶ group。 -/
def Thread.lockTarget : Thread → Option Nat
  | .command _ _ _ pc => pc.lockTarget
  | .reconfigure _ _ pc => pc.lockTarget
  | _ => none

/-- goroutine の `processLock` が使う token。 -/
def Thread.token : Thread → Option String
  | .command _ lock _ _ => some lock.token
  | .reconfigure _ _ _ => some internalToken
  | _ => none

/-- **command の一段が変える lock は、その段の `processLock` が扱う group のもので、
別の token が持っていたものではない。** -/
theorem cmdStep_locks (op : OpCode) (lock : CommandLock) (g : String) (pc : CmdPc) {x : Nat}
    (h : (cmdStep env op lock g pc m).2.1.locks x ≠ m.locks x) :
    pc.lockTarget = some x ∧ ∀ T, m.locks x = some T → lock.token = T := by
  cases pc with
  | lock mg | unlock mg =>
    simp only [cmdStep] at h
    split at h <;>
    · rename_i hp
      obtain ⟨rfl, hT⟩ := processLock_locks (by rw [hp]; exact h)
      exact ⟨rfl, hT⟩
  | act mg =>
    simp only [cmdStep] at h
    split at h
    · split at h <;> (rename_i hp; exact (h (congrFun (keepsLocks_stop.of_eq hp) x)).elim)
    · split at h <;> (rename_i hp; exact (h (congrFun (keepsLocks_createConsumerGroup.of_eq hp) x)).elim)
  | start mg k => exact (h (congrFun (keepsLocks_start m) x)).elim
  | lockBefore | getGroup | unlockAfter =>
    simp only [cmdStep] at h
    split at h <;> exact absurd rfl h
  | done => exact absurd rfl h

theorem reconfStep_locks (brokers : List String) (config : Nat) (pc : ReconfPc) {x : Nat}
    (h : (reconfStep env brokers config pc m).2.1.locks x ≠ m.locks x) :
    pc.lockTarget = some x ∧ ∀ T, m.locks x = some T → internalToken = T := by
  cases pc with
  | stopping g pc => exact cmdStep_locks _ _ g pc h
  | starting g pc => exact cmdStep_locks _ _ g pc h
  | snapshot | setFactory | done => exact absurd rfl h

/-- **goroutine の一歩が変える lock。** 次の `processLock` が扱う group の lock で、持ち主がいれば
その token はこの goroutine のものか、`createManagedGroup` が作った、lock のない新しい group である。 -/
theorem Thread.step_locks (t : Thread) {x : Nat} (h : (t.step env m).2.1.locks x ≠ m.locks x) :
    (t.lockTarget = some x ∧ ∀ T, m.locks x = some T → t.token = some T) ∨
      (x = m.nextManaged ∧ (t.step env m).2.1.locks x = none) := by
  cases t with
  | command op lock g pc =>
    obtain ⟨ht, hT⟩ := cmdStep_locks op lock g pc h
    exact .inl ⟨ht, fun T h' => congrArg some (hT T h')⟩
  | reconfigure brokers config pc =>
    obtain ⟨ht, hT⟩ := reconfStep_locks brokers config pc h
    exact .inl ⟨ht, fun T h' => congrArg some (hT T h')⟩
  | startGroup g pc =>
    cases pc with
    | create =>
      simp only [Thread.step, startStep] at h
      split at h <;> (rename_i hp; exact (h (congrFun (keepsLocks_createConsumerGroup.of_eq hp) x)).elim)
    | manage k =>
      have hx : x = m.nextManaged := by
        by_contra hx
        exact h (by simp [Thread.step, startStep, createManagedGroup_apply, Manager.locks, hx])
      exact .inr ⟨hx, by simp [Thread.step, startStep, createManagedGroup_apply, Manager.locks, hx]⟩
    | spawn | register | done => exact absurd rfl h
  | closeGroup g pc =>
    cases pc with
    | close mg =>
      simp only [Thread.step, closeStep] at h
      split at h <;> (rename_i hp; exact (h (congrFun (keepsLocks_close.of_eq hp) x)).elim)
    | getGroup =>
      simp only [Thread.step, closeStep] at h
      split at h <;> exact absurd rfl h
    | remove | done => exact absurd rfl h
  | consumeLoop => exact absurd rfl h

/-- command の次の `processLock` が扱う group は、その id の下で引いた group である。 -/
theorem cmdStep_lockTarget (op : OpCode) (lock : CommandLock) (g : String) (pc : CmdPc) {mg : Nat}
    (h : (cmdStep env op lock g pc m).1.lockTarget = some mg) : m.groups.lookup g = some mg := by
  cases pc <;> simp only [cmdStep] at h <;> (repeat' split at h) <;>
    first | (cases h; assumption) | cases h

theorem reconfStep_lockTarget (brokers : List String) (config : Nat) (pc : ReconfPc) {mg : Nat}
    (h : (reconfStep env brokers config pc m).1.lockTarget = some mg) : ∃ g, m.groups.lookup g = some mg := by
  have hnext : ∀ ks errs rs, (stopNext ks errs rs).lockTarget ≠ some mg := by
    rintro (_ | _) _ _ <;> nofun
  have hstart : ∀ rs errs, (startNext rs errs).lockTarget ≠ some mg := by
    rintro (_ | _) _ <;> nofun
  cases pc with
  | snapshot => exact absurd h (hnext _ _ _)
  | stopping g pc rest multiErr rs =>
    simp only [reconfStep, afterStop] at h
    split at h
    · exact absurd h (hnext _ _ _)
    · exact ⟨g, cmdStep_lockTarget _ _ g pc h⟩
  | setFactory => exact absurd h (hstart _ _)
  | starting g pc rest multiErr =>
    simp only [reconfStep, afterStart] at h
    split at h
    · exact absurd h (hstart _ _)
    · exact ⟨g, cmdStep_lockTarget _ _ g pc h⟩
  | done => cases h

/-- goroutine の次の `processLock` が扱う group は、map から引いた group である。 -/
theorem Thread.step_lockTarget (t : Thread) {mg : Nat} (h : (t.step env m).1.lockTarget = some mg) :
    ∃ g, m.groups.lookup g = some mg := by
  cases t with
  | command op lock g pc => exact ⟨g, cmdStep_lockTarget op lock g pc h⟩
  | reconfigure brokers config pc => exact reconfStep_lockTarget brokers config pc h
  | startGroup | closeGroup | consumeLoop => cases h

theorem Thread.step_token (t : Thread) : (t.step env m).1.token = t.token := by
  cases t <;> rfl

theorem RegStep.next_le {t t' : Thread} {m' : Manager} (h : RegStep t t' m m') :
    m.nextManaged ≤ m'.nextManaged := by
  rcases h with ⟨h, -⟩ | ⟨-, h, -⟩ | ⟨_, _, -, -, -, h⟩ | ⟨_, -, -, h⟩
  · exact (congrArg Prod.snd h).ge
  all_goals omega

/-! ## 系の不変量 -/

/-- **lock の不変量。** map の値は相異なり（`Registered`）、`nextManaged` から先の group は lock を
持たず、goroutine が次に `processLock` を呼ぶ group はどれも作られたもので、`i` 番の goroutine の
token は始めの `ts₀[i]` のもの（後から起こされた consume loop は token を持たない）。 -/
structure LockRun (ts₀ : List Thread) (s : Sys) : Prop where
  registered : Registered s
  fresh : ∀ x, s.m.nextManaged ≤ x → s.m.locks x = none
  targets : ∀ t ∈ s.threads, ∀ mg, t.lockTarget = some mg → mg < s.m.nextManaged
  tokens : ∀ i : Nat, s.threads[i]?.bind Thread.token = ts₀[i]?.bind Thread.token

namespace LockRun

variable {ts₀ : List Thread} {s : Sys}

theorem init (m : Manager) (ts : List Thread) (hlt : ∀ g mg, m.groups.lookup g = some mg → mg < m.nextManaged)
    (hinj : ∀ g₁ g₂ mg, m.groups.lookup g₁ = some mg → m.groups.lookup g₂ = some mg → g₁ = g₂)
    (hfresh : ∀ x, m.nextManaged ≤ x → m.locks x = none)
    (hts : ∀ t ∈ ts, t.pending = none ∧ t.lockTarget = none) : LockRun ts (Sys.init m ts) where
  registered := Registered.init m ts hlt hinj fun t ht => (hts t ht).1
  fresh := hfresh
  targets t ht mg h := by rw [(hts t ht).2] at h; cases h
  tokens _ := rfl

/-- **系の一歩は lock の不変量を保つ。** -/
theorem step (env : Env) (h : LockRun ts₀ s) (i : Nat) : LockRun ts₀ (s.step env i) := by
  have hreg := h.registered.step env i
  cases ht : s.threads[i]? with
  | none => rw [Sys.step_none env ht]; exact h
  | some t =>
    rw [Sys.step_some env ht] at hreg ⊢
    have hle := (Thread.step_regStep env t s.m).next_le
    have hsp : ∀ x ∈ (t.step env s.m).2.2.2, x.token = none ∧ x.lockTarget = none := by
      rcases Thread.step_spawned env t s.m with h | ⟨g, h⟩ <;> simp [h, Thread.token, Thread.lockTarget]
    refine ⟨hreg, fun x hx => ?_, fun t' ht' mg hmg => ?_, fun j => ?_⟩ <;> dsimp only at *
    · -- `nextManaged` から先の group の lock
      by_contra hne
      rcases Thread.step_locks t (fun he => hne (he.trans (h.fresh x (by omega)))) with ⟨htg, -⟩ | ⟨-, hnone⟩
      · have := h.targets t (List.getElem?_mem ht) x htg
        omega
      · exact hne hnone
    · rcases List.mem_append.mp ht' with ht' | ht'
      · rcases List.mem_or_eq_of_mem_set ht' with ht' | rfl
        · exact Nat.lt_of_lt_of_le (h.targets t' ht' mg hmg) hle
        · obtain ⟨g, hg⟩ := Thread.step_lockTarget t hmg
          exact Nat.lt_of_lt_of_le (h.registered.lt g mg hg) hle
      · rw [(hsp t' ht').2] at hmg; cases hmg
    · -- goroutine の token は一歩で変わらず、起こされた consume loop は token を持たない
      rw [bind_set_append Thread.token _ ht (fun x hx => (hsp x hx).1), Thread.step_token, ← h.tokens j]
      split
      · next hji => subst hji; rw [ht]; rfl
      · rfl

theorem run (env : Env) (h : LockRun ts₀ s) (sched : List Nat) : LockRun ts₀ (s.run env sched) := by
  induction sched generalizing s with
  | nil => exact h
  | cons i is ih => exact ih (h.step env i)

/-- **`T` を持たない goroutine の一歩は、`T` が持つ lock を変えない。** -/
theorem keep_step (env : Env) (h : LockRun ts₀ s) {i : Nat} {T : String}
    (hi : ∀ t, ts₀[i]? = some t → t.token ≠ some T) {mg : Nat} (hT : s.m.locks mg = some T) :
    (s.step env i).m.locks mg = some T := by
  cases ht : s.threads[i]? with
  | none => rw [Sys.step_none env ht]; exact hT
  | some t =>
    rw [Sys.step_some env ht]
    have htok : t.token ≠ some T := by
      have := h.tokens i
      rw [ht, Option.some_bind] at this
      rw [this]
      cases hts : ts₀[i]? with
      | none => nofun
      | some t₀ => exact hi t₀ hts
    by_contra hne
    rcases Thread.step_locks t (fun he => hne (he.trans hT)) with ⟨-, hown⟩ | ⟨rfl, -⟩
    · exact htok (hown T hT)
    · rw [h.fresh _ le_rfl] at hT
      cases hT

theorem keep_run (env : Env) (h : LockRun ts₀ s) {T : String} {rest : List Nat}
    (hrest : ∀ i ∈ rest, ∀ t, ts₀[i]? = some t → t.token ≠ some T) {mg : Nat} (hT : s.m.locks mg = some T) :
    (s.run env rest).m.locks mg = some T := by
  induction rest generalizing s with
  | nil => exact hT
  | cons i is ih =>
    exact ih (h.step env i) (fun j hj => hrest j (List.mem_cons_of_mem _ hj))
      (h.keep_step env (hrest i (List.mem_cons_self _ _)) hT)

end LockRun

/-- **lock は持ち主の token でしか外れない。** `T` を持つ goroutine が動かない間、`T` の lock は残る。 -/
theorem lock_kept_until_owner_runs (env : Env) (brokers : List String) (config : Nat) (ts : List Thread)
    (hts : ∀ t ∈ ts, t.pending = none ∧ t.lockTarget = none) (pre rest : List Nat) (T : String)
    (hrest : ∀ i ∈ rest, ∀ t, ts[i]? = some t → t.token ≠ some T) (mg : Nat)
    (hT : (((Sys.init (NewConsumerGroupManager brokers config) ts).run env pre).m.managed mg).lockedBy = some T) :
    (((Sys.init (NewConsumerGroupManager brokers config) ts).run env (pre ++ rest)).m.managed mg).lockedBy =
      some T := by
  have hnone : ∀ g, (NewConsumerGroupManager brokers config).groups.lookup g = none :=
    fun _ => AList.lookup_empty _
  have h := (LockRun.init _ ts (fun g _ h => nomatch (hnone g).symm.trans h)
    (fun g _ _ h => nomatch (hnone g).symm.trans h) (fun _ _ => rfl) hts).run env pre
  rw [Sys.run_append]
  exact h.keep_run env hrest hT

/-- "g" を start した後で token "T" の stop が lock を取れば、token "U" の command、Reconfigure、
consume loop がどう動いても、lock は "T" のままである。 -/
theorem lock_kept_until_owner_runs_run :
    let ts : List Thread := [.startGroup "g" .create, .command .stopConsumerGroup ⟨"T", true, false⟩ "g" .lockBefore,
      .command .stopConsumerGroup ⟨"U", true, true⟩ "g" .lockBefore, .reconfigure ["new"] 1 .snapshot]
    (∀ t ∈ ts, t.pending = none ∧ t.lockTarget = none) ∧
      (∀ i ∈ [2, 3, 2, 3, 4, 3, 2, 3, 3], ∀ t, ts[i]? = some t → t.token ≠ some "T") ∧
      (((Sys.init (NewConsumerGroupManager [] 0) ts).run Env.ok [0, 0, 0, 0, 1, 1]).m.managed 0).lockedBy =
        some "T" ∧
      (((Sys.init (NewConsumerGroupManager [] 0) ts).run Env.ok
        ([0, 0, 0, 0, 1, 1] ++ [2, 3, 2, 3, 4, 3, 2, 3, 3])).m.managed 0).lockedBy = some "T" :=
  ⟨by decide, by decide, by decide,
    lock_kept_until_owner_runs Env.ok [] 0 _ (by decide) _ _ _ (by decide) 0 (by decide)⟩

end Consumer
