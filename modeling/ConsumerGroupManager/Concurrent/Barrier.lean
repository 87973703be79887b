import ConsumerGroupManager.Concurrent.Distinct

/-!
# Reconfigure の restart は新しい factory を使う

`Reconfigure` は lock を持たずに二つの loop を回す。段は前半の loop から後半の loop へ一方向にしか
進まず（`reconfStep_restarting`）、前半の段は start でない観測だけを、後半の段は start だけを残す
（`reconfStep_acts`）。factory を書くのは `m.factory = ...` の段だけなので（`Thread.step_factory`）、
ほかに Reconfigure がなければ、後半の loop の restart が作る session はどれも新しい factory のものである。
-/

namespace Consumer

variable {env : Env} {m m' : Manager}

/-! ## 観測と段の分類 -/

/-- command の `managedGrp.start(group)` の観測か。 -/
def Act.isStart : Act → Bool
  | .started _ => true
  | _ => false

/-- command が `managedGrp.start(group)` の段にいるか。 -/
def CmdPc.isStart : CmdPc → Bool
  | .start _ _ => true
  | _ => false

/-- Reconfigure が後半の loop（restart）に入ったか、返ったか。 -/
def ReconfPc.restarting : ReconfPc → Bool
  | .starting .. | .done _ => true
  | _ => false

/-- 前半の loop の stop は `managedGrp.start` の段にいない。 -/
def ReconfPc.Staged : ReconfPc → Prop
  | .stopping _ pc _ _ _ => pc.isStart = false
  | _ => True

/-- Reconfigure の goroutine なら、その brokers、config、途中。 -/
def Thread.reconf : Thread → Option (List String × Nat × ReconfPc)
  | .reconfigure brokers config pc => some (brokers, config, pc)
  | _ => none

/-! ## 段が残す観測 -/

/-- stop の command は `managedGrp.start` の段に入らず、start を観測に残さない。 -/
theorem cmdStep_stop_acts (lock : CommandLock) (g : String) {pc : CmdPc} (hpc : pc.isStart = false) :
    (cmdStep env .stopConsumerGroup lock g pc m).1.isStart = false ∧
      ∀ a ∈ (cmdStep env .stopConsumerGroup lock g pc m).2.2, a.isStart = false := by
  cases pc with
  | lockBefore | getGroup | unlockAfter | unlock => simp only [cmdStep]; split <;> simp [CmdPc.isStart]
  | lock mg =>
    simp only [cmdStep]
    split
    · refine ⟨rfl, fun a ha => ?_⟩
      split at ha
      · rw [List.mem_singleton.mp ha]; rfl
      · cases ha
    · simp [CmdPc.isStart]
  | act mg =>
    simp only [cmdStep]
    split
    · exact ⟨rfl, fun a ha => by rw [List.mem_singleton.mp ha]; rfl⟩
    · simp [CmdPc.isStart]
  | start mg k => cases hpc
  | done => simp [cmdStep, CmdPc.isStart]

/-- `LockBefore` のない start の command が観測に残すのは start だけである。 -/
theorem cmdStep_start_acts (lock : CommandLock) (g : String) (pc : CmdPc) (hl : lock.lockBefore = false) :
    ∀ a ∈ (cmdStep env .startConsumerGroup lock g pc m).2.2, a.isStart = true := by
  cases pc with
  | lockBefore | getGroup | act | unlockAfter | unlock => simp only [cmdStep]; split <;> simp
  | lock mg => simp only [cmdStep, hl]; split <;> simp
  | start mg k => intro a ha; rw [List.mem_singleton.mp ha]; rfl
  | done => simp [cmdStep]

theorem stopNext_restarting (ks : List String) (errs : List Err) (rs : List String) :
    (stopNext ks errs rs).restarting = false := by
  cases ks <;> rfl

theorem startNext_restarting (rs : List String) (errs : List Err) : (startNext rs errs).restarting = true := by
  cases rs <;> rfl

theorem afterStop_restarting (g : String) (rest : List String) (errs : List Err) (rs : List String)
    (pc : CmdPc) : (afterStop g rest errs rs pc).restarting = false := by
  unfold afterStop
  split
  · exact stopNext_restarting ..
  · rfl

theorem afterStart_restarting (g : String) (rest : List String) (errs : List Err) (pc : CmdPc) :
    (afterStart g rest errs pc).restarting = true := by
  unfold afterStart
  split
  · exact startNext_restarting ..
  · rfl

theorem stopNext_staged (ks : List String) (errs : List Err) (rs : List String) :
    (stopNext ks errs rs).Staged := by
  cases ks
  · trivial
  · exact (rfl : CmdPc.lockBefore.isStart = false)

theorem afterStart_staged (g : String) (rest : List String) (errs : List Err) (pc : CmdPc) :
    (afterStart g rest errs pc).Staged := by
  unfold afterStart
  split
  · cases rest <;> trivial
  · trivial

theorem afterStop_staged (g : String) (rest : List String) (errs : List Err) (rs : List String)
    {pc : CmdPc} (hpc : pc.isStart = false) : (afterStop g rest errs rs pc).Staged := by
  unfold afterStop
  split
  · exact stopNext_staged ..
  · exact hpc

/-- **Reconfigure の段は後半の loop へ一方向に進む。** 後半にいるのは、前の段が後半にいたか、
`m.factory = ...` の段だったときだけである。 -/
theorem reconfStep_restarting (brokers : List String) (config : Nat) (pc : ReconfPc) (m : Manager) :
    (reconfStep env brokers config pc m).1.restarting = true ↔
      pc.restarting = true ∨ ∃ errs rs, pc = .setFactory errs rs := by
  cases pc with
  | snapshot => simp only [reconfStep, stopNext_restarting]; simp [ReconfPc.restarting]
  | stopping => simp only [reconfStep, afterStop_restarting]; simp [ReconfPc.restarting]
  | setFactory => simp [reconfStep, startNext_restarting]
  | starting => simp only [reconfStep, afterStart_restarting]; simp [ReconfPc.restarting]
  | done => simp [reconfStep, ReconfPc.restarting]

/-- **前半の段は start でない観測だけを、後半の段は start だけを残す。** -/
theorem reconfStep_acts (env : Env) (brokers : List String) (config : Nat) {pc : ReconfPc} (hpc : pc.Staged)
    (m : Manager) :
    (reconfStep env brokers config pc m).1.Staged ∧
      ∀ a ∈ (reconfStep env brokers config pc m).2.2, a.isStart = pc.restarting := by
  cases pc with
  | snapshot => exact ⟨stopNext_staged .., List.forall_mem_nil _⟩
  | stopping g pc rest errs rs =>
    exact ⟨afterStop_staged g rest errs rs (cmdStep_stop_acts _ g hpc).1, (cmdStep_stop_acts _ g hpc).2⟩
  | setFactory errs rs => exact ⟨by cases rs <;> trivial, List.forall_mem_nil _⟩
  | starting g pc rest errs => exact ⟨afterStart_staged .., cmdStep_start_acts _ g pc rfl⟩
  | done => exact ⟨trivial, List.forall_mem_nil _⟩

/-! ## factory と session の枠 -/

/-- session `k` を作った factory。まだ作っていなければ `none`。 -/
def Manager.made (m : Manager) (k : Nat) : Option Factory :=
  if k < m.nextSession then some (m.sessions k).factory else none

/-- manager の factory と、作った session の factory。 -/
def Manager.origins (m : Manager) : Factory × (Nat → Option Factory) := (m.factory, m.made)

@[simp] theorem Manager.origins_setStatus (m : Manager) (mg : Nat) (st : Status) :
    (m.setStatus mg st).origins = m.origins := rfl

@[simp] theorem Manager.origins_setManaged (m : Manager) (mg : Nat) (g : ManagedGroup) :
    (m.setManaged mg g).origins = m.origins := rfl

@[simp] theorem Manager.made_markClosed (m : Manager) (k : Nat) : (m.markClosed k).made = m.made := by
  funext j
  by_cases hj : j = k
  · subst hj; simp [Manager.made]
  · simp [Manager.made, hj]

@[simp] theorem Manager.origins_markClosed (m : Manager) (k : Nat) : (m.markClosed k).origins = m.origins := by
  simp [Manager.origins]

/-- `m'` は `m` の factory を持ち、`m` が作った session をどれも同じ factory のまま持つ。 -/
def Manager.Extends (m m' : Manager) : Prop :=
  m'.factory = m.factory ∧ ∀ k f, m.made k = some f → m'.made k = some f

theorem Manager.Extends.of_origins (h : m'.origins = m.origins) : m.Extends m' :=
  ⟨congrArg Prod.fst h, fun k _ hk => (congrFun (congrArg Prod.snd h) k).trans hk⟩

theorem Manager.Extends.refl (m : Manager) : m.Extends m := .of_origins rfl

theorem Manager.Extends.record (h : m.Extends m') (c : Call) : m.Extends (m'.record c) := h

section Frames

variable {lock : CommandLock} {before : Bool} {g : String} {mg : Nat}

theorem keepsOrigins_processLock : Keeps Manager.origins (processLock lock before mg) := by
  intro m
  unfold processLock
  split <;> rfl

theorem keepsOrigins_stop : Keeps Manager.origins (stop env mg) := by
  intro m
  unfold stop closeSession
  split
  · split <;> simp
  · rfl

theorem keepsOrigins_close : Keeps Manager.origins (close env mg) := by
  intro m
  unfold close closeSession
  split
  · split <;> simp
  all_goals simp

theorem keepsOrigins_start {k : Nat} : Keeps Manager.origins (start mg k) := by
  intro m
  rw [start_apply]
  split <;> simp

/-- 失敗した段の状態は、ghost の履歴のほか、`Keeps Manager.origins` の動作の後の状態である。 -/
theorem Keeps.extends {α : Type} {x : ManagerM α} (hx : Keeps Manager.origins x) {r : EStateM.Result Err Manager α}
    (h : x m = r) : m.Extends (stateOf r) :=
  .of_origins (hx.of_eq h)

/-- factory の呼び出しは factory を変えず、作った session を消さない。 -/
theorem createConsumerGroup_extends {r : EStateM.Result Err Manager Nat} (h : createConsumerGroup env g m = r) :
    m.Extends (stateOf r) := by
  subst h
  cases hc : createConsumerGroup env g m with
  | ok k m' =>
    obtain ⟨-, -, rfl⟩ := createConsumerGroup_ok hc
    refine ⟨rfl, fun j f hj => ?_⟩
    have hlt : j < m.nextSession := by
      unfold Manager.made at hj; split at hj <;> first | assumption | cases hj
    simpa [Manager.made, hlt, Nat.ne_of_lt hlt, Nat.lt_succ_of_lt hlt] using hj
  | error e m' =>
    obtain ⟨-, -, rfl⟩ := createConsumerGroup_error hc
    exact .of_origins rfl

/-- **factory が作った session は、呼んだときの factory のものである。** -/
theorem createConsumerGroup_made {k : Nat} (h : createConsumerGroup env g m = .ok k m') :
    m'.made k = some m.factory := by
  obtain ⟨-, rfl, rfl⟩ := createConsumerGroup_ok h
  simp [Manager.made]

end Frames

/-! ## 一つの goroutine の一歩と factory -/

/-- command の一段は factory を変えず、作った session を消さない。 -/
theorem cmdStep_extends (op : OpCode) (lock : CommandLock) (g : String) (pc : CmdPc) (m : Manager) :
    m.Extends (cmdStep env op lock g pc m).2.1 := by
  cases pc with
  | lockBefore | getGroup | unlockAfter => simp only [cmdStep]; split <;> exact .refl _
  | lock mg =>
    simp only [cmdStep]
    split
    · rename_i h; exact keepsOrigins_processLock.extends h
    · rename_i h; exact (keepsOrigins_processLock.extends h).record _
  | unlock mg =>
    simp only [cmdStep]
    split <;> (rename_i h; exact (keepsOrigins_processLock.extends h).record _)
  | act mg =>
    cases op with
    | stopConsumerGroup =>
      simp only [cmdStep]
      split
      · rename_i h; exact keepsOrigins_stop.extends h
      · rename_i h; exact (keepsOrigins_stop.extends h).record _
    | startConsumerGroup =>
      simp only [cmdStep]
      split
      · rename_i h; exact createConsumerGroup_extends h
      · rename_i h; exact (createConsumerGroup_extends h).record _
  | start mg k => exact keepsOrigins_start.extends rfl
  | done => exact .refl _

/-- **command が `managedGrp.start(group)` の段に着けば、その session は一つ前の段の factory が作った。** -/
theorem cmdStep_start_made {op : OpCode} {lock : CommandLock} {g : String} {pc : CmdPc} {mg k : Nat}
    (h : (cmdStep env op lock g pc m).1 = .start mg k) :
    (cmdStep env op lock g pc m).2.1.made k = some m.factory := by
  cases pc with
  | lockBefore | getGroup | unlockAfter => simp only [cmdStep] at h; split at h <;> cases h
  | lock mg | unlock mg => simp only [cmdStep] at h; split at h <;> cases h
  | act mg' =>
    cases op with
    | stopConsumerGroup => simp only [cmdStep] at h; split at h <;> cases h
    | startConsumerGroup =>
      cases hc : createConsumerGroup env g m with
      | ok k' m₁ =>
        simp only [cmdStep, hc] at h ⊢
        cases h
        exact createConsumerGroup_made hc
      | error e m₁ => simp only [cmdStep, hc, cmdDone] at h; cases h
  | start | done => cases h

theorem afterStart_eq_start {g g' : String} {rest rest' : List String} {errs errs' : List Err} {pc : CmdPc}
    {mg k : Nat} (h : afterStart g rest errs pc = .starting g' (.start mg k) rest' errs') :
    pc = .start mg k := by
  unfold afterStart at h
  split at h
  · cases rest <;> cases h
  · cases h; rfl

/-- **Reconfigure の restart が持つ session は、後半の loop で、その段の factory が作った。** -/
theorem reconfStep_start_made (brokers : List String) (config : Nat) {pc : ReconfPc} {g : String}
    {mg k : Nat} {rest : List String} {errs : List Err}
    (h : (reconfStep env brokers config pc m).1 = .starting g (.start mg k) rest errs) :
    pc.restarting = true ∧ (reconfStep env brokers config pc m).2.1.made k = some m.factory := by
  cases pc with
  | snapshot => cases (stopNext_restarting ..).symm.trans (congrArg ReconfPc.restarting h)
  | stopping => cases (afterStop_restarting ..).symm.trans (congrArg ReconfPc.restarting h)
  | setFactory errs rs => cases rs <;> cases h
  | starting g' pc rest' errs' => exact ⟨rfl, cmdStep_start_made (afterStart_eq_start h)⟩
  | done => cases h

/-- `m.factory = ...` の段のほかは、Reconfigure の段も factory を変えず、作った session を消さない。 -/
theorem reconfStep_extends (brokers : List String) (config : Nat) {pc : ReconfPc}
    (hpc : ∀ errs rs, pc ≠ .setFactory errs rs) (m : Manager) :
    m.Extends (reconfStep env brokers config pc m).2.1 := by
  cases pc with
  | stopping g pc => exact cmdStep_extends _ _ g pc m
  | starting g pc => exact cmdStep_extends _ _ g pc m
  | snapshot | done => exact .refl _
  | setFactory errs rs => exact absurd rfl (hpc errs rs)

/-- `m.factory = ...` の段は factory を入れ替え、session には触れない。 -/
theorem reconfStep_setFactory (env : Env) (brokers : List String) (config : Nat) (errs : List Err) (rs : List String)
    (m : Manager) :
    (reconfStep env brokers config (.setFactory errs rs) m).2.1.factory = ⟨config, brokers⟩ ∧
      (reconfStep env brokers config (.setFactory errs rs) m).2.1.made = m.made := ⟨rfl, rfl⟩

theorem startStep_extends (g : String) (pc : StartPc) (m : Manager) : m.Extends (startStep env g pc m).2.1 := by
  cases pc with
  | create => simp only [startStep]; split <;> (rename_i h; exact createConsumerGroup_extends h)
  | spawn | done => exact .refl _
  | manage k => exact .of_origins rfl
  | register mg => exact .of_origins rfl

theorem closeStep_extends (g : String) (pc : ClosePc) (m : Manager) : m.Extends (closeStep env g pc m).2 := by
  cases pc with
  | getGroup => simp only [closeStep]; split <;> exact .refl _
  | close mg => simp only [closeStep]; split <;> (rename_i h; exact keepsOrigins_close.extends h)
  | remove => exact .of_origins rfl
  | done => exact .refl _

/-- **Reconfigure でない goroutine の一歩は factory を変えず、作った session を消さない。** -/
theorem Thread.step_factory (env : Env) (t : Thread) (ht : t.reconf = none) (m : Manager) :
    m.Extends (t.step env m).2.1 := by
  cases t with
  | startGroup g pc => exact startStep_extends g pc m
  | closeGroup g pc => exact closeStep_extends g pc m
  | command op lock g pc => exact cmdStep_extends op lock g pc m
  | reconfigure => cases ht
  | consumeLoop => exact .refl _

/-- Reconfigure でない goroutine は、一歩の後も Reconfigure でない。 -/
theorem Thread.step_reconf (t : Thread) (ht : t.reconf = none) (m : Manager) :
    (t.step env m).1.reconf = none := by
  cases t with
  | reconfigure => cases ht
  | _ => rfl

/-! ## 観測の履歴 -/

/-- 一歩の後の履歴の `p` 番目は、前の履歴のものか、その一歩の goroutine が残したものである。 -/
theorem getElem?_log_append {l : List (Nat × Act)} {acts : List Act} {j p i : Nat} {a : Act}
    (h : (l ++ acts.map (j, ·))[p]? = some (i, a)) :
    (p < l.length ∧ l[p]? = some (i, a)) ∨ (l.length ≤ p ∧ j = i ∧ a ∈ acts) := by
  by_cases hp : p < l.length
  · exact .inl ⟨hp, by rwa [List.getElem?_append_left hp] at h⟩
  · rw [List.getElem?_append_right (by omega)] at h
    obtain ⟨b, hb, hbe⟩ := List.mem_map.mp (List.getElem?_mem h)
    cases hbe
    exact .inr ⟨by omega, rfl, hb⟩

/-! ## 系の不変量 -/

section Invariants

variable (i : Nat) (brokers : List String) (config : Nat) {s : Sys}

/-- **ほかに Reconfigure がなければ、新しい factory は restart から見える。** `i` 番のほかに
Reconfigure はなく、`i` が後半にいれば factory は新しいもので、restart が持つ session は新しい
factory が作った。 -/
structure Visible (s : Sys) : Prop where
  others : ∀ j, j ≠ i → s.threads[j]?.bind Thread.reconf = none
  thread : ∃ pc, s.threads[i]?.bind Thread.reconf = some (brokers, config, pc) ∧
    (pc.restarting = true → s.m.factory = ⟨config, brokers⟩) ∧
    ∀ g mg k rest errs, pc = .starting g (.start mg k) rest errs → s.m.made k = some ⟨config, brokers⟩

variable {i brokers config}

theorem Thread.eq_of_reconf {t : Thread} {pc : ReconfPc} (h : t.reconf = some (brokers, config, pc)) :
    t = .reconfigure brokers config pc := by
  cases t <;> cases h; rfl

/-- 起こされる goroutine は Reconfigure でない。 -/
theorem Thread.step_spawned_reconf (env : Env) (t : Thread) (m : Manager) :
    ∀ x ∈ (t.step env m).2.2.2, x.reconf = none := by
  rcases Thread.step_spawned env t m with h | ⟨g, h⟩ <;> simp [h, Thread.reconf]

namespace Visible

theorem init (m : Manager) (ts : List Thread) (hi : ts[i]? = some (.reconfigure brokers config .snapshot))
    (hothers : ∀ j < ts.length, (ts[j]?.bind Thread.reconf).isSome → j = i) :
    Visible i brokers config (Sys.init m ts) := by
  refine ⟨fun j hj => ?_, ⟨.snapshot, by simp [Sys.init, hi, Thread.reconf], nofun, nofun⟩⟩
  by_cases hl : j < ts.length
  · cases hx : ts[j]?.bind Thread.reconf with
    | none => exact hx
    | some x => exact absurd (hothers j hl (by simp [hx])) hj
  · simp [Sys.init, List.getElem?_eq_none (Nat.le_of_not_lt hl)]

theorem step (env : Env) (h : Visible i brokers config s) (j : Nat) : Visible i brokers config (s.step env j) := by
  obtain ⟨pc, hpc, hfac, hses⟩ := h.thread
  cases ht : s.threads[j]? with
  | none => rw [Sys.step_none env ht]; exact h
  | some t =>
    rw [Sys.step_some env ht]
    have hb := bind_set_append Thread.reconf (t.step env s.m).1 ht (Thread.step_spawned_reconf env t s.m)
    by_cases hji : j = i
    · -- `i` 番の Reconfigure の一歩
      subst hji
      obtain rfl : t = .reconfigure brokers config pc := Thread.eq_of_reconf (by simpa [ht] using hpc)
      refine ⟨fun j' hj' => by rw [hb, if_neg hj']; exact h.others j' hj',
        ⟨_, by rw [hb, if_pos rfl]; rfl, fun hr => ?_, fun g mg k rest errs hk => ?_⟩⟩
      · rcases (reconfStep_restarting brokers config pc s.m).mp hr with hr | ⟨errs, rs, rfl⟩
        · have hne : ∀ errs rs, pc ≠ .setFactory errs rs := by rintro _ _ rfl; cases hr
          exact (reconfStep_extends brokers config hne s.m).1.trans (hfac hr)
        · exact (reconfStep_setFactory env brokers config errs rs s.m).1
      · obtain ⟨hr, hk⟩ := reconfStep_start_made brokers config hk
        exact hk.trans (congrArg some (hfac hr))
    · -- ほかの goroutine は Reconfigure でなく、factory を変えず、session を消さない
      have hnone : t.reconf = none := by simpa [ht] using h.others j hji
      have hext := Thread.step_factory env t hnone s.m
      refine ⟨fun j' hj' => ?_, ⟨pc, (hb i).trans ((if_neg (Ne.symm hji)).trans hpc),
        fun hr => hext.1.trans (hfac hr), fun g mg k rest errs hk => hext.2 k _ (hses g mg k rest errs hk)⟩⟩
      rw [hb]
      split
      · exact Thread.step_reconf t hnone s.m
      · exact h.others j' hj'

theorem run (env : Env) (h : Visible i brokers config s) (sched : List Nat) :
    Visible i brokers config (s.run env sched) := by
  induction sched generalizing s with
  | nil => exact h
  | cons j js ih => exact ih (h.step env j)

end Visible

end Invariants

/-- **ほかに Reconfigure がなければ、restart は新しい factory を使う。** `i` が後半の loop に入ってからは、
factory は `i` のもので、restart に渡す session もこの factory が作ったものである。 -/
theorem Reconfigure_restarts_on_new_factory (env : Env) (m : Manager) (ts : List Thread) (i : Nat)
    (brokers : List String) (config : Nat) (hi : ts[i]? = some (.reconfigure brokers config .snapshot))
    (hothers : ∀ j < ts.length, (ts[j]?.bind Thread.reconf).isSome → j = i) (sched : List Nat) :
    ∃ s, (Sys.init m ts).run env sched = s ∧
      (∀ pc, s.threads[i]? = some (.reconfigure brokers config pc) → pc.restarting = true →
        s.m.factory = ⟨config, brokers⟩) ∧
      ∀ g mg k rest errs, s.threads[i]? = some (.reconfigure brokers config (.starting g (.start mg k) rest errs)) →
        k < s.m.nextSession ∧ (s.m.sessions k).factory = ⟨config, brokers⟩ := by
  obtain ⟨pc, hpc, hfac, hses⟩ := ((Visible.init m ts hi hothers).run env sched).thread
  refine ⟨_, rfl, fun pc' hpc' hr => ?_, fun g mg k rest errs hk => ?_⟩
  · obtain rfl : pc = pc' := by simpa [hpc', Thread.reconf] using hpc.symm
    exact hfac hr
  · obtain rfl : pc = .starting g (.start mg k) rest errs := by simpa [hk, Thread.reconf] using hpc.symm
    have hm := hses g mg k rest errs rfl
    unfold Manager.made at hm
    split at hm
    · next hlt => exact ⟨hlt, Option.some.inj hm⟩
    · cases hm

/-- "a" と "b" を start する goroutine、"a" の stop の command と一つの Reconfigure が交錯する。 -/
theorem Reconfigure_restarts_on_new_factory_run :
    let ts : List Thread := [.startGroup "a" .create, .startGroup "b" .create,
      .command .stopConsumerGroup ⟨"T", true, true⟩ "a" .lockBefore, .reconfigure ["new"] 1 .snapshot]
    ts[3]? = some (.reconfigure ["new"] 1 .snapshot) ∧
      (∀ j < ts.length, (ts[j]?.bind Thread.reconf).isSome → j = 3) ∧
      ∃ s, (Sys.init (NewConsumerGroupManager [] 0) ts).run Env.ok
          [0, 0, 0, 0, 3, 3, 1, 1, 1, 1, 3, 3, 3, 3, 2, 3, 3, 3, 3, 3, 3, 3, 3] = s ∧
        (∀ pc, s.threads[3]? = some (.reconfigure ["new"] 1 pc) → pc.restarting = true →
          s.m.factory = ⟨1, ["new"]⟩) ∧
        ∀ g mg k rest errs, s.threads[3]? = some (.reconfigure ["new"] 1 (.starting g (.start mg k) rest errs)) →
          k < s.m.nextSession ∧ (s.m.sessions k).factory = ⟨1, ["new"]⟩ :=
  ⟨rfl, by decide, Reconfigure_restarts_on_new_factory Env.ok _ _ 3 ["new"] 1 rfl (by decide) _⟩

end Consumer
