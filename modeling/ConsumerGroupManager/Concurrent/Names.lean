import ConsumerGroupManager.Concurrent.Exclusive

/-!
# 交錯しても、managed group は自分の id のために作られた session で動く

`StartConsumerGroup(g)` も `startConsumerGroup(lock, g)` も、`m.factory.createConsumerGroup(g)` で作った
session を id `g` の managed group に渡す。manager は managed group の id を覚えていない。それでも
goroutine がどう交錯しても、map で `g` が指す group が Running なら、その session は `g` のために作られた
（`Session.groupId = g`）。command が `stop()` や `start()` に向かう group が、map で別の id の下に
あることもない。

芯は、managed group を指すものがどれも同じ id を持つことである。指すものは三つある：map の項、
command が `getGroup` で引いた group、`createManagedGroup` で作ってまだ `setGroup` していない group。
goroutine が指す group は `Thread.ref` がその id と組にして読む。goroutine が factory から受け取って
まだ渡していない session も、作った id と組にする（`Thread.heldFor`）。manager はこの id を持たないので、
不変量の方がそれを覚える。

1. goroutine の一歩が id にすることを六つに分ける（`NameStep`、`Thread.step_nameStep`）。
2. 六つのそれぞれが `Named` を保つ。新しい session と新しい番号が何とも重ならないことは、
   `Exclusive` と `Registered` から引く。
3. schedule についての帰納法。
-/

namespace Consumer

variable {env : Env} {m m' : Manager}

/-! ## goroutine が指すものと、その id -/

/-- command が `getGroup` で引き、`stop()`、または `createConsumerGroup` と `start()` に向かう group を、
command の id と組にする。 -/
def CmdPc.ref (g : String) : CmdPc → Option (String × Nat)
  | .act mg | .start mg _ => some (g, mg)
  | _ => none

/-- command が factory から受け取り、まだ `start()` に渡していない session を、command の id と組にする。 -/
def CmdPc.heldFor (g : String) : CmdPc → Option (String × Nat)
  | .start _ k => some (g, k)
  | _ => none

/-- goroutine が指す managed group と、それを引いた（作った）id。 -/
def Thread.ref : Thread → Option (String × Nat)
  | .startGroup g (.register mg) => some (g, mg)
  | .command _ _ g pc | .reconfigure _ _ (.stopping g pc _ _ _) | .reconfigure _ _ (.starting g pc _ _) =>
    pc.ref g
  | _ => none

/-- goroutine が factory から受け取り、まだ渡していない session と、それを作った id。 -/
def Thread.heldFor : Thread → Option (String × Nat)
  | .startGroup g (.spawn k) | .startGroup g (.manage k) => some (g, k)
  | .command _ _ g pc | .reconfigure _ _ (.stopping g pc _ _ _) | .reconfigure _ _ (.starting g pc _ _) =>
    pc.heldFor g
  | _ => none

/-- `i` 番の goroutine が指す group と、その id。 -/
def Sys.ref (s : Sys) (i : Nat) : Option (String × Nat) := s.threads[i]?.bind Thread.ref

/-- `i` 番の goroutine が持つ session と、それを作った id。 -/
def Sys.heldFor (s : Sys) (i : Nat) : Option (String × Nat) := s.threads[i]?.bind Thread.heldFor

/-- `heldFor` の session は、`Exclusive` が数える goroutine の session である。 -/
theorem Thread.held_of_heldFor {t : Thread} {g : String} {k : Nat} (h : t.heldFor = some (g, k)) :
    t.held = some k := by
  cases t with
  | startGroup _ pc => cases pc <;> cases h <;> rfl
  | command _ _ _ pc => cases pc <;> cases h; rfl
  | reconfigure _ _ pc =>
    cases pc with
    | stopping _ pc | starting _ pc => cases pc <;> cases h; rfl
    | _ => cases h
  | _ => cases h

theorem Sys.held_of_heldFor {s : Sys} {i : Nat} {g : String} {k : Nat} (h : s.heldFor i = some (g, k)) :
    s.held i = some k := by
  obtain ⟨t, ht, hk⟩ := Option.bind_eq_some.mp h
  simp [Sys.held, ht, Thread.held_of_heldFor hk]

theorem stopNext_refs (b : List String) (c : Nat) (ks : List String) (errs : List Err) (rs : List String) :
    (Thread.reconfigure b c (stopNext ks errs rs)).ref = none ∧
      (Thread.reconfigure b c (stopNext ks errs rs)).heldFor = none := by
  cases ks <;> exact ⟨rfl, rfl⟩

theorem startNext_refs (b : List String) (c : Nat) (rs : List String) (errs : List Err) :
    (Thread.reconfigure b c (startNext rs errs)).ref = none ∧
      (Thread.reconfigure b c (startNext rs errs)).heldFor = none := by
  cases rs <;> exact ⟨rfl, rfl⟩

/-- Reconfigure の前半の loop で一つの stop が進んだ後も、指すものはその stop の command のものである。 -/
theorem afterStop_refs (b : List String) (c : Nat) (g : String) (rest : List String) (errs : List Err)
    (rs : List String) (pc : CmdPc) :
    (Thread.reconfigure b c (afterStop g rest errs rs pc)).ref = pc.ref g ∧
      (Thread.reconfigure b c (afterStop g rest errs rs pc)).heldFor = pc.heldFor g := by
  unfold afterStop
  split
  · exact stopNext_refs ..
  · exact ⟨rfl, rfl⟩

theorem afterStart_refs (b : List String) (c : Nat) (g : String) (rest : List String) (errs : List Err)
    (pc : CmdPc) :
    (Thread.reconfigure b c (afterStart g rest errs pc)).ref = pc.ref g ∧
      (Thread.reconfigure b c (afterStart g rest errs pc)).heldFor = pc.heldFor g := by
  unfold afterStart
  split
  · exact startNext_refs ..
  · exact ⟨rfl, rfl⟩

/-! ## session の id -/

/-- session を作ったときの group id。 -/
def Manager.sessionIds (m : Manager) (k : Nat) : String := (m.sessions k).groupId

@[simp] theorem Manager.sessionIds_setStatus (m : Manager) (mg : Nat) (st : Status) :
    (m.setStatus mg st).sessionIds = m.sessionIds := rfl

/-- `Close()` は session の id を変えない。 -/
@[simp] theorem Manager.sessionIds_markClosed (m : Manager) (k : Nat) :
    (m.markClosed k).sessionIds = m.sessionIds := by
  funext j
  by_cases hj : j = k
  · subst hj; simp [Manager.sessionIds]
  · simp [Manager.sessionIds, hj]

section Primitives

variable {lock : CommandLock} {before : Bool} {g : String} {mg : Nat}

theorem keepsIds_processLock : Keeps Manager.sessionIds (processLock lock before mg) := by
  intro m
  unfold processLock
  split <;> rfl

theorem keepsIds_stop : Keeps Manager.sessionIds (stop env mg) := by
  intro m
  unfold stop closeSession
  split
  · split <;> simp
  · rfl

theorem keepsIds_close : Keeps Manager.sessionIds (close env mg) := by
  intro m
  unfold close closeSession
  split
  · split <;> simp
  all_goals simp

end Primitives

/-! ## 何も始まらない一歩 -/

/-- **id から見て何も始まらない一歩。** map から id が消えることはあっても増えず、managed group の番号は
変わらず、新しく Running になる group はなく、session の id は変わらない。 -/
structure Still (m m' : Manager) : Prop where
  groups : ∀ g mg, m'.groups.lookup g = some mg → m.groups.lookup g = some mg
  nextManaged : m'.nextManaged = m.nextManaged
  running : ∀ x k, (m'.managed x).status = .running k → (m.managed x).status = .running k
  ids : m'.sessionIds = m.sessionIds

theorem Still.refl (m : Manager) : Still m m := ⟨fun _ _ h => h, rfl, fun _ _ h => h, rfl⟩

theorem Still.record (h : Still m m') (c : Call) : Still m (m'.record c) :=
  ⟨h.groups, h.nextManaged, h.running, h.ids⟩

theorem Still.of_quiet (hq : Quiet m m') (hid : m'.sessionIds = m.sessionIds) : Still m m' :=
  ⟨fun _ _ h => hq.groups ▸ h, hq.nextManaged, hq.running, hid⟩

/-- `removeGroup`：map から id を消す。 -/
theorem Still.erase (m : Manager) (g : String) : Still m { m with groups := m.groups.erase g } :=
  ⟨fun _ _ h => (lookup_erase_eq_some h).2, rfl, fun _ _ h => h, rfl⟩

section Primitives

variable {lock : CommandLock} {before : Bool} {g : String} {mg : Nat}

theorem still_processLock {r : EStateM.Result Err Manager Unit} (h : processLock lock before mg m = r) :
    Still m (stateOf r) :=
  .of_quiet (quiet_processLock h) (keepsIds_processLock.of_eq h)

theorem still_stop {r : EStateM.Result Err Manager Unit} (h : stop env mg m = r) : Still m (stateOf r) :=
  .of_quiet (quiet_stop h) (keepsIds_stop.of_eq h)

theorem still_close {r : EStateM.Result Err Manager Unit} (h : close env mg m = r) : Still m (stateOf r) :=
  .of_quiet (quiet_close h) (keepsIds_close.of_eq h)

theorem still_createConsumerGroup_error {e : Err} (h : createConsumerGroup env g m = .error e m') :
    Still m m' := by
  obtain ⟨-, -, rfl⟩ := createConsumerGroup_error h
  exact ⟨fun _ _ h => h, rfl, fun _ _ h => h, rfl⟩

end Primitives

/-! ## 一歩の分類 -/

/-- **command の一段が id にすること。** 何も始まらないか、`getGroup` で group を引くか、factory から
`g` のための session を受け取るか、それを `managedGrp.start(group)` に渡すか。 -/
inductive CmdNameStep (g : String) (pc pc' : CmdPc) (m m' : Manager) : Prop
  | still : Still m m' → pc'.ref g = none → pc'.heldFor g = pc.heldFor g → CmdNameStep g pc pc' m m'
  | lookup (mg : Nat) : m' = m → m.groups.lookup g = some mg → pc'.ref g = some (g, mg) →
      pc'.heldFor g = pc.heldFor g → CmdNameStep g pc pc' m m'
  | create : pc'.heldFor g = some (g, m.nextSession) → pc'.ref g = pc.ref g →
      m' = { m with
        sessions := Function.update m.sessions m.nextSession ⟨g, m.factory, false⟩
        nextSession := m.nextSession + 1
        attempts := m.attempts + 1 } → CmdNameStep g pc pc' m m'
  | handoff (mg k : Nat) : pc.ref g = some (g, mg) → pc.heldFor g = some (g, k) → pc'.ref g = none →
      pc'.heldFor g = none → m' = stateOf (start mg k m) → CmdNameStep g pc pc' m m'

/-- **command のどの一段も `CmdNameStep` である。** -/
theorem cmdStep_nameStep (op : OpCode) (lock : CommandLock) (g : String) (pc : CmdPc) (m : Manager) :
    CmdNameStep g pc (cmdStep env op lock g pc m).1 m (cmdStep env op lock g pc m).2.1 := by
  cases pc with
  | lockBefore | unlockAfter =>
    simp only [cmdStep]
    split <;> first | exact .still (.refl m) rfl rfl | exact .still ((Still.refl m).record _) rfl rfl
  | getGroup =>
    simp only [cmdStep]
    split
    · next mg hg => exact .lookup mg rfl hg rfl rfl
    · exact .still ((Still.refl m).record _) rfl rfl
  | lock mg | unlock mg =>
    simp only [cmdStep]
    split <;> rename_i h <;>
      first | exact .still (still_processLock h) rfl rfl | exact .still ((still_processLock h).record _) rfl rfl
  | act mg =>
    cases op with
    | stopConsumerGroup =>
      simp only [cmdStep]
      split
      · rename_i h; exact .still (still_stop h) rfl rfl
      · rename_i h; exact .still ((still_stop h).record _) rfl rfl
    | startConsumerGroup =>
      simp only [cmdStep]
      split
      · rename_i h
        obtain ⟨-, rfl, rfl⟩ := createConsumerGroup_ok h
        exact .create rfl rfl rfl
      · rename_i h; exact .still ((still_createConsumerGroup_error h).record _) rfl rfl
  | start mg k => exact .handoff mg k rfl rfl rfl rfl rfl
  | done => exact .still (.refl m) rfl rfl

/-- **goroutine の一歩が id にすること。** 何も始まらないか、`getGroup` で group を引くか、factory から
session を受け取るか、それを `managedGrp.start(group)` に渡すか、それで新しい managed group を作るか
（`createManagedGroup`）、作った group を map に入れるか（`setGroup`）。 -/
inductive NameStep (t t' : Thread) (m m' : Manager) : Prop
  | still : Still m m' → t'.ref = none → t'.heldFor = t.heldFor → NameStep t t' m m'
  | lookup (g : String) (mg : Nat) : m' = m → m.groups.lookup g = some mg → t'.ref = some (g, mg) →
      t'.heldFor = t.heldFor → NameStep t t' m m'
  | create (g : String) : t'.heldFor = some (g, m.nextSession) → t'.ref = t.ref →
      m' = { m with
        sessions := Function.update m.sessions m.nextSession ⟨g, m.factory, false⟩
        nextSession := m.nextSession + 1
        attempts := m.attempts + 1 } → NameStep t t' m m'
  | handoff (g : String) (mg k : Nat) : t.ref = some (g, mg) → t.heldFor = some (g, k) → t'.ref = none →
      t'.heldFor = none → m' = stateOf (start mg k m) → NameStep t t' m m'
  | manage (g : String) (k : Nat) : t.heldFor = some (g, k) → t'.heldFor = none →
      t'.ref = some (g, m.nextManaged) →
      m' = { m.setManaged m.nextManaged ⟨.running k, none⟩ with nextManaged := m.nextManaged + 1 } →
      NameStep t t' m m'
  | insert (g : String) (mg : Nat) : t.ref = some (g, mg) → t'.ref = none → t'.heldFor = none →
      m' = { m with groups := m.groups.insert g mg } → NameStep t t' m m'

/-- command の段の分類を、それを持つ goroutine の一歩の分類にする。 -/
theorem NameStep.of_cmd {t t' : Thread} {g : String} {pc pc' : CmdPc} (h : CmdNameStep g pc pc' m m')
    (hr : t.ref = pc.ref g) (hr' : t'.ref = pc'.ref g) (hh : t.heldFor = pc.heldFor g)
    (hh' : t'.heldFor = pc'.heldFor g) : NameStep t t' m m' := by
  cases h with
  | still hs h₁ h₂ => exact .still hs (hr'.trans h₁) (by rw [hh', hh, h₂])
  | lookup mg hm hg h₁ h₂ => exact .lookup g mg hm hg (hr'.trans h₁) (by rw [hh', hh, h₂])
  | create h₁ h₂ hm => exact .create g (hh'.trans h₁) (by rw [hr', hr, h₂]) hm
  | handoff mg k h₁ h₂ h₃ h₄ hm => exact .handoff g mg k (hr.trans h₁) (hh.trans h₂) (hr'.trans h₃) (hh'.trans h₄) hm

/-- **どの goroutine の一歩も `NameStep` である。** -/
theorem Thread.step_nameStep (env : Env) (t : Thread) (m : Manager) :
    NameStep t (t.step env m).1 m (t.step env m).2.1 := by
  cases t with
  | startGroup g pc =>
    cases pc with
    | create =>
      simp only [Thread.step, startStep]
      split
      · rename_i h
        obtain ⟨-, rfl, rfl⟩ := createConsumerGroup_ok h
        exact .create g rfl rfl rfl
      · rename_i h; exact .still (still_createConsumerGroup_error h) rfl rfl
    | spawn | done => exact .still (.refl m) rfl rfl
    | manage k => exact .manage g k rfl rfl rfl rfl
    | register mg => exact .insert g mg rfl rfl rfl rfl
  | closeGroup g pc =>
    cases pc with
    | getGroup => simp only [Thread.step, closeStep]; split <;> exact .still (.refl m) rfl rfl
    | close mg =>
      simp only [Thread.step, closeStep]
      split <;> (rename_i h; exact .still (still_close h) rfl rfl)
    | remove => exact .still (.erase m g) rfl rfl
    | done => exact .still (.refl m) rfl rfl
  | command op lock g pc => exact .of_cmd (cmdStep_nameStep op lock g pc m) rfl rfl rfl rfl
  | reconfigure brokers config pc =>
    cases pc with
    | stopping g pc rest errs rs =>
      have h := afterStop_refs brokers config g rest errs rs
        (cmdStep env .stopConsumerGroup ⟨internalToken, true, false⟩ g pc m).1
      exact .of_cmd (cmdStep_nameStep _ _ g pc m) rfl h.1 rfl h.2
    | starting g pc rest errs =>
      have h := afterStart_refs brokers config g rest errs
        (cmdStep env .startConsumerGroup ⟨internalToken, false, true⟩ g pc m).1
      exact .of_cmd (cmdStep_nameStep _ _ g pc m) rfl h.1 rfl h.2
    | snapshot =>
      have h := stopNext_refs brokers config m.groups.keys [] []
      exact .still (.refl m) h.1 h.2
    | setFactory errs rs =>
      have h := startNext_refs brokers config rs errs
      exact .still ⟨fun _ _ h => h, rfl, fun _ _ h => h, rfl⟩ h.1 h.2
    | done => exact .still (.refl m) rfl rfl
  | consumeLoop => exact .still (.refl m) rfl rfl

/-! ## 一つの id の不変量 -/

/-- **managed group を指すものは、どれも同じ id を持つ。** `ref i` と `heldFor i` は、`i` 番が指す group と
持つ session を id と組にしたもの。 -/
structure Named (m : Manager) (ref heldFor : Nat → Option (String × Nat)) : Prop where
  mapped : ∀ g mg k, m.groups.lookup g = some mg → (m.managed mg).status = .running k →
    (m.sessions k).groupId = g
  ref_running : ∀ i g mg k, ref i = some (g, mg) → (m.managed mg).status = .running k →
    (m.sessions k).groupId = g
  ref_mapped : ∀ i g g' mg, ref i = some (g, mg) → m.groups.lookup g' = some mg → g' = g
  ref_unique : ∀ i j g g' mg, ref i = some (g, mg) → ref j = some (g', mg) → g' = g
  ref_lt : ∀ i g mg, ref i = some (g, mg) → mg < m.nextManaged
  held : ∀ i g k, heldFor i = some (g, k) → (m.sessions k).groupId = g

namespace Named

variable {ref heldFor ref' heldFor' : Nat → Option (String × Nat)} {i : Nat}

/-- 何も始まらない一歩で、goroutine の指すものが減るだけなら、不変量は保たれる。 -/
theorem still (h : Named m ref heldFor) (hs : Still m m') (hr : ∀ j p, ref' j = some p → ref j = some p)
    (hh : ∀ j p, heldFor' j = some p → heldFor j = some p) : Named m' ref' heldFor' where
  mapped g mg k hg hk := (congrFun hs.ids k).trans (h.mapped g mg k (hs.groups g mg hg) (hs.running mg k hk))
  ref_running j g mg k hj hk := (congrFun hs.ids k).trans (h.ref_running j g mg k (hr j _ hj) (hs.running mg k hk))
  ref_mapped j g g' mg hj hg := h.ref_mapped j g g' mg (hr j _ hj) (hs.groups g' mg hg)
  ref_unique j j' g g' mg hj hj' := h.ref_unique j j' g g' mg (hr j _ hj) (hr j' _ hj')
  ref_lt j g mg hj := hs.nextManaged ▸ h.ref_lt j g mg (hr j _ hj)
  held j g k hj := (congrFun hs.ids k).trans (h.held j g k (hh j _ hj))

/-- `getGroup`：`i` 番が、map で `g` が指す group を `g` と組にして指す。map の値は相異なるので、
その group はほかの id の下にない。 -/
theorem lookup (h : Named m ref heldFor) {g : String} {mg : Nat} (hg : m.groups.lookup g = some mg)
    (hinj : ∀ g₁ g₂ mg, m.groups.lookup g₁ = some mg → m.groups.lookup g₂ = some mg → g₁ = g₂)
    (hlt : mg < m.nextManaged) (hr : ∀ j, ref' j = if j = i then some (g, mg) else ref j) :
    Named m ref' heldFor where
  mapped := h.mapped
  ref_running j g' mg' k hj hk := by
    rw [hr] at hj
    split at hj
    · cases hj; exact h.mapped g mg k hg hk
    · exact h.ref_running j g' mg' k hj hk
  ref_mapped j g' g'' mg' hj hg' := by
    rw [hr] at hj
    split at hj
    · cases hj; exact hinj g'' g mg hg' hg
    · exact h.ref_mapped j g' g'' mg' hj hg'
  ref_unique j j' g₁ g₂ mg' hj hj' := by
    rw [hr] at hj hj'
    split at hj <;> split at hj'
    · cases hj; cases hj'; rfl
    · cases hj; exact (h.ref_mapped j' g₂ g mg hj' hg).symm
    · cases hj'; exact h.ref_mapped j g₁ g mg hj hg
    · exact h.ref_unique j j' g₁ g₂ mg' hj hj'
  ref_lt j g' mg' hj := by
    rw [hr] at hj
    split at hj
    · cases hj; exact hlt
    · exact h.ref_lt j g' mg' hj
  held := h.held

/-- factory が `g` のための新しい session `m.nextSession` を作り、`i` 番が持つ。Running の group の session も
goroutine の持つ session もそれより前に作られたので、id は変わらない。 -/
theorem create (h : Named m ref heldFor) {g : String}
    (hrun : ∀ x k, (m.managed x).status = .running k → k < m.nextSession)
    (hheld : ∀ j g k, heldFor j = some (g, k) → k < m.nextSession)
    (hh : ∀ j, heldFor' j = if j = i then some (g, m.nextSession) else heldFor j) :
    Named { m with
        sessions := Function.update m.sessions m.nextSession ⟨g, m.factory, false⟩
        nextSession := m.nextSession + 1
        attempts := m.attempts + 1 } ref heldFor' where
  mapped g' mg k hg hk := by
    simpa [Function.update_noteq (Nat.ne_of_lt (hrun mg k hk))] using h.mapped g' mg k hg hk
  ref_running j g' mg k hj hk := by
    simpa [Function.update_noteq (Nat.ne_of_lt (hrun mg k hk))] using h.ref_running j g' mg k hj hk
  ref_mapped := h.ref_mapped
  ref_unique := h.ref_unique
  ref_lt := h.ref_lt
  held j g' k hj := by
    rw [hh] at hj
    split at hj
    · cases hj; simp
    · simpa [Function.update_noteq (Nat.ne_of_lt (hheld j g' k hj))] using h.held j g' k hj

/-- **`managedGrp.start(group)`：`i` 番が、`g` と組にした group に `g` の session `k` を渡す。** -/
theorem handoff (h : Named m ref heldFor) {g : String} {mg k : Nat} (hri : ref i = some (g, mg))
    (hhi : heldFor i = some (g, k)) (hr : ∀ j p, ref' j = some p → ref j = some p)
    (hh : ∀ j p, heldFor' j = some p → heldFor j = some p) :
    Named (if (m.managed mg).status = .stopped then m.setStatus mg (.running k) else m) ref' heldFor' := by
  split
  · refine ⟨fun g' mg' k' hg hk => ?_, fun j g' mg' k' hj hk => ?_, fun j g' g'' mg' hj hg =>
      h.ref_mapped j g' g'' mg' (hr j _ hj) hg, fun j j' g₁ g₂ mg' hj hj' =>
      h.ref_unique j j' g₁ g₂ mg' (hr j _ hj) (hr j' _ hj'), fun j g' mg' hj => h.ref_lt j g' mg' (hr j _ hj),
      fun j g' k' hj => h.held j g' k' (hh j _ hj)⟩
    · rw [setStatus_status] at hk
      split at hk
      · cases hk; subst mg'; rw [h.ref_mapped i g g' mg hri hg]; exact h.held i g k hhi
      · exact h.mapped g' mg' k' hg hk
    · rw [setStatus_status] at hk
      split at hk
      · cases hk; subst mg'; rw [h.ref_unique i j g g' mg hri (hr j _ hj)]; exact h.held i g k hhi
      · exact h.ref_running j g' mg' k' (hr j _ hj) hk
  · exact h.still (.refl m) hr hh

/-- **`createManagedGroup`：`i` 番が持つ `g` の session `k` で、新しい番号の group を Running にし、`g` と
組にして指す。** 新しい番号は map にも、ほかの goroutine の指すものにもない。 -/
theorem manage (h : Named m ref heldFor) {g : String} {k : Nat} (hhi : heldFor i = some (g, k))
    (hlt : ∀ g mg, m.groups.lookup g = some mg → mg < m.nextManaged)
    (hr : ∀ j, ref' j = if j = i then some (g, m.nextManaged) else ref j)
    (hh : ∀ j p, heldFor' j = some p → heldFor j = some p) :
    Named { m.setManaged m.nextManaged ⟨.running k, none⟩ with nextManaged := m.nextManaged + 1 } ref' heldFor' where
  mapped g' mg k' hg hk := by
    have hne := Nat.ne_of_lt (hlt g' mg hg)
    simp only [Manager.setManaged_managed, Function.update_noteq hne] at hk
    exact h.mapped g' mg k' hg hk
  ref_running j g' mg k' hj hk := by
    rw [hr] at hj
    split at hj
    · cases hj; simp only [Manager.setManaged_managed, Function.update_same] at hk; cases hk
      exact h.held i g k hhi
    · have hne := Nat.ne_of_lt (h.ref_lt j g' mg hj)
      simp only [Manager.setManaged_managed, Function.update_noteq hne] at hk
      exact h.ref_running j g' mg k' hj hk
  ref_mapped j g' g'' mg hj hg := by
    rw [hr] at hj
    split at hj
    · cases hj; exact absurd (hlt g'' _ hg) (Nat.lt_irrefl _)
    · exact h.ref_mapped j g' g'' mg hj hg
  ref_unique j j' g₁ g₂ mg hj hj' := by
    rw [hr] at hj hj'
    -- 新しい番号は、ほかの goroutine の指す group の番号より大きい
    split at hj <;> split at hj'
    · cases hj; cases hj'; rfl
    · cases hj; exact absurd (h.ref_lt j' g₂ _ hj') (Nat.lt_irrefl _)
    · cases hj'; exact absurd (h.ref_lt j g₁ _ hj) (Nat.lt_irrefl _)
    · exact h.ref_unique j j' g₁ g₂ mg hj hj'
  ref_lt j g' mg hj := by
    rw [hr] at hj
    split at hj
    · cases hj; exact Nat.lt_succ_self _
    · exact Nat.lt_succ_of_lt (h.ref_lt j g' mg hj)
  held j g' k' hj := h.held j g' k' (hh j _ hj)

/-- **`setGroup`：`i` 番が `g` と組にして指していた group を、map の `g` に入れる。** -/
theorem insert (h : Named m ref heldFor) {g : String} {mg : Nat} (hri : ref i = some (g, mg))
    (hr : ∀ j p, ref' j = some p → ref j = some p) (hh : ∀ j p, heldFor' j = some p → heldFor j = some p) :
    Named { m with groups := m.groups.insert g mg } ref' heldFor' where
  mapped g' mg' k hg hk := by
    rcases lookup_insert_eq_some.mp hg with ⟨rfl, rfl⟩ | ⟨-, hg⟩
    · exact h.ref_running i g' mg' k hri hk
    · exact h.mapped g' mg' k hg hk
  ref_running j g' mg' k hj hk := h.ref_running j g' mg' k (hr j _ hj) hk
  ref_mapped j g₁ g' mg' hj hg := by
    rcases lookup_insert_eq_some.mp hg with ⟨rfl, rfl⟩ | ⟨-, hg⟩
    · exact (h.ref_unique i j g' g₁ mg' hri (hr j _ hj)).symm
    · exact h.ref_mapped j g₁ g' mg' (hr j _ hj) hg
  ref_unique j j' g₁ g₂ mg' hj hj' := h.ref_unique j j' g₁ g₂ mg' (hr j _ hj) (hr j' _ hj')
  ref_lt j g' mg' hj := h.ref_lt j g' mg' (hr j _ hj)
  held j g' k hj := h.held j g' k (hh j _ hj)

end Named

/-! ## 系の一歩 -/

/-- `i` 番の goroutine を `f` が `none` の姿に置き換えた列で引けるものは、前の列でも引ける。 -/
theorem bind_set_append_none {β : Type} (f : Thread → Option β) {ts sp : List Thread} {i : Nat} {t t' : Thread}
    (hi : ts[i]? = some t) (hsp : ∀ x ∈ sp, f x = none) (he : f t' = none) {j : Nat} {b : β}
    (hj : (ts.set i t' ++ sp)[j]?.bind f = some b) : ts[j]?.bind f = some b := by
  rw [bind_set_append f t' hi hsp j] at hj
  split at hj
  · rw [he] at hj; cases hj
  · exact hj

/-- **どの一歩も `Named` を保つ。** `NameStep` の六つの場合を保存の lemma に振り分ける。map の値が
相異なり作られた番号であることは `Registered`、session の番号が新しいことは `Exclusive` から引く。 -/
theorem Named.thread_step {s : Sys} (h : Named s.m s.ref s.heldFor) (hx : Exclusive s.m s.held)
    (hreg : Registered s) {i : Nat} {t t' : Thread} {m' : Manager} {sp : List Thread}
    (ht : s.threads[i]? = some t) (hstep : NameStep t t' s.m m')
    (hsp : ∀ x ∈ sp, x.ref = none ∧ x.heldFor = none) :
    Named m' (fun j => (s.threads.set i t' ++ sp)[j]?.bind Thread.ref)
      (fun j => (s.threads.set i t' ++ sp)[j]?.bind Thread.heldFor) := by
  have hspr : ∀ x ∈ sp, x.ref = none := fun x hx => (hsp x hx).1
  have hsph : ∀ x ∈ sp, x.heldFor = none := fun x hx => (hsp x hx).2
  have hri : s.ref i = t.ref := by simp [Sys.ref, ht]
  have hhi : s.heldFor i = t.heldFor := by simp [Sys.heldFor, ht]
  cases hstep with
  | still hs h₁ h₂ =>
    rw [bind_set_append_self Thread.heldFor t' ht hsph h₂]
    exact h.still hs (fun _ _ => bind_set_append_none _ ht hspr h₁) fun _ _ => id
  | lookup g mg hm hg h₁ h₂ =>
    subst hm
    rw [bind_set_append_self Thread.heldFor t' ht hsph h₂]
    exact h.lookup hg hreg.injective (hreg.lt g mg hg) fun j =>
      (bind_set_append Thread.ref t' ht hspr j).trans (by rw [h₁]; rfl)
  | create g h₁ h₂ hm =>
    subst hm
    rw [bind_set_append_self Thread.ref t' ht hspr h₂]
    exact h.create hx.running_lt (fun j _ k hj => hx.held_lt j k (Sys.held_of_heldFor hj)) fun j =>
      (bind_set_append Thread.heldFor t' ht hsph j).trans (by rw [h₁]; rfl)
  | handoff g mg k h₀ h₀' h₁ h₂ hm =>
    rw [start_apply, stateOf_ok] at hm
    subst hm
    exact h.handoff (hri.trans h₀) (hhi.trans h₀') (fun _ _ => bind_set_append_none _ ht hspr h₁)
      fun _ _ => bind_set_append_none _ ht hsph h₂
  | manage g k h₀ h₁ h₂ hm =>
    subst hm
    exact h.manage (hhi.trans h₀) hreg.lt (fun j => (bind_set_append Thread.ref t' ht hspr j).trans (by rw [h₂]; rfl))
      fun _ _ => bind_set_append_none _ ht hsph h₁
  | insert g mg h₀ h₁ h₂ hm =>
    subst hm
    exact h.insert (hri.trans h₀) (fun _ _ => bind_set_append_none _ ht hspr h₁)
      fun _ _ => bind_set_append_none _ ht hsph h₂

/-- 起こされる consume loop は group も session も指さない。 -/
theorem Thread.step_spawned_refs (env : Env) (t : Thread) (m : Manager) :
    ∀ x ∈ (t.step env m).2.2.2, x.ref = none ∧ x.heldFor = none := fun x hx => by
  rcases Thread.step_spawned env t m with h | ⟨g, h⟩ <;> rw [h] at hx
  · cases hx
  · rw [List.mem_singleton.mp hx]; exact ⟨rfl, rfl⟩

theorem Named.step (env : Env) {s : Sys} (h : Named s.m s.ref s.heldFor) (hx : Exclusive s.m s.held)
    (hreg : Registered s) (i : Nat) : Named (s.step env i).m (s.step env i).ref (s.step env i).heldFor := by
  cases ht : s.threads[i]? with
  | none => rw [Sys.step_none env ht]; exact h
  | some t =>
    rw [Sys.step_some env ht]
    exact h.thread_step hx hreg ht (Thread.step_nameStep env t s.m) (Thread.step_spawned_refs env t s.m)

theorem Named.run (env : Env) {s : Sys} (h : Named s.m s.ref s.heldFor) (hx : Exclusive s.m s.held)
    (hreg : Registered s) (sched : List Nat) :
    Named (s.run env sched).m (s.run env sched).ref (s.run env sched).heldFor := by
  induction sched generalizing s with
  | nil => exact h
  | cons i is ih => exact ih (h.step env hx hreg i) (hx.step env i) (hreg.step env i)

/-- どの goroutine も `f` で `none` なら、列のどこを引いても `none` である。 -/
theorem bind_eq_none_of_forall {β : Type} (f : Thread → Option β) {ts : List Thread} (h : ∀ t ∈ ts, f t = none)
    (i : Nat) : ts[i]?.bind f = none := by
  cases ht : ts[i]? with
  | none => rfl
  | some t => exact h t (List.getElem?_mem ht)

theorem Thread.heldFor_eq_none {t : Thread} (h : t.held = none) : t.heldFor = none := by
  cases hf : t.heldFor with
  | none => rfl
  | some p => rw [Thread.held_of_heldFor hf] at h; cases h

theorem Named.init (brokers : List String) (config : Nat) (ts : List Thread)
    (hts : ∀ t ∈ ts, t.held = none ∧ t.ref = none) :
    Named (Sys.init (NewConsumerGroupManager brokers config) ts).m
      (Sys.init (NewConsumerGroupManager brokers config) ts).ref
      (Sys.init (NewConsumerGroupManager brokers config) ts).heldFor :=
  have hr := bind_eq_none_of_forall Thread.ref fun t ht => (hts t ht).2
  have hh := bind_eq_none_of_forall Thread.heldFor fun t ht => Thread.heldFor_eq_none (hts t ht).1
  have hg : ∀ g, (NewConsumerGroupManager brokers config).groups.lookup g = none := fun _ => AList.lookup_empty _
  { mapped := fun g _ _ h => nomatch (hg g).symm.trans h
    ref_running := fun i _ _ _ h => nomatch (hr i).symm.trans h
    ref_mapped := fun i _ _ _ h => nomatch (hr i).symm.trans h
    ref_unique := fun i _ _ _ _ h => nomatch (hr i).symm.trans h
    ref_lt := fun i _ _ h => nomatch (hr i).symm.trans h
    held := fun i _ _ h => nomatch (hh i).symm.trans h }

/-- **どう交錯しても、map の id が指す group は、その id のために作られた session で動く。** -/
theorem sessions_match_group_ids (env : Env) (brokers : List String) (config : Nat) (ts : List Thread)
    (hts : ∀ t ∈ ts, t.held = none ∧ t.pending = none ∧ t.ref = none) (sched : List Nat) :
    ∃ s, (Sys.init (NewConsumerGroupManager brokers config) ts).run env sched = s ∧
      (∀ g mg k, s.m.groups.lookup g = some mg → (s.m.managed mg).status = .running k →
        (s.m.sessions k).groupId = g) ∧
      ∀ t ∈ s.threads, ∀ g mg, t.ref = some (g, mg) → ∀ g', s.m.groups.lookup g' = some mg → g' = g := by
  have hg : ∀ g, (NewConsumerGroupManager brokers config).groups.lookup g = none := fun _ => AList.lookup_empty _
  have h := (Named.init brokers config ts fun t ht => ⟨(hts t ht).1, (hts t ht).2.2⟩).run env
    (Exclusive.init brokers config ts fun t ht => (hts t ht).1)
    (Registered.init _ ts (fun g _ h => nomatch (hg g).symm.trans h) (fun g _ _ h => nomatch (hg g).symm.trans h)
      fun t ht => (hts t ht).2.1) sched
  refine ⟨_, rfl, h.mapped, fun t ht g mg hr g' hg' => ?_⟩
  obtain ⟨i, hi⟩ := List.getElem?_of_mem ht
  exact h.ref_mapped i g g' mg (by simp [Sys.ref, hi, hr]) hg'

/-- "a" の stop と start の command の間に `CloseConsumerGroup("a")` と二つ目の `StartConsumerGroup("a")` が
入る。start の command は古い group に向かい、新しい group には触れない。 -/
theorem sessions_match_group_ids_run :
    let ts : List Thread := [.startGroup "a" .create,
      .command .stopConsumerGroup ⟨"T", false, false⟩ "a" .lockBefore,
      .command .startConsumerGroup ⟨"T", false, false⟩ "a" .lockBefore, .closeGroup "a" .getGroup,
      .startGroup "a" .create]
    (∀ t ∈ ts, t.held = none ∧ t.pending = none ∧ t.ref = none) ∧
      ∃ s, (Sys.init (NewConsumerGroupManager [] 0) ts).run Env.ok
          [0, 0, 0, 0, 1, 1, 1, 1, 1, 1, 2, 2, 2, 3, 3, 3, 4, 4, 4, 4, 2, 2, 2, 2] = s ∧
        (∀ g mg k, s.m.groups.lookup g = some mg → (s.m.managed mg).status = .running k →
          (s.m.sessions k).groupId = g) ∧
        ∀ t ∈ s.threads, ∀ g mg, t.ref = some (g, mg) → ∀ g', s.m.groups.lookup g' = some mg → g' = g :=
  ⟨by decide, sessions_match_group_ids Env.ok [] 0 _ (by decide) _⟩

end Consumer
