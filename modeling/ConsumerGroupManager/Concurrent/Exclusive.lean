import ConsumerGroupManager.Concurrent.Distinct
import ConsumerGroupManager.Properties.Sessions

/-!
# 交錯しても、session は一つの group だけが使い、閉じた session は使われない

spec の §3 は、session を使い捨てとし（閉じた session は開き直さない）、二つの consume が一つの session を
共有しないことを求める。goroutine がどう交錯しても、これは成り立つ。

* 二つの managed group が同じ session で Running になることはない。
* Running の group の session は factory が作ったもので、`Close()` はまだ呼ばれていない。
* goroutine が factory から受け取り、まだ group に渡していない session も、閉じられておらず、
  どの group の session でもなく、その goroutine だけが持つ。

芯は、goroutine が session を group に入れるのは factory から受け取った直後の一度だけで、
`Close()` を呼ぶのは Running でなくなる group の session だけだ、ということである。
session が漏れないことは別の話で、こちらは前提が要る（`Ownership.lean`）。

1. goroutine の一歩が session にすることを六つに分ける（`SessStep`、`Thread.step_sessStep`）。
2. 六つのそれぞれが `Exclusive` を保つ（`Exclusive.quiet` ほか）。
3. schedule についての帰納法。
-/

namespace Consumer

variable {env : Env} {m m' : Manager}

/-! ## goroutine が持つ session -/

/-- `managedGrp.start(group)` の前の command が渡す先の group と、factory から受け取った session。 -/
def CmdPc.handoff : CmdPc → Option (Nat × Nat)
  | .start mg k => some (mg, k)
  | _ => none

/-- Reconfigure の中の command の途中。 -/
def ReconfPc.cmdPc : ReconfPc → Option CmdPc
  | .stopping _ pc _ _ _ | .starting _ pc _ _ => some pc
  | _ => none

/-- 次の段で `managedGrp.start(group)` に渡す group と session。 -/
def Thread.handoff : Thread → Option (Nat × Nat)
  | .command _ _ _ pc => pc.handoff
  | .reconfigure _ _ pc => pc.cmdPc.bind CmdPc.handoff
  | _ => none

/-- goroutine が factory から受け取り、まだ managed group に渡していない session。 -/
def Thread.held : Thread → Option Nat
  | .startGroup _ (.spawn k) | .startGroup _ (.manage k) => some k
  | t => t.handoff.map Prod.snd

/-- 次の段で map に書く id（`setGroup`・`removeGroup`）。 -/
def Thread.mapWrite : Thread → Option String
  | .startGroup g (.register _) | .closeGroup g .remove => some g
  | _ => none

/-- `i` 番の goroutine が持つ session。 -/
def Sys.held (s : Sys) (i : Nat) : Option Nat := s.threads[i]?.bind Thread.held

/-! ## 何も始まらない一歩 -/

/-- **session の勘定から見て何も始まらない一歩。** map と番号は変わらず、新しく Running になる group は
なく、閉じた session は閉じたままで、Running でなくなった group の session は閉じられている。
新しく閉じられる session は、Running でなくなった group の session だけである。 -/
structure Quiet (m m' : Manager) : Prop where
  groups : m'.groups = m.groups
  nextManaged : m'.nextManaged = m.nextManaged
  nextSession : m'.nextSession = m.nextSession
  running : ∀ x k, (m'.managed x).status = .running k → (m.managed x).status = .running k
  closed : ∀ k, (m.sessions k).closed = true → (m'.sessions k).closed = true
  retired : ∀ x k, (m.managed x).status = .running k → (m'.managed x).status ≠ .running k →
    (m'.sessions k).closed = true
  closes : ∀ k, (m'.sessions k).closed = true → (m.sessions k).closed = true ∨
    ∃ x, (m.managed x).status = .running k ∧ (m'.managed x).status ≠ .running k

theorem Quiet.of_sameCore (h : SameCore m m') : Quiet m m' where
  groups := h.groups
  nextManaged := h.nextManaged
  nextSession := h.nextSession
  running x _ hx := h.status x ▸ hx
  closed k hk := h.closed k ▸ hk
  retired x _ hx hx' := absurd (h.status x ▸ hx) hx'
  closes k hk := .inl (h.closed k ▸ hk)

theorem Quiet.refl (m : Manager) : Quiet m m := .of_sameCore ⟨rfl, fun _ => rfl, rfl, rfl, fun _ => rfl⟩

/-- 閉じていない session は、それを Running の session とする group が Running のままなら、
閉じられない。 -/
theorem Quiet.open_of (hq : Quiet m m') {k : Nat} (hk : (m.sessions k).closed = false)
    (hr : ∀ x, (m.managed x).status = .running k → (m'.managed x).status = .running k) :
    (m'.sessions k).closed = false :=
  Bool.eq_false_iff.mpr fun hc =>
    (hq.closes k hc).elim (fun h => nomatch hk.symm.trans h) fun ⟨x, hx, hx'⟩ => hx' (hr x hx)

theorem Quiet.record (h : Quiet m m') (c : Call) : Quiet m (m'.record c) :=
  ⟨h.groups, h.nextManaged, h.nextSession, h.running, h.closed, h.retired, h.closes⟩

/-- Running の group を止めるか閉じ、その session に `Close()` を呼ぶ（`stop()`・`close()`）。 -/
theorem Quiet.retire {mg k : Nat} {st : Status} (hk : (m.managed mg).status = .running k)
    (hst : ∀ j, st ≠ .running j) : Quiet m ((m.setStatus mg st).markClosed k) where
  groups := rfl
  nextManaged := rfl
  nextSession := rfl
  running x j hx := by
    by_cases hxe : x = mg
    · subst hxe; simp at hx; exact absurd hx (hst j)
    · simpa [hxe] using hx
  closed j hj := by by_cases hjk : j = k <;> simp [hjk, hj]
  retired x j hx hx' := by
    by_cases hxe : x = mg
    · subst hxe; rw [hk] at hx; cases hx; simp
    · simp [hxe] at hx'; exact absurd hx hx'
  closes j hj := by
    by_cases hjk : j = k
    · subst hjk; exact .inr ⟨mg, hk, by simpa using hst j⟩
    · exact .inl (by simpa [hjk] using hj)

/-- Running でない group を Running でない状態にする（Stopped の group の `close()`）。 -/
theorem Quiet.idle {mg : Nat} {st : Status} (hk : ∀ k, (m.managed mg).status ≠ .running k)
    (hst : ∀ j, st ≠ .running j) : Quiet m (m.setStatus mg st) where
  groups := rfl
  nextManaged := rfl
  nextSession := rfl
  running x j hx := by
    by_cases hxe : x = mg
    · subst hxe; simp at hx; exact absurd hx (hst j)
    · simpa [hxe] using hx
  closed _ hj := hj
  retired x j hx hx' := by
    by_cases hxe : x = mg
    · subst hxe; exact absurd hx (hk j)
    · simp [hxe] at hx'; exact absurd hx hx'
  closes _ hj := .inl hj

section Primitives

variable {lock : CommandLock} {before : Bool} {g : String} {mg : Nat}

theorem quiet_processLock {r : EStateM.Result Err Manager Unit} (h : processLock lock before mg m = r) :
    Quiet m (stateOf r) :=
  h ▸ .of_sameCore sameCore_processLock

theorem quiet_stop {r : EStateM.Result Err Manager Unit} (h : stop env mg m = r) : Quiet m (stateOf r) := by
  subst h
  cases hs : stop env mg m with
  | ok u m₁ =>
    obtain ⟨k, hk, -, rfl⟩ := stop_ok hs
    exact .retire hk nofun
  | error e m₁ =>
    rcases stop_error hs with ⟨k, hk, -, -, rfl⟩ | ⟨-, -, rfl⟩
    exacts [.retire hk nofun, .refl _]

theorem quiet_close {r : EStateM.Result Err Manager Unit} (h : close env mg m = r) : Quiet m (stateOf r) := by
  subst h
  cases hs : close env mg m with
  | ok u m₁ =>
    rcases close_ok hs with ⟨hst, rfl⟩ | ⟨k, hk, -, rfl⟩
    · exact .idle (fun k => by rw [hst]; nofun) nofun
    · exact .retire hk nofun
  | error e m₁ =>
    rcases close_error hs with ⟨k, hk, -, -, rfl⟩ | ⟨-, -, rfl⟩
    exacts [.retire hk nofun, .refl _]

theorem quiet_createConsumerGroup_error {e : Err} (h : createConsumerGroup env g m = .error e m') :
    Quiet m m' := by
  obtain ⟨-, -, rfl⟩ := createConsumerGroup_error h
  exact .of_sameCore ⟨rfl, fun _ => rfl, rfl, rfl, fun _ => rfl⟩

end Primitives

/-! ## 一歩の分類 -/

/-- **command の一段が session の勘定にすること。** 何も始まらないか、factory から新しい session を
受け取るか、受け取った session を `managedGrp.start(group)` に渡すか。 -/
inductive CmdSessStep (pc pc' : CmdPc) (m m' : Manager) : Prop
  | quiet : Quiet m m' → pc'.handoff = pc.handoff → CmdSessStep pc pc' m m'
  | create (g : String) (mg : Nat) : pc.handoff = none → pc'.handoff = some (mg, m.nextSession) →
      m' = { m with
        sessions := Function.update m.sessions m.nextSession ⟨g, m.factory, false⟩
        nextSession := m.nextSession + 1
        attempts := m.attempts + 1 } → CmdSessStep pc pc' m m'
  | handoff (mg k : Nat) : pc.handoff = some (mg, k) → pc'.handoff = none → m' = stateOf (start mg k m) →
      CmdSessStep pc pc' m m'

/-- **command のどの一段も `CmdSessStep` である。** -/
theorem cmdStep_sessStep (op : OpCode) (lock : CommandLock) (g : String) (pc : CmdPc) (m : Manager) :
    CmdSessStep pc (cmdStep env op lock g pc m).1 m (cmdStep env op lock g pc m).2.1 := by
  cases pc with
  | lockBefore | getGroup | unlockAfter =>
    simp only [cmdStep]
    split <;> first | exact .quiet (.refl m) rfl | exact .quiet ((Quiet.refl m).record _) rfl
  | lock mg | unlock mg =>
    simp only [cmdStep]
    split <;> rename_i h <;>
      first | exact .quiet (quiet_processLock h) rfl | exact .quiet ((quiet_processLock h).record _) rfl
  | act mg =>
    cases op with
    | stopConsumerGroup =>
      simp only [cmdStep]
      split
      · rename_i h; exact .quiet (quiet_stop h) rfl
      · rename_i h; exact .quiet ((quiet_stop h).record _) rfl
    | startConsumerGroup =>
      simp only [cmdStep]
      split
      · rename_i h
        obtain ⟨-, rfl, rfl⟩ := createConsumerGroup_ok h
        exact .create g mg rfl rfl rfl
      · rename_i h; exact .quiet ((quiet_createConsumerGroup_error h).record _) rfl
  | start mg k => exact .handoff mg k rfl rfl rfl
  | done => exact .quiet (.refl m) rfl

theorem afterStop_handoff (g : String) (rest : List String) (errs : List Err) (rs : List String) (pc : CmdPc) :
    (afterStop g rest errs rs pc).cmdPc.bind CmdPc.handoff = pc.handoff := by
  unfold afterStop
  split
  · cases rest <;> rfl
  · rfl

theorem afterStart_handoff (g : String) (rest : List String) (errs : List Err) (pc : CmdPc) :
    (afterStart g rest errs pc).cmdPc.bind CmdPc.handoff = pc.handoff := by
  unfold afterStart
  split
  · cases rest <;> rfl
  · rfl

/-- **goroutine の一歩が session の勘定にすること。** 何も始まらないか、factory から新しい session を
受け取るか、それを `managedGrp.start(group)` に渡すか、それで新しい managed group を作るか
（`createManagedGroup`）、map に書くか（`setGroup`・`removeGroup`）。 -/
inductive SessStep (t t' : Thread) (m m' : Manager) : Prop
  | quiet : Quiet m m' → t'.held = t.held → t'.pending = t.pending → SessStep t t' m m'
  | create (g : String) : t.held = none → t'.held = some m.nextSession → t'.pending = t.pending →
      m' = { m with
        sessions := Function.update m.sessions m.nextSession ⟨g, m.factory, false⟩
        nextSession := m.nextSession + 1
        attempts := m.attempts + 1 } → SessStep t t' m m'
  | handoff (mg k : Nat) : t.handoff = some (mg, k) → t.held = some k → t'.held = none →
      t'.pending = t.pending → m' = stateOf (start mg k m) → SessStep t t' m m'
  | manage (k : Nat) : t.held = some k → t.pending = none → t'.held = none →
      t'.pending = some m.nextManaged →
      m' = { m.setManaged m.nextManaged ⟨.running k, none⟩ with nextManaged := m.nextManaged + 1 } →
      SessStep t t' m m'
  | insert (g : String) (mg : Nat) : t.mapWrite = some g → t.pending = some mg → t.held = none →
      t'.held = none → t'.pending = none → m' = { m with groups := m.groups.insert g mg } → SessStep t t' m m'
  | erase (g : String) : t.mapWrite = some g → t.held = none → t'.held = none → t'.pending = t.pending →
      m' = { m with groups := m.groups.erase g } → SessStep t t' m m'

/-- command の段の分類を、それを持つ goroutine の一歩の分類にする。 -/
theorem SessStep.of_cmd {t t' : Thread} {pc pc' : CmdPc} (h : CmdSessStep pc pc' m m')
    (ht : t.handoff = pc.handoff) (hh : t.held = pc.handoff.map Prod.snd)
    (hh' : t'.held = pc'.handoff.map Prod.snd) (hp : t.pending = none) (hp' : t'.pending = none) :
    SessStep t t' m m' := by
  cases h with
  | quiet hq hpc => exact .quiet hq (by rw [hh, hh', hpc]) (by rw [hp, hp'])
  | create g mg h₁ h₂ hm => exact .create g (by rw [hh, h₁]; rfl) (by rw [hh', h₂]; rfl) (by rw [hp, hp']) hm
  | handoff mg k h₁ h₂ hm =>
    exact .handoff mg k (ht.trans h₁) (by rw [hh, h₁]; rfl) (by rw [hh', h₂]; rfl) (by rw [hp, hp']) hm

/-- **どの goroutine の一歩も `SessStep` である。** -/
theorem Thread.step_sessStep (env : Env) (t : Thread) (m : Manager) :
    SessStep t (t.step env m).1 m (t.step env m).2.1 := by
  cases t with
  | startGroup g pc =>
    cases pc with
    | create =>
      simp only [Thread.step, startStep]
      split
      · rename_i h
        obtain ⟨-, rfl, rfl⟩ := createConsumerGroup_ok h
        exact .create g rfl rfl rfl rfl
      · rename_i h; exact .quiet (quiet_createConsumerGroup_error h) rfl rfl
    | spawn | done => exact .quiet (.refl m) rfl rfl
    | manage k => exact .manage k rfl rfl rfl rfl rfl
    | register mg => exact .insert g mg rfl rfl rfl rfl rfl rfl
  | closeGroup g pc =>
    cases pc with
    | getGroup => simp only [Thread.step, closeStep]; split <;> exact .quiet (.refl m) rfl rfl
    | close mg =>
      simp only [Thread.step, closeStep]
      split <;> (rename_i h; exact .quiet (quiet_close h) rfl rfl)
    | remove => exact .erase g rfl rfl rfl rfl rfl
    | done => exact .quiet (.refl m) rfl rfl
  | command op lock g pc => exact .of_cmd (cmdStep_sessStep op lock g pc m) rfl rfl rfl rfl rfl
  | reconfigure brokers config pc =>
    cases pc with
    | stopping g pc rest errs rs =>
      exact .of_cmd (cmdStep_sessStep _ _ g pc m) rfl rfl
        (congrArg (Option.map Prod.snd) (afterStop_handoff g rest errs rs _)) rfl rfl
    | starting g pc rest errs =>
      exact .of_cmd (cmdStep_sessStep _ _ g pc m) rfl rfl
        (congrArg (Option.map Prod.snd) (afterStart_handoff g rest errs _)) rfl rfl
    | snapshot =>
      refine .quiet (.refl m) ?_ rfl
      show (Thread.reconfigure brokers config (stopNext m.groups.keys [] [])).held = none
      cases m.groups.keys <;> rfl
    | setFactory errs rs =>
      cases rs <;> exact .quiet (.of_sameCore ⟨rfl, fun _ => rfl, rfl, rfl, fun _ => rfl⟩) rfl rfl
    | done => exact .quiet (.refl m) rfl rfl
  | consumeLoop => exact .quiet (.refl m) rfl rfl

/-! ## 使い捨ての不変量 -/

/-- **session は一つの group だけが使い、閉じた session は使われない。** `held i` は `i` 番の goroutine が
持つ session。 -/
structure Exclusive (m : Manager) (held : Nat → Option Nat) : Prop where
  running_lt : ∀ x k, (m.managed x).status = .running k → k < m.nextSession
  running_open : ∀ x k, (m.managed x).status = .running k → (m.sessions k).closed = false
  unique : ∀ x₁ x₂ k, (m.managed x₁).status = .running k → (m.managed x₂).status = .running k → x₁ = x₂
  held_lt : ∀ i k, held i = some k → k < m.nextSession
  held_open : ∀ i k, held i = some k → (m.sessions k).closed = false
  held_free : ∀ i k x, held i = some k → (m.managed x).status ≠ .running k
  held_unique : ∀ i j k, held i = some k → held j = some k → i = j

/-- `i` 番だけが手放した後で持っているものは、前から持っていたものである。 -/
theorem eq_some_of_release {f f' : Nat → Option Nat} {i : Nat} (hf : ∀ j, f' j = if j = i then none else f j)
    {j k : Nat} (hj : f' j = some k) : j ≠ i ∧ f j = some k := by
  rw [hf] at hj
  split at hj
  · cases hj
  · exact ⟨‹_›, hj⟩

namespace Exclusive

variable {held held' : Nat → Option Nat} {i : Nat}

theorem quiet (h : Exclusive m held) (hq : Quiet m m') : Exclusive m' held where
  running_lt x k hx := hq.nextSession ▸ h.running_lt x k (hq.running x k hx)
  running_open x k hx := hq.open_of (h.running_open x k (hq.running x k hx)) fun y hy => by
    rwa [h.unique y x k hy (hq.running x k hx)]
  unique x₁ x₂ k h₁ h₂ := h.unique x₁ x₂ k (hq.running _ _ h₁) (hq.running _ _ h₂)
  held_lt i k hi := hq.nextSession ▸ h.held_lt i k hi
  held_open i k hi := hq.open_of (h.held_open i k hi) fun x hx => absurd hx (h.held_free i k x hi)
  held_free i k x hi hx := h.held_free i k x hi (hq.running x k hx)
  held_unique := h.held_unique

/-- factory から新しい session `m.nextSession` を受け取り、`i` 番が持つ。 -/
theorem create (h : Exclusive m held) (hst : ∀ x, (m'.managed x).status = (m.managed x).status)
    (hn : m'.nextSession = m.nextSession + 1)
    (hs : ∀ k < m.nextSession, (m'.sessions k).closed = (m.sessions k).closed)
    (hnew : (m'.sessions m.nextSession).closed = false)
    (hh : ∀ j, held' j = if j = i then some m.nextSession else held j) : Exclusive m' held' where
  running_lt x k hx := hn ▸ Nat.lt_succ_of_lt (h.running_lt x k (hst x ▸ hx))
  running_open x k hx := (hs k (h.running_lt x k (hst x ▸ hx))).trans (h.running_open x k (hst x ▸ hx))
  unique x₁ x₂ k h₁ h₂ := h.unique x₁ x₂ k (hst x₁ ▸ h₁) (hst x₂ ▸ h₂)
  held_lt j k hj := by
    rw [hh] at hj
    split at hj
    · cases hj; omega
    · have := h.held_lt j k hj; omega
  held_open j k hj := by
    rw [hh] at hj
    split at hj
    · cases hj; exact hnew
    · exact (hs k (h.held_lt j k hj)).trans (h.held_open j k hj)
  held_free j k x hj hx := by
    rw [hh] at hj
    rw [hst] at hx
    split at hj
    · cases hj; exact Nat.lt_irrefl _ (h.running_lt x _ hx)
    · exact h.held_free j k x hj hx
  held_unique j j' k hj hj' := by
    rw [hh] at hj hj'
    -- 新しい session は、ほかの goroutine の持つ session より大きい
    split at hj <;> split at hj'
    · omega
    · cases hj; exact absurd (h.held_lt j' _ hj') (Nat.lt_irrefl _)
    · cases hj'; exact absurd (h.held_lt j _ hj) (Nat.lt_irrefl _)
    · exact h.held_unique j j' k hj hj'

/-- `i` 番が持つ session を手放す（`managedGrp.start(group)` が Stopped でない group に向かい、
何もしない）。 -/
theorem release (h : Exclusive m held) (hh : ∀ j, held' j = if j = i then none else held j) :
    Exclusive m held' where
  running_lt := h.running_lt
  running_open := h.running_open
  unique := h.unique
  held_lt j k hj := h.held_lt j k (eq_some_of_release hh hj).2
  held_open j k hj := h.held_open j k (eq_some_of_release hh hj).2
  held_free j k x hj := h.held_free j k x (eq_some_of_release hh hj).2
  held_unique j j' k hj hj' := h.held_unique j j' k (eq_some_of_release hh hj).2 (eq_some_of_release hh hj').2

/-- **`i` 番が持つ session `k` を group `a` に入れて Running にする。** `managedGrp.start(group)` と
`createManagedGroup` の二つがこれである。 -/
theorem install (h : Exclusive m held) {a k : Nat} (hi : held i = some k)
    (hh : ∀ j, held' j = if j = i then none else held j) (hn : m'.nextSession = m.nextSession)
    (hs : ∀ k, (m'.sessions k).closed = (m.sessions k).closed)
    (hst : ∀ x, (m'.managed x).status = if x = a then .running k else (m.managed x).status) :
    Exclusive m' held' where
  running_lt x j hx := by
    rw [hst] at hx
    split at hx
    · cases hx; exact hn ▸ h.held_lt i _ hi
    · exact hn ▸ h.running_lt x j hx
  running_open x j hx := by
    rw [hst] at hx
    rw [hs]
    split at hx
    · cases hx; exact h.held_open i _ hi
    · exact h.running_open x j hx
  unique x₁ x₂ j h₁ h₂ := by
    rw [hst] at h₁ h₂
    -- 入れた session は、ほかの group の session ではなかった
    split at h₁ <;> split at h₂
    · subst_vars; rfl
    · cases h₁; exact absurd h₂ (h.held_free i _ _ hi)
    · cases h₂; exact absurd h₁ (h.held_free i _ _ hi)
    · exact h.unique x₁ x₂ j h₁ h₂
  held_lt j k' hj := hn ▸ (h.release hh).held_lt j k' hj
  held_open j k' hj := (hs k').trans ((h.release hh).held_open j k' hj)
  held_free j k' x hj hx := by
    obtain ⟨hji, hj⟩ := eq_some_of_release hh hj
    rw [hst] at hx
    split at hx
    · cases hx; exact hji (h.held_unique j i _ hj hi)
    · exact h.held_free j k' x hj hx
  held_unique := (h.release hh).held_unique

/-- map に書く：group と session は変わらない。 -/
theorem remap (h : Exclusive m held) (hn : m'.nextSession = m.nextSession)
    (hs : ∀ k, (m'.sessions k).closed = (m.sessions k).closed)
    (hst : ∀ x, (m'.managed x).status = (m.managed x).status) : Exclusive m' held where
  running_lt x k hx := hn ▸ h.running_lt x k (hst x ▸ hx)
  running_open x k hx := (hs k).trans (h.running_open x k (hst x ▸ hx))
  unique x₁ x₂ k h₁ h₂ := h.unique x₁ x₂ k (hst x₁ ▸ h₁) (hst x₂ ▸ h₂)
  held_lt i k hi := hn ▸ h.held_lt i k hi
  held_open i k hi := (hs k).trans (h.held_open i k hi)
  held_free i k x hi hx := h.held_free i k x hi (hst x ▸ hx)
  held_unique := h.held_unique

end Exclusive

/-! ## 系の一歩 -/

/-- `i` 番の goroutine を `f` の値を変えない姿に置き換え、`f` が `none` の goroutine を足しても、
`f` で読む列は変わらない。 -/
theorem bind_set_append_self {β : Type} (f : Thread → Option β) {ts sp : List Thread} {i : Nat} {t : Thread}
    (t' : Thread) (hi : ts[i]? = some t) (hsp : ∀ x ∈ sp, f x = none) (he : f t' = f t) :
    (fun j : Nat => (ts.set i t' ++ sp)[j]?.bind f) = fun j => ts[j]?.bind f := funext fun j => by
  rw [bind_set_append f t' hi hsp j]
  split
  · subst j; rw [he, hi]; rfl
  · rfl

/-- **どの一歩も `Exclusive` を保つ。** `SessStep` の六つの場合を保存の lemma に振り分ける。
`managedGrp.start(group)` は、group が Stopped なら session を入れ、そうでなければ手放す。 -/
theorem Exclusive.thread_step {s : Sys} (h : Exclusive s.m s.held) {i : Nat} {t t' : Thread} {m' : Manager}
    {sp : List Thread} (ht : s.threads[i]? = some t) (hstep : SessStep t t' s.m m')
    (hsp : ∀ x ∈ sp, x.held = none) :
    Exclusive m' (fun j => (s.threads.set i t' ++ sp)[j]?.bind Thread.held) := by
  have hh := bind_set_append Thread.held t' ht hsp
  have hhi : s.held i = t.held := by simp [Sys.held, ht]
  have keepH := bind_set_append_self Thread.held t' ht hsp
  cases hstep with
  | quiet hq h₁ _ =>
    rw [keepH h₁]
    exact h.quiet hq
  | create g _ h₁ _ hm =>
    subst hm
    exact h.create (fun _ => rfl) rfl (fun k hk => by simp [Function.update_noteq (Nat.ne_of_lt hk)])
      (by simp) fun j => (hh j).trans (by rw [h₁]; rfl)
  | handoff mg k _ h₁ h₂ _ hm =>
    have hrel : ∀ j, (s.threads.set i t' ++ sp)[j]?.bind Thread.held = if j = i then none else s.held j :=
      fun j => (hh j).trans (by rw [h₂]; rfl)
    rw [start_apply, stateOf_ok] at hm
    subst hm
    split
    · exact h.install (hhi.trans h₁) hrel rfl (fun _ => rfl) fun x => setStatus_status _ x
    · exact h.release hrel
  | manage k h₀ _ h₁ _ hm =>
    subst hm
    refine h.install (a := s.m.nextManaged) (hhi.trans h₀) (fun j => (hh j).trans (by rw [h₁]; rfl)) rfl
      (fun _ => rfl) fun x => ?_
    by_cases hx : x = s.m.nextManaged <;> simp [hx]
  | insert g mg _ _ h₀ h₁ _ hm =>
    subst hm
    rw [keepH (h₁.trans h₀.symm)]
    exact h.remap rfl (fun _ => rfl) fun _ => rfl
  | erase g _ h₀ h₁ _ hm =>
    subst hm
    rw [keepH (h₁.trans h₀.symm)]
    exact h.remap rfl (fun _ => rfl) fun _ => rfl

/-- 起こされる consume loop は session も managed group も持たない。 -/
theorem Thread.step_spawned_held (env : Env) (t : Thread) (m : Manager) :
    ∀ x ∈ (t.step env m).2.2.2, x.held = none ∧ x.pending = none := fun x hx => by
  rcases Thread.step_spawned env t m with h | ⟨g, h⟩ <;> rw [h] at hx
  · cases hx
  · rw [List.mem_singleton.mp hx]; exact ⟨rfl, rfl⟩

theorem Exclusive.step (env : Env) {s : Sys} (h : Exclusive s.m s.held) (i : Nat) :
    Exclusive (s.step env i).m (s.step env i).held := by
  cases ht : s.threads[i]? with
  | none => rw [Sys.step_none env ht]; exact h
  | some t =>
    rw [Sys.step_some env ht]
    exact h.thread_step ht (Thread.step_sessStep env t s.m) fun x hx => (Thread.step_spawned_held env t s.m x hx).1

theorem Exclusive.run (env : Env) {s : Sys} (h : Exclusive s.m s.held) (sched : List Nat) :
    Exclusive (s.run env sched).m (s.run env sched).held := by
  induction sched generalizing s with
  | nil => exact h
  | cons i is ih => exact ih (h.step env i)

/-- 始まりの goroutine が session を持たなければ、`Sys.init` の `held` はどこも `none` である。 -/
theorem Sys.held_init {m : Manager} {ts : List Thread} (hts : ∀ t ∈ ts, t.held = none) (i k : Nat) :
    (Sys.init m ts).held i ≠ some k := by
  intro hi
  simp only [Sys.held, Sys.init, Option.bind_eq_some] at hi
  obtain ⟨t, ht, hk⟩ := hi
  rw [hts t (List.getElem?_mem ht)] at hk
  cases hk

theorem Exclusive.init (brokers : List String) (config : Nat) (ts : List Thread) (hts : ∀ t ∈ ts, t.held = none) :
    Exclusive (Sys.init (NewConsumerGroupManager brokers config) ts).m
      (Sys.init (NewConsumerGroupManager brokers config) ts).held where
  running_lt _ _ hx := nomatch hx
  running_open _ _ hx := nomatch hx
  unique _ _ _ hx := nomatch hx
  held_lt i k hi := absurd hi (Sys.held_init hts i k)
  held_open i k hi := absurd hi (Sys.held_init hts i k)
  held_free i k _ hi := absurd hi (Sys.held_init hts i k)
  held_unique i _ k hi := absurd hi (Sys.held_init hts i k)

/-- **どう交錯しても、二つの managed group が一つの session を使うことはなく、閉じた session は使われない。** -/
theorem sessions_exclusive_under_interleaving (env : Env) (brokers : List String) (config : Nat)
    (ts : List Thread) (hts : ∀ t ∈ ts, t.held = none) (sched : List Nat) :
    ∃ s, (Sys.init (NewConsumerGroupManager brokers config) ts).run env sched = s ∧
      (∀ mg₁ mg₂ k, (s.m.managed mg₁).status = .running k → (s.m.managed mg₂).status = .running k →
        mg₁ = mg₂) ∧
      (∀ mg k, (s.m.managed mg).status = .running k → k < s.m.nextSession ∧ (s.m.sessions k).closed = false) ∧
      ∀ t ∈ s.threads, ∀ k, t.held = some k →
        (s.m.sessions k).closed = false ∧ ∀ mg, (s.m.managed mg).status ≠ .running k := by
  have h := (Exclusive.init brokers config ts hts).run env sched
  refine ⟨_, rfl, h.unique, fun mg k hk => ⟨h.running_lt mg k hk, h.running_open mg k hk⟩, fun t ht k hk => ?_⟩
  obtain ⟨i, hi⟩ := List.getElem?_of_mem ht
  have hh : ((Sys.init (NewConsumerGroupManager brokers config) ts).run env sched).held i = some k := by
    simp [Sys.held, hi, hk]
  exact ⟨h.held_open i k hh, fun mg => h.held_free i k mg hh⟩

/-- session が漏れる交錯（Stopped の group への start command と、その group の `CloseConsumerGroup`）でも、
二つの group が一つの session を使うことはない。 -/
theorem sessions_exclusive_under_interleaving_run :
    let ts : List Thread := [.startGroup "g" .create,
      .command .stopConsumerGroup ⟨"T", false, false⟩ "g" .lockBefore,
      .command .startConsumerGroup ⟨"T", false, false⟩ "g" .lockBefore, .closeGroup "g" .getGroup]
    let sched := [0, 0, 0, 0, 1, 1, 1, 1, 1, 1, 2, 2, 2, 2, 3, 3, 3, 2, 2, 2]
    (∀ t ∈ ts, t.held = none) ∧
      ∃ s, (Sys.init (NewConsumerGroupManager [] 0) ts).run Env.ok sched = s ∧
        (∀ mg₁ mg₂ k, (s.m.managed mg₁).status = .running k → (s.m.managed mg₂).status = .running k →
          mg₁ = mg₂) ∧
        (∀ mg k, (s.m.managed mg).status = .running k → k < s.m.nextSession ∧ (s.m.sessions k).closed = false) ∧
        ∀ t ∈ s.threads, ∀ k, t.held = some k →
          (s.m.sessions k).closed = false ∧ ∀ mg, (s.m.managed mg).status ≠ .running k :=
  ⟨by decide, sessions_exclusive_under_interleaving Env.ok [] 0 _ (by decide) _⟩

end Consumer
