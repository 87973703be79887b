import ConsumerGroupManager.Concurrent.Exclusive

/-!
# 交錯の下での session の勘定

`Properties/Sessions.lean` は、前提を守る逐次の実行で session が漏れないことを示した。交錯の下では
それだけでは足りない（`Races.lean` の `sessions_leak_counterexamples`）。command が group を引いた後で
close がその group を閉じると、command の `start()` は何もせず、作った session は誰のものにもならない。

`Exclusive.lean` により、session はどう交錯しても一つの group だけが使う。漏れる一歩は二つしかない。

* `managedGrp.start(group)` が、map にある Stopped の group 以外に向かう。session は無視されるか、
  map から届かない group に入る。
* map への書き込み（`setGroup`・`removeGroup`）が Running の group を上書きするか消す。

どの一歩もこの二つでない交錯（`Sys.keepsSessions`）では、作った session はどれも、閉じられたか、
map から届くただ一つの group の Running の session か、ただ一つの goroutine が持つ（`Owned`）。
途中の goroutine がなければ、逐次の場合と同じ `SessionsAccounted` になる
（`sessions_accounted_under_interleaving`）。

1. `Exclusive` の六つの保存の lemma に、Running の group が map から届くことと、作った session が
   誰かのものであることを足す（`Owned.quiet` ほか）。map の側は `Distinct.lean` の `Registered`。
2. schedule についての帰納法。
-/

namespace Consumer

variable {env : Env} {m m' : Manager}

/-! ## session を落とさない一歩 -/

/-- Running か。 -/
def Status.isRunning : Status → Bool
  | .running _ => true
  | _ => false

/-- **session を落とさない一歩。** `managedGrp.start(group)` は map にある Stopped の group に向かい、
map への書き込みは Running の group を上書きも削除もしない。 -/
def Thread.keepsSessions (t : Thread) (m : Manager) : Bool :=
  (match t.handoff with
    | some (mg, _) => m.groups.entries.any (·.2 == mg) && (m.managed mg).status == .stopped
    | none => true) &&
  (match t.mapWrite with
    | some g =>
      match m.groups.lookup g with
      | some mg => !(m.managed mg).status.isRunning
      | none => true
    | none => true)

/-- schedule のどの一歩も session を落とさない。 -/
def Sys.keepsSessions (env : Env) : Sys → List Nat → Bool
  | _, [] => true
  | s, i :: is => (s.threads[i]?.all fun t => t.keepsSessions s.m) && Sys.keepsSessions env (s.step env i) is

theorem Thread.keepsSessions_handoff {t : Thread} (h : t.keepsSessions m = true) {mg k : Nat}
    (ht : t.handoff = some (mg, k)) : Mapped m mg ∧ (m.managed mg).status = .stopped := by
  simp only [Thread.keepsSessions, ht, Bool.and_eq_true, List.any_eq_true, beq_iff_eq] at h
  obtain ⟨⟨⟨e, he, rfl⟩, hs⟩, -⟩ := h
  exact ⟨⟨e.1, AList.mem_lookup_iff.mpr he⟩, hs⟩

theorem Thread.keepsSessions_mapWrite {t : Thread} (h : t.keepsSessions m = true) {g : String}
    (ht : t.mapWrite = some g) {mg : Nat} (hg : m.groups.lookup g = some mg) (k : Nat) :
    (m.managed mg).status ≠ .running k := by
  simp only [Thread.keepsSessions, ht, hg, Bool.and_eq_true, Bool.not_eq_true'] at h
  intro hk
  simp [hk, Status.isRunning] at h

/-! ## 勘定の不変量 -/

/-- **交錯の下での session の勘定。** `held i` は `i` 番が持つ session、`pending i` は `i` 番が作って
まだ map に入れていない managed group。 -/
structure Owned (m : Manager) (held pending : Nat → Option Nat) extends Exclusive m held : Prop where
  reachable : ∀ x k, (m.managed x).status = .running k → Mapped m x ∨ ∃ i, pending i = some x
  owned : ∀ k < m.nextSession, (m.sessions k).closed = true ∨ (∃ x, (m.managed x).status = .running k) ∨
    ∃ i, held i = some k

namespace Owned

variable {held held' pending pending' : Nat → Option Nat} {i : Nat}

theorem quiet (h : Owned m held pending) (hq : Quiet m m') : Owned m' held pending where
  toExclusive := h.toExclusive.quiet hq
  reachable x k hx := (h.reachable x k (hq.running x k hx)).imp_left fun ⟨g, hg⟩ => ⟨g, hq.groups ▸ hg⟩
  owned k hk := by
    rcases h.owned k (hq.nextSession ▸ hk) with hc | ⟨x, hx⟩ | hi
    · exact .inl (hq.closed k hc)
    · by_cases hx' : (m'.managed x).status = .running k
      · exact .inr (.inl ⟨x, hx'⟩)
      · exact .inl (hq.retired x k hx hx')
    · exact .inr (.inr hi)

/-- factory から新しい session `m.nextSession` を受け取り、何も持っていなかった `i` 番が持つ。 -/
theorem create (h : Owned m held pending) (hi : held i = none) (hg : m'.groups = m.groups)
    (hst : ∀ x, (m'.managed x).status = (m.managed x).status) (hn : m'.nextSession = m.nextSession + 1)
    (hs : ∀ k < m.nextSession, (m'.sessions k).closed = (m.sessions k).closed)
    (hnew : (m'.sessions m.nextSession).closed = false)
    (hh : ∀ j, held' j = if j = i then some m.nextSession else held j) : Owned m' held' pending where
  toExclusive := h.toExclusive.create hst hn hs hnew hh
  reachable x k hx := (h.reachable x k (hst x ▸ hx)).imp_left fun ⟨g, hg'⟩ => ⟨g, hg ▸ hg'⟩
  owned k hk := by
    rcases Nat.lt_succ_iff_lt_or_eq.mp (hn ▸ hk) with hk | rfl
    · rcases h.owned k hk with hc | ⟨x, hx⟩ | ⟨j, hj⟩
      · exact .inl ((hs k hk).trans hc)
      · exact .inr (.inl ⟨x, (hst x).trans hx⟩)
      · have hji : j ≠ i := by rintro rfl; rw [hi] at hj; cases hj
        exact .inr (.inr ⟨j, by rw [hh, if_neg hji, hj]⟩)
    · exact .inr (.inr ⟨i, by rw [hh, if_pos rfl]⟩)

/-- **`i` 番が持つ session `k` を、Running でない group `a` に入れて Running にする。** `a` は入れた後で
map から届く。 -/
theorem install (h : Owned m held pending) {a k : Nat} (hidle : ∀ j, (m.managed a).status ≠ .running j)
    (hi : held i = some k) (hh : ∀ j, held' j = if j = i then none else held j)
    (hg : m'.groups = m.groups) (hn : m'.nextSession = m.nextSession)
    (hs : ∀ k, (m'.sessions k).closed = (m.sessions k).closed)
    (hst : ∀ x, (m'.managed x).status = if x = a then .running k else (m.managed x).status)
    (hreach : Mapped m a ∨ ∃ j, pending' j = some a)
    (hpend : ∀ j x, pending j = some x → ∃ j', pending' j' = some x) : Owned m' held' pending' where
  toExclusive := h.toExclusive.install hi hh hn hs hst
  reachable x j hx := by
    rw [hst] at hx
    split at hx
    · subst x; exact hreach.imp_left fun ⟨g, hg'⟩ => ⟨g, hg ▸ hg'⟩
    · rcases h.reachable x j hx with ⟨g, hg'⟩ | ⟨j₀, hj₀⟩
      exacts [.inl ⟨g, hg ▸ hg'⟩, .inr (hpend j₀ x hj₀)]
  owned k' hk' := by
    rcases h.owned k' (hn ▸ hk') with hc | ⟨x, hx⟩ | ⟨j, hj⟩
    · exact .inl ((hs k').trans hc)
    · -- `a` は Running でなかったので、ほかの group の session はそのまま
      have hxa : x ≠ a := by rintro rfl; exact hidle k' hx
      exact .inr (.inl ⟨x, by rw [hst, if_neg hxa, hx]⟩)
    · by_cases hji : j = i
      · subst hji; rw [hi] at hj; cases hj; exact .inr (.inl ⟨a, by rw [hst, if_pos rfl]⟩)
      · exact .inr (.inr ⟨j, by rw [hh, if_neg hji, hj]⟩)

/-- **map に書く。** group と session は変わらず、Running の group は書いた後も map にあるか
goroutine が持つ。 -/
theorem remap (h : Owned m held pending) (hn : m'.nextSession = m.nextSession)
    (hs : ∀ k, (m'.sessions k).closed = (m.sessions k).closed)
    (hst : ∀ x, (m'.managed x).status = (m.managed x).status)
    (hreach : ∀ x k, (m.managed x).status = .running k → Mapped m' x ∨ ∃ j, pending' j = some x) :
    Owned m' held pending' where
  toExclusive := h.toExclusive.remap hn hs hst
  reachable x k hx := hreach x k (hst x ▸ hx)
  owned k hk := by
    rcases h.owned k (hn ▸ hk) with hc | ⟨x, hx⟩ | hi
    exacts [.inl ((hs k).trans hc), .inr (.inl ⟨x, (hst x).trans hx⟩), .inr (.inr hi)]

end Owned

/-! ## 系の一歩 -/

/-- **session を落とさない一歩は `Owned` を保つ。** `SessStep` の六つの場合を `Owned` の四つの保存の
lemma に振り分ける。新しい managed group が Running でないことは `Registered` から来る。 -/
theorem Owned.thread_step {s : Sys} (h : Owned s.m s.held s.pending) (hr : Registered s) {i : Nat}
    {t t' : Thread} {m' : Manager} {sp : List Thread} (ht : s.threads[i]? = some t)
    (hk : t.keepsSessions s.m = true) (hstep : SessStep t t' s.m m')
    (hsp : ∀ x ∈ sp, x.held = none ∧ x.pending = none) :
    Owned m' (fun j => (s.threads.set i t' ++ sp)[j]?.bind Thread.held)
      (fun j => (s.threads.set i t' ++ sp)[j]?.bind Thread.pending) := by
  have hh := bind_set_append Thread.held t' ht fun x hx => (hsp x hx).1
  have hp := bind_set_append Thread.pending t' ht fun x hx => (hsp x hx).2
  have hhi : s.held i = t.held := by simp [Sys.held, ht]
  have hpi : s.pending i = t.pending := by simp [Sys.pending, ht]
  have keepH := bind_set_append_self Thread.held t' ht fun x hx => (hsp x hx).1
  have keepP := bind_set_append_self Thread.pending t' ht fun x hx => (hsp x hx).2
  cases hstep with
  | quiet hq h₁ h₂ =>
    rw [keepH h₁, keepP h₂]
    exact h.quiet hq
  | create g h₀ h₁ h₂ hm =>
    rw [keepP h₂]
    subst hm
    exact h.create (hhi.trans h₀) rfl (fun _ => rfl) rfl
      (fun k hk => by simp [Function.update_noteq (Nat.ne_of_lt hk)]) (by simp)
      fun j => (hh j).trans (by rw [h₁]; rfl)
  | handoff mg k h₀ h₁ h₂ h₃ hm =>
    obtain ⟨hmap, hst⟩ := Thread.keepsSessions_handoff hk h₀
    rw [keepP h₃]
    rw [start_apply, stateOf_ok, if_pos hst] at hm
    subst hm
    exact h.install (fun j hj => by rw [hst] at hj; cases hj) (hhi.trans h₁)
      (fun j => (hh j).trans (by rw [h₂]; rfl)) rfl rfl (fun _ => rfl) (fun x => setStatus_status _ x)
      (.inl hmap) fun j _ hx => ⟨j, hx⟩
  | manage k h₀ h₀' h₁ h₂ hm =>
    subst hm
    -- 新しい番号の group は map にも goroutine の手にもないので、Running でない
    have hidle : ∀ j, (s.m.managed s.m.nextManaged).status ≠ .running j := fun j hj => by
      rcases h.reachable _ j hj with ⟨g, hg⟩ | ⟨j₀, hj₀⟩
      · exact Nat.lt_irrefl _ (hr.lt g _ hg)
      · exact Nat.lt_irrefl _ (hr.pending_lt j₀ _ hj₀)
    refine h.install hidle (hhi.trans h₀) (fun j => (hh j).trans (by rw [h₁]; rfl)) rfl rfl (fun _ => rfl)
      (fun x => ?_) (.inr ⟨i, (hp i).trans (by rw [if_pos rfl, h₂])⟩) fun j x hx => ⟨j, ?_⟩
    · by_cases hx : x = s.m.nextManaged <;> simp [hx]
    · have hji : j ≠ i := by rintro rfl; rw [hpi, h₀'] at hx; cases hx
      exact (hp j).trans (by rw [if_neg hji]; exact hx)
  | insert g mg hw h₀ h₁ h₂ h₃ hm =>
    subst hm
    rw [keepH (h₂.trans h₁.symm)]
    refine h.remap rfl (fun _ => rfl) (fun _ => rfl) fun x k hx => ?_
    rcases h.reachable x k hx with ⟨g', hg'⟩ | ⟨j, hj⟩
    · -- 上書きした id の group は Running でなかった
      have hne : g' ≠ g := by rintro rfl; exact Thread.keepsSessions_mapWrite hk hw hg' k hx
      exact .inl ⟨g', (AList.lookup_insert_ne hne).trans hg'⟩
    · by_cases hji : j = i
      · subst hji; rw [hpi, h₀] at hj; cases hj; exact .inl ⟨g, AList.lookup_insert _⟩
      · exact .inr ⟨j, (hp j).trans (by rw [if_neg hji]; exact hj)⟩
  | erase g hw h₀ h₁ h₂ hm =>
    subst hm
    rw [keepH (h₁.trans h₀.symm), keepP h₂]
    refine h.remap rfl (fun _ => rfl) (fun _ => rfl) fun x k hx => ?_
    refine (h.reachable x k hx).imp_left fun ⟨g', hg'⟩ => ⟨g', ?_⟩
    -- 消した id の group は Running でなかった
    have hne : g' ≠ g := by rintro rfl; exact Thread.keepsSessions_mapWrite hk hw hg' k hx
    exact (AList.lookup_erase_ne hne).trans hg'

/-- 系の一歩。 -/
theorem Owned.step (env : Env) {s : Sys} (h : Owned s.m s.held s.pending) (hr : Registered s) (i : Nat)
    (hk : (s.threads[i]?.all fun t => t.keepsSessions s.m) = true) :
    Owned (s.step env i).m (s.step env i).held (s.step env i).pending := by
  cases ht : s.threads[i]? with
  | none => rw [Sys.step_none env ht]; exact h
  | some t =>
    rw [ht] at hk
    rw [Sys.step_some env ht]
    exact h.thread_step hr ht hk (Thread.step_sessStep env t s.m) (Thread.step_spawned_held env t s.m)

theorem Owned.run (env : Env) {s : Sys} (h : Owned s.m s.held s.pending) (hr : Registered s) (sched : List Nat)
    (hk : Sys.keepsSessions env s sched = true) :
    Owned (s.run env sched).m (s.run env sched).held (s.run env sched).pending := by
  induction sched generalizing s with
  | nil => exact h
  | cons i is ih =>
    simp only [Sys.keepsSessions, Bool.and_eq_true] at hk
    exact ih (h.step env hr i hk.1) (hr.step env i) hk.2

theorem Owned.init (brokers : List String) (config : Nat) (ts : List Thread) (hts : ∀ t ∈ ts, t.held = none)
    (pending : Nat → Option Nat) :
    Owned (Sys.init (NewConsumerGroupManager brokers config) ts).m
      (Sys.init (NewConsumerGroupManager brokers config) ts).held pending where
  toExclusive := Exclusive.init brokers config ts hts
  reachable _ _ hx := nomatch hx
  owned _ hk := absurd hk (Nat.not_lt_zero _)

/-! ## 勘定 -/

/-- factory から得た session はどれも、`Close()` が呼ばれたか、ただ一つの managed group の今の
session でその group は map にあるか goroutine が map に入れるところか、ただ一つの goroutine が持つ。 -/
def SessionsOwned (s : Sys) : Prop :=
  ∀ k < s.m.nextSession, (s.m.sessions k).closed = true ∨
    (∃ mg, (Mapped s.m mg ∨ ∃ i, s.pending i = some mg) ∧ (s.m.managed mg).status = .running k ∧
      ∀ mg', (s.m.managed mg').status = .running k → mg' = mg) ∨
    ∃ i, s.held i = some k ∧ ∀ j, s.held j = some k → j = i

theorem Owned.sessionsOwned {s : Sys} (h : Owned s.m s.held s.pending) : SessionsOwned s := fun k hk =>
  (h.owned k hk).imp_right <| Or.imp
    (fun ⟨x, hx⟩ => ⟨x, h.reachable x k hx, hx, fun x' hx' => h.unique x' x k hx' hx⟩)
    fun ⟨i, hi⟩ => ⟨i, hi, fun j hj => h.held_unique j i k hj hi⟩

/-- 途中の goroutine がなければ、逐次の場合の勘定になる。 -/
theorem SessionsOwned.sessionsAccounted {s : Sys} (h : SessionsOwned s)
    (hq : ∀ t ∈ s.threads, t.held = none ∧ t.pending = none) : SessionsAccounted s.m := by
  have hnone : ∀ i, s.held i = none ∧ s.pending i = none := fun i => by
    cases ht : s.threads[i]? with
    | none => simp [Sys.held, Sys.pending, ht]
    | some t => simpa [Sys.held, Sys.pending, ht] using hq t (List.getElem?_mem ht)
  intro k hk
  rcases h k hk with hc | ⟨mg, hm, hr, hu⟩ | ⟨i, hi, -⟩
  · exact .inl hc
  · refine .inr ⟨mg, hm.resolve_right fun ⟨i, hi⟩ => ?_, hr, fun mg' _ => hu mg'⟩
    rw [(hnone i).2] at hi; cases hi
  · rw [(hnone i).1] at hi; cases hi

/-- **交錯しても、session を落とさない一歩だけの実行では session は漏れない。** -/
theorem sessions_accounted_under_interleaving (env : Env) (brokers : List String) (config : Nat)
    (ts : List Thread) (hts : ∀ t ∈ ts, t.held = none ∧ t.pending = none) (sched : List Nat)
    (hsafe : Sys.keepsSessions env (Sys.init (NewConsumerGroupManager brokers config) ts) sched = true) :
    ∃ s, (Sys.init (NewConsumerGroupManager brokers config) ts).run env sched = s ∧ SessionsOwned s ∧
      ((∀ t ∈ s.threads, t.held = none ∧ t.pending = none) → SessionsAccounted s.m) := by
  have hnone : ∀ g, (NewConsumerGroupManager brokers config).groups.lookup g = none :=
    fun _ => AList.lookup_empty _
  have hr := Registered.init _ ts (fun g _ h => nomatch (hnone g).symm.trans h)
    (fun g _ _ h => nomatch (hnone g).symm.trans h) fun t ht => (hts t ht).2
  have h := (Owned.init brokers config ts (fun t ht => (hts t ht).1) _).run env hr sched hsafe
  exact ⟨_, rfl, h.sessionsOwned, h.sessionsOwned.sessionsAccounted⟩

/-- 二つの id の `StartConsumerGroup` を交錯させ、一方を control の command で止めて start し直すのと、
もう一方の `CloseConsumerGroup` を交錯させても、どの一歩も session を落とさない。 -/
theorem sessions_accounted_under_interleaving_run :
    let ts : List Thread := [.startGroup "a" .create, .startGroup "b" .create,
      .command .stopConsumerGroup ⟨"T", false, false⟩ "a" .lockBefore,
      .command .startConsumerGroup ⟨"T", false, false⟩ "a" .lockBefore, .closeGroup "b" .getGroup]
    let sched := [0, 1, 0, 1, 0, 1, 0, 1, 2, 4, 2, 4, 2, 4, 2, 2, 2, 3, 3, 3, 3, 3, 3, 3, 5, 6]
    (∀ t ∈ ts, t.held = none ∧ t.pending = none) ∧
      Sys.keepsSessions Env.ok (Sys.init (NewConsumerGroupManager [] 0) ts) sched = true ∧
      ∃ s, (Sys.init (NewConsumerGroupManager [] 0) ts).run Env.ok sched = s ∧ SessionsOwned s ∧
        ((∀ t ∈ s.threads, t.held = none ∧ t.pending = none) → SessionsAccounted s.m) :=
  ⟨by decide, by decide, sessions_accounted_under_interleaving Env.ok [] 0 _ (by decide) _ (by decide)⟩

end Consumer
