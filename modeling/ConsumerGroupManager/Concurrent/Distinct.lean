import ConsumerGroupManager.Concurrent.Threads
import ConsumerGroupManager.Properties.Registry

/-!
# 交錯しても、二つの id が一つの managed group を指すことはない

`Races.lean` の交錯では、同じ id の二つの `StartConsumerGroup` が map を上書きし、session が漏れた。
それでも map そのものは壊れない：どう交錯しても、map の二つの id が同じ managed group を指すことはなく、
map が指す group はどれも `createManagedGroup` が作ったもの（番号が `nextManaged` より小さい）である。

map と番号 `nextManaged`（`Manager.registry`）を変える段は三つしかない。

* `createManagedGroup`：新しい番号を作り、その goroutine が持つ（まだ map にない）。
* `setGroup`：その goroutine が持っていた番号を map に入れる。
* `removeGroup`：id を map から消す。

ほかの段は `Manager.registry` を変えない（`cmdStep_registry`、`reconfStep_registry`）。
goroutine が持つ番号は map になく、互いに違うので、`setGroup` の後も map の値は相異なる。
-/

namespace Consumer

/-! ## map と番号を変えない段 -/

/-- **command の一段は map と番号を変えない。** -/
theorem cmdStep_registry (env : Env) (op : OpCode) (lock : CommandLock) (g : String) (pc : CmdPc)
    (m : Manager) : (cmdStep env op lock g pc m).2.1.registry = m.registry := by
  cases pc with
  | lock mg =>
    simp only [cmdStep]
    split <;> exact keepsRegistry_processLock.of_eq ‹_›
  | act mg =>
    simp only [cmdStep]
    split
    · split <;> exact keepsRegistry_stop.of_eq ‹_›
    · split <;> exact keepsRegistry_createConsumerGroup.of_eq ‹_›
  | start mg k => exact keepsRegistry_start m
  | unlock mg =>
    simp only [cmdStep]
    split <;> exact keepsRegistry_processLock.of_eq ‹_›
  | lockBefore | getGroup | unlockAfter =>
    simp only [cmdStep]
    split <;> rfl
  | done => rfl

/-- Reconfigure の一段も map と番号を変えない。 -/
theorem reconfStep_registry (env : Env) (brokers : List String) (config : Nat) (pc : ReconfPc)
    (m : Manager) : (reconfStep env brokers config pc m).2.1.registry = m.registry := by
  cases pc with
  | stopping g pc => exact cmdStep_registry env _ _ g pc m
  | starting g pc => exact cmdStep_registry env _ _ g pc m
  | snapshot | setFactory | done => rfl

/-! ## 一つの goroutine の一歩 -/

/-- `StartConsumerGroup` が `createManagedGroup` で作り、まだ `setGroup` していない managed group。 -/
def Thread.pending : Thread → Option Nat
  | .startGroup _ (.register mg) => some mg
  | _ => none

/-- **goroutine の一歩が map と番号にすること。** 何も変えないか、新しい番号を作って持つか、
持っていた番号を map に入れるか、id を消すか、のどれかである。 -/
def RegStep (t t' : Thread) (m m' : Manager) : Prop :=
  (m'.registry = m.registry ∧ t'.pending = t.pending) ∨
  (m'.groups = m.groups ∧ m'.nextManaged = m.nextManaged + 1 ∧ t'.pending = some m.nextManaged) ∨
  (∃ g mg, t.pending = some mg ∧ t'.pending = none ∧ m'.groups = m.groups.insert g mg ∧
    m'.nextManaged = m.nextManaged) ∨
  (∃ g, t'.pending = none ∧ m'.groups = m.groups.erase g ∧ m'.nextManaged = m.nextManaged)

theorem RegStep.keep {t t' : Thread} {m m' : Manager} (hr : m'.registry = m.registry)
    (hp : t'.pending = t.pending) : RegStep t t' m m' := .inl ⟨hr, hp⟩

/-- **どの goroutine の一歩も `RegStep` である。** -/
theorem Thread.step_regStep (env : Env) (t : Thread) (m : Manager) :
    RegStep t (t.step env m).1 m (t.step env m).2.1 := by
  cases t with
  | startGroup g pc =>
    cases pc with
    | create =>
      simp only [Thread.step, startStep]
      split <;> (rename_i h; exact .keep (keepsRegistry_createConsumerGroup.of_eq h) rfl)
    | manage k => exact .inr (.inl ⟨rfl, rfl, rfl⟩)
    | register mg => exact .inr (.inr (.inl ⟨g, mg, rfl, rfl, rfl, rfl⟩))
    | spawn | done => exact .keep rfl rfl
  | closeGroup g pc =>
    cases pc with
    | getGroup =>
      simp only [Thread.step, closeStep]
      split <;> exact .keep rfl rfl
    | close mg =>
      simp only [Thread.step, closeStep]
      split <;> (rename_i h; exact .keep (keepsRegistry_close.of_eq h) rfl)
    | remove => exact .inr (.inr (.inr ⟨g, rfl, rfl, rfl⟩))
    | done => exact .keep rfl rfl
  | command op lock g pc => exact .keep (cmdStep_registry env op lock g pc m) rfl
  | reconfigure brokers config pc => exact .keep (reconfStep_registry env brokers config pc m) rfl
  | consumeLoop g => exact .keep rfl rfl

/-- 起こされる goroutine は consume loop だけである。 -/
theorem Thread.step_spawned (env : Env) (t : Thread) (m : Manager) :
    (t.step env m).2.2.2 = [] ∨ ∃ g, (t.step env m).2.2.2 = [.consumeLoop g] := by
  cases t with
  | startGroup g pc =>
    cases pc with
    | create => simp only [Thread.step, startStep]; split <;> exact .inl rfl
    | spawn => exact .inr ⟨g, rfl⟩
    | manage | register | done => exact .inl rfl
  | _ => exact .inl rfl

/-! ## 系の不変量 -/

/-- `i` 番の goroutine が持つ、まだ map にない managed group。 -/
def Sys.pending (s : Sys) (i : Nat) : Option Nat := s.threads[i]?.bind Thread.pending

/-- `i` 番の goroutine を置き換え、`f` が `none` の goroutine を後ろに足した列を `f` で読む。 -/
theorem bind_set_append {β : Type} (f : Thread → Option β) {ts sp : List Thread} {i : Nat} {t : Thread}
    (t' : Thread) (hi : ts[i]? = some t) (hsp : ∀ x ∈ sp, f x = none) (j : Nat) :
    (ts.set i t' ++ sp)[j]?.bind f = if j = i then f t' else ts[j]?.bind f := by
  have hil : i < ts.length := (List.getElem?_eq_some_iff.mp hi).1
  by_cases hj : j < ts.length
  · rw [List.getElem?_append_left (by simpa using hj), List.getElem?_set]
    by_cases hji : j = i
    · subst hji; simp [hj]
    · simp [hji, Ne.symm hji]
  · have hji : j ≠ i := fun h => hj (h ▸ hil)
    have hnone : ts[j]? = none := List.getElem?_eq_none (by omega)
    rw [if_neg hji, hnone, List.getElem?_append_right (by simp; omega)]
    cases hx : sp[j - (ts.set i t').length]? with
    | none => rfl
    | some x => exact hsp x (List.getElem?_mem hx)

/-- **map の値は相異なり、どれも作られた番号で、goroutine が持つ番号は map になく互いに違う。** -/
structure Registered (s : Sys) : Prop where
  lt : ∀ g mg, s.m.groups.lookup g = some mg → mg < s.m.nextManaged
  injective : ∀ g₁ g₂ mg, s.m.groups.lookup g₁ = some mg → s.m.groups.lookup g₂ = some mg → g₁ = g₂
  pending_lt : ∀ i mg, s.pending i = some mg → mg < s.m.nextManaged
  pending_fresh : ∀ i mg g, s.pending i = some mg → s.m.groups.lookup g ≠ some mg
  pending_unique : ∀ i j mg, s.pending i = some mg → s.pending j = some mg → i = j

namespace Registered

variable {s s' : Sys} {i : Nat}

/-- map も番号も goroutine の持つ番号も変わらない。 -/
theorem of_eq (h : Registered s) (hg : s'.m.groups = s.m.groups) (hn : s'.m.nextManaged = s.m.nextManaged)
    (hp : ∀ j, s'.pending j = s.pending j) : Registered s' where
  lt := hg ▸ hn ▸ h.lt
  injective := hg ▸ h.injective
  pending_lt j mg := hp j ▸ hn ▸ h.pending_lt j mg
  pending_fresh j mg := hp j ▸ hg ▸ h.pending_fresh j mg
  pending_unique j k mg := hp j ▸ hp k ▸ h.pending_unique j k mg

/-- `createManagedGroup`：`i` 番が新しい番号を持つ。 -/
theorem alloc (h : Registered s) (hg : s'.m.groups = s.m.groups)
    (hn : s'.m.nextManaged = s.m.nextManaged + 1)
    (hp : ∀ j, s'.pending j = if j = i then some s.m.nextManaged else s.pending j) : Registered s' where
  lt g mg hmg := hn ▸ Nat.lt_succ_of_lt (h.lt g mg (hg ▸ hmg))
  injective := hg ▸ h.injective
  pending_lt j mg hj := by
    rw [hp] at hj
    split at hj
    · cases hj; omega
    · have := h.pending_lt j mg hj; omega
  pending_fresh j mg g hj hmg := by
    rw [hp] at hj
    rw [hg] at hmg
    split at hj
    · cases hj; exact Nat.lt_irrefl _ (h.lt g _ hmg)
    · exact h.pending_fresh j mg g hj hmg
  pending_unique j k mg hj hk := by
    rw [hp] at hj hk
    -- 新しい番号は、ほかの goroutine の持つ番号より大きい
    split at hj <;> split at hk
    · omega
    · cases hj; exact absurd (h.pending_lt k _ hk) (Nat.lt_irrefl _)
    · cases hk; exact absurd (h.pending_lt j _ hj) (Nat.lt_irrefl _)
    · exact h.pending_unique j k mg hj hk

/-- `setGroup`：`i` 番が持っていた番号を map に入れる。 -/
theorem insert (h : Registered s) {g : String} {mg : Nat} (hi : s.pending i = some mg)
    (hg : s'.m.groups = s.m.groups.insert g mg) (hn : s'.m.nextManaged = s.m.nextManaged)
    (hp : ∀ j, s'.pending j = if j = i then none else s.pending j) : Registered s' where
  lt g' mg' hmg := by
    rw [hg] at hmg
    rw [hn]
    rcases lookup_insert_eq_some.mp hmg with ⟨-, rfl⟩ | ⟨-, hmg⟩
    exacts [h.pending_lt i _ hi, h.lt g' mg' hmg]
  injective := hg ▸ insert_injective (fun g' => h.pending_fresh i mg g' hi) h.injective
  pending_lt j mg' hj := by
    rw [hp] at hj
    split at hj
    · cases hj
    · exact hn ▸ h.pending_lt j mg' hj
  pending_fresh j mg' g' hj hmg := by
    rw [hp] at hj
    rw [hg] at hmg
    split at hj
    · cases hj
    · next hji =>
      -- 入れた番号は `i` 番だけが持っていた
      rcases lookup_insert_eq_some.mp hmg with ⟨-, rfl⟩ | ⟨-, hmg⟩
      · exact hji (h.pending_unique j i _ hj hi)
      · exact h.pending_fresh j mg' g' hj hmg
  pending_unique j k mg' hj hk := by
    rw [hp] at hj hk
    split at hj
    · cases hj
    · split at hk
      · cases hk
      · exact h.pending_unique j k mg' hj hk

/-- `removeGroup`：id を map から消す。 -/
theorem erase (h : Registered s) {g : String} (hg : s'.m.groups = s.m.groups.erase g)
    (hn : s'.m.nextManaged = s.m.nextManaged)
    (hp : ∀ j, s'.pending j = if j = i then none else s.pending j) : Registered s' where
  lt g' mg hmg := hn ▸ h.lt g' mg (lookup_erase_eq_some (hg ▸ hmg)).2
  injective g₁ g₂ mg h₁ h₂ :=
    h.injective g₁ g₂ mg (lookup_erase_eq_some (hg ▸ h₁)).2 (lookup_erase_eq_some (hg ▸ h₂)).2
  pending_lt j mg hj := by
    rw [hp] at hj
    split at hj
    · cases hj
    · exact hn ▸ h.pending_lt j mg hj
  pending_fresh j mg g' hj hmg := by
    rw [hp] at hj
    split at hj
    · cases hj
    · exact h.pending_fresh j mg g' hj (lookup_erase_eq_some (hg ▸ hmg)).2
  pending_unique j k mg hj hk := by
    rw [hp] at hj hk
    split at hj
    · cases hj
    · split at hk
      · cases hk
      · exact h.pending_unique j k mg hj hk

theorem init (m : Manager) (ts : List Thread) (hlt : ∀ g mg, m.groups.lookup g = some mg → mg < m.nextManaged)
    (hinj : ∀ g₁ g₂ mg, m.groups.lookup g₁ = some mg → m.groups.lookup g₂ = some mg → g₁ = g₂)
    (hts : ∀ t ∈ ts, t.pending = none) : Registered (Sys.init m ts) :=
  have hnp : ∀ i mg, (Sys.init m ts).pending i ≠ some mg := by
    intro i mg hi
    simp only [Sys.pending, Sys.init, Option.bind_eq_some] at hi
    obtain ⟨t, ht, hp⟩ := hi
    rw [hts t (List.getElem?_mem ht)] at hp
    cases hp
  ⟨hlt, hinj, fun i mg hi => absurd hi (hnp i mg), fun i mg _ hi => absurd hi (hnp i mg),
    fun i _ mg hi => absurd hi (hnp i mg)⟩

/-- **系の一歩は不変量を保つ。** -/
theorem step (env : Env) (h : Registered s) (i : Nat) : Registered (s.step env i) := by
  cases ht : s.threads[i]? with
  | none => rw [Sys.step_none env ht]; exact h
  | some t =>
    rw [Sys.step_some env ht]
    have hr := Thread.step_regStep env t s.m
    have hsp : ∀ x ∈ (t.step env s.m).2.2.2, x.pending = none := by
      rcases Thread.step_spawned env t s.m with h | ⟨g, h⟩ <;> simp [h, Thread.pending]
    have hp := bind_set_append Thread.pending (t.step env s.m).1 ht hsp
    have hti : s.pending i = t.pending := by simp [Sys.pending, ht]
    rcases hr with ⟨hreg, hpe⟩ | ⟨hg, hn, hpe⟩ | ⟨g, mg, hpe₀, hpe, hg, hn⟩ | ⟨g, hpe, hg, hn⟩
    · refine h.of_eq (congrArg Prod.fst hreg) (congrArg Prod.snd hreg) fun j => ?_
      simp only [Sys.pending, hp]
      split
      · next hji => subst hji; rw [hpe, ← hti]; rfl
      · rfl
    · exact h.alloc (i := i) hg hn fun j => by simp only [Sys.pending, hp, hpe]
    · exact h.insert (hti.trans hpe₀) hg hn fun j => by simp only [Sys.pending, hp, hpe]
    · exact h.erase (i := i) hg hn fun j => by simp only [Sys.pending, hp, hpe]

theorem run (env : Env) (h : Registered s) (sched : List Nat) : Registered (s.run env sched) := by
  induction sched generalizing s with
  | nil => exact h
  | cons i is ih => exact ih (h.step env i)

end Registered

/-- **どう交錯しても、map の二つの id が一つの managed group を指すことはない。** -/
theorem groups_stay_distinct (env : Env) (brokers : List String) (config : Nat) (ts : List Thread)
    (hts : ∀ t ∈ ts, t.pending = none) (sched : List Nat) :
    ∃ s, (Sys.init (NewConsumerGroupManager brokers config) ts).run env sched = s ∧
      (∀ g₁ g₂ mg, s.m.groups.lookup g₁ = some mg → s.m.groups.lookup g₂ = some mg → g₁ = g₂) ∧
      ∀ g mg, s.m.groups.lookup g = some mg → mg < s.m.nextManaged := by
  have hnone : ∀ g, (NewConsumerGroupManager brokers config).groups.lookup g = none := fun _ => AList.lookup_empty _
  have h := (Registered.init _ ts (fun g _ h => nomatch (hnone g).symm.trans h)
    (fun g _ _ h => nomatch (hnone g).symm.trans h) hts).run env sched
  exact ⟨_, rfl, h.injective, h.lt⟩

/-- 同じ id の二つの `StartConsumerGroup` と、その id の `CloseConsumerGroup` が交錯しても、
map の値は相異なる。 -/
theorem groups_stay_distinct_run :
    let ts : List Thread := [.startGroup "a" .create, .startGroup "a" .create, .startGroup "b" .create,
      .closeGroup "a" .getGroup]
    (∀ t ∈ ts, t.pending = none) ∧
      ∃ s, (Sys.init (NewConsumerGroupManager [] 0) ts).run Env.ok
          [0, 1, 0, 1, 0, 1, 2, 2, 2, 0, 3, 3, 1, 2, 3] = s ∧
        (∀ g₁ g₂ mg, s.m.groups.lookup g₁ = some mg → s.m.groups.lookup g₂ = some mg → g₁ = g₂) ∧
        ∀ g mg, s.m.groups.lookup g = some mg → mg < s.m.nextManaged :=
  ⟨by decide, groups_stay_distinct Env.ok [] 0 _ (by decide) _⟩

end Consumer
