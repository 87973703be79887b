import ConsumerGroupManager.Concurrent.Distinct

/-!
# map が変わらない交錯

`Races.lean` の `command_stops_group_locked_by_other` では、command が lock した group と止めた group が
違った。三度の `getGroup` の間に `CloseConsumerGroup` と `StartConsumerGroup` が map を書き換えたからである。

ここでは逆に、map を書き換える goroutine（`StartConsumerGroup`・`CloseConsumerGroup`）がいない交錯を
考える。command、`Reconfigure`、consume loop の段はどれも map を変えないので、

1. map はずっと始めのままで、
2. command が途中で持つ group は、いつもその id の下にある group であり、
3. command が lock し、止め、start する group は、どれもその id の下にある同じ group である。

証明は goroutine ごとの一歩の補題（`cmdStep_stable`、`reconfStep_stable`、`Thread.step_stable`）と、
系の一歩の補題（`StableRun.step`）と、schedule についての帰納法でまとめる。
-/

namespace Consumer

variable {m : Manager}

/-! ## goroutine が持つ group -/

/-- 観測した段が触れた managed group。 -/
def Act.group : Act → Option Nat
  | .locked mg | .stopped mg | .started mg | .consumed _ mg => some mg
  | .consumeFailed _ => none

/-- command の途中で持っている group は、map が `g` の下に置く group である。 -/
def CmdPc.heldIn (groups : AList (fun _ : String => Nat)) (g : String) : CmdPc → Prop
  | .lock mg | .act mg | .start mg _ | .unlock mg => groups.lookup g = some mg
  | _ => True

/-- Reconfigure の中の command についての `CmdPc.heldIn`。 -/
def ReconfPc.heldIn (groups : AList (fun _ : String => Nat)) : ReconfPc → Prop
  | .stopping g pc _ _ _ | .starting g pc _ _ => pc.heldIn groups g
  | _ => True

/-- map を書き換えない goroutine で、持っている group が map と合っている。
`StartConsumerGroup` と `CloseConsumerGroup` はここに入らない。 -/
def Thread.Holds (groups : AList (fun _ : String => Nat)) : Thread → Prop
  | .command _ _ g pc => pc.heldIn groups g
  | .reconfigure _ _ pc => pc.heldIn groups
  | .consumeLoop _ => True
  | _ => False

/-- command の goroutine が扱う id。 -/
def Thread.target : Thread → Option String
  | .command _ _ g _ => some g
  | _ => none

/-- 呼ばれたばかりの、map を書き換えない goroutine：command、Reconfigure、consume loop。 -/
def Thread.mapReader : Thread → Bool
  | .command _ _ _ .lockBefore | .reconfigure _ _ .snapshot | .consumeLoop _ => true
  | _ => false

theorem Thread.holds_of_mapReader {t : Thread} (h : t.mapReader = true)
    (groups : AList (fun _ : String => Nat)) : t.Holds groups := by
  unfold Thread.mapReader at h
  split at h <;> trivial

/-! ## 一つの goroutine の一歩 -/

/-- **command の一歩は持つ group を map と合わせたままにし、触れる group は id の下の group である。**
map が変わらないことは `cmdStep_registry`。 -/
theorem cmdStep_stable (env : Env) (op : OpCode) (lock : CommandLock) (g : String) {pc : CmdPc}
    (h : pc.heldIn m.groups g) :
    (cmdStep env op lock g pc m).1.heldIn m.groups g ∧
      ∀ a ∈ (cmdStep env op lock g pc m).2.2, ∀ mg, a.group = some mg → m.groups.lookup g = some mg := by
  cases pc with
  | lockBefore | getGroup | unlockAfter =>
    simp only [cmdStep]
    split
    · next mg hg => exact ⟨hg, nofun⟩
    · exact ⟨trivial, nofun⟩
  | lock mg =>
    simp only [cmdStep]
    split
    · refine ⟨trivial, fun a ha mg' hmg => ?_⟩
      split at ha
      · rw [List.mem_singleton.mp ha] at hmg; cases hmg; exact h
      · cases ha
    · exact ⟨trivial, nofun⟩
  | act mg =>
    simp only [cmdStep]
    split
    · split
      · refine ⟨trivial, fun a ha mg' hmg => ?_⟩
        rw [List.mem_singleton.mp ha] at hmg; cases hmg; exact h
      · exact ⟨trivial, nofun⟩
    · split
      · exact ⟨h, nofun⟩
      · exact ⟨trivial, nofun⟩
  | start mg k =>
    refine ⟨trivial, fun a ha mg' hmg => ?_⟩
    rw [List.mem_singleton.mp ha] at hmg; cases hmg; exact h
  | unlock mg =>
    simp only [cmdStep]
    split <;> exact ⟨trivial, nofun⟩
  | done res => exact ⟨trivial, nofun⟩

theorem stopNext_heldIn (groups : AList (fun _ : String => Nat)) (ks : List String) (multiErr : List Err)
    (rs : List String) : (stopNext ks multiErr rs).heldIn groups := by
  cases ks <;> trivial

theorem startNext_heldIn (groups : AList (fun _ : String => Nat)) (rs : List String)
    (multiErr : List Err) : (startNext rs multiErr).heldIn groups := by
  cases rs <;> trivial

theorem afterStop_heldIn (groups : AList (fun _ : String => Nat)) (g : String) (rest : List String)
    (multiErr : List Err) (rs : List String) {pc : CmdPc} (h : pc.heldIn groups g) :
    (afterStop g rest multiErr rs pc).heldIn groups := by
  unfold afterStop
  split
  · exact stopNext_heldIn ..
  · exact h

theorem afterStart_heldIn (groups : AList (fun _ : String => Nat)) (g : String) (rest : List String)
    (multiErr : List Err) {pc : CmdPc} (h : pc.heldIn groups g) :
    (afterStart g rest multiErr pc).heldIn groups := by
  unfold afterStart
  split
  · exact startNext_heldIn ..
  · exact h

/-- Reconfigure の一歩も、中の command が持つ group を map と合わせたままにする。 -/
theorem reconfStep_stable (env : Env) (brokers : List String) (config : Nat) {pc : ReconfPc}
    (h : pc.heldIn m.groups) : (reconfStep env brokers config pc m).1.heldIn m.groups := by
  cases pc with
  | snapshot => exact stopNext_heldIn ..
  | stopping g pc rest multiErr rs =>
    exact afterStop_heldIn _ g rest multiErr rs
      (cmdStep_stable env .stopConsumerGroup ⟨internalToken, true, false⟩ g h).1
  | setFactory multiErr rs => exact startNext_heldIn ..
  | starting g pc rest multiErr =>
    exact afterStart_heldIn _ g rest multiErr
      (cmdStep_stable env .startConsumerGroup ⟨internalToken, false, true⟩ g h).1
  | done multiErr => trivial

/-- **map を書き換えない goroutine の一歩。** map は変わらず、goroutine は map と合ったまま、
新しい goroutine を起こさず、扱う id も変わらない。command が触れる group は、その id の下の group である。 -/
theorem Thread.step_stable (env : Env) {t : Thread} (h : t.Holds m.groups) :
    (t.step env m).2.1.groups = m.groups ∧ (t.step env m).1.Holds m.groups ∧
      (t.step env m).2.2.2 = [] ∧ (t.step env m).1.target = t.target ∧
      ∀ a ∈ (t.step env m).2.2.1, ∀ g mg, t.target = some g → a.group = some mg →
        m.groups.lookup g = some mg := by
  cases t with
  | startGroup | closeGroup => cases h
  | command op lock g pc =>
    obtain ⟨hh, ha⟩ := cmdStep_stable env op lock g h
    exact ⟨congrArg Prod.fst (cmdStep_registry env op lock g pc m), hh, rfl, rfl,
      fun a hmem g' mg hg' hmg => by cases hg'; exact ha a hmem mg hmg⟩
  | reconfigure brokers config pc =>
    exact ⟨congrArg Prod.fst (reconfStep_registry env brokers config pc m),
      reconfStep_stable env brokers config h, rfl, rfl, fun _ _ _ _ hg' => nomatch hg'⟩
  | consumeLoop g => exact ⟨rfl, trivial, rfl, rfl, fun _ _ _ _ hg' => nomatch hg'⟩

/-! ## 系の一歩と実行 -/

/-- **map が変わらない実行の不変量。** 始めの manager `m₀` と goroutine の列 `ts₀` から来た状態で、
map は始めのまま、`i` 番の goroutine は始めと同じ id を扱い、どの goroutine も map と合っていて、
履歴にある command の段が触れた group はその id の下の group である。 -/
structure StableRun (m₀ : Manager) (ts₀ : List Thread) (s : Sys) : Prop where
  groups : s.m.groups = m₀.groups
  targets : ∀ i : Nat, s.threads[i]?.map Thread.target = ts₀[i]?.map Thread.target
  holds : ∀ t ∈ s.threads, t.Holds m₀.groups
  log : ∀ i a, (i, a) ∈ s.log → ∀ g mg, ts₀[i]?.bind Thread.target = some g →
    a.group = some mg → m₀.groups.lookup g = some mg

theorem StableRun.init (m₀ : Manager) (ts₀ : List Thread) (h : ∀ t ∈ ts₀, t.mapReader = true) :
    StableRun m₀ ts₀ (Sys.init m₀ ts₀) :=
  ⟨rfl, fun _ => rfl, fun t ht => Thread.holds_of_mapReader (h t ht) _, nofun⟩

theorem StableRun.step (env : Env) {m₀ : Manager} {ts₀ : List Thread} {s : Sys} (h : StableRun m₀ ts₀ s)
    (i : Nat) : StableRun m₀ ts₀ (s.step env i) := by
  cases ht : s.threads[i]? with
  | none => rw [Sys.step_none env ht]; exact h
  | some t =>
    rw [Sys.step_some env ht]
    have hh : t.Holds s.m.groups := h.groups ▸ h.holds t (List.getElem?_mem ht)
    obtain ⟨hg, hh', hsp, htg, ha⟩ := Thread.step_stable env hh
    have hti : ts₀[i]?.bind Thread.target = t.target := by
      have := h.targets i
      rw [ht] at this
      cases hts : ts₀[i]? with
      | none => rw [hts] at this; cases this
      | some t₀ => rw [hts] at this; exact (Option.some.inj this).symm
    refine ⟨hg.trans h.groups, fun j => ?_, fun t' ht' => ?_, fun j a hmem g mg hj hmg => ?_⟩
    · rw [hsp, List.append_nil, List.getElem?_set]
      split
      · next hij =>
        subst hij
        rw [if_pos (List.getElem?_eq_some_iff.mp ht).1, ← h.targets i, ht]
        simp [htg]
      · exact h.targets j
    · rw [hsp, List.append_nil] at ht'
      rcases List.mem_or_eq_of_mem_set ht' with ht' | rfl
      · exact h.holds t' ht'
      · exact h.groups ▸ hh'
    · rcases List.mem_append.mp hmem with hmem | hmem
      · exact h.log j a hmem g mg hj hmg
      · obtain ⟨a', ha', he⟩ := List.mem_map.mp hmem
        cases he
        rw [← h.groups]
        exact ha a ha' g mg (hti ▸ hj) hmg

theorem StableRun.run (env : Env) {m₀ : Manager} {ts₀ : List Thread} {s : Sys} (h : StableRun m₀ ts₀ s)
    (sched : List Nat) : StableRun m₀ ts₀ (s.run env sched) := by
  induction sched generalizing s with
  | nil => exact h
  | cons i is ih => exact ih (h.step env i)

/-- **map を書き換える呼び出しがなければ、command は自分の id の group にだけ触れる。** -/
theorem commands_act_on_their_group (env : Env) (m : Manager) (ts : List Thread)
    (hts : ∀ t ∈ ts, t.mapReader = true) (sched : List Nat) :
    ((Sys.init m ts).run env sched).m.groups = m.groups ∧
      ∀ i op lock g pc, ts[i]? = some (.command op lock g pc) →
        ∀ a, (i, a) ∈ ((Sys.init m ts).run env sched).log → ∀ mg, a.group = some mg →
          m.groups.lookup g = some mg := by
  have h := (StableRun.init m ts hts).run env sched
  exact ⟨h.groups, fun i _ _ g _ hi a ha mg hmg => h.log i a ha g mg (by rw [hi]; rfl) hmg⟩

/-- 二つの command と Reconfigure が "g" に交錯しても、command は "g" の group にだけ触れる。 -/
theorem commands_act_on_their_group_run :
    let m := stateOf (StartConsumerGroup Env.ok "g" (NewConsumerGroupManager [] 0))
    let ts : List Thread := [.command .stopConsumerGroup ⟨"T", true, false⟩ "g" .lockBefore,
      .reconfigure ["new"] 1 .snapshot, .command .startConsumerGroup ⟨"T", false, true⟩ "g" .lockBefore]
    (∀ t ∈ ts, t.mapReader = true) ∧
      ((Sys.init m ts).run Env.ok [0, 1, 0, 1, 1, 0, 2, 1, 2, 0, 2]).m.groups = m.groups ∧
      ∀ i op lock g pc, ts[i]? = some (.command op lock g pc) →
        ∀ a, (i, a) ∈ ((Sys.init m ts).run Env.ok [0, 1, 0, 1, 1, 0, 2, 1, 2, 0, 2]).log →
          ∀ mg, a.group = some mg → m.groups.lookup g = some mg :=
  ⟨by decide, commands_act_on_their_group Env.ok _ _ (by decide) _⟩

/-- map を書き換える呼び出しが重なると成り立たない："T" の command は "X" が lock した group を止める。 -/
theorem command_stops_group_locked_by_other :
    ∃ s, (Sys.init (stateOf (StartConsumerGroup Env.ok "g" (NewConsumerGroupManager [] 0)))
        [.command .stopConsumerGroup ⟨"T", true, false⟩ "g" .lockBefore,
          .closeGroup "g" .getGroup, .startGroup "g" .create,
          .command .stopConsumerGroup ⟨"X", true, false⟩ "g" .lockBefore]).run Env.ok
        [0, 0, 1, 1, 1, 2, 2, 2, 2, 3, 3, 0, 0] = s ∧
      (0, .locked 0) ∈ s.log ∧ (0, .stopped 1) ∈ s.log ∧ (0, .locked 1) ∉ s.log ∧
      (s.m.managed 1).status = .stopped ∧ (s.m.managed 1).lockedBy = some "X" :=
  ⟨_, rfl, by decide⟩

end Consumer
