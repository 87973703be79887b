import ConsumerGroupManager.Concurrent.Serial
import ConsumerGroupManager.Concurrent.Lifecycle

/-!
# `Close()` に失敗した `CloseConsumerGroup` の後、id は閉じた group を指したまま残る

`CloseConsumerGroup(g)` は `managedGrp.close()` が error を返すと、`removeGroup` の前にその error を返す。
`close()` は session の `Close()` が失敗しても group を Closed にする（spec §4.2 の `close()`。
`managed_group.go` は src/ になく、`close` は spec から模型にした）。だから `g` は Closed の group を
指したまま map に残る。Closed の group の `close()` は "group closed" を返すので、その後の
`CloseConsumerGroup(g)` はどれも失敗し、`g` は map から外れない。`StartConsumerGroup(g)` が上書きするまで、
`IsManaged(g)` は真で、`Errors(g)` は閉じた group の channel を返し続ける。

group が Closed のままであることは、逐次の実行でも §4.2 の状態機械が守られることから来る。
逐次の実行は goroutine の模型の直列な実行なので（`serial_run`）、`Sys.run_follows` をそのまま使える
（`run_follows_lifecycle`）。
-/

namespace Consumer

variable {env : Env} {version : UInt16} {g : String} {mg : Nat} {m : Manager}

/-! ## 逐次の実行と状態機械 -/

/-- **逐次の実行も、作られた managed group を §4.2 の状態機械に沿って動かす。** -/
theorem run_follows_lifecycle (env : Env) (version : UInt16) (rs : List Request) (m : Manager) :
    m.nextManaged ≤ (run env version rs m).2.nextManaged ∧ ∀ mg < m.nextManaged,
      Relation.ReflTransGen Lifecycle (m.managed mg).status ((run env version rs m).2.managed mg).status := by
  obtain ⟨sched, -, -, hm, -⟩ :=
    serial_run env version rs (Sys.init m (rs.filterMap (Request.thread version))) [] []
      (by rw [List.nil_append, List.append_nil]; rfl) (List.forall_mem_nil _)
  have hm' : (run env version rs m).2 = _ := hm.symm
  rw [hm']
  exact Sys.run_follows env (Sys.init m _) sched

/-! ## 閉じた group を指したままの id -/

/-- id `g` が、作られた Closed の group `mg` を指している。 -/
structure Stuck (g : String) (mg : Nat) (m : Manager) : Prop where
  lookup : m.groups.lookup g = some mg
  closed : (m.managed mg).status = .closed
  lt : mg < m.nextManaged

/-- 閉じた group への `CloseConsumerGroup` は "group closed" で失敗し、何も変えない。 -/
theorem CloseConsumerGroup_of_stuck (h : Stuck g mg m) : CloseConsumerGroup env g m = .error .groupClosed m := by
  rw [CloseConsumerGroup_some h.lookup, bind_apply]
  simp only [close, h.closed]

/-- `g` への `StartConsumerGroup` と `CloseConsumerGroup` のほかの要求は、`g` の項を変えない。 -/
theorem handle_lookup {r : Request} (hs : r ≠ .startConsumerGroup g) (hc : r ≠ .closeConsumerGroup g) :
    (handle env version r m).2.groups.lookup g = m.groups.lookup g := by
  cases r with
  | startConsumerGroup g' =>
    have hne : g ≠ g' := fun h => hs (h ▸ rfl)
    cases h : StartConsumerGroup env g' m with
    | ok u m' =>
      obtain ⟨mg', hmg⟩ := StartConsumerGroup_ok_groups h
      simp only [handle, errReply, h, hmg, AList.lookup_insert_ne hne]
    | error e m' => simp only [handle, errReply, h, StartConsumerGroup_error_groups h]
  | closeConsumerGroup g' =>
    have hne : g ≠ g' := fun h => hc (h ▸ rfl)
    cases h : CloseConsumerGroup env g' m with
    | ok u m' => simp only [handle, errReply, h, CloseConsumerGroup_ok_groups h, AList.lookup_erase_ne hne]
    | error e m' => simp only [handle, errReply, h, CloseConsumerGroup_error_groups h]
  | _ => exact congrArg (AList.lookup g) (handle_groups (by rfl))

/-- **`StartConsumerGroup(g)` のほかの要求は、`g` を閉じた group に留める。** `CloseConsumerGroup(g)` は
"group closed" を返す。 -/
theorem Stuck.step (env : Env) (version : UInt16) {r : Request} (h : Stuck g mg m)
    (hs : r ≠ .startConsumerGroup g) :
    Stuck g mg (handle env version r m).2 ∧
      (r = .closeConsumerGroup g → (handle env version r m).1 = .err (some .groupClosed)) := by
  by_cases hc : r = .closeConsumerGroup g
  · subst hc
    simp only [handle, CloseConsumerGroup_of_stuck h, errReply]
    exact ⟨h, fun _ => trivial⟩
  · -- 状態機械は Closed から出ない
    obtain ⟨hn, hst⟩ := run_follows_lifecycle env version [r] m
    refine ⟨⟨(handle_lookup hs hc).trans h.lookup, ?_, Nat.lt_of_lt_of_le h.lt hn⟩, fun h' => absurd h' hc⟩
    exact Lifecycle.closed_of_reaches (h.closed ▸ hst mg h.lt)

/-- 要求の列についての帰納法。 -/
theorem Stuck.run (env : Env) (version : UInt16) {rs : List Request} (hrs : ∀ r ∈ rs, r ≠ .startConsumerGroup g)
    (h : Stuck g mg m) :
    Stuck g mg (run env version rs m).2 ∧
      ∀ p ∈ (run env version rs m).1, p.1 = .closeConsumerGroup g → p.2 = .err (some .groupClosed) := by
  induction rs generalizing m with
  | nil => exact ⟨h, fun _ hp => (List.not_mem_nil _ hp).elim⟩
  | cons r rs ih =>
    obtain ⟨h₁, hreply⟩ := h.step env version (hrs r (.head _))
    obtain ⟨h₂, hreplies⟩ := ih (fun r' hr' => hrs r' (.tail _ hr')) h₁
    simp only [run, List.mem_cons, forall_eq_or_imp]
    exact ⟨h₂, hreply, hreplies⟩

/-- session の `Close()` が失敗した `CloseConsumerGroup` は、group を Closed にして map に残す。 -/
theorem Stuck.of_close_failed {k : Nat} {m' : Manager} (hlt : ∀ mg, m.groups.lookup g = some mg → mg < m.nextManaged)
    (hc : CloseConsumerGroup env g m = .error (.close k) m') :
    ∃ mg, m.groups.lookup g = some mg ∧ (m.managed mg).status = .running k ∧ Stuck g mg m' := by
  cases hg : m.groups.lookup g with
  | none => rw [CloseConsumerGroup_none hg] at hc; cases hc
  | some mg =>
    rw [CloseConsumerGroup_some hg] at hc
    rcases bind_eq_error hc with hc | ⟨_, _, _, hc⟩
    · rcases close_error hc with ⟨k', hk', -, hkk, rfl⟩ | ⟨-, he, -⟩
      · cases hkk
        exact ⟨mg, rfl, hk', ⟨hg, by simp, hlt mg hg⟩⟩
      · cases he
    · cases hc

/-- **`Close()` に失敗した `CloseConsumerGroup(g)` の後、`g` は閉じた group を指したまま動かない。** -/
theorem failed_close_leaves_group_registered (env : Env) (version : UInt16) (m : Manager) (g : String) (k : Nat)
    (m' : Manager) (hlt : ∀ mg, m.groups.lookup g = some mg → mg < m.nextManaged)
    (hc : CloseConsumerGroup env g m = .error (.close k) m') (rs : List Request)
    (hrs : ∀ r ∈ rs, r ≠ .startConsumerGroup g) :
    ∃ mg, m.groups.lookup g = some mg ∧ (m.managed mg).status = .running k ∧
      Errors g (run env version rs m').2 = some mg ∧ ((run env version rs m').2.managed mg).status = .closed ∧
      ∀ p ∈ (run env version rs m').1, p.1 = .closeConsumerGroup g → p.2 = .err (some .groupClosed) := by
  obtain ⟨mg, hg, hrun, hs⟩ := Stuck.of_close_failed hlt hc
  obtain ⟨hs', hreplies⟩ := hs.run env version hrs
  exact ⟨mg, hg, hrun, hs'.lookup, hs'.closed, hreplies⟩

/-- `Close()` がいつも失敗する環境で、"a" は閉じた group 0 を指したまま残る。 -/
theorem failed_close_leaves_group_registered_run :
    let env : Env := ⟨fun _ => true, fun _ => false⟩
    let m := (run env 1 [.startConsumerGroup "a"] (NewConsumerGroupManager [] 0)).2
    let rs : List Request := [.closeConsumerGroup "a", .isManaged "a",
      .command .stopConsumerGroup (some ⟨1, "a", ⟨"T", true, true⟩⟩), .reconfigure ["b"] 1, .closeConsumerGroup "a"]
    (∀ mg, m.groups.lookup "a" = some mg → mg < m.nextManaged) ∧
      CloseConsumerGroup env "a" m = .error (.close 0) (stateOf (CloseConsumerGroup env "a" m)) ∧
      (∀ r ∈ rs, r ≠ .startConsumerGroup "a") ∧
      ∃ mg, m.groups.lookup "a" = some mg ∧ (m.managed mg).status = .running 0 ∧
        Errors "a" (run env 1 rs (stateOf (CloseConsumerGroup env "a" m))).2 = some mg ∧
        ((run env 1 rs (stateOf (CloseConsumerGroup env "a" m))).2.managed mg).status = .closed ∧
        ∀ p ∈ (run env 1 rs (stateOf (CloseConsumerGroup env "a" m))).1, p.1 = .closeConsumerGroup "a" →
          p.2 = .err (some .groupClosed) :=
  have hlt := (accounted_run 1 [.startConsumerGroup "a"] _ (Accounted.init [] 0) (by decide)).mapped_lt "a"
  ⟨hlt, rfl, by decide, failed_close_leaves_group_registered ⟨fun _ => true, fun _ => false⟩ 1 _ "a" 0 _ hlt rfl _
    (by decide)⟩

end Consumer
