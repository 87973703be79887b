import Mathlib.Data.List.AList

/-!
# consumer group manager が扱う値

`consumer_manager.go` の型と error。src/ にない `managed_group.go` の `start` と `processLock` は
spec §4.2 から書く。session は `Status.running` の中にしかないので、spec の不変量 2 は型が守る。
-/

namespace Consumer

/-- Reconfigure が内部の操作に使う token（`internalToken`）。 -/
def internalToken : String := "internal-token"

/-- control-protocol の command が運ぶ lock（`commands.CommandLock`）。 -/
structure CommandLock where
  token : String
  lockBefore : Bool
  unlockAfter : Bool
  deriving DecidableEq, Repr

/-- factory の設定（`kafkaConsumerGroupFactoryImpl`）。`*sarama.Config` は番号で表す。 -/
structure Factory where
  config : Nat
  addrs : List String
  deriving DecidableEq, Repr

/-- factory が作った sarama の ConsumerGroup。 -/
structure Session where
  groupId : String
  factory : Factory
  closed : Bool
  deriving DecidableEq, Repr

instance : Inhabited Session := ⟨⟨"", ⟨0, []⟩, false⟩⟩

inductive Status where
  | running (session : Nat)
  | stopped
  | closed
  deriving DecidableEq, Repr

/-- `managedGroup` のうち manager が読み書きする部分。 -/
structure ManagedGroup where
  status : Status
  lockedBy : Option String
  deriving DecidableEq, Repr

instance : Inhabited ManagedGroup := ⟨⟨.closed, none⟩⟩

/-! ## error -/

/-- manager が返す error。`factory` は何回目の factory 呼び出しか、`close` は session の番号を持つ。 -/
inductive Err where
  | closeNotManaged (groupId : String)
  | consumeNotManaged (groupId : String)
  | stopNotManaged (groupId : String)
  | startNotManaged (groupId : String)
  | versionMismatch (expected got : UInt16)
  | factory (attempt : Nat)
  | close (session : Nat)
  | lockConflict (token holder : String)
  | notRunning
  | groupClosed
  | alreadyRunning
  deriving DecidableEq, Repr

/-- Go の `fmt.Errorf` の文言。この file にない error は `none`。 -/
def Err.message : Err → Option String
  | .closeNotManaged g => some ("could not close consumer group with id \x27" ++ g ++
      "\x27 - group is not present in the managed map")
  | .consumeNotManaged g => some ("consume called on nonexistent groupId \x27" ++ g ++ "\x27")
  | .stopNotManaged g => some ("stop requested for consumer group not in managed list: " ++ g)
  | .startNotManaged g => some ("start requested for consumer group not in managed list: " ++ g)
  | .versionMismatch e g => some ("version mismatch; expected " ++ toString e.toNat ++
      " but got " ++ toString g.toNat)
  | _ => none

/-- map にない group を指した error の文言は、どれもその id を含む。 -/
theorem Err.message_names_group (g : String) {e : Err}
    (he : e = .closeNotManaged g ∨ e = .consumeNotManaged g ∨ e = .stopNotManaged g ∨
      e = .startNotManaged g) :
    ∃ s, e.message = some s ∧ g.data <:+: s.data := by
  rcases he with rfl | rfl | rfl | rfl <;> refine ⟨_, rfl, ?_⟩ <;> simp only [String.data_append] <;>
    first | exact List.infix_append _ _ _ | exact (List.suffix_append _ _).isInfix

/-! ## managed group の遷移 -/

namespace ManagedGroup

/-- Modelled from the spec: `managedGroup.start`（§4.2）。Stopped からのみ Running に移る。 -/
def start (g : ManagedGroup) (session : Nat) : Except Err ManagedGroup :=
  match g.status with
  | .stopped => .ok { g with status := .running session }
  | .running _ => .error .alreadyRunning
  | .closed => .error .groupClosed

/-- この段で lock を扱うか。 -/
def acts (lock : CommandLock) (before : Bool) : Bool :=
  if before then lock.lockBefore else lock.unlockAfter

/-- Modelled from the spec: `managedGroup.processLock`（§4.2 の lock discipline）。 -/
def processLock (g : ManagedGroup) (lock : CommandLock) (before : Bool) :
    Except Err ManagedGroup :=
  if acts lock before then
    match g.lockedBy with
    | some holder =>
      if holder = lock.token then
        .ok { g with lockedBy := if before then some lock.token else none }
      else .error (.lockConflict lock.token holder)
    | none => .ok { g with lockedBy := if before then some lock.token else none }
  else .ok g

theorem start_lockedBy {g g' : ManagedGroup} {k : Nat} (h : g.start k = .ok g') :
    g'.lockedBy = g.lockedBy := by
  unfold start at h
  split at h <;> cases h
  rfl

/-- **`start` が成功するのは Stopped からだけで、渡した session で Running になる。** -/
theorem start_eq_ok {g g' : ManagedGroup} {k : Nat} :
    g.start k = .ok g' ↔ g.status = .stopped ∧ g' = { g with status := .running k } := by
  obtain ⟨st, l⟩ := g
  cases st <;> simp [start, eq_comm]

theorem processLock_status {g g' : ManagedGroup} {lock : CommandLock} {before : Bool}
    (h : g.processLock lock before = .ok g') : g'.status = g.status := by
  unfold processLock at h
  split at h
  · split at h
    · split at h <;> cases h
      rfl
    · cases h; rfl
  · cases h; rfl

theorem processLock_lockedBy {g g' : ManagedGroup} {lock : CommandLock} {before : Bool}
    (h : g.processLock lock before = .ok g') :
    g'.lockedBy = if acts lock before then (if before then some lock.token else none)
      else g.lockedBy := by
  unfold processLock at h
  split at h
  · rw [if_pos ‹_›]
    split at h
    · split at h <;> cases h
      rfl
    · cases h; rfl
  · cases h
    rw [if_neg ‹_›]

/-- **`processLock` が失敗するのは、この段で lock を扱い、別の token が持っているときだけ。** -/
theorem processLock_eq_error {g : ManagedGroup} {lock : CommandLock} {before : Bool} {e : Err} :
    g.processLock lock before = .error e ↔
      acts lock before = true ∧ ∃ holder, g.lockedBy = some holder ∧ holder ≠ lock.token ∧
        e = .lockConflict lock.token holder := by
  unfold processLock
  cases hacts : acts lock before with
  | false => simp
  | true =>
    cases g.lockedBy with
    | none => simp
    | some holder =>
      by_cases hh : holder = lock.token
      · simp [hh]
      · simp [hh, eq_comm]

end ManagedGroup

end Consumer
