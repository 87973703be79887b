import ConsumerGroupManager.Manager

/-!
# 逐次の実行

公開の関数の呼び出しと control-protocol の command を一つずつ処理し、要求と返事の trace を返す。
-/

namespace Consumer

inductive Request where
  | reconfigure (brokers : List String) (config : Nat)
  | startConsumerGroup (groupId : String)
  | closeConsumerGroup (groupId : String)
  | errors (groupId : String)
  | isManaged (groupId : String)
  | command (op : OpCode) (parsed : Option ConsumerGroupAsyncCommand)
  deriving DecidableEq, Repr

/-- 要求への返事（Go の戻り値）。`notify none` は返事をしなかった。 -/
inductive Reply where
  | err (e : Option Err)
  | errs (l : List Err)
  | channel (c : Option Nat)
  | managed (b : Bool)
  | notify (n : Option Notification)
  deriving DecidableEq, Repr

section Run

variable (env : Env) (version : UInt16)

def errReply : EStateM.Result Err Manager Unit → Reply × Manager
  | .ok _ m => (.err none, m)
  | .error e m => (.err (some e), m)

def handle : Request → Manager → Reply × Manager
  | .reconfigure brokers config, m =>
    match Reconfigure env brokers config m with
    | .ok errs m' => (.errs errs, m')
    | .error e m' => (.errs [e], m')
  | .startConsumerGroup g, m => errReply (StartConsumerGroup env g m)
  | .closeConsumerGroup g, m => errReply (CloseConsumerGroup env g m)
  | .errors g, m => (.channel (Errors g m), m)
  | .isManaged g, m => (.managed (IsManaged g m), m)
  | .command op parsed, m =>
    match processAsyncGroupNotification version parsed (handler env op) m with
    | .ok n m' => (.notify n, m')
    | .error e m' => (.notify (some (.failed e)), m')

/-- 要求の列を順に処理する。trace は古い順。 -/
def run : List Request → Manager → List (Request × Reply) × Manager
  | [], m => ([], m)
  | r :: rs, m =>
    let y := handle env version r m
    let z := run rs y.2
    ((r, y.1) :: z.1, z.2)

end Run

end Consumer
