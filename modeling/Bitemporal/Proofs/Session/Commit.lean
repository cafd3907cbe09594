/-
This file follows the commit of a session through the replies of a node.
-/
import Bitemporal.Proofs.Json.RoundTrip
import Bitemporal.Proofs.Node.Encoding
import Bitemporal.Proofs.Session.Buffer
import Mathlib.Data.Bool.AllAny

namespace Bitemporal

/-! ## Receipts -/

namespace Receipt

/-- The members of a receipt as it is written. -/
def members (receipt : Receipt) : List (String × Json) :=
  [("txId", unsignedJson receipt.transactionId),
    ("txTime", optionalJson .string receipt.transactionTime)]

theorem toNat_lt_unsignedLimit (value : UInt64) : (value.toNat : Int) < Json.unsignedLimit := by
  have bounded := value.toNat_lt
  rw [Json.unsignedLimit]
  omega

theorem unsigned?_unsignedJson (value : UInt64) : (unsignedJson value).unsigned? = some value := by
  simp [unsignedJson, Json.unsigned?, toNat_lt_unsignedLimit]

theorem wellFormed_unsignedJson (value : UInt64) : (unsignedJson value).WellFormed := by
  refine ⟨?_, toNat_lt_unsignedLimit value⟩
  rw [Json.signedLimit]
  omega

theorem id_members (receipt : Receipt) :
    (receipt.members.lookup "txId").bind Json.unsigned? = some receipt.transactionId := by
  rw [members, List.lookup_cons_self, Option.bind_some, unsigned?_unsignedJson]

theorem time_members (receipt : Receipt) :
    optionalField Json.string? receipt.members "txTime" = some receipt.transactionTime := by
  rcases receipt with ⟨id, _ | time⟩ <;> rfl

theorem readsBack_members (receipt : Receipt) :
    ∀ number ∈ (Json.object receipt.members).floats, Json.ReadsBack number := by
  rcases receipt with ⟨id, _ | time⟩ <;>
    simp [members, unsignedJson, optionalJson, Json.floats, Json.floatsOfMembers]

theorem wellFormed_members (receipt : Receipt) : (Json.object receipt.members).WellFormed := by
  have ascending : "txId" < "txTime" := by decide
  refine ⟨List.pairwise_pair.mpr ascending, wellFormed_unsignedJson _, ?_⟩
  cases receipt.transactionTime <;> exact ⟨trivial, trivial⟩

theorem depth_members (receipt : Receipt) : (Json.object receipt.members).depth = 1 := by
  rcases receipt with ⟨id, _ | time⟩ <;> rfl

theorem read_eq (text : String) :
    read text =
      (Json.readRecord fields text).bind fun members =>
        ((members.lookup "txId").bind Json.unsigned?).bind fun id =>
          (optionalField Json.string? members "txTime").bind fun time => some ⟨id, time⟩ := rfl

/-- Every receipt is read back, whatever its id is. -/
theorem read_text (receipt : Receipt) : read receipt.text = some receipt := by
  have written : receipt.text = (Json.object receipt.members).text := rfl
  have known : ∀ member ∈ receipt.members, member.1 ∈ fields := by simp [members, fields]
  have fits : (Json.object receipt.members).depth ≤ Json.depthLimit := by
    rw [depth_members]
    decide
  rw [read_eq, written, Json.readRecord_text known receipt.readsBack_members
    receipt.wellFormed_members fits, Option.bind_some, id_members, Option.bind_some, time_members,
    Option.bind_some]

end Receipt

namespace Client

/-! ## Submissions -/

/-- The id is asked for in plain decimal digits. -/
theorem target_awaiting (id : UInt64) (base : String) :
    (awaiting id).target base = base ++ "/await-tx?tx-id=" ++ toString id.toNat := by
  have plain : Parameters.encoded (toString id.toNat) = toString id.toNat := by
    apply Parameters.encoded_of_standsForItself
    intro digit member
    rw [Digits.toList_toString] at member
    exact Parameters.standsForItself_of_isDigit (Digits.isDigit_of_mem_toDigits _ digit member)
  have name : Parameters.encoded "tx-id" = "tx-id" :=
    Parameters.encoded_of_standsForItself (List.all_iff_forall_prop.mp rfl)
  have joined : "/await-tx?tx-id=" = "/" ++ awaitingPath ++ ("?" ++ ("tx-id" ++ "=")) := by decide
  rw [Request.target, awaiting, Parameters.text_singleton, name, plain, joined]
  simp only [String.append_assoc]

theorem target_submission (clock : Clock) (transaction : Transaction) (base : String) :
    (submission clock transaction).target base = base ++ "/submit-tx" := by
  have joined : "/submit-tx" = "/" ++ submissionPath := by decide
  rw [Request.target, submission, Parameters.text, joined]
  simp [String.append_assoc]

variable {clock : Clock} {transaction : Transaction} {first second : Reply}

/-- What a submission comes to if these are the next replies. -/
inductive Submitted (clock : Clock) (transaction : Transaction) (first second : Reply) :
    List (Request × Reply) → Outcome Receipt → Prop where
  | refused {reason : Error} (fails : Fails Receipt.read first reason) :
      Submitted clock transaction first second [(submission clock transaction, first)]
        (.error reason)
  | unawaited {receipt : Receipt} {reason : Error} (gives : Gives Receipt.read first receipt)
      (fails : Fails Json.read second reason) :
      Submitted clock transaction first second
        [(submission clock transaction, first), (awaiting receipt.transactionId, second)]
        (.error reason)
  | indexed {receipt : Receipt} {value : Json} (gives : Gives Receipt.read first receipt)
      (answered : Gives Json.read second value) :
      Submitted clock transaction first second
        [(submission clock transaction, first), (awaiting receipt.transactionId, second)]
        (.ok receipt)

theorem submitted_submit (clock : Clock) (transaction : Transaction) (script : Exchange.Script) :
    Submitted clock transaction script.next.1 script.next.2.next.1
      ((submit clock transaction).record script).turns
      ((submit clock transaction).record script).value := by
  rw [submit_eq]
  rcases gives_or_fails Receipt.read script.next.1 with ⟨receipt, gives⟩ | ⟨reason, fails⟩
  · rw [record_sendFor_bind_of_gives gives, awaited]
    rcases gives_or_fails Json.read script.next.2.next.1 with ⟨value, answered⟩ | ⟨reason, fails⟩
    · rw [record_sendFor_bind_of_gives answered]
      exact .indexed gives answered
    · rw [record_sendFor_bind_of_fails fails]
      exact .unawaited gives fails
  · rw [record_sendFor_bind_of_fails fails]
    exact .refused fails

variable {turns : List (Request × Reply)}

/-- The second request is asked after a receipt, and only then. -/
theorem Submitted.awaits_iff {outcome : Outcome Receipt}
    (submitted : Submitted clock transaction first second turns outcome) :
    (∃ turn ∈ turns, turn.1.path = awaitingPath) ↔ ∃ receipt, Gives Receipt.read first receipt := by
  have apart : submissionPath ≠ awaitingPath := by decide
  cases submitted with
  | refused fails =>
      simp only [List.mem_singleton, exists_eq_left, submission, apart, false_iff]
      exact fun ⟨receipt, gives⟩ => fails.not_gives receipt gives
  | unawaited gives fails | indexed gives answered =>
      exact iff_of_true ⟨_, List.mem_cons_of_mem _ List.mem_cons_self, rfl⟩ ⟨_, gives⟩

theorem Submitted.turns_of_gives {outcome : Outcome Receipt} {receipt : Receipt}
    (submitted : Submitted clock transaction first second turns outcome)
    (taken : Gives Receipt.read first receipt) :
    turns = [(submission clock transaction, first),
      (awaiting receipt.transactionId, second)] := by
  cases submitted with
  | refused fails => exact absurd taken (fails.not_gives receipt)
  | unawaited gives fails | indexed gives answered => rw [gives.unique taken]

theorem Submitted.ok_iff {outcome : Outcome Receipt} {receipt : Receipt}
    (submitted : Submitted clock transaction first second turns outcome) :
    outcome = .ok receipt ↔
      Gives Receipt.read first receipt ∧ ∃ value, Gives Json.read second value := by
  cases submitted with
  | refused fails =>
      exact ⟨nofun, fun ⟨gives, _⟩ => absurd gives (fails.not_gives receipt)⟩
  | unawaited gives fails =>
      exact ⟨nofun, fun ⟨_, value, answered⟩ => absurd answered (fails.not_gives value)⟩
  | indexed gives answered =>
      rw [Except.ok.injEq]
      exact ⟨fun same => same ▸ ⟨gives, _, answered⟩, fun ⟨again, _⟩ => gives.unique again⟩

theorem Submitted.error_iff {outcome : Outcome Receipt} {reason : Error}
    (submitted : Submitted clock transaction first second turns outcome) :
    outcome = .error reason ↔
      Fails Receipt.read first reason ∨
        ∃ receipt, Gives Receipt.read first receipt ∧ Fails Json.read second reason := by
  cases submitted with
  | refused fails =>
      rw [Except.error.injEq]
      refine ⟨fun same => .inl (same ▸ fails), ?_⟩
      rintro (again | ⟨receipt, gives, _⟩)
      · exact fails.unique again
      · exact absurd gives (fails.not_gives receipt)
  | @unawaited receipt other gives fails =>
      rw [Except.error.injEq]
      refine ⟨fun same => .inr ⟨receipt, gives, same ▸ fails⟩, ?_⟩
      rintro (failed | ⟨_, _, again⟩)
      · exact absurd gives (failed.not_gives receipt)
      · exact fails.unique again
  | @indexed receipt value gives answered =>
      refine ⟨nofun, ?_⟩
      rintro (failed | ⟨_, _, failed⟩)
      · exact absurd gives (failed.not_gives receipt)
      · exact absurd answered (failed.not_gives value)

/-! ## Commits -/

/-- What a commit of these operations comes to if these are the next replies. -/
inductive Committed (clock : Clock) (pending : Transaction) (first second : Reply) :
    List (Request × Reply) → Outcome (Option Receipt) → Prop where
  | idle (nothing : pending.operations = []) : Committed clock pending first second [] (.ok none)
  | sent {turns : List (Request × Reply)} {outcome : Outcome Receipt}
      (something : pending.operations ≠ [])
      (submitted : Submitted clock pending first second turns outcome) :
      Committed clock pending first second turns (outcome.map some)

theorem map_some_eq_ok_iff {outcome : Outcome Receipt} {receipt : Receipt} :
    outcome.map some = .ok (some receipt) ↔ outcome = .ok receipt := by
  cases outcome <;> simp [Except.map]

theorem map_some_eq_error_iff {outcome : Outcome Receipt} {reason : Error} :
    outcome.map some = .error reason ↔ outcome = .error reason := by
  cases outcome <;> simp [Except.map]

variable {pending : Transaction} {outcome : Outcome (Option Receipt)}

theorem Committed.awaits_iff (committed : Committed clock pending first second turns outcome) :
    (∃ turn ∈ turns, turn.1.path = awaitingPath) ↔
      pending.operations ≠ [] ∧ ∃ receipt, Gives Receipt.read first receipt := by
  cases committed with
  | idle nothing => simp [nothing]
  | sent something submitted =>
      rw [submitted.awaits_iff]
      exact ⟨fun given => ⟨something, given⟩, fun given => given.2⟩

/-- After a receipt there are both requests, whatever the second reply is. -/
theorem Committed.turns_of_gives {receipt : Receipt}
    (committed : Committed clock pending first second turns outcome)
    (something : pending.operations ≠ []) (taken : Gives Receipt.read first receipt) :
    turns = [(submission clock pending, first), (awaiting receipt.transactionId, second)] := by
  cases committed with
  | idle nothing => exact absurd nothing something
  | sent _ submitted => exact submitted.turns_of_gives taken

theorem Committed.ok_iff {receipt : Receipt}
    (committed : Committed clock pending first second turns outcome) :
    outcome = .ok (some receipt) ↔
      pending.operations ≠ [] ∧ Gives Receipt.read first receipt ∧
        ∃ value, Gives Json.read second value := by
  cases committed with
  | idle nothing => simp [nothing]
  | sent something submitted =>
      rw [map_some_eq_ok_iff, submitted.ok_iff]
      exact ⟨fun given => ⟨something, given⟩, fun given => given.2⟩

theorem Committed.error_iff {reason : Error}
    (committed : Committed clock pending first second turns outcome) :
    outcome = .error reason ↔
      pending.operations ≠ [] ∧
        (Fails Receipt.read first reason ∨
          ∃ receipt, Gives Receipt.read first receipt ∧ Fails Json.read second reason) := by
  cases committed with
  | idle nothing => simp [nothing]
  | sent something submitted =>
      rw [map_some_eq_error_iff, submitted.error_iff]
      exact ⟨fun failed => ⟨something, failed⟩, fun failed => failed.2⟩

end Client

namespace Session

theorem committed_commit (session : Session) (clock : Clock) (script : Exchange.Script) :
    Client.Committed clock session.pending script.next.1 script.next.2.next.1
      ((session.commit clock).2.record script).turns
      ((session.commit clock).2.record script).value := by
  unfold commit
  split
  case isTrue empty => exact .idle (List.isEmpty_iff.mp empty)
  case isFalse filled =>
    have something : session.pending.operations ≠ [] := fun nothing => filled (by
      simp [Transaction.isEmpty, nothing])
    let submitting := Client.submit clock session.pending
    show Client.Committed clock session.pending _ _
      ((submitting >>= fun receipt => pure (some receipt)).record script).turns
      ((submitting >>= fun receipt => pure (some receipt)).record script).value
    rw [Call.record_bind_pure]
    exact .sent something (Client.submitted_submit clock session.pending script)

/-- A commit asks at most twice, each request once. It gives the receipt in the first reply if the
second reply is good too, and else the reason of the first reply that is not. The first request
holds the pending operations in their order, and all of them are read back from it. Any receipt can
be read from a reply, and its id is asked for in full; any value with a text of its own can be read
from the second reply. The buffer is empty afterwards. -/
theorem commit_follows_replies (session : Session) (clock : Clock) (script : Exchange.Script) :
    let record := (session.commit clock).2.record script
    let first := script.next.1
    let second := script.next.2.next.1
    (session.commit clock).1.pending.operations = [] ∧
      Client.Committed clock session.pending first second record.turns record.value ∧
      ((∃ turn ∈ record.turns, turn.1.path = Client.awaitingPath) ↔
        session.pending.operations ≠ [] ∧ ∃ receipt, Client.Gives Receipt.read first receipt) ∧
      (∀ receipt, record.value = .ok (some receipt) ↔
        session.pending.operations ≠ [] ∧ Client.Gives Receipt.read first receipt ∧
          ∃ answer, Client.Gives Json.read second answer) ∧
      (∀ reason, record.value = .error reason ↔
        session.pending.operations ≠ [] ∧
          (Client.Fails Receipt.read first reason ∨
            ∃ receipt, Client.Gives Receipt.read first receipt ∧
              Client.Fails Json.read second reason)) ∧
      (∀ receipt : Receipt, Receipt.read receipt.text = some receipt) ∧
      (∀ value : Json, value.WellFormed → value.depth ≤ Json.depthLimit →
        (∀ number ∈ value.floats, Json.ReadsBack number) → Json.read value.text = some value) ∧
      session.pending.IsBody clock (session.pending.text clock) ∧
      ∀ base,
        (Client.submission clock session.pending).method = "POST" ∧
          (Client.submission clock session.pending).target base = base ++ "/submit-tx" ∧
          (Client.submission clock session.pending).body =
            some ⟨"application/json", session.pending.text clock⟩ ∧
          ∀ id : UInt64, (Client.awaiting id).method = "GET" ∧
            (Client.awaiting id).target base =
              base ++ "/await-tx?tx-id=" ++ toString id.toNat := by
  have committed := session.committed_commit clock script
  refine ⟨?_, committed, committed.awaits_iff, fun _ => committed.ok_iff,
    fun _ => committed.error_iff, Receipt.read_text, fun value wellFormed fits readsBack =>
      Json.read_text readsBack wellFormed fits, session.pending.isBody_text clock, fun base =>
        ⟨rfl, Client.target_submission clock session.pending base, rfl, fun id =>
          ⟨rfl, Client.target_awaiting id base⟩⟩⟩
  exact List.isEmpty_iff.mp (SessionCall.isEmpty_pending_commit session clock)

/-- The greatest id that a receipt can have. -/
def lastReceipt : Receipt := ⟨18446744073709551615, some "1972-01-01T00:00:03Z"⟩

/-- What the node answers once it has indexed a transaction. -/
def indexedAnswer : Json := .object [("txTime", .string "1972-01-01T00:00:03Z")]

/-- The node takes the transaction and indexes it. -/
theorem commit_follows_replies_moved :
    let record := (commit ⟨SessionRun.moved⟩ SessionRun.ticking).2.record
      ⟨[some ⟨202, lastReceipt.text⟩, some ⟨200, indexedAnswer.text⟩], none⟩
    record.value = .ok (some lastReceipt) ∧
      (∃ turn ∈ record.turns, turn.1.path = Client.awaitingPath) ∧
      record.turns.map (fun turn => (turn.1.method, turn.1.target "http://node")) =
        [("POST", "http://node/submit-tx"),
          ("GET", "http://node/await-tx?tx-id=18446744073709551615")] ∧
      ∃ body, record.turns.map (fun turn => turn.1.body) =
          [some ⟨"application/json", body⟩, none] ∧
        Transaction.storedOperations body = some SessionRun.movedForms := by
  intro record
  obtain ⟨_, committed, awaits, gives, _, receipts, values, isBody, requests⟩ :=
    commit_follows_replies ⟨SessionRun.moved⟩ SessionRun.ticking
      ⟨[some ⟨202, lastReceipt.text⟩, some ⟨200, indexedAnswer.text⟩], none⟩
  have something : SessionRun.moved.operations ≠ [] := List.cons_ne_nil _ _
  have taken : Client.Gives Receipt.read (some ⟨202, lastReceipt.text⟩) lastReceipt :=
    ⟨_, rfl, ⟨show 200 ≤ 202 by decide, show 202 < 300 by decide⟩, receipts lastReceipt⟩
  have wellFormed : indexedAnswer.WellFormed := ⟨List.pairwise_singleton _ _, trivial, trivial⟩
  have floatless : ∀ number ∈ indexedAnswer.floats, Json.ReadsBack number :=
    List.forall_mem_nil _
  have indexed : Client.Gives Json.read (some ⟨200, indexedAnswer.text⟩) indexedAnswer :=
    ⟨_, rfl, ⟨le_rfl, show 200 < 300 by decide⟩, values _ wellFormed (by decide) floatless⟩
  have turns : record.turns = [(Client.submission SessionRun.ticking SessionRun.moved, _),
      (Client.awaiting lastReceipt.transactionId, _)] :=
    committed.turns_of_gives something taken
  obtain ⟨posted, submitted, sent, awaited⟩ := requests "http://node"
  obtain ⟨got, asked⟩ := awaited lastReceipt.transactionId
  refine ⟨(gives lastReceipt).mpr ⟨something, taken, _, indexed⟩,
    awaits.mpr ⟨something, _, taken⟩, ?_, _, ?_, isBody.listed SessionRun.isReadable_moved⟩
  · rw [turns, List.map_cons, List.map_cons, List.map_nil, posted, submitted, got, asked]
    rfl
  · rw [turns, List.map_cons, List.map_cons, List.map_nil, sent]
    rfl

/-- The node takes the transaction and fails while it is waited for. -/
example :
    let session := empty.callFunction "move" []
    let record := (session.commit "1971-01-01T00:00:00+00:00").2.record
      ⟨[some ⟨202, "\x7b\"txId\":18446744073709551615\x7d"⟩, some ⟨503, "late"⟩], none⟩
    record.value = .error (.refused 503 "late") ∧
      record.turns.map (fun turn => turn.1.parameters) =
        [[], [("tx-id", "18446744073709551615")]] :=
  ⟨rfl, rfl⟩

end Session

end Bitemporal
