import Holdem.Coordinator.Message
import Holdem.Proofs.Json.Wire

/-!
# Messages that survive the wire

Every request and reply of the coordinator is read back from its text. The bodies whose fields are
complete go through one lemma on records; a request to open a table leaves its fields out, and actions
are texts or records of one member, so these two are taken apart by hand.
-/

namespace Holdem

open Wire (Carried)

/-! ## Actions -/

/-- An amount of the action, if it has one, has 128 bits. -/
theorem Action.carried {action : Action}
    (bounded : ∀ amount, action.amount? = some amount → isAmount amount = true) :
    Carried action := by
  cases action with
  | fold | check | call | allIn => exact ⟨.text _, rfl⟩
  | bet amount | raise amount =>
    have amounts := Wire.carried_amount (bounded amount rfl)
    refine ⟨.record (by simpa using Json.Plain.integer amount), ?_⟩
    change (Wire.decode? (Wire.encode amount)).map _ = _
    rw [amounts.decoded, Option.map_some]

/-! ## Bodies -/

@[simp]
theorem DealRequest.carried (body : DealRequest) : Carried body where
  plain := .record (by simp)
  decoded := Json.bind_fields?_record rfl (by decide) (by simp)

@[simp]
theorem DealReply.carried (body : DealReply) : Carried body where
  plain := .record (by simp)
  decoded := Json.bind_fields?_record rfl (by decide) (by simp)

@[simp]
theorem RevealReply.carried (body : RevealReply) : Carried body where
  plain := .record (by simp)
  decoded := Json.bind_fields?_record rfl (by decide) (by simp)

@[simp]
theorem ShowdownReply.carried (body : ShowdownReply) : Carried body where
  plain := .record (by simp)
  decoded := Json.bind_fields?_record rfl (by decide) (by simp)

theorem ActionRequest.carried {body : ActionRequest}
    (bounded : ∀ amount, body.amount = some amount → isAmount amount = true) : Carried body where
  plain := .record (by simp [Wire.carried_amount? bounded])
  decoded := Json.bind_fields?_record rfl (by decide) (by simp [Wire.carried_amount? bounded])

theorem ActionReply.carried {body : ActionReply}
    (bounded : ∀ amount, body.amount = some amount → isAmount amount = true) : Carried body where
  plain := .record (by simp [Wire.carried_amount? bounded])
  decoded := Json.bind_fields?_record rfl (by decide) (by simp [Wire.carried_amount? bounded])

@[simp]
theorem StateReply.carried (body : StateReply) : Carried body where
  plain := .record (by simp)
  decoded := Json.bind_fields?_record rfl (by decide) (by simp)

@[simp]
theorem CardsReply.carried (body : CardsReply) : Carried body where
  plain := .record (by simp)
  decoded := Json.bind_fields?_record rfl (by decide) (by simp)

/-- What a request to open a table leaves out counts as not wished for. -/
theorem CreateRequest.fields?_encode (body : CreateRequest) :
    Json.fields? [.nullable "max_players", .nullable "solo", .nullable "buy_in"]
        (Wire.encode body) =
      some [Wire.encode body.maxPlayers, Wire.encode body.solo, Wire.encode body.buyIn] := by
  rcases body with ⟨_ | maxPlayers, _ | solo, _ | buyIn⟩ <;> rfl

@[simp]
theorem CreateRequest.carried (body : CreateRequest) : Carried body where
  plain := by
    apply Json.Plain.record
    rcases body with ⟨_ | maxPlayers, _ | solo, _ | buyIn⟩ <;> simp
  decoded := by
    change (Json.fields? _ (Wire.encode body) >>= _) = some body
    rw [body.fields?_encode]
    simp

@[simp]
theorem CreateReply.carried (body : CreateReply) : Carried body where
  plain := .record (by simp)
  decoded := Json.bind_fields?_record rfl (by decide) (by simp)

@[simp]
theorem OpenTable.carried (body : OpenTable) : Carried body where
  plain := .record (by simp)
  decoded := Json.bind_fields?_record rfl (by decide) (by simp)

@[simp]
theorem OpenTables.carried (body : OpenTables) : Carried body where
  plain := .record (by simp)
  decoded := Json.bind_fields?_record rfl (by decide) (by simp)

@[simp]
theorem JoinReply.carried (body : JoinReply) : Carried body where
  plain := .record (by simp)
  decoded := Json.bind_fields?_record rfl (by decide) (by simp)

@[simp]
theorem LobbySeat.carried (body : LobbySeat) : Carried body where
  plain := .record (by simp)
  decoded := Json.bind_fields?_record rfl (by decide) (by simp)

@[simp]
theorem Lobby.carried (body : Lobby) : Carried body where
  plain := .record (by simp)
  decoded := Json.bind_fields?_record rfl (by decide) (by simp)

@[simp]
theorem ChainConfig.carried (body : ChainConfig) : Carried body where
  plain := .record (by simp)
  decoded := Json.bind_fields?_record rfl (by decide) (by simp)

@[simp]
theorem CommitteeStatus.carried (body : CommitteeStatus) : Carried body where
  plain := .record (by simp)
  decoded := Json.bind_fields?_record rfl (by decide) (by simp)

/-- Every body and every action is read from the text that is written for it, as long as its amounts
have 128 bits. -/
theorem messages_survive :
    (∀ body : DealRequest, Wire.Survives body) ∧
    (∀ body : DealReply, Wire.Survives body) ∧
    (∀ body : RevealReply, Wire.Survives body) ∧
    (∀ body : ShowdownReply, Wire.Survives body) ∧
    (∀ body : ActionRequest, (∀ amount, body.amount = some amount → isAmount amount = true) →
      Wire.Survives body) ∧
    (∀ body : ActionReply, (∀ amount, body.amount = some amount → isAmount amount = true) →
      Wire.Survives body) ∧
    (∀ body : StateReply, Wire.Survives body) ∧
    (∀ body : CardsReply, Wire.Survives body) ∧
    (∀ body : CreateRequest, Wire.Survives body) ∧
    (∀ body : CreateReply, Wire.Survives body) ∧
    (∀ body : OpenTable, Wire.Survives body) ∧
    (∀ body : OpenTables, Wire.Survives body) ∧
    (∀ body : JoinReply, Wire.Survives body) ∧
    (∀ body : LobbySeat, Wire.Survives body) ∧
    (∀ body : Lobby, Wire.Survives body) ∧
    (∀ body : ChainConfig, Wire.Survives body) ∧
    (∀ body : CommitteeStatus, Wire.Survives body) ∧
    ∀ action : Action, (∀ amount, action.amount? = some amount → isAmount amount = true) →
      Wire.Survives action := by
  exact ⟨fun body => body.carried.survives,
    fun body => body.carried.survives,
    fun body => body.carried.survives,
    fun body => body.carried.survives,
    fun _ bounded => (ActionRequest.carried bounded).survives,
    fun _ bounded => (ActionReply.carried bounded).survives,
    fun body => body.carried.survives,
    fun body => body.carried.survives,
    fun body => body.carried.survives,
    fun body => body.carried.survives,
    fun body => body.carried.survives,
    fun body => body.carried.survives,
    fun body => body.carried.survives,
    fun body => body.carried.survives,
    fun body => body.carried.survives,
    fun body => body.carried.survives,
    fun body => body.carried.survives,
    fun _ bounded => (Action.carried bounded).survives⟩

/-- The least amount is read back, next to a text in which every kind of letter is escaped. -/
theorem messages_survive_of_least_amount :
    Wire.print (ActionRequest.mk "\"\\\t\x01é♠" (some (-170141183460469231731687303715884105728))) =
        "\x7b\"action\":\"\\\"\\\\\\t\\u0001é♠\"," ++
          "\"amount\":-170141183460469231731687303715884105728\x7d" ∧
      Wire.Survives
        (ActionRequest.mk "\"\\\t\x01é♠" (some (-170141183460469231731687303715884105728))) := by
  have bounded : ∀ amount, some (-170141183460469231731687303715884105728) = some amount →
      isAmount amount = true := by
    rintro _ ⟨⟩
    decide
  rcases messages_survive with ⟨_, _, _, _, actionRequest, _⟩
  exact ⟨by decide, actionRequest _ bounded⟩

end Holdem
