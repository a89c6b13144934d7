import Holdem.Configuration
import Holdem.Ledger.Basic

/-!
# The JSON form of a configuration

For a player who wants to see what the client will use. Amounts are decimal texts.
-/

namespace Holdem

def LedgerConfiguration.toJson (ledger : LedgerConfiguration) : Json :=
  .record
    [("rpc_url", .text ledger.rpcUrl),
      ("network_passphrase", .text ledger.networkPassphrase),
      ("contract_id", .text ledger.contract),
      ("confirm_attempts", .integer ledger.confirmAttempts),
      ("confirm_delay_ms", .integer ledger.confirmDelay)]

def Configuration.toJson (configuration : Configuration) : Json :=
  .record
    [("coordinator_url", .text configuration.coordinatorUrl),
      ("mode", .text configuration.mode.name),
      ("table_id", .integer configuration.tableId.toNat),
      ("player_secret", .text configuration.playerSecret),
      ("poll_interval_secs", .integer configuration.pollInterval),
      ("request_timeout_secs", .integer configuration.requestTimeout),
      ("allow_insecure_dev_auth", .bool configuration.unsignedFirst),
      ("buy_in", amountJson configuration.buyIn),
      ("solo_stack", amountJson configuration.soloStack),
      ("ledger", Json.nullable LedgerConfiguration.toJson configuration.ledger),
      ("opponent_difficulty", .text configuration.difficulty.name)]

end Holdem
