import MoveWallet.Builder.Basic
import MoveWallet.Inspect.Basic

/-! # Builders shown as JSON

The configuration of a builder, and how often its node was asked.
-/

namespace MoveWallet.Inspect

instance : Inspect BuilderConfig where
  inspect config := .object [("max_gas_amount", inspect config.maxGasAmount),
    ("gas_unit_price", inspect config.gasUnitPrice), ("expiration_secs", inspect config.lifetime),
    ("chain_id", inspect config.chainId)]

instance : Inspect LookupCounts where
  inspect counts := inspect [counts.sequenceNumber, counts.chainId, counts.entryFunction,
    counts.originatingAddress]

end MoveWallet.Inspect
