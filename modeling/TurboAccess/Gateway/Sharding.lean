import TurboAccess.Gateway.Backend.Shards
import TurboAccess.Gateway.Multipart.Shards
import TurboAccess.Gateway.Session.Shards

/-!
# Sharding

The sharded stores of the gateway answer every sequence of operations as stores
with whole tables do, and keep every key in the shard that its hash selects.
Nothing is assumed of the hash: it decides under which lock a key is, and not
what is found under it.
-/

namespace TurboAccess
namespace Gateway

/-- The four sharded stores, empty at the start, against their whole tables. -/
structure TransparentlySharded (hash : String → Nat) : Prop where
  sessions : ∀ gatewayId sessionTtl,
    SameAnswers (ShardedSessionStore.Answers hash) SessionStore.Answers
      (Placed (ShardedSessionStore.shardFor hash))
      (ShardedSessionStore.init gatewayId sessionTtl)
      (SessionStore.init gatewayId sessionTtl)
  uploads : ∀ ttl,
    SameAnswers (ShardedMultipartStore.Answers hash) MultipartStore.Answers
      (Placed (ShardedMultipartStore.shardFor hash))
      (ShardedMultipartStore.init ttl)
      (MultipartStore.init ttl)
  bodies : ∀ capacityBytes,
    SameAnswers (Functional (ShardedDataStore.answer hash))
      (Functional MemoryDataStore.answer)
      (Placed (ShardedDataStore.shardFor hash))
      (ShardedDataStore.init capacityBytes)
      (MemoryDataStore.init capacityBytes)
  entries :
    SameAnswers (Functional (ShardedIndexStore.answer hash))
      (Functional MemoryIndexStore.answer)
      (Placed (ShardedIndexStore.shardFor hash))
      ShardedIndexStore.init
      MemoryIndexStore.init

theorem transparentlySharded (hash : String → Nat) :
    TransparentlySharded hash where
  sessions := ShardedSessionStore.sameAnswers hash
  uploads := ShardedMultipartStore.sameAnswers hash
  bodies := ShardedDataStore.sameAnswers hash
  entries := ShardedIndexStore.sameAnswers hash

end Gateway
end TurboAccess
