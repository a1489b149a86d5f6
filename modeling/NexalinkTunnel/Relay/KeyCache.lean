import NexalinkTunnel.Relay.Protos.Common

/-!
Contract: the relay's cache of parsed public keys.

Owns `KeyCache` over a least-recently-used cache, `key_from_slice` with its
effect on the cache, and the fact the decoders rest on: the answer does not
depend on what is cached.
-/

namespace NexalinkTunnel.Relay

open Lib
open Base
open Relay.Protos (Crates)

/-- A cache for public keys. It stores only successful parse results. A cached key is looked up by
the bytes that it borrows as. -/
inductive KeyCache (crates : Crates) where
  | disabled
  | shared (cache : crates.lru.Cache KeyBytes (PublicKey crates.ed25519))
      (own : ∀ bytes key, crates.lru.peek cache bytes = some key → key.bytes = bytes)

namespace KeyCache

variable {crates : Crates}

/-- If the capacity is zero, the cache is disabled. -/
def new (capacity : Nat) : KeyCache crates :=
  if positive : 0 < capacity then
    .shared (crates.lru.new capacity positive) fun bytes key hit => by
      rw [crates.lru.peek_new] at hit
      cases hit
  else .disabled

theorem own_put {lru : crates.lru.Cache KeyBytes (PublicKey crates.ed25519)}
    (own : ∀ bytes key, crates.lru.peek lru bytes = some key → key.bytes = bytes)
    (key : PublicKey crates.ed25519) (bytes : KeyBytes) (found : PublicKey crates.ed25519)
    (hit : crates.lru.peek (crates.lru.put lru key.bytes key) bytes = some found) :
    found.bytes = bytes := by
  by_cases same : bytes = key.bytes
  · subst same
    rw [crates.lru.peek_put_self] at hit
    cases hit
    rfl
  · exact own bytes found (crates.lru.peek_of_put same hit)

/-- Get a key from a slice of bytes, with the cache after the call. A slice of
the wrong size goes through `PublicKey::try_from` only for its error. -/
def keyFromSlice (cache : KeyCache crates) (slice : Bytes) :
    Except KeyParsingError (PublicKey crates.ed25519) × KeyCache crates :=
  match cache with
  | .disabled => (PublicKey.tryFrom slice, .disabled)
  | .shared lru own =>
      match Bytes.tryIntoArray publicKeyLength slice with
      | none => (PublicKey.tryFrom slice, .shared lru own)
      | some bytes =>
          match crates.lru.peek lru bytes with
          | some key =>
              (.ok key, .shared (crates.lru.touch lru bytes) fun other key hit =>
                own other key (crates.lru.peek_of_touch hit))
          | none =>
              match PublicKey.fromBytes bytes with
              | .ok key => (.ok key, .shared (crates.lru.put lru key.bytes key) (own_put own key))
              | .error error => (.error error, .shared lru own)

/-- The cache never changes the answer. -/
theorem keyFromSlice_fst (cache : KeyCache crates) (slice : Bytes) :
    (cache.keyFromSlice slice).1 = PublicKey.tryFrom slice := by
  cases cache with
  | disabled => rfl
  | shared lru own =>
      cases array : Bytes.tryIntoArray publicKeyLength slice with
      | none => simp only [keyFromSlice, array]
      | some bytes =>
          have parse : (PublicKey.tryFrom slice : Except KeyParsingError
              (PublicKey crates.ed25519)) = PublicKey.fromBytes bytes := by
            simp only [PublicKey.tryFrom, array]
          cases hit : crates.lru.peek lru bytes with
          | some key =>
              simp only [keyFromSlice, array, hit, parse]
              rw [← own bytes key hit, PublicKey.fromBytes_bytes]
          | none =>
              cases fresh : (PublicKey.fromBytes bytes :
                  Except _ (PublicKey crates.ed25519)) with
              | ok key => simp only [keyFromSlice, array, hit, parse, fresh]
              | error error => simp only [keyFromSlice, array, hit, parse, fresh]

end KeyCache

end NexalinkTunnel.Relay
