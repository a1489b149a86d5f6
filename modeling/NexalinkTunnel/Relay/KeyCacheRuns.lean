import NexalinkTunnel.Lib.Transition
import NexalinkTunnel.Relay.KeyCache

/-!
Contract: calls of a shared key cache, whatever it evicts.

Owns the cache as its callers may know it: a lookup finds a key that was put and has the
bytes asked for, or finds nothing. That the answers of `key_from_slice` do not depend on
which of the two happens, and that the least-recently-used cache is such a cache.

Keys are byte arrays here. That they are keys at all is what has to be shown of those that
a lookup returns: these are not parsed again.
-/

namespace NexalinkTunnel.Relay

open Lib
open Base

/-- A cache with all keys that were ever put. With capacity zero it is disabled. -/
structure AnyCache where
  capacity : Nat
  put : List KeyBytes

structure CacheCall where
  slice : Bytes
  found : Option KeyBytes

namespace AnyCache

variable (ed : Ed25519)

/-- `PublicKey::try_from`, without what is known about the key. -/
def tryFrom (slice : Bytes) : Except KeyParsingError KeyBytes :=
  (PublicKey.tryFrom slice : Except KeyParsingError (PublicKey ed)).map PublicKey.bytes

def keyFromSlice (cache : AnyCache) (call : CacheCall) :
    Except KeyParsingError KeyBytes × AnyCache :=
  if cache.capacity = 0 then (tryFrom ed call.slice, cache)
  else
    match Bytes.tryIntoArray publicKeyLength call.slice with
    | none => (tryFrom ed call.slice, cache)
    | some bytes =>
        match call.found with
        | some key => (.ok key, cache)
        | none =>
            match (PublicKey.fromBytes bytes : Except KeyParsingError (PublicKey ed)) with
            | .ok key => (.ok key.bytes, { cache with put := cache.put ++ [key.bytes] })
            | .error error => (.error error, cache)

/-- A lookup finds nothing, or a key that was put and whose bytes are those of the slice. -/
def Allows (cache : AnyCache) (call : CacheCall) : Prop :=
  ∀ key ∈ call.found, key ∈ cache.put ∧ Bytes.tryIntoArray publicKeyLength call.slice = some key

instance (cache : AnyCache) (call : CacheCall) : Decidable (cache.Allows call) :=
  match found : call.found with
  | none => .isTrue (by simp [Allows, found])
  | some key =>
      decidable_of_iff
        (key ∈ cache.put ∧ Bytes.tryIntoArray publicKeyLength call.slice = some key)
        (by simp [Allows, found])

def runs (capacity : Nat) : Machine AnyCache CacheCall where
  start := ⟨capacity, []⟩
  Enabled _ cache call := cache.Allows call
  step cache call := (cache.keyFromSlice ed call).2

theorem allows_miss (cache : AnyCache) (slice : Bytes) : cache.Allows ⟨slice, none⟩ := by
  intro key hit
  cases hit

def Parsed (cache : AnyCache) : Prop := ∀ bytes ∈ cache.put, ∃ key : PublicKey ed, key.bytes = bytes

variable {ed} {cache : AnyCache} {call : CacheCall}

private theorem Parsed.step (parsed : cache.Parsed ed) (call : CacheCall) :
    (cache.keyFromSlice ed call).2.Parsed ed := by
  unfold keyFromSlice
  split
  · exact parsed
  · split
    · exact parsed
    · split
      · exact parsed
      · split
        next key fresh =>
          intro bytes inside
          rcases List.mem_append.mp inside with before | new
          · exact parsed bytes before
          · exact ⟨key, (List.mem_singleton.mp new).symm⟩
        next => exact parsed

private theorem parsed_of_reaches {capacity : Nat} {calls : List CacheCall}
    (reached : (runs ed capacity).Reaches calls cache) : cache.Parsed ed := by
  apply reached.invariant fun _ cache => cache.Parsed ed
  · exact fun bytes none => absurd none List.not_mem_nil
  · exact fun _ _ call _ _ parsed => parsed.step call

private theorem Parsed.keyFromSlice_fst (parsed : cache.Parsed ed) (allowed : cache.Allows call) :
    (cache.keyFromSlice ed call).1 = tryFrom ed call.slice := by
  unfold keyFromSlice
  split
  · rfl
  · split
    next => rfl
    next bytes array =>
      have parse : (PublicKey.tryFrom call.slice : Except KeyParsingError (PublicKey ed)) =
          PublicKey.fromBytes bytes := by simp only [PublicKey.tryFrom, array]
      rw [tryFrom, parse]
      split
      next found hit =>
        obtain ⟨known, same⟩ := allowed found hit
        obtain ⟨key, rfl⟩ := parsed found known
        rw [array] at same
        rw [Option.some.inj same, PublicKey.fromBytes_bytes]
        rfl
      next =>
        split
        next key fresh =>
          rw [fresh]
          rfl
        next error refused =>
          rw [refused]
          rfl

private theorem tryFrom_eq_ok {slice : Bytes} {answer : KeyBytes} :
    tryFrom ed slice = .ok answer ↔ ∃ key : PublicKey ed,
      (PublicKey.tryFrom slice : Except KeyParsingError (PublicKey ed)) = .ok key ∧
        key.bytes = answer := by
  unfold tryFrom
  cases (PublicKey.tryFrom slice : Except KeyParsingError (PublicKey ed)) with
  | error error => simp [Except.map]
  | ok key => simp [Except.map]

/-- For every capacity, after any calls and whatever was evicted, `key_from_slice` returns a key
exactly if `PublicKey::try_from` does, and then the same one. -/
theorem keyFromSlice_eq_ok_iff {capacity : Nat} {calls : List CacheCall}
    (reached : (runs ed capacity).Reaches calls cache) (allowed : cache.Allows call)
    (answer : KeyBytes) :
    (cache.keyFromSlice ed call).1 = .ok answer ↔ ∃ key : PublicKey ed,
      (PublicKey.tryFrom call.slice : Except KeyParsingError (PublicKey ed)) = .ok key ∧
        key.bytes = answer := by
  rw [(parsed_of_reaches reached).keyFromSlice_fst allowed, tryFrom_eq_ok]

/-- A key that is found when it is asked for again. -/
theorem keyFromSlice_eq_ok_again :
    let key := Protos.Crates.smallKey 1 (by decide)
    ((⟨1, [key.bytes]⟩ : AnyCache).keyFromSlice Protos.Crates.reference.ed25519
      ⟨key.asBytes, some key.bytes⟩).1 = .ok key.bytes := by
  intro key
  have reached : (runs Protos.Crates.reference.ed25519 1).Reaches [⟨key.asBytes, none⟩]
      ⟨1, [key.bytes]⟩ :=
    .step .start (allows_miss ⟨1, []⟩ key.asBytes)
  have allowed : (⟨1, [key.bytes]⟩ : AnyCache).Allows ⟨key.asBytes, some key.bytes⟩ := by
    decide
  exact (keyFromSlice_eq_ok_iff reached allowed key.bytes).mpr
    ⟨key, PublicKey.tryFrom_asBytes key, rfl⟩

end AnyCache

namespace KeyCache

variable {crates : Protos.Crates}

def found (cache : KeyCache crates) (slice : Bytes) : Option KeyBytes :=
  match cache with
  | .disabled => none
  | .shared lru _ =>
      match Bytes.tryIntoArray publicKeyLength slice with
      | none => none
      | some bytes => (crates.lru.peek lru bytes).map PublicKey.bytes

/-- The cached keys were put into the other cache. -/
def Simulates (cache : KeyCache crates) (any : AnyCache) : Prop :=
  match cache with
  | .disabled => any.capacity = 0
  | .shared lru _ => any.capacity ≠ 0 ∧
      ∀ bytes key, crates.lru.peek lru bytes = some key → key.bytes ∈ any.put

private theorem simulates_new (capacity : Nat) :
    (new capacity : KeyCache crates).Simulates ⟨capacity, []⟩ := by
  unfold new
  split
  next positive =>
    refine ⟨Nat.pos_iff_ne_zero.mp positive, fun bytes key hit => ?_⟩
    rw [crates.lru.peek_new] at hit
    cases hit
  next zero => exact Nat.eq_zero_of_not_pos zero

/-- A call is one that the other cache allows, with the same answer. -/
theorem Simulates.step {cache : KeyCache crates} {any : AnyCache} (simulates : cache.Simulates any)
    (slice : Bytes) :
    any.Allows ⟨slice, cache.found slice⟩ ∧
      (any.keyFromSlice crates.ed25519 ⟨slice, cache.found slice⟩).1 =
        (cache.keyFromSlice slice).1.map PublicKey.bytes ∧
      (cache.keyFromSlice slice).2.Simulates
        (any.keyFromSlice crates.ed25519 ⟨slice, cache.found slice⟩).2 := by
  cases cache with
  | disabled =>
      have zero : any.capacity = 0 := simulates
      have same : any.keyFromSlice crates.ed25519 ⟨slice, none⟩ =
          (AnyCache.tryFrom crates.ed25519 slice, any) := if_pos zero
      simp only [found, keyFromSlice, same]
      exact ⟨any.allows_miss slice, rfl, zero⟩
  | shared lru own =>
      obtain ⟨positive, entries⟩ := simulates
      cases array : Bytes.tryIntoArray publicKeyLength slice with
      | none =>
          simp only [found, keyFromSlice, AnyCache.keyFromSlice, if_neg positive, array]
          exact ⟨any.allows_miss slice, rfl, positive, entries⟩
      | some bytes =>
          cases hit : crates.lru.peek lru bytes with
          | some key =>
              simp only [found, keyFromSlice, AnyCache.keyFromSlice, if_neg positive, array, hit,
                Option.map_some]
              refine ⟨?_, rfl, positive, fun other key held =>
                entries other key (crates.lru.peek_of_touch held)⟩
              intro other same
              cases same
              exact ⟨entries bytes key hit, array.trans (congrArg some (own bytes key hit).symm)⟩
          | none =>
              simp only [found, keyFromSlice, AnyCache.keyFromSlice, if_neg positive, array, hit,
                Option.map_none]
              cases fresh : (PublicKey.fromBytes bytes :
                  Except KeyParsingError (PublicKey crates.ed25519)) with
              | error error => exact ⟨any.allows_miss slice, rfl, positive, entries⟩
              | ok key =>
                  refine ⟨any.allows_miss slice, rfl, positive, ?_⟩
                  intro other found held
                  by_cases same : other = key.bytes
                  · subst same
                    rw [crates.lru.peek_put_self] at held
                    cases held
                    exact List.mem_append_right _ (List.mem_singleton.mpr rfl)
                  · exact List.mem_append_left _
                      (entries other found (crates.lru.peek_of_put same held))

def after (cache : KeyCache crates) (slices : List Bytes) : KeyCache crates :=
  slices.foldl (fun cache slice => (cache.keyFromSlice slice).2) cache

/-- The calls, each with what its own lookup finds after those before it. -/
def lookups (cache : KeyCache crates) : List Bytes → List CacheCall
  | [] => []
  | slice :: slices =>
      ⟨slice, cache.found slice⟩ :: (cache.keyFromSlice slice).2.lookups slices

/-- Calls of the cache, with what they find, are a run of the other one. -/
theorem Simulates.run {cache : KeyCache crates} {any : AnyCache} (simulates : cache.Simulates any)
    {capacity : Nat} {history : List CacheCall}
    (reached : (AnyCache.runs crates.ed25519 capacity).Reaches history any)
    (slices : List Bytes) :
    ∃ later, (AnyCache.runs crates.ed25519 capacity).Reaches
        (history ++ cache.lookups slices) later ∧ (cache.after slices).Simulates later := by
  induction slices generalizing cache any history with
  | nil => exact ⟨any, by rwa [lookups, List.append_nil], simulates⟩
  | cons slice slices inductionHypothesis =>
      obtain ⟨allowed, -, simulates⟩ := simulates.step slice
      obtain ⟨later, ran, held⟩ := inductionHypothesis simulates (.step reached allowed)
      rw [List.append_assoc] at ran
      exact ⟨later, ran, held⟩

/-- After every history, a call answers as the other cache does, after the same calls and for the
lookups that the cache itself makes. -/
theorem keyFromSlice_refines (capacity : Nat) (slices : List Bytes) (slice : Bytes) :
    let cache : KeyCache crates := new capacity
    let call : CacheCall := ⟨slice, (cache.after slices).found slice⟩
    ∃ any, (AnyCache.runs crates.ed25519 capacity).Reaches (cache.lookups slices) any ∧
      any.Allows call ∧ (any.keyFromSlice crates.ed25519 call).1 =
        ((cache.after slices).keyFromSlice slice).1.map PublicKey.bytes := by
  intro cache call
  have started : cache.Simulates ⟨capacity, []⟩ := simulates_new capacity
  obtain ⟨any, reached, simulates⟩ := started.run .start slices
  obtain ⟨allowed, answer, -⟩ := simulates.step slice
  exact ⟨any, reached, allowed, answer⟩

end KeyCache

end NexalinkTunnel.Relay
