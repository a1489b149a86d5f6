import Mathlib.Logic.Function.Basic

/-!
Contract: caches that hold a bounded number of entries, as their callers know them.

Owns what a program may rely on of a map that drops its least recently used entry when it
is full, and of a map that also forgets entries some time after they were inserted.

A cache may lose an entry whenever another one is put in. What is known of a cache is
therefore one-sided: what is found was put in, with this value, and not taken out since.
Only the entry that was put in last is always there. How a cache chooses what it drops is
left open.
-/

namespace NexalinkTunnel.Lib

/-- A library with a least-recently-used cache, for any types of keys and values. -/
structure LruCrate where
  Cache : Type → Type → Type
  new : ∀ {Key Value : Type} (capacity : Nat), 0 < capacity → Cache Key Value
  peek : ∀ {Key Value : Type} [DecidableEq Key], Cache Key Value → Key → Option Value
  put : ∀ {Key Value : Type} [DecidableEq Key], Cache Key Value → Key → Value → Cache Key Value
  pop : ∀ {Key Value : Type} [DecidableEq Key], Cache Key Value → Key → Cache Key Value
  /-- What `get` leaves. -/
  touch : ∀ {Key Value : Type} [DecidableEq Key], Cache Key Value → Key → Cache Key Value
  peek_new : ∀ {Key Value : Type} [DecidableEq Key] (capacity : Nat) (positive : 0 < capacity)
    (key : Key), peek (new capacity positive : Cache Key Value) key = none
  peek_put_self : ∀ {Key Value : Type} [DecidableEq Key] (cache : Cache Key Value) (key : Key)
    (value : Value), peek (put cache key value) key = some value
  peek_of_put : ∀ {Key Value : Type} [DecidableEq Key] {cache : Cache Key Value} {key other : Key}
    {value found : Value}, other ≠ key → peek (put cache key value) other = some found →
      peek cache other = some found
  peek_of_pop : ∀ {Key Value : Type} [DecidableEq Key] {cache : Cache Key Value} {key other : Key}
    {found : Value}, peek (pop cache key) other = some found →
      other ≠ key ∧ peek cache other = some found
  peek_of_touch : ∀ {Key Value : Type} [DecidableEq Key] {cache : Cache Key Value}
    {key other : Key} {found : Value}, peek (touch cache key) other = some found →
      peek cache other = some found

def LruCrate.unbounded : LruCrate where
  Cache Key Value := Key → Option Value
  new _ _ _ := none
  peek cache key := cache key
  put cache key value := Function.update cache key (some value)
  pop cache key := Function.update cache key none
  touch cache _ := cache
  peek_new _ _ _ := rfl
  peek_put_self cache key value := Function.update_self key (some value) cache
  peek_of_put different hit := by rwa [Function.update_of_ne different] at hit
  peek_of_pop {_ _ _ cache key other found} hit := by
    have different : other ≠ key := by
      rintro rfl
      rw [Function.update_self] at hit
      cases hit
    rw [Function.update_of_ne different] at hit
    exact ⟨different, hit⟩
  peek_of_touch hit := hit

/-! ## With a time to live -/

/-- A library with a cache whose entries expire, for any types of keys and values. -/
structure TtlCrate where
  Cache : Type → Type → Type
  new : ∀ {Key Value : Type}, Nat → Cache Key Value
  get : ∀ {Key Value : Type} [DecidableEq Key], Cache Key Value → Nat → Key → Option Value
  insert : ∀ {Key Value : Type} [DecidableEq Key],
    Cache Key Value → Nat → Key → Value → Nat → Cache Key Value
  remove : ∀ {Key Value : Type} [DecidableEq Key], Cache Key Value → Key → Cache Key Value
  /-- What an iteration leaves. -/
  purge : ∀ {Key Value : Type} [DecidableEq Key], Cache Key Value → Nat → Cache Key Value
  get_new : ∀ {Key Value : Type} [DecidableEq Key] (capacity now : Nat) (key : Key),
    get (new capacity : Cache Key Value) now key = none
  get_of_insert : ∀ {Key Value : Type} [DecidableEq Key] {cache : Cache Key Value}
    {key other : Key} {value found : Value} {now ttl later : Nat},
    get (insert cache now key value ttl) later other = some found →
      (other = key ∧ found = value) ∨ (other ≠ key ∧ get cache later other = some found)
  get_of_remove : ∀ {Key Value : Type} [DecidableEq Key] {cache : Cache Key Value}
    {key other : Key} {found : Value} {later : Nat},
    get (remove cache key) later other = some found →
      other ≠ key ∧ get cache later other = some found
  get_of_purge : ∀ {Key Value : Type} [DecidableEq Key] {cache : Cache Key Value} {key : Key}
    {found : Value} {now later : Nat},
    get (purge cache now) later key = some found → get cache later key = some found

namespace TtlCrate

/-- The entries with the time after which they are expired, of which none is dropped before. -/
def unbounded : TtlCrate where
  Cache Key Value := Key → Option (Value × Nat)
  new _ _ := none
  get cache now key := (cache key).bind fun entry => if entry.2 < now then none else some entry.1
  insert cache now key value ttl := Function.update cache key (some (value, now + ttl))
  remove cache key := Function.update cache key none
  purge cache _ := cache
  get_new _ _ _ := rfl
  get_of_insert {_ _ _ cache key other value found now ttl later} hit := by
    by_cases same : other = key
    · subst same
      simp only [Function.update_self, Option.bind_some, Option.ite_none_left_eq_some,
        Option.some.injEq] at hit
      exact .inl ⟨rfl, hit.2.symm⟩
    · rw [Function.update_of_ne same] at hit
      exact .inr ⟨same, hit⟩
  get_of_remove {_ _ _ cache key other found later} hit := by
    have different : other ≠ key := by
      rintro rfl
      simp at hit
    rw [Function.update_of_ne different] at hit
    exact ⟨different, hit⟩
  get_of_purge hit := hit

variable {Key Value : Type} [DecidableEq Key] {crate : TtlCrate}

/-- The cache holds the value for the key: there is a time at which it is found. -/
def Holds (crate : TtlCrate) (cache : crate.Cache Key Value) (key : Key) (value : Value) : Prop :=
  ∃ now, crate.get cache now key = some value

end TtlCrate

end NexalinkTunnel.Lib
