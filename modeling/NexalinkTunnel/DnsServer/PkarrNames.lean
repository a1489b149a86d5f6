import NexalinkTunnel.DnsServer.NodeZoneHandler

/-!
Contract: which names are those of keys under an allowed origin.

Owns `parse_name_as_pkarr_with_origin` against the form of such a name, for any list of
allowed origins and any name.

Does not own: what a name that is taken apart is answered with.

## Nested origins

The loop decides with the first origin that the name lies under, and an error there ends
it. Where one allowed origin lies inside another one, a name can have the form under the
second of them only. An origin that begins with `*` has one label more than is cut off.
-/

namespace NexalinkTunnel.DnsServer

open Base Lib Encodings Hickory
open PublicKeyBytes (zoneLabel)

section Origins

variable [Hickory] {name origin : Name}

theorem zoneOf_iff {zone name : Name} :
    zoneOf zone name = true ↔ ∃ front back, name.labels = front ++ back ∧
      back.map Label.lower = zone.labels.map Label.lower := by
  rw [zoneOf_iff_suffix]
  show zone.labels.map Label.lower <:+ name.labels.map Label.lower ↔ _
  constructor
  · rintro ⟨front, split⟩
    obtain ⟨left, right, cut, -, same⟩ := List.map_eq_append_iff.mp split.symm
    exact ⟨left, right, cut, same⟩
  · rintro ⟨front, back, split, same⟩
    exact ⟨front.map Label.lower, by rw [← same, ← List.map_append, ← split]⟩

private theorem drop_numLabels {front back : List Label} (split : name.labels = front ++ back)
    (same : back.map Label.lower = origin.labels.map Label.lower) :
    (¬ origin.IsWildcard ∧ name.labels.reverse.drop (numLabels origin) = front.reverse) ∨
      ∃ star, star.lower = Label.wildcard ∧
        name.labels.reverse.drop (numLabels origin) = star :: front.reverse := by
  have lengths : back.length = origin.labels.length := by
    simpa using congrArg List.length same
  by_cases starred : origin.labels.head? = some .wildcard
  · obtain ⟨others, labels⟩ := List.head?_eq_some_iff.mp starred
    rw [labels] at same
    obtain ⟨star, backs, rfl, sameStar, sameBacks⟩ := List.map_eq_cons_iff.mp same
    have count : numLabels origin = backs.length := by
      have counted := numLabels_of_isWildcard starred
      have length := congrArg List.length sameBacks
      rw [labels, List.length_cons] at counted
      rw [List.length_map, List.length_map] at length
      omega
    refine .inr ⟨star, sameStar, ?_⟩
    rw [split, count, List.reverse_append, List.reverse_cons, List.append_assoc]
    exact List.drop_left' (List.length_reverse)
  · refine .inl ⟨starred, ?_⟩
    rw [split, numLabels_eq_length starred, List.reverse_append]
    exact List.drop_left' (by rw [List.length_reverse, lengths])

end Origins

variable {ed : Ed25519}

/-! ## Labels that are keys -/

private theorem toNat_charOfNat {number : Nat} (small : number < 128) :
    (Char.ofNat number).toNat = number := by
  rw [Char.toNat_ofNat, if_pos (.inl (by omega))]

private theorem Label.bytes_of_text {label : Label} {string : String}
    (found : label.text = some string) :
    string.toList.map (fun char => UInt8.ofNat char.toNat) = label.bytes := by
  unfold text at found
  split at found
  next ascii =>
    cases found
    rw [String.toList_ofList, List.map_map]
    refine (List.map_congr_left fun byte inside => ?_).trans (List.map_id _)
    have small : byte.toNat < 128 := by
      simpa [UInt8.lt_iff_toNat_lt] using List.all_eq_true.mp ascii byte inside
    rw [Function.comp_apply, toNat_charOfNat small, UInt8.ofNat_toNat]
    rfl
  next => cases found

private theorem toNat_lt_of_mem_zBase32 (char : Char) (inside : char ∈ zBase32Alphabet.symbols) :
    char.toNat < 128 := by
  have ascii : zBase32Alphabet.symbols.all (fun char => char.toNat < 128) = true := rfl
  exact of_decide_eq_true (List.all_eq_true.mp ascii char inside)

section Keys

variable [Encodings]

def Label.IsKey (ed : Ed25519) (label : Label) (key : PublicKeyBytes) : Prop :=
  ∃ text, label.text = some text ∧ PublicKeyBytes.fromZ32 ed text = .ok key

theorem PublicKeyBytes.fromZ32_eq_ok {text : String} {key : PublicKeyBytes} :
    fromZ32 ed text = .ok key ↔ toZ32 key = text ∧ ed.accepts key = true := by
  constructor
  · intro parsed
    unfold fromZ32 PublicKey.fromZ32 at parsed
    split at parsed
    next publicKey found =>
      cases parsed
      split at found
      next bytes decoded =>
        have same := PublicKey.tryFrom_eq_ok.mp found
        refine ⟨?_, publicKey.valid⟩
        apply zBase32.encode_of_decode publicKey.asBytes_length
        rw [decoded, ← same]
      next => cases found
    next => cases parsed
  · rintro ⟨rfl, accepted⟩
    have parsed : PublicKey.fromZ32 (toZ32 key) = .ok (⟨key, accepted⟩ : PublicKey ed) :=
      PublicKey.fromZ32_toZ32 ⟨key, accepted⟩
    rw [fromZ32, parsed]

private theorem text_zoneLabel (key : PublicKeyBytes) :
    (zoneLabel key).text = some (PublicKeyBytes.toZ32 key) := by
  have ascii : ∀ char ∈ (PublicKeyBytes.toZ32 key).toList, char.toNat < 128 := fun char inside =>
    toNat_lt_of_mem_zBase32 char (zBase32.mem_symbols inside)
  have bytes (char : Char) (inside : char ∈ (PublicKeyBytes.toZ32 key).toList) :
      (UInt8.ofNat char.toNat).toNat = char.toNat := by
    have small := ascii char inside
    rw [UInt8.toNat_ofNat', Nat.mod_eq_of_lt (by omega)]
  rw [Label.text, if_pos]
  · congr 1
    rw [zoneLabel, List.map_map]
    refine (congrArg String.ofList ((List.map_congr_left fun char inside => ?_).trans
      (List.map_id _))).trans String.ofList_toList
    rw [Function.comp_apply, bytes char inside, Char.ofNat_toNat]
    rfl
  · simp only [zoneLabel, List.all_map, List.all_eq_true, Function.comp_apply, decide_eq_true_eq]
    intro char inside
    rw [UInt8.lt_iff_toNat_lt, bytes char inside]
    exact ascii char inside

private theorem Label.isKey_iff {label : Label} {key : PublicKeyBytes} :
    label.IsKey ed key ↔ label = zoneLabel key ∧ ed.accepts key = true := by
  constructor
  · rintro ⟨string, found, parsed⟩
    obtain ⟨rfl, accepted⟩ := PublicKeyBytes.fromZ32_eq_ok.mp parsed
    have bytes := bytes_of_text found
    refine ⟨?_, accepted⟩
    cases label
    simp only at bytes
    subst bytes
    rfl
  · rintro ⟨rfl, accepted⟩
    exact ⟨_, text_zoneLabel key, PublicKeyBytes.fromZ32_eq_ok.mpr ⟨rfl, accepted⟩⟩

private theorem not_isKey_of_lower_eq_wildcard {star : Label} {key : PublicKeyBytes}
    (same : star.lower = Label.wildcard) :
    ¬ star.IsKey ed key := by
  intro isKey
  obtain ⟨rfl, -⟩ := Label.isKey_iff.mp isKey
  have length := congrArg (fun label : Label => label.bytes.length) same
  simp only [Label.length_lower, Label.wildcard, zoneLabel, List.length_map,
    PublicKeyBytes.length_toZ32] at length
  cases length

/-- The name has the form `rest.label.origin`, with a label that is a key. -/
def HasForm (ed : Ed25519) (name origin : Name) : Prop :=
  ∃ rest label back key, name.labels = rest ++ label :: back ∧
    back.map Label.lower = origin.labels.map Label.lower ∧ label.IsKey ed key

def Recomposes (name rest : Name) (key : PublicKeyBytes) (origin : Name) : Prop :=
  ∃ back, name.labels = rest.labels ++ zoneLabel key :: back ∧
    back.map Label.lower = origin.labels.map Label.lower

variable [Hickory]

theorem HasForm.zoneOf {name origin : Name} (form : HasForm ed name origin) :
    zoneOf origin name = true := by
  obtain ⟨rest, label, back, key, split, same, -⟩ := form
  exact zoneOf_iff.mpr ⟨rest ++ [label], back, by simp [split], same⟩

section Parse

variable {name origin rest found : Name} {origins : List Name} {key : PublicKeyBytes}

private theorem parse_cons :
    parseNameAsPkarrWithOrigin ed name (origin :: origins) =
      if zoneOf origin name then parseNameAsPkarrWithOrigin ed name [origin]
      else parseNameAsPkarrWithOrigin ed name origins := by
  by_cases under : zoneOf origin name = true
  · simp only [parseNameAsPkarrWithOrigin, under, Bool.not_true, Bool.false_eq_true, if_false,
      if_true]
  · simp only [parseNameAsPkarrWithOrigin, under, Bool.not_false, if_true, Bool.false_eq_true,
      if_false]

private theorem recomposes_of_parse_singleton
    (parsed : parseNameAsPkarrWithOrigin ed name [origin] = .ok (rest, key, found)) :
    found = origin ∧ ¬ origin.IsWildcard ∧ ed.accepts key = true ∧
      Recomposes name rest key origin := by
  rcases parse_cases parsed with ⟨-, none⟩ |
    ⟨under, rfl, pkeyLabel, labelsWithoutOrigin, pkeyStr, cut, text, decoded, built⟩
  · cases none
  · have isKey : pkeyLabel.IsKey ed key := ⟨pkeyStr, text, decoded⟩
    obtain ⟨front, back, split, same⟩ := zoneOf_iff.mp under
    rcases drop_numLabels split same with ⟨plain, dropped⟩ | ⟨star, sameStar, dropped⟩
    · rw [dropped] at cut
      obtain ⟨rfl, accepted⟩ := Label.isKey_iff.mp isKey
      refine ⟨rfl, plain, accepted, back, ?_, same⟩
      rw [split, (Name.of_fromLabels built).1, ← List.reverse_reverse front, cut,
        List.reverse_cons, List.append_assoc, List.singleton_append]
    · rw [dropped] at cut
      cases cut
      exact absurd isKey (not_isKey_of_lower_eq_wildcard sameStar)

private theorem lt_numLabels {front back : List Label} {label : Label}
    (split : name.labels = front ++ label :: back) (isKey : label.IsKey ed key) :
    back.length < numLabels name := by
  cases front with
  | nil =>
      have plain : name.labels.head? ≠ some .wildcard := by
        rw [split]
        rintro ⟨⟩
        exact not_isKey_of_lower_eq_wildcard (by decide) isKey
      rw [numLabels_eq_length plain, split]
      simp
  | cons first front =>
      have length := congrArg List.length split
      rw [List.cons_append, List.length_cons, List.length_append, List.length_cons] at length
      by_cases wildcard : name.IsWildcard
      · have counted := numLabels_of_isWildcard wildcard
        omega
      · rw [numLabels_eq_length wildcard]
        omega

private theorem exists_parse_singleton (form : HasForm ed name origin)
    (plain : ¬ origin.IsWildcard) :
    ∃ rest key, parseNameAsPkarrWithOrigin ed name [origin] = .ok (rest, key, origin) := by
  have under := form.zoneOf
  obtain ⟨front, label, back, key, split, same, isKey⟩ := form
  have counted := lt_numLabels split isKey
  obtain ⟨string, text, decoded⟩ := isKey
  have lengths : back.length = origin.labels.length := by
    simpa using congrArg List.length same
  have cut : name.labels.reverse.drop (numLabels origin) = label :: front.reverse := by
    rw [split, numLabels_eq_length plain, ← lengths, List.reverse_append, List.reverse_cons,
      List.append_assoc]
    exact List.drop_left' List.length_reverse
  have enough : ¬ numLabels name < numLabels origin + 1 := by
    rw [numLabels_eq_length plain, ← lengths]
    omega
  have built : Name.fromLabels front = .ok (name.takeLabels front.length) := by
    rw [← Name.fromLabels_take, split, List.take_left]
  refine ⟨name.takeLabels front.length, key, ?_⟩
  simp only [parseNameAsPkarrWithOrigin, under, Bool.not_true, Bool.false_eq_true, if_false,
    enough, cut, text, decoded, List.reverse_reverse, built]

/-- A name is taken apart as it is under the first origin that it lies under. -/
theorem parse_eq_ok_iff {result : Name × PublicKeyBytes × Name} :
    parseNameAsPkarrWithOrigin ed name origins = .ok result ↔
      ∃ first, origins.find? (zoneOf · name) = some first ∧
        parseNameAsPkarrWithOrigin ed name [first] = .ok result := by
  induction origins with
  | nil => simp [parseNameAsPkarrWithOrigin]
  | cons origin origins inductionHypothesis =>
      rw [parse_cons, List.find?_cons]
      by_cases under : zoneOf origin name = true
      · simp [under]
      · simp only [under, Bool.false_eq_true, if_false]
        exact inductionHypothesis

def Recognised (ed : Ed25519) (name : Name) (origins : List Name) : Prop :=
  ∃ result, parseNameAsPkarrWithOrigin ed name origins = .ok result

theorem recognised_singleton_iff :
    Recognised ed name [origin] ↔ HasForm ed name origin ∧ ¬ origin.IsWildcard := by
  constructor
  · rintro ⟨⟨rest, key, found⟩, parsed⟩
    obtain ⟨-, plain, accepted, back, split, same⟩ := recomposes_of_parse_singleton parsed
    exact ⟨⟨_, _, back, key, split, same, Label.isKey_iff.mpr ⟨rfl, accepted⟩⟩, plain⟩
  · rintro ⟨form, plain⟩
    obtain ⟨rest, key, parsed⟩ := exists_parse_singleton form plain
    exact ⟨_, parsed⟩

/-- If some allowed origin has a key in front, then all have one that the name lies under, and none
of them begins with `*`. -/
def Uniform (ed : Ed25519) (name : Name) (origins : List Name) : Prop :=
  (∃ origin ∈ origins, HasForm ed name origin) → ∀ origin ∈ origins, zoneOf origin name = true →
    HasForm ed name origin ∧ ¬ origin.IsWildcard

private theorem Uniform.recognised_iff (uniform : Uniform ed name origins) :
    Recognised ed name origins ↔ ∃ origin ∈ origins, HasForm ed name origin := by
  constructor
  · rintro ⟨result, parsed⟩
    obtain ⟨first, found, parsed⟩ := parse_eq_ok_iff.mp parsed
    exact ⟨first, List.mem_of_find?_eq_some found, (recognised_singleton_iff.mp ⟨_, parsed⟩).1⟩
  · rintro ⟨origin, allowed, form⟩
    cases found : origins.find? (zoneOf · name) with
    | none => exact absurd form.zoneOf (by simpa using List.find?_eq_none.mp found origin allowed)
    | some first =>
        have under := List.find?_some found
        have right := uniform ⟨origin, allowed, form⟩ first (List.mem_of_find?_eq_some found) under
        obtain ⟨result, parsed⟩ := recognised_singleton_iff.mpr right
        exact ⟨result, parse_eq_ok_iff.mpr ⟨first, found, parsed⟩⟩

structure RecognisesRight (ed : Ed25519) (name : Name) (origins : List Name) : Prop where
  /-- It succeeds exactly for names that have the form under some allowed origin. -/
  exact : Recognised ed name origins ↔ ∃ origin ∈ origins, HasForm ed name origin
  /-- The parts are put together to the name. -/
  recomposes : ∀ rest key origin, parseNameAsPkarrWithOrigin ed name origins =
    .ok (rest, key, origin) → origin ∈ origins ∧ Recomposes name rest key origin
  /-- The order of the origins does not matter. -/
  unordered : ∀ others, others.Perm origins →
    (Recognised ed name others ↔ Recognised ed name origins)

end Parse

/-- For every list of allowed origins and every name, a name is taken apart as it should exactly
if it has the form under all of the allowed origins that it lies under or under none of them, where
an origin that begins with `*` counts as one without. -/
theorem parse_recognisesRight_iff (ed : Ed25519) (name : Name) (origins : List Name) :
    RecognisesRight ed name origins ↔ Uniform ed name origins := by
  constructor
  · intro right form origin allowed under
    have first : origins.Perm (origin :: origins.erase origin) := List.perm_cons_erase allowed
    obtain ⟨result, parsed⟩ := (right.unordered _ first.symm).mpr (right.exact.mpr form)
    rw [parse_cons, if_pos under] at parsed
    exact recognised_singleton_iff.mp ⟨result, parsed⟩
  · intro uniform
    refine ⟨uniform.recognised_iff, ?_, ?_⟩
    · intro rest key origin parsed
      obtain ⟨first, found, parsed⟩ := parse_eq_ok_iff.mp parsed
      obtain ⟨rfl, -, -, recomposes⟩ := recomposes_of_parse_singleton parsed
      exact ⟨List.mem_of_find?_eq_some found, recomposes⟩
    · intro others permuted
      have same : Uniform ed name others := by
        simpa only [Uniform, permuted.mem_iff] using uniform
      rw [same.recognised_iff, uniform.recognised_iff]
      simp only [permuted.mem_iff]

end Keys

namespace Apex

open Relay.Protos (Crates.reference)

attribute [local instance] Reference.hickory Encodings.strict

private theorem root_bounded : encodedLen [] ≤ 255 := by decide

def root : Name := ⟨[], true, root_bounded⟩

/-- The zone of the key is not found under its origin if the root comes first. -/
theorem query_not_recognised :
    parseNameAsPkarrWithOrigin Crates.reference.ed25519 query [root, origin] =
        .error .invalidPubkey ∧
      parseNameAsPkarrWithOrigin Crates.reference.ed25519 query [origin, root] =
        .ok (root, key, origin) := by
  decide +kernel

end Apex

end NexalinkTunnel.DnsServer
