import NexalinkTunnel.Relay.Server.Registry

/-!
Contract: registration in the two steps that `register` takes.

Owns the interleavings of spawning a connection's actor, entering the map, and
the actor's own unregistering, for any number of connections. The registry
tells the truth along every interleaving in which no connection unregisters
before it has entered the map, and along no other.

Does not own: what the registry's operations do to a single entry.
-/

namespace NexalinkTunnel.Relay.Server

open Lib
open Base
open Relay.Protos

/-- The atomic steps in the life of a connection. Once spawned, the actor may
reach its end at any time. -/
inductive LifeStep (crates : Crates) where
  | spawn (config : Config crates)
  | insert (config : Config crates)
  | unregister (config : Config crates)
deriving DecidableEq

variable {crates : Crates}

def Clients.live (state : Clients crates) : LifeStep crates → Clients crates
  | .spawn config => state.spawn config
  | .insert config => state.insert (Client.new config)
  | .unregister config => state.endActor config.endpointId config.connectionId

def spawnedIds (history : List (LifeStep crates)) : List ConnectionId :=
  history.filterMap fun step =>
    match step with
    | .spawn config => some config.connectionId
    | _ => none

/-- Connection ids are fresh, and `register` and the actor each take their steps
once and after the spawn. Nothing orders the last two steps. -/
def LifeStep.Allowed (history : List (LifeStep crates)) : LifeStep crates → Prop
  | .spawn config => config.connectionId ∉ spawnedIds history
  | .insert config => .spawn config ∈ history ∧ .insert config ∉ history
  | .unregister config => .spawn config ∈ history ∧ .unregister config ∉ history

instance LifeStep.decidableAllowed (history : List (LifeStep crates)) (step : LifeStep crates) :
    Decidable (step.Allowed history) :=
  match step with
  | .spawn config => inferInstanceAs (Decidable (config.connectionId ∉ spawnedIds history))
  | .insert _ | .unregister _ => inferInstanceAs (Decidable (_ ∧ _ ∉ history))

/-- All interleavings of the lives of any number of connections. -/
def registrationMachine (crates : Crates) : Machine (Clients crates) (LifeStep crates) where
  start := Clients.new
  Enabled history _ step := step.Allowed history
  step := Clients.live

instance (history : List (LifeStep crates)) (state : Clients crates) (step : LifeStep crates) :
    Decidable ((registrationMachine crates).Enabled history state step) :=
  inferInstanceAs (Decidable (step.Allowed history))

/-- The connection has entered the map before it unregisters. -/
def InsertedFirst (history : List (LifeStep crates)) (_ : Clients crates) :
    LifeStep crates → Prop
  | .unregister config => .insert config ∈ history
  | _ => True

instance (history : List (LifeStep crates)) (state : Clients crates) (step : LifeStep crates) :
    Decidable (InsertedFirst history state step) :=
  match step with
  | .unregister config => inferInstanceAs (Decidable (.insert config ∈ history))
  | .spawn _ | .insert _ => .isTrue trivial

def insertions (history : List (LifeStep crates)) : List (Config crates) :=
  history.filterMap fun step =>
    match step with
    | .insert config => some config
    | _ => none

/-- The connections that entered the map and have not unregistered, before or
after. -/
def liveConnections (history : List (LifeStep crates)) : List (Client crates) :=
  ((insertions history).filter fun config => .unregister config ∉ history).map Client.new

/-- What the registry should say about the lives led so far. -/
structure Truthful (history : List (LifeStep crates)) (state : Clients crates) : Prop where
  departed : ∀ config, .insert config ∈ history → .unregister config ∈ history →
    ∀ endpointId entry, state.clients.lookup endpointId = some entry →
      ∀ client ∈ entry.inactive ++ [entry.active], client.connectionId ≠ config.connectionId
  newestActive : ∀ endpointId entry, state.clients.lookup endpointId = some entry →
    ∀ client ∈ entry.inactive, client ∈ liveConnections history →
      ((liveConnections history).filter fun other => other.endpointId = endpointId).getLast? ≠
        some client
  balance : (state.metrics.clientsInactiveAdded : Int) - state.metrics.clientsInactiveRemoved =
    (state.clients.entries.map fun entry => entry.2.inactive.length).sum

/-- The order of a connection's steps, when it enters the map first. -/
structure Orderly (history : List (LifeStep crates)) : Prop where
  sameId : ∀ config other, .spawn config ∈ history → .spawn other ∈ history →
    config.connectionId = other.connectionId → config = other
  spawned : ∀ config, .insert config ∈ history → .spawn config ∈ history
  inserted : ∀ config, .unregister config ∈ history → .insert config ∈ history

private theorem mem_spawnedIds {history : List (LifeStep crates)} {config : Config crates}
    (spawned : .spawn config ∈ history) : config.connectionId ∈ spawnedIds history :=
  List.mem_filterMap.mpr ⟨_, spawned, rfl⟩

@[simp] theorem mem_insertions {history : List (LifeStep crates)} {config : Config crates} :
    config ∈ insertions history ↔ .insert config ∈ history := by
  constructor
  · intro inside
    obtain ⟨step, occurred, chosen⟩ := List.mem_filterMap.mp inside
    cases step <;> simp_all
  · intro occurred
    exact List.mem_filterMap.mpr ⟨_, occurred, rfl⟩

theorem mem_liveConnections {history : List (LifeStep crates)} {client : Client crates} :
    client ∈ liveConnections history ↔ ∃ config, .insert config ∈ history ∧
      .unregister config ∉ history ∧ Client.new config = client := by
  simp [liveConnections, and_assoc]

private theorem Orderly.step {history : List (LifeStep crates)} {step : LifeStep crates}
    {state : Clients crates} (orderly : Orderly history) (allowed : step.Allowed history)
    (first : InsertedFirst history state step) : Orderly (history ++ [step]) := by
  cases step with
  | spawn config =>
      refine ⟨?_, ?_, ?_⟩
      · intro left right leftSpawned rightSpawned same
        simp only [List.mem_append, List.mem_singleton, LifeStep.spawn.injEq]
          at leftSpawned rightSpawned
        rcases leftSpawned with leftSpawned | rfl <;> rcases rightSpawned with rightSpawned | rfl
        · exact orderly.sameId left right leftSpawned rightSpawned same
        · exact absurd (same ▸ mem_spawnedIds leftSpawned) allowed
        · exact absurd (same ▸ mem_spawnedIds rightSpawned) allowed
        · rfl
      · intro other
        simpa using fun occurred => Or.inl (orderly.spawned other occurred)
      · intro other
        simpa using orderly.inserted other
  | insert config =>
      refine ⟨?_, ?_, ?_⟩
      · simpa using orderly.sameId
      · intro other
        simp only [List.mem_append, List.mem_singleton, LifeStep.insert.injEq, reduceCtorEq,
          or_false]
        rintro (occurred | rfl)
        · exact orderly.spawned other occurred
        · exact allowed.1
      · intro other
        simpa using fun occurred => Or.inl (orderly.inserted other occurred)
  | unregister config =>
      refine ⟨?_, ?_, ?_⟩
      · simpa using orderly.sameId
      · simpa using orderly.spawned
      · intro other
        simp only [List.mem_append, List.mem_singleton, LifeStep.unregister.injEq, reduceCtorEq,
          or_false]
        rintro (occurred | rfl)
        · exact orderly.inserted other occurred
        · exact first

/-! ## Live connections after one more step -/

private theorem liveConnections_spawn (history : List (LifeStep crates)) (config : Config crates) :
    liveConnections (history ++ [.spawn config]) = liveConnections history := by
  simp [liveConnections, insertions]

private theorem liveConnections_insert {history : List (LifeStep crates)} {config : Config crates}
    (orderly : Orderly history) (allowed : (LifeStep.insert config).Allowed history) :
    liveConnections (history ++ [.insert config]) =
      liveConnections history ++ [Client.new config] := by
  have running : .unregister config ∉ history := fun occurred =>
    allowed.2 (orderly.inserted config occurred)
  simp [liveConnections, insertions, running]

private theorem liveConnections_unregister {history : List (LifeStep crates)}
    {config : Config crates} (orderly : Orderly history) (inserted : .insert config ∈ history) :
    liveConnections (history ++ [.unregister config]) =
      Roster.leave Client.connectionId config.connectionId (liveConnections history) := by
  have entered : insertions (history ++ [.unregister config]) = insertions history := by
    simp [insertions]
  rw [liveConnections, entered, liveConnections, Roster.leave, List.filter_map, List.filter_filter]
  congr 1
  refine List.filter_congr fun other inside => ?_
  have otherInserted := mem_insertions.mp inside
  have distinct : other = config ↔ other.connectionId = config.connectionId :=
    ⟨fun same => by rw [same], orderly.sameId other config
      (orderly.spawned other otherInserted) (orderly.spawned config inserted)⟩
  simp only [List.mem_append, List.mem_singleton, LifeStep.unregister.injEq, distinct,
    Function.comp_apply, Client.new]
  by_cases same : other.connectionId = config.connectionId <;> simp [same]

/-- Along an orderly run the registry is the live connections cut into stacks. -/
theorem stacked_of_insertedFirst {history : List (LifeStep crates)} {state : Clients crates}
    (reached : ((registrationMachine crates).restrict InsertedFirst).Reaches history state) :
    Orderly history ∧ Stacked (liveConnections history) state := by
  refine reached.invariant
    (fun history state => Orderly history ∧ Stacked (liveConnections history) state)
    ⟨⟨by simp, by simp, by simp⟩, Stacked.new⟩ ?_
  rintro history state step - ⟨allowed, first⟩ ⟨orderly, stacked⟩
  refine ⟨orderly.step allowed first, ?_⟩
  cases step with
  | spawn config =>
      rw [liveConnections_spawn]
      exact stacked.spawn config
  | insert config =>
      rw [liveConnections_insert orderly allowed]
      refine stacked.insert fun other inside same => allowed.2 ?_
      obtain ⟨earlier, inserted, -, rfl⟩ := mem_liveConnections.mp inside
      have identical := orderly.sameId earlier config (orderly.spawned earlier inserted)
        allowed.1 same
      rwa [identical] at inserted
  | unregister config =>
      rw [liveConnections_unregister orderly first]
      have running : Client.new config ∈ liveConnections history :=
        mem_liveConnections.mpr ⟨config, first, allowed.2, rfl⟩
      exact stacked.endActor running

private theorem Truthful.of_stacked {history : List (LifeStep crates)} {state : Clients crates}
    (orderly : Orderly history) (stacked : Stacked (liveConnections history) state) :
    Truthful history state where
  departed := by
    intro config inserted unregistered endpointId entry present client inside same
    obtain ⟨other, otherInserted, running, rfl⟩ :=
      mem_liveConnections.mp (stacked.mem_of_lookup present inside).1
    have identical := orderly.sameId other config (orderly.spawned other otherInserted)
      (orderly.spawned config inserted) same
    exact running (identical ▸ unregistered)
  newestActive := by
    intro endpointId entry present client inactive _ newest
    have own := stacked.entries endpointId
    rw [Clients.stackOf_of_lookup present] at own
    unfold ClientState.stack Roster.stack at own
    rw [← own, List.getLast?_concat, Option.some.injEq] at newest
    exact stacked.inactive_ne_active present inactive (by rw [newest])
  balance := by
    have balance := stacked.balance
    simp only [Clients.inactiveTotal, totalWeight] at balance
    omega

/-- Registration and disconnection. Along every interleaving in which no connection
unregisters before it has entered the map, the registry is truthful after
every step. A connection that does unregister first makes it untruthful as
soon as its `register` call completes. -/
theorem registration_truthful_iff_inserted_first (crates : Crates) :
    (∀ history state,
      ((registrationMachine crates).restrict InsertedFirst).Reaches history state →
        Truthful history state) ∧
    (∀ history state config, (registrationMachine crates).Reaches history state →
      (LifeStep.insert config).Allowed history → .unregister config ∈ history →
        ¬ Truthful (history ++ [.insert config]) (state.live (.insert config))) := by
  constructor
  · intro history state reached
    obtain ⟨orderly, stacked⟩ := stacked_of_insertedFirst reached
    exact Truthful.of_stacked orderly stacked
  · intro history state config _ _ early truthful
    obtain ⟨entry, present, active⟩ := Clients.lookup_insert_self state (Client.new config)
    refine truthful.departed config (by simp) (by simp [early]) _ entry present entry.active
      (by simp) ?_
    rw [active]
    rfl

/-- A connection that registers, lives and leaves beside another of its endpoint. -/
theorem registration_truthful_when_ordered :
    let endpointId := Crates.smallKey 3 (by decide)
    let first : Config Crates.reference := ⟨endpointId, 1, 8, .v2⟩
    let second : Config Crates.reference := ⟨endpointId, 2, 8, .v2⟩
    let history : List (LifeStep Crates.reference) :=
      [.spawn first, .spawn second, .insert second, .insert first, .unregister first]
    let machine := (registrationMachine Crates.reference).restrict InsertedFirst
    machine.Reaches history (machine.runFrom Clients.new history) ∧
      Truthful history (machine.runFrom Clients.new history) := by
  intro endpointId first second history machine
  have reached : machine.Reaches history (machine.runFrom Clients.new history) :=
    Machine.reaches_runFrom (by decide)
  exact ⟨reached, (registration_truthful_iff_inserted_first _).1 history _ reached⟩

/-- The second connection is live and active when the first one's actor ends before
its `register` call has entered it into the map. Afterwards the first is
active though it is gone, the second is inactive though it is the newest live
one, and the counters cancel although one connection is inactive. -/
theorem early_unregister_leaves_departed_active :
    let endpointId := Crates.smallKey 3 (by decide)
    let first : Config Crates.reference := ⟨endpointId, 1, 8, .v2⟩
    let second : Config Crates.reference := ⟨endpointId, 2, 8, .v2⟩
    let history : List (LifeStep Crates.reference) :=
      [.spawn second, .insert second, .spawn first, .unregister first, .insert first]
    let state := (registrationMachine Crates.reference).runFrom Clients.new history
    (registrationMachine Crates.reference).Reaches history state ∧
      .insert first ∈ history ∧ .unregister first ∈ history ∧
      state.clients.lookup endpointId = some ⟨Client.new first, [Client.new second]⟩ ∧
      liveConnections history = [Client.new second] ∧
      state.metrics.clientsInactiveAdded = 1 ∧ state.metrics.clientsInactiveRemoved = 1 ∧
      ¬ Truthful history state := by
  intro endpointId first second history state
  have found : state.clients.lookup endpointId =
      some ⟨Client.new first, [Client.new second]⟩ := by decide
  refine ⟨Machine.reaches_runFrom (by decide), by decide, by decide, found, by decide,
    by decide, by decide, fun truthful => ?_⟩
  exact truthful.departed first (by decide) (by decide) endpointId _ found (Client.new first)
    (by decide) rfl

end NexalinkTunnel.Relay.Server
