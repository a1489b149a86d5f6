import NexalinkTunnel.Lib.HashMap
import NexalinkTunnel.Socket.Transports

/-!
Contract: choosing the path that carries the data to a remote endpoint.

Owns what a selector sees and may answer, and `BiasedRttPathSelector`, the one
that is installed by default.

Does not own: the connections whose paths are the candidates.
-/

namespace NexalinkTunnel.Socket

open Lib Base

variable {ed : Ed25519}

/-- One candidate. Its statistics cannot be read once the path is closed; of them
only the round-trip time, in nanoseconds, is used. -/
structure PathSelectionData (ed : Ed25519) where
  networkPath : FourTuple ed
  rtt : Option Nat

structure PathSelectionContext (ed : Ed25519) where
  current : Option (FourTuple ed)
  paths : List (PathSelectionData ed)

/-- A selector answers with one of the candidates or leaves the selection as it is. -/
structure PathSelector (ed : Ed25519) where
  select : PathSelectionContext ed → Option (FourTuple ed)
  candidate : ∀ context path, select context = some path →
    ∃ data ∈ context.paths, data.networkPath = path

inductive TransportType where
  | primary
  | backup
deriving DecidableEq

/-- A bias for one kind of address. A negative bias makes the kind more preferred. -/
structure TransportBias where
  transportType : TransportType
  rttBias : Int

namespace TransportBias

def primary : TransportBias := ⟨.primary, 0⟩

def backup : TransportBias := ⟨.backup, 0⟩

def withRttAdvantage (bias : TransportBias) (advantage : Nat) : TransportBias :=
  { bias with rttBias := bias.rttBias - advantage }

end TransportBias

def ipv6RttAdvantage : Nat := 3000000

def rttSwitchingMin : Nat := 5000000

def i128Max : Int := 0x7fffffffffffffffffffffffffffffff

def saturatingAddI128 (left right : Int) : Int :=
  max (-i128Max - 1) (min i128Max (left + right))

/-- Lower is better: the tier first, then the biased round-trip time. -/
structure SortKey where
  tier : TransportType
  biasedRtt : Int

/-- The order of the tuples that the source compares. -/
def SortKey.less : SortKey → SortKey → Bool
  | ⟨.primary, _⟩, ⟨.backup, _⟩ => true
  | ⟨.backup, _⟩, ⟨.primary, _⟩ => false
  | ⟨_, left⟩, ⟨_, right⟩ => left < right

structure BiasedRttPathSelector where
  biases : HashMap AddrKind TransportBias

namespace BiasedRttPathSelector

def default : BiasedRttPathSelector :=
  ⟨(((∅ : HashMap AddrKind TransportBias).insert .ipV4 .primary).insert .ipV6
    (TransportBias.primary.withRttAdvantage ipv6RttAdvantage)).insert .relay .backup⟩

def biasFor (selector : BiasedRttPathSelector) (path : FourTuple ed) : TransportBias :=
  (selector.biases.lookup path.addrKind).getD .primary

def sortKey (selector : BiasedRttPathSelector) (path : FourTuple ed) (rtt : Nat) : SortKey :=
  let bias := selector.biasFor path
  ⟨bias.transportType, saturatingAddI128 rtt bias.rttBias⟩

structure Scan (ed : Ed25519) where
  best : Option (PathSelectionData ed × SortKey)
  currentKey : Option SortKey

def scanStep (selector : BiasedRttPathSelector) (current : Option (FourTuple ed))
    (scan : Scan ed) (data : PathSelectionData ed) : Scan ed :=
  match data.rtt with
  | none => scan
  | some rtt =>
      let key := selector.sortKey data.networkPath rtt
      { currentKey :=
          if some data.networkPath = current ∧ scan.currentKey.all (key.less ·) then some key
          else scan.currentKey
        best :=
          if scan.best.all fun best => key.less best.2 then some (data, key)
          else scan.best }

/-- Whether to leave the current path for the best candidate. Without data for the
current path and across tiers always, within a tier only for a clear advantage. -/
def Switches (bestKey : SortKey) : Option SortKey → Prop
  | none => True
  | some currentKey =>
      currentKey.tier ≠ bestKey.tier ∨ bestKey.biasedRtt + rttSwitchingMin ≤ currentKey.biasedRtt

instance (bestKey : SortKey) : DecidablePred (Switches bestKey)
  | none => inferInstanceAs (Decidable True)
  | some _ => inferInstanceAs (Decidable (_ ∨ _))

def select (selector : BiasedRttPathSelector) (context : PathSelectionContext ed) :
    Option (FourTuple ed) :=
  let scan := context.paths.foldl (selector.scanStep context.current) ⟨none, none⟩
  match scan.best with
  | none => none
  | some (best, bestKey) =>
      if Switches bestKey scan.currentKey then some best.networkPath else none

private theorem best_mem (selector : BiasedRttPathSelector) (current : Option (FourTuple ed))
    (paths : List (PathSelectionData ed)) (scan : Scan ed) (best : PathSelectionData ed)
    (key : SortKey)
    (found : (paths.foldl (selector.scanStep current) scan).best = some (best, key)) :
    best ∈ paths ∨ scan.best = some (best, key) := by
  induction paths generalizing scan with
  | nil => exact .inr found
  | cons data paths inductionHypothesis =>
      rcases inductionHypothesis _ found with later | before
      · exact .inl (List.mem_cons_of_mem _ later)
      · unfold scanStep at before
        split at before
        next => exact .inr before
        next rtt _ =>
          dsimp only at before
          split at before
          next =>
            cases before
            exact .inl List.mem_cons_self
          next => exact .inr before

private theorem select_candidate (selector : BiasedRttPathSelector)
    (context : PathSelectionContext ed)
    (path : FourTuple ed) (selected : selector.select context = some path) :
    ∃ data ∈ context.paths, data.networkPath = path := by
  unfold select at selected
  dsimp only at selected
  split at selected
  next => cases selected
  next best bestKey found =>
    split at selected
    next =>
      rcases best_mem selector context.current context.paths _ best bestKey found with
        inside | nothing
      · exact ⟨best, inside, Option.some.inj selected⟩
      · cases nothing
    next => cases selected

def toPathSelector (selector : BiasedRttPathSelector) : PathSelector ed :=
  ⟨selector.select, selector.select_candidate⟩

end BiasedRttPathSelector

end NexalinkTunnel.Socket
