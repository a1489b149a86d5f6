import NexalinkTunnel.Base.EndpointAddr
import NexalinkTunnel.Lib.Transition

/-!
Contract: the watchable in which an endpoint publishes its home relay.

Owns `HomeRelayWatch`, and which of the writes of the relay actors it shows when
they race.

Does not own: when the actors write.

## A check before the write

The relay actor writes the URL. The actor of a relay writes its status only if the
watchable names its relay, but it looks first and writes after that. What it writes
has the URL in it. So a status that was due before the relay actor moved on brings
the old URL back.
-/

namespace NexalinkTunnel.Socket.Relay

open Lib Base

/-- The state of a relay connection. Errors are told apart by their allocation. -/
inductive RelayConnectionState where
  | connecting
  | connected
  | disconnected (lastError : Option Nat)
deriving DecidableEq

structure RelayStatus where
  url : RelayUrl
  state : RelayConnectionState

structure HomeRelayWatch where
  inner : Option RelayStatus

namespace HomeRelayWatch

def default : HomeRelayWatch := ⟨none⟩

def set (_ : HomeRelayWatch) (url : RelayUrl) (state : RelayConnectionState) : HomeRelayWatch :=
  ⟨some ⟨url, state⟩⟩

def clear (_ : HomeRelayWatch) : HomeRelayWatch := ⟨none⟩

def get (watch : HomeRelayWatch) : Option RelayStatus := watch.inner

def url (watch : HomeRelayWatch) : Option RelayUrl := watch.get.map RelayStatus.url

@[simp] theorem url_set (watch : HomeRelayWatch) (url : RelayUrl) (state : RelayConnectionState) :
    (watch.set url state).url = some url := rfl

@[simp] theorem url_clear (watch : HomeRelayWatch) : watch.clear.url = none := rfl

end HomeRelayWatch

/-- The watchable, the URL that the relay actor wrote last, and the calls of `set_status`
that have found their URL in the watchable. -/
structure HomeRelayWriters where
  watch : HomeRelayWatch
  chosen : Option RelayUrl
  checked : List RelayStatus

inductive WatchStep where
  /-- `set` by the relay actor. -/
  | set (url : RelayUrl) (state : RelayConnectionState)
  /-- `clear` by the relay actor. -/
  | clear
  /-- A call of `set_status` looks at the watchable. -/
  | statusGet (url : RelayUrl) (state : RelayConnectionState)
  /-- A call of `set_status` that has found its URL writes. -/
  | statusSet (index : Nat)

namespace HomeRelayWriters

def start : HomeRelayWriters := ⟨.default, none, []⟩

def next (writers : HomeRelayWriters) : WatchStep → Option HomeRelayWriters
  | .set url state => some { writers with watch := writers.watch.set url state, chosen := some url }
  | .clear => some { writers with watch := writers.watch.clear, chosen := none }
  | .statusGet url state =>
      if writers.watch.url = some url then
        some { writers with checked := writers.checked ++ [⟨url, state⟩] }
      else some writers
  | .statusSet index =>
      match writers.checked[index]? with
      | some status =>
          some { writers with
            watch := writers.watch.set status.url status.state
            checked := writers.checked.eraseIdx index }
      | none => none

/-- The watchable names the relay that the relay actor chose. -/
def Chosen (writers : HomeRelayWriters) : Prop := writers.watch.url = writers.chosen
deriving Decidable

end HomeRelayWriters

abbrev homeRelayWatch : Machine HomeRelayWriters WatchStep :=
  .ofNext .start HomeRelayWriters.next

/-- A call of `set_status` writes while the watchable still has the URL that it found. -/
def StillNamed (_ : List WatchStep) (writers : HomeRelayWriters) : WatchStep → Prop
  | .statusSet index => ∀ status ∈ writers.checked[index]?, writers.watch.url = some status.url
  | _ => True

instance (history : List WatchStep) (writers : HomeRelayWriters) :
    (step : WatchStep) → Decidable (StillNamed history writers step)
  | .statusSet index => inferInstanceAs (Decidable (∀ status ∈ writers.checked[index]?, _))
  | .set _ _ | .clear | .statusGet _ _ => .isTrue trivial

/-- Along every interleaving of the relay actor with any number of status updates, the
watchable names the relay that the relay actor chose last, or none if it chose none,
exactly if every status update writes while the URL that it found is still there. -/
theorem watch_names_chosen_iff_stillNamed (history : List WatchStep) (writers : HomeRelayWriters)
    (reached : homeRelayWatch.Reaches history writers) :
    homeRelayWatch.Throughout HomeRelayWriters.Chosen history ↔
      (homeRelayWatch.restrict StillNamed).Reaches history writers := by
  apply reached.throughout_iff_restrict_next
  · rfl
  · intro history writers step after _ stepped chosen
    cases step with
    | set url state =>
        cases stepped
        exact iff_of_true rfl trivial
    | clear =>
        cases stepped
        exact iff_of_true rfl trivial
    | statusGet url state =>
        simp only [HomeRelayWriters.next] at stepped
        split at stepped <;> cases stepped
        · exact iff_of_true chosen trivial
        · exact iff_of_true chosen trivial
    | statusSet index =>
        simp only [HomeRelayWriters.next] at stepped
        split at stepped <;> cases stepped
        next status found =>
            -- The watchable names what was chosen, so the write does so too if it keeps the URL.
            simp only [StillNamed, found, Option.mem_def, Option.some.injEq, forall_eq',
              HomeRelayWriters.Chosen, HomeRelayWatch.url_set]
            rw [← chosen]
            exact eq_comm

/-- Two relays in turn, each with a status update of its own. -/
def updatesInTime : List WatchStep :=
  [.set ⟨"https://a"⟩ .connecting, .statusGet ⟨"https://a"⟩ .connected, .statusSet 0,
    .set ⟨"https://b"⟩ .connecting, .statusGet ⟨"https://a"⟩ (.disconnected none),
    .statusGet ⟨"https://b"⟩ .connected, .statusSet 0]

theorem updatesInTime_names_chosen :
    homeRelayWatch.Throughout HomeRelayWriters.Chosen updatesInTime :=
  (watch_names_chosen_iff_stillNamed updatesInTime
    (homeRelayWatch.runFrom .start updatesInTime) (Machine.reaches_runFrom (by decide))).mpr
    (Machine.reaches_runFrom (by decide))

/-- The relay actor clears the home relay between the two halves of a status update. -/
def updateTooLate : List WatchStep :=
  [.set ⟨"https://a"⟩ .connecting, .statusGet ⟨"https://a"⟩ .connected, .clear, .statusSet 0]

/-- The status update brings the cleared URL back. -/
theorem updateTooLate_restores_url :
    homeRelayWatch.Reaches updateTooLate (homeRelayWatch.runFrom .start updateTooLate) ∧
      (homeRelayWatch.runFrom .start updateTooLate).chosen = none ∧
      (homeRelayWatch.runFrom .start updateTooLate).watch.url = some ⟨"https://a"⟩ :=
  ⟨Machine.reaches_runFrom (by decide), rfl, rfl⟩

end NexalinkTunnel.Socket.Relay
