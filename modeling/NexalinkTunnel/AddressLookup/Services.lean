import NexalinkTunnel.Base.EndpointAddr
import NexalinkTunnel.Lib.Transition

/-!
Contract: the address lookup services of an endpoint and the data they were given.

Owns `AddressLookupServices` with `publish`, `add_boxed`, `set_addr_filter` and
`clear`, for any number of calls at once, and the data that `publish_my_addr` makes.

Does not own: what a service does with its data, and resolving.

## Two locks, one after the other

`publish` holds the lock of the services from the first of them until it has written
`last_data`. `add_boxed` holds the lock of `last_data` while the new service gets it,
and takes the lock of the services only after that. So a publish can finish in
between, of which the new service then hears nothing. And publishes share the lock
of the services, so that they can reach the services in one order and `last_data`
in the other.
-/

namespace NexalinkTunnel.AddressLookup

open Lib Base

structure EndpointData where
  addrs : List TransportAddr
  userData : Option String

/-- A filter answers with `none` where it lends out the addresses as they are. -/
structure AddrFilter where
  filter : Option (List TransportAddr → Option (List TransportAddr))

def AddrFilter.apply (filter : AddrFilter) (addrs : List TransportAddr) :
    Option (List TransportAddr) :=
  match filter.filter with
  | some filter => filter addrs
  | none => none

namespace EndpointData

/-- The first of equal addresses is kept. -/
def new (addrs : List TransportAddr) : EndpointData := ⟨addrs.eraseDups, none⟩

def setUserData (data : EndpointData) (userData : Option String) : EndpointData :=
  { data with userData := userData }

def applyFilter (data : EndpointData) (filter : AddrFilter) : EndpointData :=
  match filter.apply data.addrs with
  | none => data
  | some addrs => (new addrs).setUserData data.userData

end EndpointData

/-- What `publish_my_addr` publishes, if anything. -/
def publishMyAddr (myRelay : Option RelayUrl) (directAddrs : List SocketAddr)
    (userData : Option String) : Option EndpointData :=
  let addrs := directAddrs.map TransportAddr.ip
  if myRelay = none ∧ addrs = [] ∧ userData = none then none
  else
    let addrs :=
      match myRelay with
      | some url => addrs ++ [.relay url]
      | none => addrs
    some ((EndpointData.new addrs).setUserData userData)

/-- A publish that holds the lock of the services, and how many of them it has served. -/
structure Delivery where
  data : EndpointData
  count : Nat

/-- The registry and the calls on it that are under way. -/
structure AddressLookupServices where
  /-- For each registered service the data it received last. -/
  services : List (Option EndpointData)
  lastData : Option EndpointData
  addrFilter : Option AddrFilter
  /-- The publishes that have filtered their data. -/
  filtered : List EndpointData
  /-- The publishes that hold the lock of the services, oldest first. -/
  delivering : List Delivery
  /-- The adds that hold the lock of `last_data`, with what they have read. -/
  offering : List EndpointData
  /-- The adds that wait for the lock of the services, with what their service got. -/
  pushing : List (Option EndpointData)

/-- The steps of the calls. An index says which of the calls at its point goes on. -/
inductive LookupStep where
  | setAddrFilter (filter : AddrFilter)
  | clear
  | publish (data : EndpointData)
  | lockServices (index : Nat)
  | deliver (index : Nat)
  | storeLastData (index : Nat)
  | readLastData
  | offer (index : Nat)
  | push (index : Nat)

namespace AddressLookupServices

def default : AddressLookupServices where
  services := []
  lastData := none
  addrFilter := none
  filtered := []
  delivering := []
  offering := []
  pushing := []

def filterData (lookup : AddressLookupServices) (data : EndpointData) : EndpointData :=
  match lookup.addrFilter with
  | some filter => data.applyFilter filter
  | none => data

def next (lookup : AddressLookupServices) : LookupStep → Option AddressLookupServices
  | .setAddrFilter filter => some { lookup with addrFilter := some filter }
  | .clear => if lookup.delivering = [] then some { lookup with services := [] } else none
  | .publish data => some { lookup with filtered := lookup.filtered ++ [lookup.filterData data] }
  | .lockServices index =>
      match lookup.filtered[index]? with
      | some data =>
          some { lookup with
            filtered := lookup.filtered.eraseIdx index
            delivering := lookup.delivering ++ [⟨data, 0⟩] }
      | none => none
  | .deliver index =>
      match lookup.delivering[index]? with
      | some delivery =>
          if delivery.count < lookup.services.length then
            some { lookup with
              services := lookup.services.set delivery.count (some delivery.data)
              delivering := lookup.delivering.set index ⟨delivery.data, delivery.count + 1⟩ }
          else none
      | none => none
  | .storeLastData index =>
      match lookup.delivering[index]? with
      | some delivery =>
          if delivery.count = lookup.services.length ∧ lookup.offering = [] then
            some { lookup with
              lastData := some delivery.data
              delivering := lookup.delivering.eraseIdx index }
          else none
      | none => none
  | .readLastData =>
      match lookup.lastData with
      | some data => some { lookup with offering := lookup.offering ++ [data] }
      | none => some { lookup with pushing := lookup.pushing ++ [none] }
  | .offer index =>
      match lookup.offering[index]? with
      | some data =>
          some { lookup with
            offering := lookup.offering.eraseIdx index
            pushing := lookup.pushing ++ [some data] }
      | none => none
  | .push index =>
      match lookup.pushing[index]? with
      | some received =>
          if lookup.delivering = [] then
            some { lookup with
              services := lookup.services ++ [received]
              pushing := lookup.pushing.eraseIdx index }
          else none
      | none => none

def Quiet (lookup : AddressLookupServices) : Prop :=
  lookup.filtered = [] ∧ lookup.delivering = [] ∧ lookup.offering = [] ∧ lookup.pushing = []
deriving Decidable

end AddressLookupServices

abbrev addressLookup : Machine AddressLookupServices LookupStep :=
  .ofNext .default AddressLookupServices.next

/-! ## Publishes in a row -/

/-- No publish overtakes one that took the lock of the services before it, and none
finishes while an add is between reading `last_data` and adding its service. -/
def Orderly (_ : List LookupStep) (lookup : AddressLookupServices) : LookupStep → Prop
  | .deliver index =>
      ∀ delivery ∈ lookup.delivering[index]?, ∀ earlier ∈ lookup.delivering.take index,
        delivery.count < earlier.count
  | .storeLastData index => index = 0 ∧ lookup.pushing = []
  | _ => True

instance (history : List LookupStep) (lookup : AddressLookupServices) :
    (step : LookupStep) → Decidable (Orderly history lookup step)
  | .deliver index => inferInstanceAs (Decidable (∀ delivery ∈ lookup.delivering[index]?, _))
  | .storeLastData _ => inferInstanceAs (Decidable (_ ∧ _))
  | .setAddrFilter _ | .clear | .publish _ | .lockServices _ | .readLastData | .offer _
  | .push _ => .isTrue trivial

/-- What a service at `position` has received, given the publishes under way in the
order of their locks: the data of the last one that has passed it. -/
def receivedBy (lastData : Option EndpointData) (delivering : List Delivery) (position : Nat) :
    Option EndpointData :=
  delivering.foldl
    (fun received delivery =>
      if position < delivery.count then some delivery.data else received) lastData

/-- The publishes under way follow each other, and each service has heard of the last
one that has passed it. -/
structure InRow (lookup : AddressLookupServices) : Prop where
  sorted : lookup.delivering.Pairwise fun earlier later => later.count ≤ earlier.count
  inside : ∀ delivery ∈ lookup.delivering, delivery.count ≤ lookup.services.length
  received : ∀ position received, lookup.services[position]? = some received →
    received = receivedBy lookup.lastData lookup.delivering position
  offers : ∀ data ∈ lookup.offering, lookup.lastData = some data
  pushes : ∀ received ∈ lookup.pushing, received = lookup.lastData

section

variable {lastData : Option EndpointData} {front back delivering : List Delivery}
  {delivery : Delivery} {position : Nat}

theorem receivedBy_append (lastData : Option EndpointData) (front back : List Delivery)
    (position : Nat) :
    receivedBy lastData (front ++ back) position =
      receivedBy (receivedBy lastData front position) back position :=
  List.foldl_append

theorem receivedBy_cons (lastData : Option EndpointData) (delivery : Delivery)
    (back : List Delivery) (position : Nat) :
    receivedBy lastData (delivery :: back) position =
      receivedBy (if position < delivery.count then some delivery.data else lastData) back
        position := rfl

private theorem receivedBy_of_le (behind : ∀ delivery ∈ delivering, delivery.count ≤ position) :
    receivedBy lastData delivering position = lastData := by
  induction delivering with
  | nil => rfl
  | cons first rest inductionHypothesis =>
      have waits : ¬ position < first.count := Nat.not_lt.mpr (behind first List.mem_cons_self)
      rw [receivedBy_cons, if_neg waits]
      exact inductionHypothesis fun delivery inside => behind delivery (.tail _ inside)

private theorem receivedBy_served (behind : ∀ later ∈ back, later.count ≤ delivery.count) :
    receivedBy lastData (front ++ ⟨delivery.data, delivery.count + 1⟩ :: back) delivery.count =
      some delivery.data := by
  rw [receivedBy_append, receivedBy_cons, if_pos (Nat.lt_succ_self _), receivedBy_of_le behind]

private theorem receivedBy_unserved (other : position ≠ delivery.count) :
    receivedBy lastData (front ++ ⟨delivery.data, delivery.count + 1⟩ :: back) position =
      receivedBy lastData (front ++ delivery :: back) position := by
  have same : position < delivery.count + 1 ↔ position < delivery.count := by omega
  simp only [receivedBy_append, receivedBy_cons, same]

end

private theorem exists_split {Entry : Type} {entries : List Entry} {index : Nat} {entry : Entry}
    (found : entries[index]? = some entry) :
    ∃ front back, entries = front ++ entry :: back ∧ front.length = index := by
  obtain ⟨inside, rfl⟩ := List.getElem?_eq_some_iff.mp found
  exact ⟨entries.take index, entries.drop (index + 1), by simp, by simp; omega⟩

section Steps

variable {lookup : AddressLookupServices}

private theorem InRow.clear (inRow : InRow lookup) (idle : lookup.delivering = []) :
    InRow { lookup with services := [] } where
  sorted := inRow.sorted
  inside := by simp [idle]
  received := by simp
  offers := inRow.offers
  pushes := inRow.pushes

private theorem InRow.lock (inRow : InRow lookup) (data : EndpointData)
    (filtered : List EndpointData) :
    InRow { lookup with
      filtered := filtered, delivering := lookup.delivering ++ [⟨data, 0⟩] } where
  sorted := by simpa [List.pairwise_append] using inRow.sorted
  inside := by simpa [or_imp, forall_and] using inRow.inside
  received := by
    intro position received listed
    rw [receivedBy_append]
    exact inRow.received position received listed
  offers := inRow.offers
  pushes := inRow.pushes

private theorem InRow.deliver {front back : List Delivery} {delivery : Delivery}
    (inRow : InRow lookup) (split : lookup.delivering = front ++ delivery :: back)
    (ahead : ∀ earlier ∈ front, delivery.count < earlier.count)
    (room : delivery.count < lookup.services.length) :
    InRow { lookup with
      services := lookup.services.set delivery.count (some delivery.data)
      delivering := front ++ ⟨delivery.data, delivery.count + 1⟩ :: back } := by
  obtain ⟨sorted, inside, received, offers, pushes⟩ := inRow
  rw [split] at sorted inside received
  rw [List.pairwise_append, List.pairwise_cons] at sorted
  obtain ⟨frontSorted, ⟨behind, backSorted⟩, across⟩ := sorted
  refine ⟨?_, ?_, ?_, offers, pushes⟩
  · refine List.pairwise_append.mpr ⟨frontSorted, List.pairwise_cons.mpr ⟨?_, backSorted⟩, ?_⟩
    · exact fun later among => Nat.le_succ_of_le (behind later among)
    · intro earlier before later among
      rcases List.mem_cons.mp among with rfl | among
      · exact ahead earlier before
      · exact across earlier before later (.tail _ among)
  · intro other among
    rw [List.length_set]
    rcases List.mem_append.mp among with before | among
    · exact inside other (List.mem_append_left _ before)
    · rcases List.mem_cons.mp among with rfl | after
      · exact room
      · exact inside other (List.mem_append_right _ (.tail _ after))
  · intro position data listed
    by_cases served : position = delivery.count
    · subst served
      rw [receivedBy_served behind]
      simpa [room] using listed.symm
    · rw [receivedBy_unserved served]
      rw [List.getElem?_set_ne (Ne.symm served)] at listed
      exact received position data listed

private theorem InRow.store {back : List Delivery} {delivery : Delivery} (inRow : InRow lookup)
    (split : lookup.delivering = delivery :: back)
    (finished : delivery.count = lookup.services.length) (noOffer : lookup.offering = [])
    (noPush : lookup.pushing = []) :
    InRow { lookup with lastData := some delivery.data, delivering := back } := by
  obtain ⟨sorted, inside, received, offers, pushes⟩ := inRow
  rw [split] at sorted inside received
  refine ⟨sorted.tail, ?_, ?_, by simp [noOffer], by simp [noPush]⟩
  · exact fun other among => inside other (.tail _ among)
  · intro position data listed
    have passed : position < delivery.count := by
      rw [finished]
      exact (List.getElem?_eq_some_iff.mp listed).1
    rw [received position data listed, receivedBy_cons, if_pos passed]

private theorem InRow.read (inRow : InRow lookup) {data : EndpointData}
    (last : lookup.lastData = some data) :
    InRow { lookup with offering := lookup.offering ++ [data] } where
  sorted := inRow.sorted
  inside := inRow.inside
  received := inRow.received
  offers := by simpa [or_imp, forall_and] using ⟨inRow.offers, last⟩
  pushes := inRow.pushes

private theorem InRow.wait (inRow : InRow lookup) {received : Option EndpointData}
    {offering : List EndpointData} (last : received = lookup.lastData)
    (fewer : offering ⊆ lookup.offering) :
    InRow { lookup with offering := offering, pushing := lookup.pushing ++ [received] } where
  sorted := inRow.sorted
  inside := inRow.inside
  received := inRow.received
  offers := fun data among => inRow.offers data (fewer among)
  pushes := by simpa [or_imp, forall_and] using ⟨inRow.pushes, last⟩

private theorem InRow.push (inRow : InRow lookup) {received : Option EndpointData}
    {pushing : List (Option EndpointData)} (waiting : received ∈ lookup.pushing)
    (fewer : pushing ⊆ lookup.pushing) (idle : lookup.delivering = []) :
    InRow { lookup with services := lookup.services ++ [received], pushing := pushing } where
  sorted := inRow.sorted
  inside := by simp [idle]
  received := by
    intro position data listed
    have last : receivedBy lookup.lastData lookup.delivering position = lookup.lastData := by
      rw [idle]
      rfl
    rcases List.mem_append.mp (List.mem_of_getElem? listed) with old | new
    · obtain ⟨place, found⟩ := List.mem_iff_getElem?.mp old
      have same := inRow.received place data found
      rw [idle] at same
      rw [last]
      exact same
    · rw [last, List.mem_singleton.mp new]
      exact inRow.pushes received waiting
  offers := inRow.offers
  pushes := fun data among => inRow.pushes data (fewer among)

end Steps

private theorem InRow.step {history : List LookupStep} {lookup after : AddressLookupServices}
    {step : LookupStep} (inRow : InRow lookup) (orderly : Orderly history lookup step)
    (stepped : lookup.next step = some after) : InRow after := by
  unfold AddressLookupServices.next at stepped
  split at stepped
  next =>
      cases stepped
      exact ⟨inRow.sorted, inRow.inside, inRow.received, inRow.offers, inRow.pushes⟩
  next =>
      split at stepped <;> cases stepped
      next idle => exact inRow.clear idle
  next =>
      cases stepped
      exact ⟨inRow.sorted, inRow.inside, inRow.received, inRow.offers, inRow.pushes⟩
  next index =>
      split at stepped <;> cases stepped
      next data found => exact inRow.lock data _
  next index =>
      split at stepped
      next delivery found =>
          split at stepped <;> cases stepped
          next room =>
              have ahead := orderly delivery found
              obtain ⟨front, back, split, rfl⟩ := exists_split found
              rw [split, List.take_left] at ahead
              have moved : lookup.delivering.set front.length ⟨delivery.data, delivery.count + 1⟩ =
                  front ++ ⟨delivery.data, delivery.count + 1⟩ :: back := by
                rw [split]
                simp
              rw [moved]
              exact inRow.deliver split ahead room
      next => cases stepped
  next index =>
      obtain ⟨rfl, noPush⟩ := orderly
      split at stepped
      next delivery found =>
          split at stepped <;> cases stepped
          next finished =>
              rw [← List.head?_eq_getElem?] at found
              obtain ⟨back, split⟩ := List.head?_eq_some_iff.mp found
              have left : lookup.delivering.eraseIdx 0 = back := by
                rw [split]
                rfl
              rw [left]
              exact inRow.store split finished.1 finished.2 noPush
      next => cases stepped
  next =>
      split at stepped <;> cases stepped
      next data last => exact inRow.read last
      next none => exact inRow.wait none.symm (List.Subset.refl _)
  next index =>
      split at stepped <;> cases stepped
      next data found =>
          exact inRow.wait (inRow.offers data (List.mem_of_getElem? found)).symm
            (List.eraseIdx_subset)
  next index =>
      split at stepped
      next received found =>
          split at stepped <;> cases stepped
          next idle =>
              exact inRow.push (List.mem_of_getElem? found) (List.eraseIdx_subset) idle
      next => cases stepped

/-- A publish is under way or has finished. -/
def Heard (lookup : AddressLookupServices) : Prop :=
  lookup.filtered ≠ [] ∨ lookup.delivering ≠ [] ∨ lookup.lastData ≠ none

private theorem Heard.step {lookup after : AddressLookupServices} {step : LookupStep}
    (stepped : lookup.next step = some after)
    (heard : Heard lookup ∨ ∃ data, step = .publish data) : Heard after := by
  unfold AddressLookupServices.next at stepped
  unfold Heard at *
  split at stepped
  next =>
      cases stepped
      simpa using heard
  next =>
      split at stepped <;> cases stepped
      simpa using heard
  next =>
      cases stepped
      simp
  next =>
      split at stepped <;> cases stepped
      simp
  next =>
      split at stepped
      next delivery found =>
          split at stepped <;> cases stepped
          have some : lookup.delivering ≠ [] := List.ne_nil_of_mem (List.mem_of_getElem? found)
          simp [some]
      next => cases stepped
  next =>
      split at stepped
      next =>
          split at stepped <;> cases stepped
          simp
      next => cases stepped
  next =>
      split at stepped <;> cases stepped
      next => simpa using heard
      next => simpa using heard
  next =>
      split at stepped <;> cases stepped
      simpa using heard
  next =>
      split at stepped
      next =>
          split at stepped <;> cases stepped
          simpa using heard
      next => cases stepped

private theorem heard_of_publish {history : List LookupStep} {lookup : AddressLookupServices}
    (reached : addressLookup.Reaches history lookup) :
    (∃ data, .publish data ∈ history) → Heard lookup := by
  apply reached.invariant_next fun history lookup =>
    (∃ data, LookupStep.publish data ∈ history) → Heard lookup
  · simp
  · rintro history lookup step after stepped before ⟨data, made⟩
    rcases List.mem_append.mp made with earlier | last
    · exact Heard.step stepped (.inl (before ⟨data, earlier⟩))
    · exact Heard.step stepped (.inr ⟨data, (List.mem_singleton.mp last).symm⟩)

private theorem inRow_default : InRow .default where
  sorted := .nil
  inside := by simp [AddressLookupServices.default]
  received := by simp [AddressLookupServices.default]
  offers := by simp [AddressLookupServices.default]
  pushes := by simp [AddressLookupServices.default]

private theorem inRow_of_orderly {history : List LookupStep} {lookup : AddressLookupServices}
    (reached : (addressLookup.restrict Orderly).Reaches history lookup) : InRow lookup := by
  apply reached.invariant fun _ lookup => InRow lookup
  · exact inRow_default
  · intro history lookup step _ enabled inRow
    obtain ⟨after, stepped, same⟩ := Machine.exists_next_of_enabled enabled.1
    have next : (addressLookup.restrict Orderly).step lookup step = after := same
    rw [next]
    exact inRow.step enabled.2 stepped

/-- For every interleaving of any number of publishes and adds in which no publish
overtakes another and none finishes between the two locks of an add: once all calls have
completed and a publish was made, each registered service has last received what is in
`last_data`. -/
theorem services_received_lastData_of_orderly (history : List LookupStep)
    (lookup : AddressLookupServices)
    (reached : (addressLookup.restrict Orderly).Reaches history lookup) (quiet : lookup.Quiet)
    (published : ∃ data, .publish data ∈ history) :
    ∃ data, lookup.lastData = some data ∧ ∀ received ∈ lookup.services, received = some data := by
  obtain ⟨filtered, delivering, -, -⟩ := quiet
  have heard := heard_of_publish reached.of_restrict published
  have last : lookup.lastData ≠ none := by simpa [Heard, filtered, delivering] using heard
  obtain ⟨data, last⟩ := Option.ne_none_iff_exists'.mp last
  refine ⟨data, last, ?_⟩
  intro received listed
  obtain ⟨position, found⟩ := List.mem_iff_getElem?.mp listed
  have same := (inRow_of_orderly reached).received position received found
  rw [delivering] at same
  exact same.trans last

def homeRelayIs (url : String) : List LookupStep :=
  (publishMyAddr (some ⟨url⟩) [] none).toList.map .publish

def homeData (url : String) : EndpointData := ⟨[.relay ⟨url⟩], none⟩

def lookupAfter (steps : List LookupStep) : AddressLookupServices :=
  addressLookup.runFrom .default steps

/-- Two publishes that follow each other closely, and a service that is added later. -/
def publishesInRow : List LookupStep :=
  [LookupStep.readLastData, .push 0] ++ homeRelayIs "https://one" ++ homeRelayIs "https://two" ++
    [LookupStep.lockServices 0, .lockServices 0, .deliver 0, .deliver 1, .storeLastData 0,
      .storeLastData 0, .readLastData, .offer 0, .push 0]

theorem publishesInRow_received :
    (lookupAfter publishesInRow).services.length = 2 ∧
      ∃ data, (lookupAfter publishesInRow).lastData = some data ∧
        ∀ received ∈ (lookupAfter publishesInRow).services, received = some data :=
  ⟨rfl, services_received_lastData_of_orderly publishesInRow (lookupAfter publishesInRow)
    (Machine.reaches_runFrom (by decide)) (by decide)
    ⟨homeData "https://one", .tail _ (.tail _ (.head _))⟩⟩

/-- A publish finishes between the two locks of an add. -/
def publishesDuringAdd : List LookupStep :=
  homeRelayIs "https://one" ++
    [LookupStep.lockServices 0, .storeLastData 0, .readLastData, .offer 0] ++
    homeRelayIs "https://two" ++ [LookupStep.lockServices 0, .storeLastData 0, .push 0]

/-- Two publishes reach a service in one order and `last_data` in the other. -/
def publishesCross : List LookupStep :=
  [LookupStep.readLastData, .push 0] ++ homeRelayIs "https://one" ++ homeRelayIs "https://two" ++
    [LookupStep.lockServices 0, .lockServices 0, .deliver 0, .deliver 1, .storeLastData 1,
      .storeLastData 0]

/-- In both runs a service is left with other data than `last_data`. -/
theorem service_received_other_data :
    addressLookup.Reaches publishesDuringAdd (lookupAfter publishesDuringAdd) ∧
      (lookupAfter publishesDuringAdd).Quiet ∧
      (lookupAfter publishesDuringAdd).services = [some (homeData "https://one")] ∧
      (lookupAfter publishesDuringAdd).lastData = some (homeData "https://two") ∧
      addressLookup.Reaches publishesCross (lookupAfter publishesCross) ∧
      (lookupAfter publishesCross).Quiet ∧
      (lookupAfter publishesCross).services = [some (homeData "https://two")] ∧
      (lookupAfter publishesCross).lastData = some (homeData "https://one") :=
  ⟨Machine.reaches_runFrom (by decide), by decide, rfl, rfl,
    Machine.reaches_runFrom (by decide), by decide, rfl, rfl⟩

end NexalinkTunnel.AddressLookup
