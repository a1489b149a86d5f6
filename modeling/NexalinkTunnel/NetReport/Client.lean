import NexalinkTunnel.Lib.RunningLeast
import NexalinkTunnel.Lib.Transition
import NexalinkTunnel.NetReport.Report

/-!
Contract: the client that makes reports and chooses the preferred relay.

Owns the reports it remembers, when a report is a full one, how probe results are
collected, and the choice of the preferred relay, with its history.

Does not own: which probes are run and when they finish. A run is given what they
find, in the order in which they finish.

## Staying with a relay

A relay that is somewhat faster than the preferred one does not replace it. The client
knows the preferred relay from its last report. A full report starts by forgetting the
last report, so it never stays with a relay: it takes the fastest one.
-/

namespace NexalinkTunnel.NetReport

open Base Lib

/-! ## The choice of a relay -/

def maxAge : Nat := 5 * 60 * 1000000000

structure Choice where
  preferredRelay : Option RelayUrl
  bestAny : Nat
  oldRelayCurLatency : Nat

namespace Choice

def noteOld (choice : Choice) (prevRelay : Option RelayUrl) (url : RelayUrl) (duration : Nat) :
    Choice :=
  if some url = prevRelay then { choice with oldRelayCurLatency := duration } else choice

/-- The relay is preferred if it is the first one or better than the others so far. -/
def prefer (choice : Choice) (bestRecent : RelayLatencies) (url : RelayUrl) : Choice :=
  match bestRecent.get url with
  | some best =>
      if choice.preferredRelay.isNone ∨ best < choice.bestAny then
        { choice with bestAny := best, preferredRelay := some url }
      else choice
  | none => choice

end Choice

def consider (bestRecent : RelayLatencies) (prevRelay : Option RelayUrl) (choice : Choice)
    (entry : Probe × RelayUrl × Nat) : Choice :=
  (choice.noteOld prevRelay entry.2.1 entry.2.2).prefer bestRecent entry.2.1

def chooseRelay (bestRecent : RelayLatencies) (prevRelay : Option RelayUrl) (report : Report) :
    Choice :=
  report.relayLatency.iter.foldl (consider bestRecent prevRelay) ⟨report.preferredRelay, 0, 0⟩

/-- The relay in use is still there and the new one is not much better. -/
def Choice.Sticks (choice : Choice) (prevRelay : Option RelayUrl) : Prop :=
  prevRelay.isSome ∧ choice.preferredRelay ≠ prevRelay ∧ choice.oldRelayCurLatency ≠ 0 ∧
    choice.oldRelayCurLatency / 3 * 2 < choice.bestAny
deriving Decidable

/-- What a round does to the preferred relay and its latency. The previous relay has no part in
it. -/
def pick (bestRecent : RelayLatencies) (best : Option RelayUrl × Nat) (url : RelayUrl) :
    Option RelayUrl × Nat :=
  match bestRecent.get url with
  | some latency => if best.1.isNone ∨ latency < best.2 then (some url, latency) else best
  | none => best

section Loop

variable (bestRecent : RelayLatencies) (prevRelay : Option RelayUrl)

private theorem consider_best (choice : Choice) (entry : Probe × RelayUrl × Nat) :
    ((consider bestRecent prevRelay choice entry).preferredRelay,
        (consider bestRecent prevRelay choice entry).bestAny) =
      pick bestRecent (choice.preferredRelay, choice.bestAny) entry.2.1 := by
  have preferred : (choice.noteOld prevRelay entry.2.1 entry.2.2).preferredRelay =
      choice.preferredRelay := by
    unfold Choice.noteOld
    split <;> rfl
  have best : (choice.noteOld prevRelay entry.2.1 entry.2.2).bestAny = choice.bestAny := by
    unfold Choice.noteOld
    split <;> rfl
  rw [← preferred, ← best]
  unfold consider Choice.prefer pick
  split
  · split <;> rfl
  · rfl

private theorem consider_oldRelayCurLatency (choice : Choice) (entry : Probe × RelayUrl × Nat) :
    (consider bestRecent prevRelay choice entry).oldRelayCurLatency =
      if some entry.2.1 = prevRelay then entry.2.2 else choice.oldRelayCurLatency := by
  have noted : (consider bestRecent prevRelay choice entry).oldRelayCurLatency =
      (choice.noteOld prevRelay entry.2.1 entry.2.2).oldRelayCurLatency := by
    unfold consider Choice.prefer
    split
    · split <;> rfl
    · rfl
  rw [noted]
  unfold Choice.noteOld
  split <;> rfl

private theorem foldl_consider_best (entries : List (Probe × RelayUrl × Nat)) (choice : Choice) :
    ((entries.foldl (consider bestRecent prevRelay) choice).preferredRelay,
        (entries.foldl (consider bestRecent prevRelay) choice).bestAny) =
      (entries.map (·.2.1)).foldl (pick bestRecent) (choice.preferredRelay, choice.bestAny) := by
  induction entries generalizing choice with
  | nil => rfl
  | cons entry entries inductionHypothesis =>
      rw [List.foldl_cons, inductionHypothesis, consider_best, List.map_cons, List.foldl_cons]

private theorem chooseRelay_best (report : Report) :
    (chooseRelay bestRecent prevRelay report).preferredRelay =
        ((report.relayLatency.iter.map (·.2.1)).foldl (pick bestRecent)
          (report.preferredRelay, 0)).1 ∧
      (chooseRelay bestRecent prevRelay report).bestAny =
        ((report.relayLatency.iter.map (·.2.1)).foldl (pick bestRecent)
          (report.preferredRelay, 0)).2 :=
  Prod.mk.inj (foldl_consider_best bestRecent prevRelay report.relayLatency.iter
    ⟨report.preferredRelay, 0, 0⟩)

/-- The relay that is picked is the first one with the least best recent latency. -/
theorem foldl_pick_spec (urls : List RelayUrl) :
    (∃ url, (urls.foldl (pick bestRecent) (none, 0)).1 = some url ∧
        FirstLeast bestRecent.get urls url (urls.foldl (pick bestRecent) (none, 0)).2) ∨
      ((urls.foldl (pick bestRecent) (none, 0)).1 = none ∧
        ∀ url ∈ urls, bestRecent.get url = none) := by
  induction urls using List.reverseRecOn with
  | nil => exact .inr ⟨rfl, by simp⟩
  | append_singleton urls last inductionHypothesis =>
      rw [List.foldl_append, List.foldl_cons, List.foldl_nil]
      generalize urls.foldl (pick bestRecent) (none, 0) = best at inductionHypothesis
      cases known : bestRecent.get last with
      | none =>
          have kept : pick bestRecent best last = best := by simp only [pick, known]
          rw [kept]
          rcases inductionHypothesis with ⟨url, picked, first⟩ | ⟨none, unknown⟩
          · exact .inl ⟨url, picked, first.concat (by simp [known])⟩
          · refine .inr ⟨none, fun url inside => ?_⟩
            rcases List.mem_append.mp inside with inside | inside
            · exact unknown url inside
            · exact List.mem_singleton.mp inside ▸ known
      | some latency =>
          simp only [pick, known]
          rcases inductionHypothesis with ⟨url, picked, first⟩ | ⟨none, unknown⟩
          · split
            next better =>
              have below : latency < best.2 := better.resolve_left (by simp [picked])
              refine .inl ⟨last, rfl, firstLeast_concat known fun other inside key found => ?_⟩
              exact below.trans_le (first.le inside found)
            next worse =>
              refine .inl ⟨url, picked, first.concat fun key found => ?_⟩
              rw [known] at found
              cases found
              exact Nat.le_of_not_lt (not_or.mp worse).2
          · rw [if_pos (.inl (by simp [none]))]
            refine .inl ⟨last, rfl, firstLeast_concat known fun other inside key found => ?_⟩
            rw [unknown other inside] at found
            cases found

end Loop

namespace RelayLatencies

theorem mem_iter {latencies : RelayLatencies} {probe : Probe} {url : RelayUrl} {latency : Nat} :
    (probe, url, latency) ∈ latencies.iter ↔ (latencies.list probe)[url]? = some latency := by
  cases probe <;>
    simp [iter, list, Std.TreeMap.mem_toList_iff_getElem?_eq_some]

/-- The latency of a relay that `iter` comes to last. -/
def lastLatency (latencies : RelayLatencies) (url : RelayUrl) : Nat :=
  latencies.ipv6[url]?.getD (latencies.ipv4[url]?.getD (latencies.https[url]?.getD 0))

theorem mem_iter_lastLatency (latencies : RelayLatencies) (url : RelayUrl) :
    (∃ probe, (probe, url, latencies.lastLatency url) ∈ latencies.iter) ∨
      (latencies.get url = none ∧ latencies.lastLatency url = 0) := by
  simp only [mem_iter, lastLatency]
  cases six : latencies.ipv6[url]? with
  | some latency => exact .inl ⟨.qadIpv6, six⟩
  | none =>
      cases four : latencies.ipv4[url]? with
      | some latency => exact .inl ⟨.qadIpv4, four⟩
      | none =>
          cases https : latencies.https[url]? with
          | some latency => exact .inl ⟨.https, https⟩
          | none => exact .inr ⟨by simp [get, six, four, https], rfl⟩

end RelayLatencies

section Noted

variable (bestRecent : RelayLatencies) {relay : RelayUrl}

private theorem foldl_consider_old_eq {entries : List (Probe × RelayUrl × Nat)} {latency : Nat}
    (only : ∀ entry ∈ entries, entry.2.1 = relay → entry.2.2 = latency) (choice : Choice) :
    (entries.foldl (consider bestRecent (some relay)) choice).oldRelayCurLatency =
      if ∃ entry ∈ entries, entry.2.1 = relay then latency else choice.oldRelayCurLatency := by
  induction entries generalizing choice with
  | nil => simp
  | cons entry entries inductionHypothesis =>
      have later := inductionHypothesis
        (fun other inside => only other (List.mem_cons_of_mem _ inside))
        (consider bestRecent (some relay) choice entry)
      rw [List.foldl_cons, later, consider_oldRelayCurLatency]
      by_cases here : entry.2.1 = relay
      · rw [if_pos (congrArg some here), only entry List.mem_cons_self here, ite_self,
          if_pos ⟨entry, List.mem_cons_self, here⟩]
      · rw [if_neg (mt Option.some.inj here)]
        exact if_congr (by simp [here]) rfl rfl

private theorem foldl_consider_old_map (map : Std.TreeMap RelayUrl Nat) (probe : Probe)
    (choice : Choice) :
    ((map.toList.map (probe, ·)).foldl (consider bestRecent (some relay))
      choice).oldRelayCurLatency = map[relay]?.getD choice.oldRelayCurLatency := by
  have listed : ∀ entry ∈ map.toList.map (probe, ·), map[entry.2.1]? = some entry.2.2 := by
    intro entry inside
    obtain ⟨pair, listed, rfl⟩ := List.mem_map.mp inside
    exact Std.TreeMap.mem_toList_iff_getElem?_eq_some.mp listed
  have only : ∀ entry ∈ map.toList.map (probe, ·), entry.2.1 = relay →
      entry.2.2 = map[relay]?.getD choice.oldRelayCurLatency := by
    intro entry inside here
    rw [← here, listed entry inside]
    rfl
  rw [foldl_consider_old_eq bestRecent only]
  split
  next => rfl
  next absent =>
    cases known : map[relay]? with
    | none => rfl
    | some latency =>
        have inside := Std.TreeMap.mem_toList_iff_getElem?_eq_some.mpr known
        exact absurd ⟨_, List.mem_map_of_mem inside, rfl⟩ absent

private theorem chooseRelay_old (report : Report) :
    (chooseRelay bestRecent (some relay) report).oldRelayCurLatency =
      report.relayLatency.lastLatency relay := by
  rw [chooseRelay, RelayLatencies.iter, List.foldl_append, List.foldl_append,
    foldl_consider_old_map, foldl_consider_old_map, foldl_consider_old_map]
  rfl

end Noted

/-! ## The history of reports -/

structure Reports where
  nextFull : Bool
  prev : Std.TreeMap Nat Report
  last : Option Report
  lastFull : Nat

namespace Reports

def default (now : Nat) : Reports := ⟨true, ∅, none, now⟩

def prevRelay (reports : Reports) : Option RelayUrl := reports.last.bind Report.preferredRelay

/-- Without new information about mappings, the last report's is copied. -/
def withMappings (reports : Reports) (report : Report) : Report :=
  match reports.last with
  | none => report
  | some last =>
      { report with
        mappingVariesByDestIpv4 :=
          report.mappingVariesByDestIpv4.orElse fun _ => last.mappingVariesByDestIpv4
        mappingVariesByDestIpv6 :=
          report.mappingVariesByDestIpv6.orElse fun _ => last.mappingVariesByDestIpv6 }

/-- The times of the reports that are too old. A time that is not yet has no age. -/
def toRemove (reports : Reports) (now : Nat) : List Nat :=
  (reports.prev.toList.filter fun entry => maxAge < now - entry.1).map Prod.fst

/-- The best latencies of the recent reports and of the current one. -/
def bestRecent (reports : Reports) (now : Nat) (report : Report) : RelayLatencies :=
  let recent := reports.prev.toList.filter fun entry => ¬ maxAge < now - entry.1
  let best := recent.foldl (fun best entry => RelayLatencies.merge best entry.2.relayLatency)
    RelayLatencies.default
  best.merge report.relayLatency

def choice (reports : Reports) (now : Nat) (report : Report) : Choice :=
  chooseRelay (reports.bestRecent now report) reports.prevRelay report

/-- `add_report_history_and_set_preferred_relay`, at the time `now`. -/
def addReportHistoryAndSetPreferredRelay (reports : Reports) (now : Nat) (report : Report) :
    Reports × Report :=
  let report := reports.withMappings report
  let choice := reports.choice now report
  let preferred :=
    if choice.Sticks reports.prevRelay then reports.prevRelay else choice.preferredRelay
  let report := { report with preferredRelay := preferred }
  let prev := (reports.toRemove now).foldl (fun prev time => prev.erase time) reports.prev
  ({ reports with prev := prev.insert now report, last := some report }, report)

variable {reports : Reports} {now : Nat} {report : Report}

@[simp] theorem relayLatency_withMappings (reports : Reports) (report : Report) :
    (reports.withMappings report).relayLatency = report.relayLatency := by
  unfold withMappings
  split <;> rfl

@[simp] theorem preferredRelay_withMappings (reports : Reports) (report : Report) :
    (reports.withMappings report).preferredRelay = report.preferredRelay := by
  unfold withMappings
  split <;> rfl

private theorem choice_withMappings (reports : Reports) (now : Nat) (report : Report) :
    reports.choice now (reports.withMappings report) = reports.choice now report := by
  simp only [choice, chooseRelay, bestRecent, relayLatency_withMappings,
    preferredRelay_withMappings]

private theorem get_bestRecent_isSome (reports : Reports) (now : Nat)
    {entry : Probe × RelayUrl × Nat} (inside : entry ∈ report.relayLatency.iter) :
    ((reports.bestRecent now report).get entry.2.1).isSome :=
  RelayLatencies.get_isSome_merge.mpr (.inl ⟨entry.1, entry.2.2, inside⟩)

/-- The first of the relays in the report whose best recent latency is the least. -/
def Fastest (reports : Reports) (now : Nat) (report : Report) (url : RelayUrl) (best : Nat) :
    Prop :=
  FirstLeast (reports.bestRecent now report).get (report.relayLatency.iter.map (·.2.1)) url best

/-- The choice is the fastest relay, if the report has any. -/
theorem choice_spec (reports : Reports) (now : Nat) (unset : report.preferredRelay = none) :
    (∃ url, (reports.choice now report).preferredRelay = some url ∧
        reports.Fastest now report url (reports.choice now report).bestAny) ∨
      ((reports.choice now report).preferredRelay = none ∧ report.relayLatency.iter = []) := by
  obtain ⟨preferred, best⟩ :=
    chooseRelay_best (reports.bestRecent now report) reports.prevRelay report
  rw [choice, preferred, best, unset]
  refine (foldl_pick_spec _ _).imp id (And.imp id fun unknown => ?_)
  refine List.eq_nil_iff_forall_not_mem.mpr fun entry inside => ?_
  have known := get_bestRecent_isSome reports now inside
  rw [unknown entry.2.1 (List.mem_map_of_mem inside)] at known
  cases known

private theorem choice_isSome_iff (unset : report.preferredRelay = none) :
    (reports.choice now report).preferredRelay.isSome ↔ report.relayLatency.iter ≠ [] := by
  rcases reports.choice_spec now unset with ⟨url, chosen, first⟩ | ⟨none, empty⟩
  · refine iff_of_true (by rw [chosen]; rfl) fun empty => ?_
    have inside := first.mem.1
    rw [empty] at inside
    cases inside
  · exact iff_of_false (by simp [none]) (not_not.mpr empty)

private theorem mem_of_choice (unset : report.preferredRelay = none) {url : RelayUrl}
    (chosen : (reports.choice now report).preferredRelay = some url) :
    ∃ entry ∈ report.relayLatency.iter, entry.2.1 = url := by
  rcases reports.choice_spec now unset with ⟨other, picked, first⟩ | ⟨none, -⟩
  · cases picked.symm.trans chosen
    exact List.mem_map.mp first.mem.1
  · cases none.symm.trans chosen

private theorem choice_old {relay : RelayUrl} (inUse : reports.prevRelay = some relay) :
    (reports.choice now report).oldRelayCurLatency = report.relayLatency.lastLatency relay := by
  rw [choice, inUse]
  exact chooseRelay_old _ report

private theorem mem_of_sticks (sticks : (reports.choice now report).Sticks reports.prevRelay) :
    ∃ entry ∈ report.relayLatency.iter, some entry.2.1 = reports.prevRelay := by
  obtain ⟨inUse, -, noted, -⟩ := sticks
  obtain ⟨relay, inUse⟩ := Option.isSome_iff_exists.mp inUse
  rw [choice_old inUse] at noted
  rcases report.relayLatency.mem_iter_lastLatency relay with ⟨probe, listed⟩ | ⟨-, zero⟩
  · exact ⟨_, listed, inUse.symm⟩
  · exact absurd zero noted

/-- The client stays with the relay in use exactly if another one is the fastest, and the last
latency of the relay in use is not zero and less than one and a half times as long. -/
theorem sticks_iff (reports : Reports) (now : Nat) (unset : report.preferredRelay = none) :
    (reports.choice now report).Sticks reports.prevRelay ↔
      ∃ relay fastest best, reports.prevRelay = some relay ∧
        reports.Fastest now report fastest best ∧ fastest ≠ relay ∧
        report.relayLatency.lastLatency relay ≠ 0 ∧
        report.relayLatency.lastLatency relay / 3 * 2 < best := by
  rcases reports.choice_spec now unset with ⟨url, chosen, first⟩ | ⟨none, empty⟩
  · constructor
    · rintro ⟨inUse, different, noted, above⟩
      obtain ⟨relay, inUse⟩ := Option.isSome_iff_exists.mp inUse
      rw [choice_old inUse] at noted above
      rw [chosen, inUse] at different
      exact ⟨relay, url, _, inUse, first, fun same => different (congrArg some same), noted, above⟩
    · rintro ⟨relay, fastest, best, inUse, isFirst, different, noted, above⟩
      obtain ⟨rfl, rfl⟩ := isFirst.unique first
      refine ⟨by rw [inUse]; rfl, ?_, ?_, ?_⟩
      · rw [chosen, inUse]
        exact fun same => different (Option.some.inj same)
      · rw [choice_old inUse]
        exact noted
      · rw [choice_old inUse]
        exact above
  · refine iff_of_false (fun sticks => ?_) ?_
    · obtain ⟨entry, inside, -⟩ := mem_of_sticks sticks
      rw [empty] at inside
      cases inside
    · rintro ⟨relay, fastest, best, -, isFirst, -⟩
      have inside := isFirst.mem.1
      rw [empty] at inside
      cases inside

/-- The preferred relay of the report that `add_report_history_and_set_preferred_relay` makes. -/
theorem preferredRelay_add (reports : Reports) (now : Nat) (report : Report) :
    (reports.addReportHistoryAndSetPreferredRelay now report).2.preferredRelay =
      if (reports.choice now report).Sticks reports.prevRelay then reports.prevRelay
      else (reports.choice now report).preferredRelay := by
  simp only [addReportHistoryAndSetPreferredRelay, choice_withMappings]

theorem relayLatency_add (reports : Reports) (now : Nat) (report : Report) :
    (reports.addReportHistoryAndSetPreferredRelay now report).2.relayLatency =
      report.relayLatency := by
  simp only [addReportHistoryAndSetPreferredRelay, relayLatency_withMappings]

theorem getElem?_foldl_erase {Value : Type} (keys : List Nat) (map : Std.TreeMap Nat Value)
    (key : Nat) :
    (keys.foldl (fun map key => map.erase key) map)[key]? =
      if key ∈ keys then none else map[key]? := by
  induction keys generalizing map with
  | nil => simp
  | cons first keys inductionHypothesis =>
      rw [List.foldl_cons, inductionHypothesis, Std.TreeMap.getElem?_erase]
      by_cases same : first = key
      · simp [same]
      · simp [same, Ne.symm same]

private theorem recent_of_remembered {time : Nat} {earlier : Report}
    (remembered : (reports.addReportHistoryAndSetPreferredRelay now report).1.prev[time]? =
      some earlier) :
    time = now ∨ (now - time ≤ maxAge ∧ reports.prev[time]? = some earlier) := by
  simp only [addReportHistoryAndSetPreferredRelay, Std.TreeMap.getElem?_insert,
    getElem?_foldl_erase] at remembered
  split at remembered
  next same => exact .inl (Nat.compare_eq_eq.mp same).symm
  next =>
    split at remembered
    next => cases remembered
    next kept =>
      refine .inr ⟨Nat.le_of_not_lt fun old => kept ?_, remembered⟩
      have inside := Std.TreeMap.mem_toList_iff_getElem?_eq_some.mpr remembered
      exact List.mem_map.mpr ⟨(time, earlier), by simpa [inside] using old, rfl⟩

end Reports

structure History where
  reports : Reports
  clock : Nat

namespace History

/-- A report is passed at a time that is not before the last call, without a preferred relay. -/
def next (history : History) (call : Nat × Report) : Option History :=
  if history.clock ≤ call.1 ∧ call.2.preferredRelay = none then
    some ⟨(history.reports.addReportHistoryAndSetPreferredRelay call.1 call.2).1, call.1⟩
  else none

abbrev machine (start : Nat) : Machine History (Nat × Report) :=
  .ofNext ⟨.default start, start⟩ next

/-- Every remembered report is of a time that has come. -/
def Past (history : History) : Prop :=
  ∀ time earlier, history.reports.prev[time]? = some earlier → time ≤ history.clock

private theorem Past.next {history after : History} (past : history.Past) {call : Nat × Report}
    (stepped : history.next call = some after) : after.Past := by
  unfold History.next at stepped
  split at stepped
  next allowed =>
    cases stepped
    intro time earlier remembered
    rcases Reports.recent_of_remembered remembered with rfl | ⟨-, before⟩
    · exact Nat.le_refl _
    · exact Nat.le_trans (past time earlier before) allowed.1
  next => cases stepped

private theorem past_of_reaches {start : Nat} {calls : List (Nat × Report)} {history : History}
    (reached : (machine start).Reaches calls history) : history.Past := by
  apply reached.invariant_next (fun _ history => history.Past)
  · intro time earlier remembered
    simp [Reports.default] at remembered
  · exact fun _ _ _ _ stepped past => past.next stepped

/-- After any sequence of reports, the next one gets a preferred relay exactly if it has a latency
at all, and the relay is one of those it has a latency for. Only recent reports are remembered,
and the last report is the one just made. -/
theorem preferred_live {start : Nat} {calls : List (Nat × Report)} {history : History}
    (reached : (machine start).Reaches calls history) {now : Nat} {report : Report}
    (later : history.clock ≤ now) (unset : report.preferredRelay = none) {after : Reports}
    {result : Report}
    (made : history.reports.addReportHistoryAndSetPreferredRelay now report = (after, result)) :
    (result.preferredRelay.isSome ↔ report.relayLatency.iter ≠ []) ∧
      (∀ url, result.preferredRelay = some url →
        ∃ probe latency, (probe, url, latency) ∈ report.relayLatency.iter) ∧
      result.relayLatency = report.relayLatency ∧
      (∀ time earlier, after.prev[time]? = some earlier → time ≤ now ∧ now - time ≤ maxAge) ∧
      after.last = some result := by
  have preferred := history.reports.preferredRelay_add now report
  have latency := history.reports.relayLatency_add now report
  have last : (history.reports.addReportHistoryAndSetPreferredRelay now report).1.last =
      some (history.reports.addReportHistoryAndSetPreferredRelay now report).2 := rfl
  rw [made] at preferred latency last
  refine ⟨?_, ?_, latency, ?_, last⟩
  · rw [preferred]
    split
    next sticks =>
      obtain ⟨entry, inside, -⟩ := Reports.mem_of_sticks sticks
      exact iff_of_true sticks.1 (List.ne_nil_of_mem inside)
    next => exact Reports.choice_isSome_iff unset
  · intro url chosen
    rw [preferred] at chosen
    split at chosen
    next sticks =>
      obtain ⟨⟨probe, relay, latency⟩, inside, same⟩ := Reports.mem_of_sticks sticks
      cases same.trans chosen
      exact ⟨probe, latency, inside⟩
    next =>
      obtain ⟨⟨probe, relay, latency⟩, inside, rfl⟩ := Reports.mem_of_choice unset chosen
      exact ⟨probe, latency, inside⟩
  · intro time earlier remembered
    have kept : (history.reports.addReportHistoryAndSetPreferredRelay now report).1.prev[time]? =
        some earlier := by
      rw [made]
      exact remembered
    rcases Reports.recent_of_remembered kept with rfl | ⟨recent, before⟩
    · exact ⟨Nat.le_refl _, by simp [maxAge]⟩
    · exact ⟨Nat.le_trans (past_of_reaches reached time earlier before) later, recent⟩

def oneLatency (url : RelayUrl) (latency : Nat) : Report :=
  Report.default.update (.https url latency)

/-- The second report has another relay than the first one. -/
theorem preferred_live_otherRelay :
    let history := (machine 0).runFrom ⟨.default 0, 0⟩ [(1, oneLatency ⟨"a"⟩ 100)]
    let report := oneLatency ⟨"b"⟩ 300
    (history.reports.addReportHistoryAndSetPreferredRelay 2 report).2.preferredRelay.isSome ↔
      report.relayLatency.iter ≠ [] := by
  have reached : (machine 0).Reaches [(1, oneLatency ⟨"a"⟩ 100)]
      ((machine 0).runFrom ⟨.default 0, 0⟩ [(1, oneLatency ⟨"a"⟩ 100)]) :=
    Machine.reaches_runFrom (by decide +kernel)
  exact (preferred_live reached (by decide +kernel) (Report.preferredRelay_update _ _) rfl).1

end History

def fullReportInterval : Nat := 5 * 60 * 1000000000

structure IfStateDetails where
  haveV4 : Bool
  haveV6 : Bool

/-- What the loop of `get_report` receives: an update of a QAD connection, a probe that ended, with
its report if it did not fail, and the result of the captive portal check. -/
inductive ProbeEvent where
  | qad (report : ProbeReport)
  | finished (report : Option ProbeReport)
  | captivePortal (portal : Option Bool)
deriving Repr

def Report.count (report : Report) (probe : Probe) : Nat :=
  report.relayLatency.iter.countP fun entry => entry.1 = probe

def haveEnoughReports (state : IfStateDetails) (doFull : Bool) (numRelays : Nat)
    (report : Report) : Bool :=
  let numIpv4 := report.count .qadIpv4
  let numIpv6 := report.count .qadIpv6
  let numHttps := report.count .https
  let enoughQad : Bool :=
    match doFull, state.haveV4, state.haveV6 with
    | true, true, true =>
        numIpv4 ≥ 2 && numIpv6 ≥ 1 || numIpv6 ≥ 2 && numIpv4 ≥ 1
    | true, true, false => numIpv4 ≥ 2
    | true, false, true => numIpv6 ≥ 2
    | false, true, true => numIpv4 ≥ 1 && numIpv6 ≥ 1
    | false, true, false => numIpv4 ≥ 1
    | false, false, true => numIpv6 ≥ 1
    | _, false, false => false
  enoughQad || numHttps ≥ numRelays

/-- The loop of `get_report`, which ends with the probes or when there are enough reports. -/
def collect (state : IfStateDetails) (doFull : Bool) (numRelays : Nat) :
    Report → List ProbeEvent → Report
  | report, [] => report
  | report, .qad probe :: events => collect state doFull numRelays (report.update probe) events
  | report, .finished (some probe) :: events =>
      let report := report.update probe
      if haveEnoughReports state doFull numRelays report then report
      else collect state doFull numRelays report events
  | report, .finished none :: events => collect state doFull numRelays report events
  | report, .captivePortal portal :: events =>
      collect state doFull numRelays { report with captivePortal := portal } events

/-- The probe results of a run: first those of the QAD probes, then those of the loop. -/
def probeResults (state : IfStateDetails) (doFull : Bool) (numRelays : Nat)
    (qadReports : List ProbeReport) (events : List ProbeEvent) : Report :=
  let report := qadReports.foldl Report.update .default
  if haveEnoughReports state doFull numRelays report then report
  else collect state doFull numRelays report events

namespace Reports

def doFull (reports : Reports) (now : Nat) (isMajor : Bool) : Bool :=
  isMajor || reports.nextFull || fullReportInterval < now - reports.lastFull ||
    -- a captive portal may have kept the last report from being useful
    reports.last.any fun last => !last.hasUdp && last.captivePortal == some true

/-- A full report starts without the last one. -/
def beginFull (reports : Reports) (now : Nat) : Reports :=
  { reports with last := none, nextFull := false, lastFull := now }

/-- `get_report`, which starts at `start` and has its probe results at `finish`. -/
def getReport (reports : Reports) (start finish : Nat) (isMajor : Bool) (state : IfStateDetails)
    (numRelays : Nat) (qadReports : List ProbeReport) (events : List ProbeEvent) :
    Reports × Report :=
  let doFull := reports.doFull start isMajor
  let reports := if doFull then reports.beginFull start else reports
  reports.addReportHistoryAndSetPreferredRelay finish
    (probeResults state doFull numRelays qadReports events)

private theorem preferredRelay_full (reports : Reports) (start now : Nat) (results : Report) :
    ((reports.beginFull start).addReportHistoryAndSetPreferredRelay now results).2.preferredRelay =
      (reports.choice now results).preferredRelay := by
  have free : ¬ ((reports.beginFull start).choice now results).Sticks
      (reports.beginFull start).prevRelay := by
    rintro ⟨known, -⟩
    cases known
  rw [preferredRelay_add, if_neg free, choice, choice, (chooseRelay_best _ _ results).1,
    (chooseRelay_best _ _ results).1]
  rfl

private theorem preferredRelay_collect (state : IfStateDetails) (doFull : Bool) (numRelays : Nat)
    (report : Report) (events : List ProbeEvent) :
    (collect state doFull numRelays report events).preferredRelay = report.preferredRelay := by
  fun_induction collect state doFull numRelays report events with
  | case1 report => rfl
  | case2 report probe events inductionHypothesis =>
      exact inductionHypothesis.trans (Report.preferredRelay_update _ _)
  | case3 report probe events updated => exact Report.preferredRelay_update _ _
  | case4 report probe events updated _ inductionHypothesis =>
      exact inductionHypothesis.trans (Report.preferredRelay_update _ _)
  | case5 report events inductionHypothesis => exact inductionHypothesis
  | case6 report portal events inductionHypothesis => exact inductionHypothesis

private theorem preferredRelay_probeResults (state : IfStateDetails) (doFull : Bool)
    (numRelays : Nat) (qadReports : List ProbeReport) (events : List ProbeEvent) :
    (probeResults state doFull numRelays qadReports events).preferredRelay = none := by
  have started : (qadReports.foldl Report.update .default).preferredRelay = none := by
    induction qadReports using List.reverseRecOn with
    | nil => rfl
    | append_singleton reports report inductionHypothesis =>
        rw [List.foldl_append, List.foldl_cons, List.foldl_nil, Report.preferredRelay_update]
        exact inductionHypothesis
  rw [probeResults]
  split
  · exact started
  · rw [preferredRelay_collect]
    exact started

/-- Two runs with the same history and the same probe results, one full and one incremental, choose
the same relay exactly if there is no relay of the last report to stay with: the fastest relay is
that one, or it has no latency in the results, or the fastest one has two thirds of its last latency
at most. -/
theorem preferredRelay_full_eq_incremental_iff {reports : Reports} {start start' finish : Nat}
    {isMajor isMajor' : Bool} {state state' : IfStateDetails} {numRelays numRelays' : Nat}
    {qadReports qadReports' : List ProbeReport} {events events' : List ProbeEvent}
    {results : Report}
    (full : reports.doFull start isMajor = true)
    (incremental : reports.doFull start' isMajor' = false)
    (found : probeResults state true numRelays qadReports events = results)
    (same : probeResults state' false numRelays' qadReports' events' = results) :
    (reports.getReport start finish isMajor state numRelays qadReports events).2.preferredRelay =
        (reports.getReport start' finish isMajor' state' numRelays' qadReports'
          events').2.preferredRelay ↔
      ∀ relay fastest best, reports.prevRelay = some relay →
        reports.Fastest finish results fastest best →
          fastest = relay ∨ results.relayLatency.lastLatency relay = 0 ∨
            best ≤ results.relayLatency.lastLatency relay / 3 * 2 := by
  have unset : results.preferredRelay = none := found ▸ preferredRelay_probeResults _ _ _ _ _
  simp only [getReport, full, incremental, if_true, Bool.false_eq_true, if_false, found, same]
  rw [preferredRelay_full, preferredRelay_add]
  have stays := reports.sticks_iff finish unset
  split
  next sticks =>
    refine iff_of_false sticks.2.1 fun moves => ?_
    obtain ⟨relay, fastest, best, inUse, first, different, noted, above⟩ := stays.mp sticks
    rcases moves relay fastest best inUse first with own | zero | below
    · exact different own
    · exact noted zero
    · omega
  next free =>
    refine iff_of_true rfl fun relay fastest best inUse first => ?_
    by_contra! stay
    exact free (stays.mpr ⟨relay, fastest, best, inUse, first, stay⟩)

def noAddresses : IfStateDetails := ⟨false, false⟩

def first : Reports := ((default 0).getReport 0 1 true noAddresses 1 []
  [.finished (some (.https ⟨"a"⟩ 100))]).1

def bothAnswer (latency : Nat) : List ProbeEvent :=
  [.finished (some (.https ⟨"a"⟩ 100)), .finished (some (.https ⟨"b"⟩ latency))]

/-- The other relay is much faster. -/
theorem preferredRelay_full_eq_incremental_muchFaster :
    (first.getReport 2 3 true noAddresses 2 [] (bothAnswer 10)).2.preferredRelay =
      (first.getReport 2 3 false noAddresses 2 [] (bothAnswer 10)).2.preferredRelay := by
  have full : first.doFull 2 true = true := rfl
  have incremental : first.doFull 2 false = false := by decide +kernel
  refine (preferredRelay_full_eq_incremental_iff full incremental rfl rfl).mpr ?_
  intro relay fastest best inUse first
  obtain rfl : relay = ⟨"a"⟩ := Option.some.inj (inUse.symm.trans (by decide +kernel))
  have fast : best ≤ 10 :=
    FirstLeast.le first (by decide +kernel : (⟨"b"⟩ : RelayUrl) ∈ _) (by decide +kernel)
  have last : (probeResults noAddresses true 2 [] (bothAnswer 10)).relayLatency.lastLatency ⟨"a"⟩ =
      100 := by decide +kernel
  omega

/-- The other relay is a little faster. An incremental report stays with the relay in use, and a
full one does not. -/
theorem preferredRelay_littleFaster :
    probeResults noAddresses true 2 [] (bothAnswer 90) =
        probeResults noAddresses false 2 [] (bothAnswer 90) ∧
      first.doFull 2 false = false ∧
      (first.getReport 2 3 true noAddresses 2 [] (bothAnswer 90)).2.preferredRelay =
        some ⟨"b"⟩ ∧
      (first.getReport 2 3 false noAddresses 2 [] (bothAnswer 90)).2.preferredRelay =
        some ⟨"a"⟩ :=
  ⟨rfl, by decide +kernel, by decide +kernel, by decide +kernel⟩

end Reports

end NexalinkTunnel.NetReport
