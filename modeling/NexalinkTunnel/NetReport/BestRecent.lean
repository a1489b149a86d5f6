import NexalinkTunnel.Lib.RunningLeast
import NexalinkTunnel.NetReport.Client

/-!
Contract: the lowest recent latency of a relay, and when a relay is left for another one.

Owns what latencies that were updated and merged in any order say about the probe results
they were made of, what the history remembers of them, and the comparison of a new relay
with the one in use.

## Instants

The history keeps one report for each instant. Two reports may be passed at the same one,
as an instant is only not before the last one; the second report then takes the place of
the first.
-/

namespace NexalinkTunnel.NetReport

open Base Lib

/-! ## Latencies as the lowest of probe results -/

namespace RelayLatencies

variable {latencies other : RelayLatencies} {results others : Set (Probe × RelayUrl × Nat)}

/-- Each entry is the lowest of the results for its relay and kind of probe. -/
def Summarizes (latencies : RelayLatencies) (results : Set (Probe × RelayUrl × Nat)) : Prop :=
  ∀ probe url, LeastOf {latency | (probe, url, latency) ∈ results} (latencies.list probe)[url]?

private theorem getElem?_lower (list : Std.TreeMap RelayUrl Nat) (url other : RelayUrl)
    (latency : Nat) :
    (lower list url latency)[other]? =
      if url = other then
        some (list[url]?.elim latency fun old => if latency < old then latency else old)
      else list[other]? := by
  rw [lower, Std.TreeMap.getElem?_alter]
  by_cases same : url = other
  · subst same
    rw [if_pos Std.ReflOrd.compare_self, if_pos rfl]
    cases list[url]? with
    | none => rfl
    | some old => rfl
  · rw [if_neg (by simpa using same), if_neg same]

theorem summarizes_default : Summarizes default ∅ := by
  intro probe url
  have empty : (default.list probe)[url]? = none := by cases probe <;> simp [default, list]
  rw [empty]
  rfl

private theorem Summarizes.updateRelay (summarizes : latencies.Summarizes results) (url : RelayUrl)
    (latency : Nat) (probe : Probe) :
    (latencies.updateRelay url latency probe).Summarizes
      (insert (probe, url, latency) results) := by
  intro kind relay
  have before := summarizes kind relay
  rw [list_updateRelay]
  by_cases own : kind = probe ∧ url = relay
  · obtain ⟨rfl, rfl⟩ := own
    have added : {duration | (kind, url, duration) ∈ insert (kind, url, latency) results} =
        insert latency {duration | (kind, url, duration) ∈ results} := by
      ext duration
      simp
    rw [if_pos rfl, getElem?_lower, if_pos rfl, added]
    cases known : (latencies.list kind)[url]? with
    | none =>
        rw [known] at before
        exact before.insert_of_lt fun _ none => by cases none
    | some old =>
        rw [known] at before
        by_cases lower : latency < old
        · simp only [Option.elim_some, if_pos lower]
          exact before.insert_of_lt fun _ same => Option.some.inj same ▸ lower
        · simp only [Option.elim_some, if_neg lower]
          exact before.insert_of_not_lt fun below => lower (below old rfl)
  · have kept : {duration | (kind, relay, duration) ∈ insert (probe, url, latency) results} =
        {duration | (kind, relay, duration) ∈ results} := by
      ext duration
      simp only [Set.mem_ofPred_eq, Set.mem_insert_iff, Prod.mk.injEq, or_iff_right_iff_imp]
      intro same
      exact absurd ⟨same.1, same.2.1.symm⟩ own
    rw [kept]
    split
    next same =>
      subst same
      rw [getElem?_lower, if_neg fun here => own ⟨rfl, here⟩]
      exact before
    next => exact before

theorem Summarizes.foldl_updateRelay (summarizes : latencies.Summarizes results)
    (entries : List (Probe × RelayUrl × Nat)) :
    (entries.foldl (fun latencies (probe, url, latency) =>
      latencies.updateRelay url latency probe) latencies).Summarizes
        (results ∪ {entry | entry ∈ entries}) := by
  induction entries generalizing latencies results with
  | nil => simpa using summarizes
  | cons entry entries inductionHypothesis =>
      obtain ⟨probe, url, latency⟩ := entry
      have later := inductionHypothesis (summarizes.updateRelay url latency probe)
      have same : insert (probe, url, latency) results ∪ {entry | entry ∈ entries} =
          results ∪ {entry | entry ∈ (probe, url, latency) :: entries} := by
        ext entry
        simp only [Set.mem_union, Set.mem_insert_iff, Set.mem_ofPred_eq, List.mem_cons]
        tauto
      rw [same] at later
      exact later

private theorem Summarizes.entries (summarizes : latencies.Summarizes results) :
    {entry | entry ∈ latencies.iter} ⊆ results ∧
      ∀ probe url latency, (probe, url, latency) ∈ results →
        ∃ lower ≤ latency, (probe, url, lower) ∈ latencies.iter := by
  constructor
  · intro entry inside
    obtain ⟨probe, url, latency⟩ := entry
    have least := summarizes probe url
    rw [mem_iter.mp inside] at least
    exact least.1
  · intro probe url latency inside
    obtain ⟨lowest, known, below⟩ := (summarizes probe url).exists_le inside
    exact ⟨lowest, below, mem_iter.mpr known⟩

private theorem Summarizes.merge (summarizes : latencies.Summarizes results)
    (same : other.Summarizes others) : (latencies.merge other).Summarizes (results ∪ others) := by
  obtain ⟨fewer, covered⟩ := same.entries
  intro probe url
  have entries : LeastOf {latency | (probe, url, latency) ∈ results ∪ {entry | entry ∈ other.iter}}
      ((latencies.merge other).list probe)[url]? :=
    summarizes.foldl_updateRelay other.iter probe url
  have more : {latency | (probe, url, latency) ∈ results ∪ {entry | entry ∈ other.iter}} ⊆
      {latency | (probe, url, latency) ∈ results ∪ others} :=
    fun _ inside => Set.union_subset_union_right results fewer inside
  apply (entries.superset_iff more).mpr
  intro latency inside
  rcases inside with inside | inside
  · exact ⟨latency, .inl inside, Nat.le_refl _⟩
  · obtain ⟨lower, below, listed⟩ := covered probe url latency inside
    exact ⟨lower, .inr listed, below⟩

private theorem Summarizes.foldl_merge {Index : Type} (summarizes : latencies.Summarizes results)
    (latencyOf : Index → RelayLatencies) (resultsOf : Index → Set (Probe × RelayUrl × Nat))
    (indices : List Index)
    (all : ∀ index ∈ indices, (latencyOf index).Summarizes (resultsOf index)) :
    (indices.foldl (fun latencies index => latencies.merge (latencyOf index)) latencies).Summarizes
      (results ∪ {entry | ∃ index ∈ indices, entry ∈ resultsOf index}) := by
  induction indices generalizing latencies results with
  | nil => simpa using summarizes
  | cons index indices inductionHypothesis =>
      have later := inductionHypothesis (summarizes.merge (all index List.mem_cons_self))
        fun other inside => all other (List.mem_cons_of_mem _ inside)
      have same : results ∪ resultsOf index ∪
            {entry | ∃ index ∈ indices, entry ∈ resultsOf index} =
          results ∪ {entry | ∃ other ∈ index :: indices, entry ∈ resultsOf other} := by
        ext entry
        simp only [Set.mem_union, Set.mem_ofPred_eq, List.exists_mem_cons_iff]
        tauto
      rw [same] at later
      exact later

private theorem summarizes_iter (latencies : RelayLatencies) :
    latencies.Summarizes {entry | entry ∈ latencies.iter} := by
  intro probe url
  have entries : {latency | (probe, url, latency) ∈ {entry | entry ∈ latencies.iter}} =
      {latency | (latencies.list probe)[url]? = some latency} := by
    ext latency
    exact mem_iter
  rw [entries]
  cases known : (latencies.list probe)[url]? with
  | none =>
      refine Set.eq_empty_iff_forall_notMem.mpr fun latency inside => ?_
      cases inside
  | some lowest => exact ⟨rfl, fun latency inside => (Option.some.inj inside).le⟩

private theorem leastOf_get (latencies : RelayLatencies) (url : RelayUrl) :
    LeastOf {latency | ∃ probe, (probe, url, latency) ∈ latencies.iter} (latencies.get url) := by
  have listed : ∀ latency, (∃ probe, (probe, url, latency) ∈ latencies.iter) ↔ latency ∈
      [latencies.https[url]?, latencies.ipv4[url]?, latencies.ipv6[url]?].filterMap id := by
    intro latency
    simp only [mem_iter, List.mem_filterMap, id_eq, exists_eq_right, List.mem_cons,
      List.not_mem_nil, or_false]
    constructor
    · intro held
      obtain ⟨probe, held⟩ := held
      cases probe <;> simp_all [list]
    · rintro (held | held | held)
      · exact ⟨.https, held.symm⟩
      · exact ⟨.qadIpv4, held.symm⟩
      · exact ⟨.qadIpv6, held.symm⟩
  cases found : latencies.get url with
  | none =>
      have empty := List.min?_eq_none_iff.mp found
      refine Set.eq_empty_iff_forall_notMem.mpr fun latency inside => ?_
      have inside := (listed latency).mp inside
      rw [empty] at inside
      exact absurd inside List.not_mem_nil
  | some lowest =>
      obtain ⟨inside, below⟩ := List.min?_eq_some_iff.mp found
      refine ⟨(listed lowest).mpr inside, fun latency other => ?_⟩
      exact below latency ((listed latency).mp other)

private theorem Summarizes.leastOf_get (summarizes : latencies.Summarizes results)
    (url : RelayUrl) :
    LeastOf {latency | ∃ probe, (probe, url, latency) ∈ results} (latencies.get url) := by
  obtain ⟨fewer, covered⟩ := summarizes.entries
  have more : {latency | ∃ probe, (probe, url, latency) ∈ latencies.iter} ⊆
      {latency | ∃ probe, (probe, url, latency) ∈ results} := by
    intro latency inside
    obtain ⟨probe, inside⟩ := inside
    exact ⟨probe, fewer inside⟩
  apply ((RelayLatencies.leastOf_get latencies url).superset_iff more).mpr
  intro latency inside
  obtain ⟨probe, inside⟩ := inside
  obtain ⟨lower, below, listed⟩ := covered probe url latency inside
  exact ⟨lower, ⟨probe, listed⟩, below⟩

/-- The order in which latencies are merged has no part in the lowest ones. -/
theorem get_foldl_merge_perm {left right : List RelayLatencies} (perm : left.Perm right)
    (url : RelayUrl) :
    (left.foldl merge default).get url = (right.foldl merge default).get url := by
  have summarizes : ∀ list : List RelayLatencies, (list.foldl merge default).Summarizes
      (∅ ∪ {entry | ∃ latencies ∈ list, entry ∈ {entry | entry ∈ latencies.iter}}) :=
    fun list => summarizes_default.foldl_merge id
      (fun latencies => {entry | entry ∈ latencies.iter}) list
      fun latencies _ => summarizes_iter latencies
  have first := (summarizes left).leastOf_get url
  simp only [perm.mem_iff] at first
  exact first.unique ((summarizes right).leastOf_get url)

end RelayLatencies

/-! ## Reports made of probe results -/

def ProbeReport.entry : ProbeReport → Probe × RelayUrl × Nat
  | .https relay latency => (.https, relay, latency)
  | .qadIpv4 relay latency _ => (.qadIpv4, relay, latency)
  | .qadIpv6 relay latency _ => (.qadIpv6, relay, latency)

def resultsOf (probes : List ProbeReport) : Set (Probe × RelayUrl × Nat) :=
  {entry | ∃ probe ∈ probes, probe.entry = entry}

namespace Report

def ofProbes (probes : List ProbeReport) : Report := probes.foldl update default

private theorem relayLatency_update (report : Report) (probe : ProbeReport) :
    (report.update probe).relayLatency =
      report.relayLatency.updateRelay probe.entry.2.1 probe.entry.2.2 probe.entry.1 := by
  cases probe with
  | https relay latency => rfl
  | qadIpv4 relay latency addr => cases addr <;> rfl
  | qadIpv6 relay latency addr => cases addr <;> rfl

private theorem relayLatency_foldl_update (probes : List ProbeReport) (report : Report) :
    (probes.foldl update report).relayLatency =
      (probes.map ProbeReport.entry).foldl (fun latencies (probe, url, latency) =>
        latencies.updateRelay url latency probe) report.relayLatency := by
  induction probes generalizing report with
  | nil => rfl
  | cons probe probes inductionHypothesis =>
      rw [List.foldl_cons, inductionHypothesis, relayLatency_update]
      rfl

theorem summarizes_ofProbes (probes : List ProbeReport) :
    (ofProbes probes).relayLatency.Summarizes (resultsOf probes) := by
  have built := RelayLatencies.summarizes_default.foldl_updateRelay (probes.map ProbeReport.entry)
  rw [Set.empty_union] at built
  rw [ofProbes, relayLatency_foldl_update]
  have same : {entry | entry ∈ probes.map ProbeReport.entry} = resultsOf probes := by
    ext entry
    simp only [Set.mem_ofPred_eq, List.mem_map, resultsOf]
  rw [same] at built
  exact built

private theorem preferredRelay_ofProbes (probes : List ProbeReport) :
    (ofProbes probes).preferredRelay = none := by
  induction probes using List.reverseRecOn with
  | nil => rfl
  | append_singleton probes probe inductionHypothesis =>
      rw [ofProbes, List.foldl_append]
      exact (preferredRelay_update _ _).trans inductionHypothesis

end Report

theorem resultsOf_perm {probes other : List ProbeReport} (perm : probes.Perm other) :
    resultsOf probes = resultsOf other := by
  simp only [resultsOf, perm.mem_iff]

/-! ## What the history remembers -/

def lastAt (calls : List (Nat × List ProbeReport)) (time : Nat) : Option (List ProbeReport) :=
  calls.reverse.lookup time

def recentResults (calls : List (Nat × List ProbeReport)) (now : Nat) :
    Set (Probe × RelayUrl × Nat) :=
  {entry | ∃ call ∈ calls, now - call.1 ≤ maxAge ∧ entry ∈ resultsOf call.2}

/-- The results of the reports that are not too old and were not replaced. -/
def keptResults (calls : List (Nat × List ProbeReport)) (now : Nat) :
    Set (Probe × RelayUrl × Nat) :=
  {entry | ∃ time probes, lastAt calls time = some probes ∧ now - time ≤ maxAge ∧
    entry ∈ resultsOf probes}

section LastAt

variable {calls : List (Nat × List ProbeReport)} {call : Nat × List ProbeReport} {time : Nat}
  {probes : List ProbeReport}

theorem lastAt_append_singleton :
    lastAt (calls ++ [call]) time = if time = call.1 then some call.2 else lastAt calls time := by
  rw [lastAt, List.reverse_append, List.reverse_singleton, List.singleton_append,
    List.lookup_cons]
  by_cases same : time = call.1
  · simp [same]
  · rw [beq_false_of_ne same, if_neg same]
    rfl

private theorem mem_of_lastAt (found : lastAt calls time = some probes) :
    (time, probes) ∈ calls := by
  induction calls using List.reverseRecOn with
  | nil => cases found
  | append_singleton calls call inductionHypothesis =>
      rw [lastAt_append_singleton] at found
      split at found
      next same =>
        cases found
        rw [same]
        exact List.mem_append_right _ (List.mem_singleton.mpr rfl)
      next => exact List.mem_append_left _ (inductionHypothesis found)

private theorem lastAt_of_mem (distinct : (calls.map Prod.fst).Nodup) (member : call ∈ calls) :
    lastAt calls call.1 = some call.2 := by
  induction calls using List.reverseRecOn with
  | nil => cases member
  | append_singleton calls last inductionHypothesis =>
      rw [List.map_append, List.nodup_append] at distinct
      rw [lastAt_append_singleton]
      rcases List.mem_append.mp member with earlier | final
      · have other : call.1 ≠ last.1 :=
          distinct.2.2 call.1 (List.mem_map_of_mem earlier) last.1 (by simp)
        rw [if_neg other]
        exact inductionHypothesis distinct.1 earlier
      · cases List.mem_singleton.mp final
        exact if_pos rfl

theorem keptResults_subset (calls : List (Nat × List ProbeReport)) (now : Nat) :
    keptResults calls now ⊆ recentResults calls now := by
  intro entry kept
  obtain ⟨time, probes, found, recent, inside⟩ := kept
  exact ⟨(time, probes), mem_of_lastAt found, recent, inside⟩

private theorem recentResults_eq (distinct : (calls.map Prod.fst).Nodup) (now : Nat) :
    recentResults calls now = keptResults calls now := by
  apply Set.Subset.antisymm
  · intro entry recent
    obtain ⟨call, member, recent, inside⟩ := recent
    exact ⟨call.1, call.2, lastAt_of_mem distinct member, recent, inside⟩
  · exact keptResults_subset calls now

/-- The same calls, up to the order of the probes in each of them. -/
def SameCalls (calls other : List (Nat × List ProbeReport)) : Prop :=
  List.Forall₂ (fun left right => left.1 = right.1 ∧ left.2.Perm right.2) calls other

private theorem SameCalls.lastAt {other : List (Nat × List ProbeReport)}
    (same : SameCalls calls other) (found : lastAt calls time = some probes) :
    ∃ probes', lastAt other time = some probes' ∧ probes.Perm probes' := by
  unfold NetReport.lastAt at found ⊢
  have reversed := List.forall₂_reverse_iff.mpr same
  generalize calls.reverse = lefts at found reversed
  generalize other.reverse = rights at reversed ⊢
  induction reversed with
  | nil => cases found
  | @cons left right lefts rights related _ inductionHypothesis =>
      rw [List.lookup_cons] at found
      rw [List.lookup_cons, ← related.1]
      split at found
      next => exact ⟨right.2, rfl, Option.some.inj found ▸ related.2⟩
      next => exact inductionHypothesis found

private theorem SameCalls.symm {other : List (Nat × List ProbeReport)}
    (same : SameCalls calls other) :
    SameCalls other calls :=
  same.flip.imp fun _ _ related => ⟨related.1.symm, related.2.symm⟩

private theorem SameCalls.keptResults_subset {other : List (Nat × List ProbeReport)}
    (same : SameCalls calls other) (now : Nat) : keptResults calls now ⊆ keptResults other now := by
  intro entry kept
  obtain ⟨time, probes, found, recent, inside⟩ := kept
  obtain ⟨probes', found', perm⟩ := same.lastAt found
  exact ⟨time, probes', found', recent, resultsOf_perm perm ▸ inside⟩

end LastAt

namespace Reports

variable {reports : Reports} {now : Nat} {report : Report}

private theorem getElem?_prev_add (time : Nat) :
    (reports.addReportHistoryAndSetPreferredRelay now report).1.prev[time]? =
      if now = time then some (reports.addReportHistoryAndSetPreferredRelay now report).2
      else if maxAge < now - time then none
      else reports.prev[time]? := by
  simp only [addReportHistoryAndSetPreferredRelay, Std.TreeMap.getElem?_insert,
    getElem?_foldl_erase, Nat.compare_eq_eq]
  split
  · rfl
  · have removed : time ∈ reports.toRemove now ↔
        maxAge < now - time ∧ ∃ earlier, reports.prev[time]? = some earlier := by
      simp [toRemove, Std.TreeMap.mem_toList_iff_getElem?_eq_some, and_comm]
    by_cases old : maxAge < now - time
    · rw [if_pos old]
      split
      · rfl
      next kept =>
        rw [removed] at kept
        exact Option.eq_none_iff_forall_ne_some.mpr fun earlier known => kept ⟨old, earlier, known⟩
    · rw [if_neg old, if_neg fun listed => old (removed.mp listed).1]

def recentLatencies (reports : Reports) (now : Nat) : List RelayLatencies :=
  (reports.prev.toList.filter fun entry => ¬ maxAge < now - entry.1).map fun entry =>
    entry.2.relayLatency

private theorem bestRecent_eq_foldl (reports : Reports) (now : Nat) (report : Report) :
    reports.bestRecent now report =
      (reports.recentLatencies now ++ [report.relayLatency]).foldl RelayLatencies.merge
        .default := by
  rw [List.foldl_append, recentLatencies, List.foldl_map]
  rfl

end Reports

namespace History

/-- Runs in which each report is built of the probe results of a call. -/
abbrev probeRuns (start : Nat) : Machine History (Nat × List ProbeReport) :=
  .ofNext ⟨.default start, start⟩ fun history call => history.next (call.1, .ofProbes call.2)

/-- What is remembered is the last report of a time, and it is if it is not too old. -/
structure Remembers (calls : List (Nat × List ProbeReport)) (history : History) : Prop where
  kept : ∀ time report, history.reports.prev[time]? = some report →
    ∃ probes, lastAt calls time = some probes ∧
      report.relayLatency.Summarizes (resultsOf probes)
  recent : ∀ time probes, lastAt calls time = some probes → history.clock - time ≤ maxAge →
    ∃ report, history.reports.prev[time]? = some report

variable {calls : List (Nat × List ProbeReport)} {history after : History} {now : Nat}
  {probes : List ProbeReport}

private theorem Remembers.next (remembers : Remembers calls history) {call : Nat × List ProbeReport}
    (stepped : history.next (call.1, .ofProbes call.2) = some after) :
    Remembers (calls ++ [call]) after := by
  unfold History.next at stepped
  split at stepped
  case isFalse => cases stepped
  case isTrue allowed =>
    cases stepped
    constructor
    · intro time report known
      rw [lastAt_append_singleton]
      rw [Reports.getElem?_prev_add] at known
      split at known
      next same =>
        cases known
        rw [if_pos same.symm, Reports.relayLatency_add]
        exact ⟨call.2, rfl, Report.summarizes_ofProbes call.2⟩
      next other =>
        rw [if_neg (Ne.symm other)]
        split at known
        next => cases known
        next => exact remembers.kept time report known
    · intro time probes found recent
      rw [lastAt_append_singleton] at found
      rw [Reports.getElem?_prev_add]
      by_cases same : call.1 = time
      · rw [if_pos same]
        exact ⟨_, rfl⟩
      · rw [if_neg (Ne.symm same)] at found
        have recent : call.1 - time ≤ maxAge := recent
        have before : history.clock ≤ call.1 := allowed.1
        rw [if_neg same, if_neg (Nat.not_lt.mpr recent)]
        exact remembers.recent time probes found (by omega)

theorem remembers_of_reaches {start : Nat} (reached : (probeRuns start).Reaches calls history) :
    Remembers calls history := by
  apply reached.invariant_next Remembers
  · constructor
    · intro time report known
      simp [Reports.default] at known
    · intro time probes found
      cases found
  · exact fun _ _ _ _ stepped remembers => remembers.next stepped

private theorem Remembers.summarizes_bestRecent (remembers : Remembers calls history)
    (later : history.clock ≤ now) (probes : List ProbeReport) :
    (history.reports.bestRecent now (.ofProbes probes)).Summarizes
      (keptResults calls now ∪ resultsOf probes) := by
  let recent := history.reports.prev.toList.filter fun entry => ¬ maxAge < now - entry.1
  let resultsAt := fun entry : Nat × Report => {result : Probe × RelayUrl × Nat |
    ∃ probes, lastAt calls entry.1 = some probes ∧ result ∈ resultsOf probes}
  have listed : ∀ time report, (time, report) ∈ recent ↔
      history.reports.prev[time]? = some report ∧ now - time ≤ maxAge := by
    intro time report
    simp [recent, Std.TreeMap.mem_toList_iff_getElem?_eq_some]
  have all : ∀ entry ∈ recent, entry.2.relayLatency.Summarizes (resultsAt entry) := by
    intro entry inside
    obtain ⟨time, report⟩ := entry
    obtain ⟨probes, found, summarizes⟩ :=
      remembers.kept time report ((listed time report).mp inside).1
    have same : resultsAt (time, report) = resultsOf probes := by
      ext result
      simp [resultsAt, found]
    rw [same]
    exact summarizes
  have merged := RelayLatencies.summarizes_default.foldl_merge
    (fun entry : Nat × Report => entry.2.relayLatency) resultsAt recent all
  have kept : ∅ ∪ {result | ∃ entry ∈ recent, result ∈ resultsAt entry} =
      keptResults calls now := by
    rw [Set.empty_union]
    ext result
    constructor
    · intro inside
      obtain ⟨entry, inRecent, probes, found, inside⟩ := inside
      exact ⟨entry.1, probes, found, ((listed entry.1 entry.2).mp inRecent).2, inside⟩
    · intro inside
      obtain ⟨time, probes, found, young, inside⟩ := inside
      obtain ⟨report, known⟩ := remembers.recent time probes found (by omega)
      exact ⟨(time, report), (listed time report).mpr ⟨known, young⟩, probes, found, inside⟩
  rw [kept] at merged
  exact merged.merge (Report.summarizes_ofProbes probes)

/-- At a call, the best recent latency of each relay is the lowest of all recent results for it,
and neither the order in which reports are merged nor the order of probes in them has a part in
it. -/
structure BestRecentExact (start : Nat) (calls : List (Nat × List ProbeReport))
    (history : History) (now : Nat) (probes : List ProbeReport) : Prop where
  least : ∀ url, LeastOf
    {latency | ∃ probe, (probe, url, latency) ∈ recentResults calls now ∪ resultsOf probes}
    ((history.reports.bestRecent now (.ofProbes probes)).get url)
  mergeOrder : ∀ order : List RelayLatencies,
    order.Perm (history.reports.recentLatencies now ++ [(Report.ofProbes probes).relayLatency]) →
    ∀ url, (order.foldl RelayLatencies.merge .default).get url =
      (history.reports.bestRecent now (.ofProbes probes)).get url
  probeOrder : ∀ calls' history' probes', SameCalls calls calls' →
    (probeRuns start).Reaches calls' history' → history'.clock ≤ now → probes.Perm probes' →
    ∀ url, (history'.reports.bestRecent now (.ofProbes probes')).get url =
      (history.reports.bestRecent now (.ofProbes probes)).get url

/-- Each recent result is at least one that is kept for the relay. -/
def Covered (calls : List (Nat × List ProbeReport)) (now : Nat) (probes : List ProbeReport) :
    Prop :=
  ∀ probe url latency, (probe, url, latency) ∈ recentResults calls now →
    ∃ kind, ∃ lower ≤ latency, (kind, url, lower) ∈ keptResults calls now ∪ resultsOf probes

private theorem covered_of_distinct (distinct : (calls.map Prod.fst).Nodup) (now : Nat)
    (probes : List ProbeReport) : Covered calls now probes := by
  intro probe url latency inside
  rw [recentResults_eq distinct] at inside
  exact ⟨probe, latency, Nat.le_refl _, .inl inside⟩

private theorem get_bestRecent_same {start : Nat} {calls' : List (Nat × List ProbeReport)}
    {history' : History} {probes' : List ProbeReport}
    (reached : (probeRuns start).Reaches calls history) (later : history.clock ≤ now)
    (same : SameCalls calls calls') (reached' : (probeRuns start).Reaches calls' history')
    (later' : history'.clock ≤ now) (perm : probes.Perm probes') (url : RelayUrl) :
    (history'.reports.bestRecent now (.ofProbes probes')).get url =
      (history.reports.bestRecent now (.ofProbes probes)).get url := by
  have left := ((remembers_of_reaches reached).summarizes_bestRecent later probes).leastOf_get url
  have right :=
    ((remembers_of_reaches reached').summarizes_bestRecent later' probes').leastOf_get url
  have kept : keptResults calls now = keptResults calls' now :=
    (same.keptResults_subset now).antisymm (same.symm.keptResults_subset now)
  rw [kept, resultsOf_perm perm] at left
  exact right.unique left

/-- After any run, the best recent latencies are those of all recent results exactly if no result
was lost that is below the results that are kept. Results are lost only where two reports were
passed at the same instant. -/
theorem bestRecent_exact_iff {start : Nat} (reached : (probeRuns start).Reaches calls history)
    (later : history.clock ≤ now) (probes : List ProbeReport) :
    BestRecentExact start calls history now probes ↔ Covered calls now probes := by
  have summarizes := (remembers_of_reaches reached).summarizes_bestRecent later probes
  have fewer : ∀ url, {latency | ∃ probe, (probe, url, latency) ∈
        keptResults calls now ∪ resultsOf probes} ⊆
      {latency | ∃ probe, (probe, url, latency) ∈ recentResults calls now ∪ resultsOf probes} := by
    intro url latency inside
    obtain ⟨probe, inside⟩ := inside
    exact ⟨probe, Set.union_subset_union_left _ (keptResults_subset calls now) inside⟩
  constructor
  · intro holds probe url latency inside
    have covered := ((summarizes.leastOf_get url).superset_iff (fewer url)).mp (holds.least url)
    obtain ⟨lower, ⟨kind, known⟩, below⟩ := covered latency ⟨probe, .inl inside⟩
    exact ⟨kind, lower, below, known⟩
  · intro covered
    constructor
    · intro url
      apply ((summarizes.leastOf_get url).superset_iff (fewer url)).mpr
      intro latency inside
      obtain ⟨probe, inside | inside⟩ := inside
      · obtain ⟨kind, lower, below, known⟩ := covered probe url latency inside
        exact ⟨lower, ⟨kind, known⟩, below⟩
      · exact ⟨latency, ⟨probe, .inr inside⟩, Nat.le_refl _⟩
    · intro order perm url
      rw [Reports.bestRecent_eq_foldl]
      exact RelayLatencies.get_foldl_merge_perm perm url
    · intro calls' history' probes' same reached' later' perm url
      exact get_bestRecent_same reached later same reached' later' perm url

/-- Two reports at different times, and what is found out at a third one. -/
theorem bestRecent_exact_otherTimes :
    let calls := [(1, [.https ⟨"a"⟩ 100]), (2, [.https ⟨"a"⟩ 200, .https ⟨"b"⟩ 50])]
    BestRecentExact 0 calls ((probeRuns 0).runFrom ⟨.default 0, 0⟩ calls) 3
      [.qadIpv4 ⟨"a"⟩ 150 (.v4 1#32 80)] := by
  intro calls
  have reached : (probeRuns 0).Reaches calls ((probeRuns 0).runFrom ⟨.default 0, 0⟩ calls) :=
    Machine.reaches_runFrom (by decide +kernel)
  exact (bestRecent_exact_iff reached (by decide +kernel) _).mpr
    (covered_of_distinct (by decide) 3 _)

/-- Two reports at the same instant. The second one takes the place of the first, whose latency is
lost. -/
theorem bestRecent_sameInstant :
    let calls := [(1, [.https ⟨"a"⟩ 100]), (1, [.https ⟨"a"⟩ 200])]
    let history := (probeRuns 0).runFrom ⟨.default 0, 0⟩ calls
    (probeRuns 0).Reaches calls history ∧ history.clock ≤ 2 ∧
      (history.reports.bestRecent 2 (.ofProbes [.https ⟨"a"⟩ 300])).get ⟨"a"⟩ = some 200 ∧
      ¬ BestRecentExact 0 calls history 2 [.https ⟨"a"⟩ 300] := by
  intro calls history
  have found : (history.reports.bestRecent 2 (.ofProbes [.https ⟨"a"⟩ 300])).get ⟨"a"⟩ =
      some 200 := by decide +kernel
  refine ⟨Machine.reaches_runFrom (by decide +kernel), by decide +kernel, found, ?_⟩
  intro holds
  have least := holds.least ⟨"a"⟩
  rw [found] at least
  have first : (Probe.https, (⟨"a"⟩ : RelayUrl), 100) ∈ recentResults calls 2 :=
    ⟨(1, [.https ⟨"a"⟩ 100]), List.mem_cons_self, by decide, _, List.mem_singleton.mpr rfl, rfl⟩
  exact absurd (least.2 ⟨.https, .inl first⟩) (by decide)

end History

namespace Reports

variable {reports : Reports} {now : Nat} {report : Report} {relay : RelayUrl}

/-- The relay is left for another one only if that one's lowest recent latency is at most two
thirds of the lowest latency of the relay in the report. -/
def LeftOnlyForBetter (reports : Reports) (now : Nat) (report : Report) (relay : RelayUrl) : Prop :=
  ∀ other, other ≠ relay →
    (reports.addReportHistoryAndSetPreferredRelay now report).2.preferredRelay = some other →
    ∃ best lowest, (reports.bestRecent now report).get other = some best ∧
      report.relayLatency.get relay = some lowest ∧ best ≤ lowest / 3 * 2

/-- Another relay is taken exactly if it is the fastest one and not more than two thirds of the
last latency of the relay in use. -/
theorem preferredRelay_eq_other_iff (inUse : reports.prevRelay = some relay)
    (unset : report.preferredRelay = none) (noted : report.relayLatency.lastLatency relay ≠ 0)
    {other : RelayUrl} (different : other ≠ relay) :
    (reports.addReportHistoryAndSetPreferredRelay now report).2.preferredRelay = some other ↔
      ∃ best, reports.Fastest now report other best ∧
        best ≤ report.relayLatency.lastLatency relay / 3 * 2 := by
  have stays := reports.sticks_iff now unset
  rw [preferredRelay_add]
  constructor
  · intro taken
    split at taken
    next => exact absurd (Option.some.inj (taken.symm.trans inUse)) different
    next moves =>
      rcases reports.choice_spec now unset with ⟨url, chosen, first⟩ | ⟨none, -⟩
      · cases chosen.symm.trans taken
        refine ⟨_, first, Nat.le_of_not_lt fun above => moves (stays.mpr ?_)⟩
        exact ⟨relay, other, _, inUse, first, different, noted, above⟩
      · cases none.symm.trans taken
  · rintro ⟨best, first, below⟩
    rw [if_neg]
    · rcases reports.choice_spec now unset with ⟨url, chosen, isFirst⟩ | ⟨-, empty⟩
      · exact (isFirst.unique first).1 ▸ chosen
      · have inside := first.mem.1
        rw [empty] at inside
        cases inside
    · intro sticks
      obtain ⟨relay', fastest, best', inUse', isFirst, -, -, above⟩ := stays.mp sticks
      obtain ⟨-, rfl⟩ := isFirst.unique first
      cases inUse.symm.trans inUse'
      omega

/-- With only latencies that are not zero for the relay in use, it is left only for a clearly better
one exactly if the fastest relay, where it is another one, is not between the bounds of the lowest
and the last latency of the relay in use. -/
theorem leftOnlyForBetter_iff (inUse : reports.prevRelay = some relay)
    (unset : report.preferredRelay = none) {lowest : Nat}
    (known : report.relayLatency.get relay = some lowest)
    (nonzero : ∀ probe latency, (probe, relay, latency) ∈ report.relayLatency.iter → latency ≠ 0) :
    reports.LeftOnlyForBetter now report relay ↔
      ∀ fastest best, fastest ≠ relay → reports.Fastest now report fastest best →
        best ≤ report.relayLatency.lastLatency relay / 3 * 2 → best ≤ lowest / 3 * 2 := by
  have noted : report.relayLatency.lastLatency relay ≠ 0 := by
    rcases report.relayLatency.mem_iter_lastLatency relay with ⟨probe, listed⟩ | ⟨none, -⟩
    · exact nonzero probe _ listed
    · cases known.symm.trans none
  constructor
  · intro holds fastest best different first below
    have taken :=
      (preferredRelay_eq_other_iff inUse unset noted different).mpr ⟨best, first, below⟩
    obtain ⟨best', lowest', found, known', bound⟩ := holds fastest different taken
    cases first.mem.2.symm.trans found
    cases known.symm.trans known'
    exact bound
  · intro bounds other different taken
    obtain ⟨best, first, below⟩ :=
      (preferredRelay_eq_other_iff inUse unset noted different).mp taken
    exact ⟨best, lowest, first.mem.2, known, bounds other best different first below⟩

def oneRelay : Reports :=
  ((default 0).addReportHistoryAndSetPreferredRelay 1 (.ofProbes [.https ⟨"a"⟩ 100])).1

def muchFaster : Report := .ofProbes [.https ⟨"a"⟩ 100, .https ⟨"b"⟩ 10]

theorem leftOnlyForBetter_muchFaster : oneRelay.LeftOnlyForBetter 2 muchFaster ⟨"a"⟩ := by
  have inUse : oneRelay.prevRelay = some ⟨"a"⟩ := by decide +kernel
  have known : muchFaster.relayLatency.get ⟨"a"⟩ = some 100 := by decide +kernel
  have entries : muchFaster.relayLatency.iter =
      [(.https, ⟨"a"⟩, 100), (.https, ⟨"b"⟩, 10)] := by decide +kernel
  have last : muchFaster.relayLatency.lastLatency ⟨"a"⟩ = 100 := by decide +kernel
  refine (leftOnlyForBetter_iff inUse rfl known ?_).mpr ?_
  · intro probe latency inside
    rw [entries] at inside
    simp at inside
    omega
  · intro fastest best _ _ below
    rw [last] at below
    exact below

/-- The relay in use answers over HTTPS in 100 and over IPv4 in 300, and the other one in 90. -/
def slightlyFaster : Report :=
  .ofProbes [.https ⟨"a"⟩ 100, .qadIpv4 ⟨"a"⟩ 300 (.v4 1#32 80), .https ⟨"b"⟩ 90]

/-- The other one is taken, as the loop compares it with 300. -/
theorem left_for_slightlyFaster :
    oneRelay.prevRelay = some ⟨"a"⟩ ∧ slightlyFaster.relayLatency.get ⟨"a"⟩ = some 100 ∧
      slightlyFaster.relayLatency.lastLatency ⟨"a"⟩ = 300 ∧
      (oneRelay.addReportHistoryAndSetPreferredRelay 2 slightlyFaster).2.preferredRelay =
        some ⟨"b"⟩ ∧
      ¬ oneRelay.LeftOnlyForBetter 2 slightlyFaster ⟨"a"⟩ := by
  have known : slightlyFaster.relayLatency.get ⟨"a"⟩ = some 100 := by decide +kernel
  have taken : (oneRelay.addReportHistoryAndSetPreferredRelay 2 slightlyFaster).2.preferredRelay =
      some ⟨"b"⟩ := by decide +kernel
  have recent : (oneRelay.bestRecent 2 slightlyFaster).get ⟨"b"⟩ = some 90 := by decide +kernel
  refine ⟨by decide +kernel, known, by decide +kernel, taken, ?_⟩
  intro holds
  obtain ⟨best, lowest, found, listed, bound⟩ := holds ⟨"b"⟩ (by decide) taken
  rw [recent] at found
  rw [known] at listed
  cases found
  cases listed
  exact absurd bound (by decide)

end Reports

end NexalinkTunnel.NetReport
