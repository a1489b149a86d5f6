import NexalinkTunnel.NetReport.Report

/-!
Contract: what a report says about UDP and about mappings that vary by destination.

Owns the closed form of the four fields that QAD probes set, for any list of probe
reports, and that the order of the probes has no part in it.

Does not own: the addresses that a report keeps, which are those of the first probe
and so do depend on the order.
-/

namespace NexalinkTunnel.NetReport

open Base

/-- The address of a QAD report over IPv4. One with an IPv6 address is ignored. -/
def ProbeReport.addrV4 : ProbeReport → Option (BitVec 32 × UInt16)
  | .qadIpv4 _ _ (.v4 ip port) => some (ip, port)
  | _ => none

def ProbeReport.addrV6 : ProbeReport → Option (BitVec 128 × UInt16 × UInt32 × UInt32)
  | .qadIpv6 _ _ (.v6 ip port flowinfo scopeId) => some (ip, port, flowinfo, scopeId)
  | _ => none

section Observed

variable {Addr : Type} [DecidableEq Addr]

/-- Unknown for at most one address, otherwise whether two of them differ. -/
def mappingVaries (addrs : List Addr) : Option Bool :=
  if addrs.length ≤ 1 then none
  else some (decide (∃ left ∈ addrs, ∃ right ∈ addrs, left ≠ right))

private theorem mappingVaries_perm {addrs other : List Addr} (perm : addrs.Perm other) :
    mappingVaries addrs = mappingVaries other := by
  simp only [mappingVaries, perm.length_eq, perm.mem_iff]

private theorem foldl_observe_some (known : Addr) (varies : Option Bool) (addrs : List Addr) :
    addrs.foldl (fun seen addr => Report.observe seen.1 seen.2 addr) (some known, varies) =
      (some known,
        if addrs = [] then varies
        else some (varies.getD false || decide (∃ addr ∈ addrs, known ≠ addr))) := by
  induction addrs generalizing varies with
  | nil => rfl
  | cons addr addrs inductionHypothesis =>
      rw [List.foldl_cons, Report.observe]
      split
      next same =>
        rw [inductionHypothesis]
        by_cases last : addrs = [] <;> simp [last, same]
      next differs =>
        rw [inductionHypothesis]
        by_cases last : addrs = [] <;> simp [last, differs]

private theorem foldl_observe_none (addrs : List Addr) :
    (addrs.foldl (fun seen addr => Report.observe seen.1 seen.2 addr) (none, none)).2 =
      mappingVaries addrs := by
  cases addrs with
  | nil => rfl
  | cons first addrs =>
      rw [List.foldl_cons, Report.observe, foldl_observe_some, mappingVaries]
      cases addrs with
      | nil => rfl
      | cons second addrs =>
          rw [if_neg (List.cons_ne_nil _ _), if_neg (by simp)]
          rw [Option.getD_none, Bool.false_or]
          apply congrArg some
          rw [decide_eq_decide]
          constructor
          · intro differs
            obtain ⟨addr, inside, differs⟩ := differs
            exact ⟨first, List.mem_cons_self, addr, List.mem_cons_of_mem _ inside, differs⟩
          · intro differs
            obtain ⟨left, leftInside, right, rightInside, differs⟩ := differs
            by_contra same
            have equal : ∀ addr ∈ first :: second :: addrs, first = addr := by
              intro addr inside
              rcases List.mem_cons.mp inside with rfl | inside
              · rfl
              · by_contra other
                exact same ⟨addr, inside, other⟩
            exact differs ((equal left leftInside).symm.trans (equal right rightInside))

end Observed

namespace Report

/-- What a report says about one family, as far as probes of the family change it. -/
structure FamilyView (Addr : Type) [DecidableEq Addr] where
  addrOf : ProbeReport → Option Addr
  udp : Report → Bool
  seen : Report → Option Addr × Option Bool
  udp_default : udp default = false
  seen_default : seen default = (none, none)
  udp_update : ∀ report probe, udp (report.update probe) = (udp report || (addrOf probe).isSome)
  seen_update : ∀ report probe, seen (report.update probe) =
    match addrOf probe with
    | some addr => observe (seen report).1 (seen report).2 addr
    | none => seen report

def viewV4 : FamilyView (BitVec 32 × UInt16) where
  addrOf := ProbeReport.addrV4
  udp := udpV4
  seen report := (report.globalV4, report.mappingVariesByDestIpv4)
  udp_default := rfl
  seen_default := rfl
  udp_update report probe := by
    cases probe with
    | https relay latency => simp [update, ProbeReport.addrV4]
    | qadIpv4 relay latency addr => cases addr <;> simp [update, ProbeReport.addrV4]
    | qadIpv6 relay latency addr => cases addr <;> simp [update, ProbeReport.addrV4]
  seen_update report probe := by
    cases probe with
    | https relay latency => rfl
    | qadIpv4 relay latency addr => cases addr <;> rfl
    | qadIpv6 relay latency addr => cases addr <;> rfl

def viewV6 : FamilyView (BitVec 128 × UInt16 × UInt32 × UInt32) where
  addrOf := ProbeReport.addrV6
  udp := udpV6
  seen report := (report.globalV6, report.mappingVariesByDestIpv6)
  udp_default := rfl
  seen_default := rfl
  udp_update report probe := by
    cases probe with
    | https relay latency => simp [update, ProbeReport.addrV6]
    | qadIpv4 relay latency addr => cases addr <;> simp [update, ProbeReport.addrV6]
    | qadIpv6 relay latency addr => cases addr <;> simp [update, ProbeReport.addrV6]
  seen_update report probe := by
    cases probe with
    | https relay latency => rfl
    | qadIpv4 relay latency addr => cases addr <;> rfl
    | qadIpv6 relay latency addr => cases addr <;> rfl

section Family

variable {Addr : Type} [DecidableEq Addr] (view : FamilyView Addr)

private theorem foldl_update (probes : List ProbeReport) (report : Report) :
    view.udp (probes.foldl update report) =
        (view.udp report || !(probes.filterMap view.addrOf).isEmpty) ∧
      view.seen (probes.foldl update report) = (probes.filterMap view.addrOf).foldl
        (fun seen addr => observe seen.1 seen.2 addr) (view.seen report) := by
  induction probes generalizing report with
  | nil => simp
  | cons probe probes inductionHypothesis =>
      obtain ⟨udpLater, seenLater⟩ := inductionHypothesis (report.update probe)
      rw [List.foldl_cons, udpLater, seenLater, view.udp_update, view.seen_update]
      cases found : view.addrOf probe with
      | none => simp [found]
      | some addr => simp [found]

private theorem foldl_update_default (probes : List ProbeReport) :
    view.udp (probes.foldl update default) = !(probes.filterMap view.addrOf).isEmpty ∧
      (view.seen (probes.foldl update default)).2 =
        mappingVaries (probes.filterMap view.addrOf) := by
  obtain ⟨udp, seen⟩ := foldl_update view probes default
  rw [udp, seen, view.udp_default, view.seen_default, foldl_observe_none]
  exact ⟨Bool.false_or _, rfl⟩

private theorem foldl_update_perm {probes other : List ProbeReport} (perm : probes.Perm other) :
    view.udp (probes.foldl update default) = view.udp (other.foldl update default) ∧
      (view.seen (probes.foldl update default)).2 = (view.seen (other.foldl update default)).2 := by
  obtain ⟨udp, mapping⟩ := foldl_update_default view probes
  obtain ⟨udp', mapping'⟩ := foldl_update_default view other
  have addrs : (probes.filterMap view.addrOf).Perm (other.filterMap view.addrOf) :=
    perm.filterMap view.addrOf
  rw [udp, udp', mapping, mapping', mappingVaries_perm addrs, addrs.isEmpty_eq]
  exact ⟨rfl, rfl⟩

end Family

/-- The order of probe answers has no part in what a report says about UDP and mappings, and the
mapping of a family depends only on the addresses that were seen. -/
theorem update_order_irrelevant {probes other : List ProbeReport} (perm : probes.Perm other) :
    (probes.foldl update default).udpV4 = (other.foldl update default).udpV4 ∧
      (probes.foldl update default).udpV6 = (other.foldl update default).udpV6 ∧
      (probes.foldl update default).mappingVariesByDestIpv4 =
        (other.foldl update default).mappingVariesByDestIpv4 ∧
      (probes.foldl update default).mappingVariesByDestIpv6 =
        (other.foldl update default).mappingVariesByDestIpv6 ∧
      (probes.foldl update default).mappingVariesByDestIpv4 =
        mappingVaries (probes.filterMap ProbeReport.addrV4) ∧
      (probes.foldl update default).mappingVariesByDestIpv6 =
        mappingVaries (probes.filterMap ProbeReport.addrV6) := by
  obtain ⟨udpV4, mappingV4⟩ := foldl_update_perm viewV4 perm
  obtain ⟨udpV6, mappingV6⟩ := foldl_update_perm viewV6 perm
  exact ⟨udpV4, udpV6, mappingV4, mappingV6, (foldl_update_default viewV4 probes).2,
    (foldl_update_default viewV6 probes).2⟩

/-- Two relays see the same address, a third one another port. -/
def threeAnswers : List ProbeReport :=
  [.qadIpv4 ⟨"a"⟩ 10 (.v4 1#32 80), .qadIpv4 ⟨"b"⟩ 20 (.v4 1#32 80),
    .qadIpv4 ⟨"c"⟩ 30 (.v4 1#32 81)]

/-- In whatever order they answer, the mapping varies. -/
theorem update_order_irrelevant_reversed :
    (threeAnswers.foldl update default).mappingVariesByDestIpv4 = some true ∧
      (threeAnswers.reverse.foldl update default).mappingVariesByDestIpv4 = some true := by
  obtain ⟨-, -, same, -, closed, -⟩ :=
    update_order_irrelevant (List.reverse_perm threeAnswers).symm
  have varies : mappingVaries (threeAnswers.filterMap ProbeReport.addrV4) = some true := by decide
  exact ⟨closed.trans varies, same.symm.trans (closed.trans varies)⟩

end Report

end NexalinkTunnel.NetReport
