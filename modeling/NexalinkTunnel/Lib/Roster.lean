import Mathlib

/-!
Contract: members that enter and leave, in order of entry.

Owns the roster of a list of changes, its split into groups, and the total
weight of a finite map. Keys of members are unique; which changes keep them so
is up to the caller.
-/

namespace NexalinkTunnel.Lib

namespace Roster

variable {Member Key Group : Type}

inductive Change (Member Key : Type) where
  | enter (member : Member)
  | leave (key : Key)

section Definitions

variable [DecidableEq Key] [DecidableEq Group]

def leave (key : Member → Key) (gone : Key) (members : List Member) : List Member :=
  members.filter fun member => key member ≠ gone

def applyChange (key : Member → Key) (members : List Member) : Change Member Key → List Member
  | .enter member => members ++ [member]
  | .leave gone => leave key gone members

def members (key : Member → Key) (changes : List (Change Member Key)) : List Member :=
  changes.foldl (applyChange key) []

def stack (group : Member → Group) (members : List Member) (label : Group) : List Member :=
  members.filter fun member => group member = label

end Definitions

variable {key : Member → Key} {group : Member → Group} {roster : List Member}
  {member other : Member} {gone : Key} {label : Group}

theorem eq_of_key_eq (unique : (roster.map key).Nodup) (inside : member ∈ roster)
    (otherInside : other ∈ roster) (same : key member = key other) : member = other :=
  List.inj_on_of_nodup_map unique inside otherInside same

theorem unique_enter (unique : (roster.map key).Nodup)
    (fresh : ∀ other ∈ roster, key other ≠ key member) : ((roster ++ [member]).map key).Nodup := by
  rw [List.map_append, List.nodup_append]
  refine ⟨unique, by simp, ?_⟩
  intro first inFirst second inSecond
  obtain ⟨other, inside, rfl⟩ := List.mem_map.mp inFirst
  obtain rfl : second = key member := by simpa using inSecond
  exact fresh other inside

theorem key_ne_last (unique : ((roster ++ [member]).map key).Nodup) (inside : other ∈ roster) :
    key other ≠ key member := by
  rw [List.map_append, List.nodup_append] at unique
  exact unique.2.2 _ (List.mem_map_of_mem inside) _ (by simp)

section Groups

variable [DecidableEq Group]

@[simp] theorem mem_stack :
    member ∈ stack group roster label ↔ member ∈ roster ∧ group member = label := by
  simp [stack]

theorem stack_enter_self (member : Member) :
    stack group (roster ++ [member]) (group member) =
      stack group roster (group member) ++ [member] := by
  simp [stack]

theorem stack_enter_of_ne (differs : group member ≠ label) :
    stack group (roster ++ [member]) label = stack group roster label := by
  simp [stack, differs]

theorem unique_stack (unique : (roster.map key).Nodup) :
    ((stack group roster label).map key).Nodup :=
  (List.Sublist.map key List.filter_sublist).nodup unique

end Groups

variable [DecidableEq Key]

@[simp] theorem mem_leave :
    member ∈ leave key gone roster ↔ member ∈ roster ∧ key member ≠ gone := by
  simp [leave]

theorem stack_leave [DecidableEq Group] :
    stack group (leave key gone roster) label = leave key gone (stack group roster label) := by
  simp only [stack, leave, List.filter_filter]
  exact List.filter_congr fun member _ => Bool.and_comm _ _

theorem leave_of_forall_ne (absent : ∀ member ∈ roster, key member ≠ gone) :
    leave key gone roster = roster :=
  List.filter_eq_self.mpr fun member inside => decide_eq_true (absent member inside)

theorem unique_leave (unique : (roster.map key).Nodup) :
    ((leave key gone roster).map key).Nodup :=
  (List.Sublist.map key List.filter_sublist).nodup unique

theorem leave_last (unique : ((roster ++ [member]).map key).Nodup) :
    leave key (key member) (roster ++ [member]) = roster := by
  have rest := leave_of_forall_ne fun other => key_ne_last unique
  unfold leave at rest ⊢
  rw [List.filter_append, rest]
  simp

theorem leave_append_of_ne (differs : key member ≠ gone) :
    leave key gone (roster ++ [member]) = leave key gone roster ++ [member] := by
  simp [leave, differs]

theorem stack_leave_of_group_ne [DecidableEq Group] (unique : (roster.map key).Nodup)
    (inside : member ∈ roster) (differs : group member ≠ label) :
    stack group (leave key (key member) roster) label = stack group roster label := by
  rw [stack_leave]
  refine leave_of_forall_ne fun other inStack same => differs ?_
  obtain ⟨otherInside, labelled⟩ := mem_stack.mp inStack
  rw [← eq_of_key_eq unique otherInside inside same, labelled]

theorem length_leave (unique : (roster.map key).Nodup) (inside : member ∈ roster) :
    (leave key (key member) roster).length + 1 = roster.length := by
  induction roster with
  | nil => simp at inside
  | cons head tail inductionHypothesis =>
      rw [List.map_cons, List.nodup_cons] at unique
      by_cases same : key head = key member
      · have absent : ∀ other ∈ tail, key other ≠ key member := by
          intro other otherInside equal
          exact unique.1 (same ▸ equal ▸ List.mem_map_of_mem otherInside)
        have rest : leave key (key member) (head :: tail) = leave key (key member) tail := by
          simp [leave, same]
        rw [rest, leave_of_forall_ne absent, List.length_cons]
      · obtain rfl | inTail := List.mem_cons.mp inside
        · exact absurd rfl same
        · have rest := inductionHypothesis unique.2 inTail
          have kept : leave key (key member) (head :: tail) =
              head :: leave key (key member) tail := by
            simp [leave, same]
          rw [kept, List.length_cons, List.length_cons, rest]

end Roster

/-! ## Weight of a finite map -/

section Weight

variable {Key Value : Type}

def totalWeight (weight : Value → Nat) (map : AList fun _ : Key => Value) : Nat :=
  (map.entries.map fun entry => weight entry.2).sum

variable [DecidableEq Key]

theorem totalWeight_erase (weight : Value → Nat) (map : AList fun _ : Key => Value) (key : Key) :
    totalWeight weight (map.erase key) + ((map.lookup key).map weight).getD 0 =
      totalWeight weight map := by
  by_cases present : key ∈ map.keys
  · obtain ⟨value, front, back, absent, split, erased⟩ := List.exists_of_kerase present
    have found : map.lookup key = some value :=
      AList.mem_lookup_iff.mpr (by rw [split]; simp)
    have remaining : (map.erase key).entries = front ++ back := erased
    rw [found]
    simp only [totalWeight, remaining, split, List.map_append, List.map_cons, List.sum_append,
      List.sum_cons, Option.map_some, Option.getD_some]
    omega
  · have missing : map.lookup key = none := AList.lookup_eq_none.mpr present
    have unchanged : map.entries.kerase key = map.entries := List.kerase_of_notMem_keys present
    rw [missing]
    simp [totalWeight, AList.erase, unchanged]

theorem totalWeight_insert (weight : Value → Nat) (map : AList fun _ : Key => Value) (key : Key)
    (value : Value) :
    totalWeight weight (map.insert key value) + ((map.lookup key).map weight).getD 0 =
      totalWeight weight map + weight value := by
  have removed := totalWeight_erase weight map key
  have stored : totalWeight weight (map.insert key value) =
      weight value + totalWeight weight (map.erase key) := by
    simp [totalWeight, AList.insert, AList.erase, List.kinsert]
  omega

end Weight

end NexalinkTunnel.Lib
