import NexalinkTunnel.Lib.PolledStreams
import NexalinkTunnel.Lib.Transition

/-!
Contract: one stream of the results of all address lookup services.

Owns `AddressLookupServices::resolve` and the stream it returns, with every poll of it, and
what the stream has told whatever the services found and in which order that arrived.

Does not own: the services. Each of them either does not resolve endpoints or yields some
results and ends. Which of the results arrives next is up to the environment, as is how
often the consumer is kept waiting.
-/

namespace NexalinkTunnel.AddressLookup

open Lib

variable {Item Error : Type}

inductive AddressLookupFailed (Error : Type) where
  | noServiceConfigured
  | noResults (errors : List Error)

abbrev Output (Item Error : Type) := Except (AddressLookupFailed Error) (Except Error Item)

structure AddressLookupStream (Item Error : Type) where
  streams : Option (Merge (Except Error Item))
  errors : List Error
  didEmit : Bool
  closed : Bool

namespace AddressLookupStream

def empty : AddressLookupStream Item Error := ⟨none, [], false, false⟩

def new (streams : List (List (Except Error Item))) : AddressLookupStream Item Error :=
  ⟨some ⟨streams⟩, [], false, false⟩

/-- A poll, for a choice of what a poll of the merged streams would answer. -/
def pollNext (this : AddressLookupStream Item Error) (choice : MergeChoice) :
    Option (Polled (Output Item Error) × AddressLookupStream Item Error) :=
  if this.closed then some (.ended, this)
  else
    match this.streams with
    | none => some (.item (.error .noServiceConfigured), { this with closed := true })
    | some inner =>
        match inner.poll choice with
        | none => none
        | some (.pending, inner) => some (.pending, { this with streams := some inner })
        | some (.item (.ok item), inner) =>
            some (.item (.ok (.ok item)), { this with streams := some inner, didEmit := true })
        | some (.item (.error error), inner) =>
            some (.item (.ok (.error error)),
              { this with streams := some inner, errors := this.errors ++ [error] })
        | some (.ended, inner) =>
            if this.didEmit then
              some (.ended, { this with streams := some inner, closed := true })
            else
              some (.item (.error (.noResults this.errors)),
                { this with streams := some inner, errors := [], closed := true })

end AddressLookupStream

/-- For each service the results of its stream, if it has one. -/
abbrev Resolutions (Item Error : Type) := List (Option (List (Except Error Item)))

def resolve (services : Resolutions Item Error) : AddressLookupStream Item Error :=
  if services.isEmpty then .empty else .new (services.filterMap id)

structure Lookup (Item Error : Type) where
  stream : AddressLookupStream Item Error
  answers : List (Polled (Output Item Error))

namespace Lookup

def next (lookup : Lookup Item Error) (choice : MergeChoice) : Option (Lookup Item Error) :=
  (lookup.stream.pollNext choice).map fun polled =>
    ⟨polled.2, lookup.answers ++ [polled.1]⟩

abbrev machine (services : Resolutions Item Error) : Machine (Lookup Item Error) MergeChoice :=
  .ofNext ⟨resolve services, []⟩ next

end Lookup

def merged (services : Resolutions Item Error) : Merge (Except Error Item) :=
  ⟨services.filterMap id⟩

/-- The results that arrived, each with the number of its stream. -/
def arrivals (services : Resolutions Item Error) (history : List MergeChoice) :
    List (Nat × Except Error Item) :=
  (merged services).delivered history

/-- Nothing more can come: all streams have ended, or there are no services and that was told. -/
def isOver (services : Resolutions Item Error) (history : List MergeChoice) : Bool :=
  if services.isEmpty then !history.isEmpty else history.contains .ended

def error? : Except Error Item → Option Error
  | .ok _ => none
  | .error error => some error

def results (services : Resolutions Item Error) (history : List MergeChoice) :
    List (Except Error Item) :=
  (arrivals services history).map Prod.snd

/-- What comes after the last result. -/
def closing (services : Resolutions Item Error) (history : List MergeChoice) :
    List (Output Item Error) :=
  if !isOver services history then []
  else if services.isEmpty then [.error .noServiceConfigured]
  else if (results services history).any Except.isOk then []
  else [.error (.noResults ((results services history).filterMap error?))]

/-- No answer but the end may follow. -/
def Final : Polled (Output Item Error) → Prop
  | .pending => False
  | .item (.ok _) => False
  | .item (.error _) => True
  | .ended => True

/-- What the answers of the polls tell of the choices. -/
structure Tells (services : Resolutions Item Error) (history : List MergeChoice)
    (answers : List (Polled (Output Item Error))) : Prop where
  /-- All results inline as they arrive, and at most one error after them. -/
  items : Polled.items answers =
    (results services history).map .ok ++ closing services history
  length : answers.length = history.length
  /-- A poll only waits for the services. -/
  waits : ∀ poll : Nat, answers[poll]? = some .pending → history[poll]? = some .pending
  ends : (∃ answer ∈ answers, Final answer) ↔ isOver services history = true
  settled : answers.Pairwise fun earlier later => Final earlier → later = .ended

/-- What the answers of the polls tell, and that nothing is missing in the end. -/
structure Reports (services : Resolutions Item Error) (history : List MergeChoice)
    (answers : List (Polled (Output Item Error))) : Prop extends
    Tells services history answers where
  /-- The results of each service arrive in its order, and all of them before the end. -/
  complete : ∀ index found, (services.filterMap id)[index]? = some found →
    ∃ rest, found = ((arrivals services history).filter (·.1 = index)).map Prod.snd ++ rest ∧
      (isOver services history = true → rest = [])

section Step

variable {services : Resolutions Item Error} {history : List MergeChoice} {choice : MergeChoice}

theorem isOver_concat : isOver services (history ++ [choice]) =
    (services.isEmpty || isOver services history || decide (choice = .ended)) := by
  unfold isOver
  cases services.isEmpty with
  | true => simp
  | false => simp [eq_comm]

/-- How the fields of the stream tell what has arrived. -/
structure Mirrors (services : Resolutions Item Error) (history : List MergeChoice)
    (stream : AddressLookupStream Item Error) : Prop where
  streams : stream.streams =
    if services.isEmpty then none else some ((merged services).after history)
  closed : stream.closed = isOver services history
  didEmit : stream.didEmit = (results services history).any Except.isOk
  errors : stream.closed = false → stream.errors = (results services history).filterMap error?
  exhausted : stream.closed = true →
    ((merged services).after history).remaining.all List.isEmpty = true

/-- What one poll does and what it adds to what was told. -/
structure Polls (services : Resolutions Item Error) (history : List MergeChoice)
    (choice : MergeChoice) (answer : Polled (Output Item Error))
    (after : AddressLookupStream Item Error) : Prop where
  mirrors : Mirrors services (history ++ [choice]) after
  told : (results services (history ++ [choice])).map .ok ++
      closing services (history ++ [choice]) =
    (results services history).map .ok ++ closing services history ++ answer.item?.toList
  waits : answer = .pending → choice = .pending
  final_iff : Final answer ↔ isOver services (history ++ [choice]) = true
  ended : isOver services history = true → answer = .ended

private theorem mirrors_resolve (services : Resolutions Item Error) :
    Mirrors services [] (resolve services) := by
  unfold resolve
  cases none : services.isEmpty with
  | true =>
      exact ⟨by simp [AddressLookupStream.empty, none], by
        simp [isOver, AddressLookupStream.empty], rfl, fun _ => rfl, nofun⟩
  | false =>
      exact ⟨by simp [AddressLookupStream.new, none, Merge.after, merged], by
        simp [isOver, AddressLookupStream.new], rfl, fun _ => rfl, nofun⟩

theorem closing_of_not_isOver (open_ : isOver services history = false) :
    closing services history = [] := by
  simp [closing, open_]

theorem unchanged (same : Merge.deliver
      ((merged services).after history, (merged services).delivered history) choice =
    ((merged services).after history, (merged services).delivered history)) :
    (merged services).after (history ++ [choice]) = (merged services).after history ∧
      results services (history ++ [choice]) = results services history := by
  rw [results, arrivals, Merge.after_concat, Merge.delivered_concat, same]
  exact ⟨rfl, rfl⟩

variable {stream : AddressLookupStream Item Error}

private theorem polls_closed (mirrors : Mirrors services history stream)
    (closed : stream.closed = true) :
    Polls services history choice .ended stream := by
  have done : isOver services history = true := mirrors.closed ▸ closed
  have still : isOver services (history ++ [choice]) = true := by simp [isOver_concat, done]
  obtain ⟨sameMerge, sameResults⟩ :=
    unchanged (Merge.deliver_of_exhausted (mirrors.exhausted closed) choice)
  refine ⟨⟨?_, ?_, ?_, ?_, ?_⟩, ?_, nofun, ?_, fun _ => rfl⟩
  · rw [sameMerge, mirrors.streams]
  · rw [still, closed]
  · rw [sameResults, mirrors.didEmit]
  · rw [closed]
    nofun
  · rw [sameMerge]
    exact mirrors.exhausted
  · rw [closing, closing, sameResults, done, still]
    simp [Polled.item?]
  · simp [Final, still]

private theorem polls_without_services (mirrors : Mirrors services history stream)
    (waiting : stream.closed = false) (silent : stream.streams = none) :
    Polls services history choice (.item (.error .noServiceConfigured))
      { stream with closed := true } := by
  have noServices : services.isEmpty = true := by
    have streams := mirrors.streams
    rw [silent] at streams
    by_contra some
    rw [if_neg some] at streams
    cases streams
  have before : isOver services history = false := mirrors.closed ▸ waiting
  have done : isOver services (history ++ [choice]) = true := by simp [isOver_concat, noServices]
  have exhausted : ((merged services).after history).remaining.all List.isEmpty = true := by
    have first : history = [] := by simpa [isOver, noServices] using before
    rw [first, List.isEmpty_iff.mp noServices]
    rfl
  obtain ⟨sameMerge, sameResults⟩ := unchanged (Merge.deliver_of_exhausted exhausted choice)
  refine ⟨⟨?_, ?_, ?_, nofun, ?_⟩, ?_, nofun, ?_, ?_⟩
  · rw [sameMerge]
    exact mirrors.streams
  · exact done.symm
  · rw [sameResults]
    exact mirrors.didEmit
  · rw [sameMerge]
    exact fun _ => exhausted
  · rw [closing_of_not_isOver before, closing, sameResults, done, noServices]
    simp [Polled.item?]
  · simp [Final, done]
  · rw [before]
    nofun

private theorem merge_of_some {inner : Merge (Except Error Item)}
    (mirrors : Mirrors services history stream) (serving : stream.streams = some inner) :
    services.isEmpty = false ∧ inner = (merged services).after history := by
  have streams := mirrors.streams
  rw [serving] at streams
  cases empty : services.isEmpty with
  | true =>
      rw [empty, if_pos rfl] at streams
      cases streams
  | false =>
      rw [empty, if_neg Bool.false_ne_true] at streams
      exact ⟨rfl, Option.some.inj streams⟩

theorem isOver_concat_of_ne (serves : services.isEmpty = false) (other : choice ≠ .ended) :
    isOver services (history ++ [choice]) = isOver services history := by
  simp [isOver_concat, serves, other]

private theorem polls_pending {inner : Merge (Except Error Item)}
    (mirrors : Mirrors services history stream) (waiting : stream.closed = false)
    (serving : stream.streams = some inner) :
    Polls services history .pending .pending { stream with streams := some inner } := by
  obtain ⟨serves, same⟩ := merge_of_some mirrors serving
  have before : isOver services history = false := mirrors.closed ▸ waiting
  have still : isOver services (history ++ [.pending]) = false := by
    rw [isOver_concat_of_ne serves MergeChoice.noConfusion, before]
  obtain ⟨sameMerge, sameResults⟩ : _ ∧ results services (history ++ [.pending]) = _ :=
    unchanged rfl
  refine ⟨⟨?_, ?_, ?_, ?_, ?_⟩, ?_, fun _ => rfl, ?_, ?_⟩
  · rw [sameMerge, serves, same]
    rfl
  · rw [still]
    exact waiting
  · rw [sameResults]
    exact mirrors.didEmit
  · rw [sameResults]
    exact mirrors.errors
  · rw [sameMerge]
    exact mirrors.exhausted
  · rw [closing_of_not_isOver before, closing_of_not_isOver still, sameResults]
    simp [Polled.item?]
  · simp [Final, still]
  · rw [before]
    nofun

private theorem polls_item {inner : Merge (Except Error Item)}
    (mirrors : Mirrors services history stream)
    (waiting : stream.closed = false) (serving : stream.streams = some inner) {index : Nat}
    {result : Except Error Item} {rest : List (Except Error Item)}
    (arrived : inner.remaining[index]? = some (result :: rest)) :
    Polls services history (.item index) (.item (.ok result))
      { stream with
        streams := some ⟨inner.remaining.set index rest⟩
        errors := stream.errors ++ (error? result).toList
        didEmit := stream.didEmit || result.isOk } := by
  obtain ⟨serves, rfl⟩ := merge_of_some mirrors serving
  have before : isOver services history = false := mirrors.closed ▸ waiting
  have still : isOver services (history ++ [.item index]) = false := by
    rw [isOver_concat_of_ne serves MergeChoice.noConfusion, before]
  have more : results services (history ++ [.item index]) =
      results services history ++ [result] := by
    rw [results, arrivals, Merge.delivered_concat_item arrived, List.map_append]
    rfl
  refine ⟨⟨?_, ?_, ?_, ?_, ?_⟩, ?_, nofun, ?_, ?_⟩
  · rw [Merge.after_concat_item arrived, serves]
    rfl
  · rw [still]
    exact waiting
  · rw [more, List.any_append, mirrors.didEmit]
    simp
  · intro _
    rw [more, List.filterMap_append, mirrors.errors waiting]
    cases result <;> rfl
  · rw [waiting]
    nofun
  · rw [closing_of_not_isOver before, closing_of_not_isOver still, more]
    simp [Polled.item?]
  · simp [Final, still]
  · rw [before]
    nofun

private theorem polls_ended {inner : Merge (Except Error Item)}
    (mirrors : Mirrors services history stream)
    (waiting : stream.closed = false) (serving : stream.streams = some inner)
    (exhausted : inner.remaining.all List.isEmpty = true) (errors : List Error) :
    Polls services history .ended
      (if stream.didEmit then .ended else .item (.error (.noResults stream.errors)))
      { stream with streams := some inner, errors := errors, closed := true } := by
  obtain ⟨serves, rfl⟩ := merge_of_some mirrors serving
  have before : isOver services history = false := mirrors.closed ▸ waiting
  have done : isOver services (history ++ [.ended]) = true := by simp [isOver_concat]
  obtain ⟨sameMerge, sameResults⟩ : _ ∧ results services (history ++ [.ended]) = _ :=
    unchanged rfl
  refine ⟨⟨?_, done.symm, ?_, nofun, ?_⟩, ?_, ?_, ?_, ?_⟩
  · rw [sameMerge, serves]
    rfl
  · rw [sameResults]
    exact mirrors.didEmit
  · rw [sameMerge]
    exact fun _ => exhausted
  · rw [closing_of_not_isOver before, closing, sameResults, done, serves, ← mirrors.didEmit,
      ← mirrors.errors waiting]
    cases stream.didEmit <;> simp [Polled.item?]
  · cases stream.didEmit <;> nofun
  · cases stream.didEmit <;> simp [Final, done]
  · rw [before]
    nofun

private theorem polls_of_pollNext {answer : Polled (Output Item Error)}
    {after : AddressLookupStream Item Error} (mirrors : Mirrors services history stream)
    (polled : stream.pollNext choice = some (answer, after)) :
    Polls services history choice answer after := by
  unfold AddressLookupStream.pollNext at polled
  split at polled
  next closed =>
    cases polled
    exact polls_closed mirrors closed
  next waiting =>
    rw [Bool.not_eq_true] at waiting
    split at polled
    next silent =>
      cases polled
      exact polls_without_services mirrors waiting silent
    next inner serving =>
      split at polled
      next => cases polled
      next merge pending =>
        cases polled
        obtain ⟨rfl, rfl⟩ := Merge.of_poll_pending pending
        exact polls_pending mirrors waiting serving
      next item merge found =>
        cases polled
        obtain ⟨index, rest, rfl, arrived, rfl⟩ := Merge.of_poll_item found
        simpa [error?, Except.isOk, Except.toBool] using polls_item mirrors waiting serving arrived
      next error merge found =>
        cases polled
        obtain ⟨index, rest, rfl, arrived, rfl⟩ := Merge.of_poll_item found
        simpa [error?, Except.isOk, Except.toBool] using polls_item mirrors waiting serving arrived
      next merge found =>
        obtain ⟨rfl, rfl, exhausted⟩ := Merge.of_poll_ended found
        have polls := polls_ended mirrors waiting serving exhausted
        split at polled
        next emitted =>
          cases polled
          simpa [emitted] using polls stream.errors
        next silent =>
          cases polled
          simpa [silent] using polls []

end Step

variable {services : Resolutions Item Error} {history : List MergeChoice}

private theorem tells_nil (services : Resolutions Item Error) : Tells services [] [] where
  items := by simp [Polled.items, results, arrivals, Merge.delivered, closing, isOver]
  length := rfl
  waits := by simp
  ends := by simp [isOver]
  settled := .nil

private theorem Tells.concat {choice : MergeChoice} {answers : List (Polled (Output Item Error))}
    {answer : Polled (Output Item Error)} {after : AddressLookupStream Item Error}
    (tells : Tells services history answers) (polls : Polls services history choice answer after) :
    Tells services (history ++ [choice]) (answers ++ [answer]) where
  items := by rw [Polled.items_concat, tells.items, polls.told]
  length := by simp [tells.length]
  waits poll waiting := by
    have inside := (List.getElem?_eq_some_iff.mp waiting).1
    rw [List.length_append, List.length_singleton, tells.length] at inside
    rcases Nat.lt_succ_iff_lt_or_eq.mp inside with old | rfl
    · rw [List.getElem?_append_left (tells.length ▸ old)] at waiting
      rw [List.getElem?_append_left old, tells.waits poll waiting]
    · rw [← tells.length, List.getElem?_concat_length, Option.some.injEq] at waiting
      rw [List.getElem?_concat_length, polls.waits waiting]
  ends := by
    constructor
    · rintro ⟨old, inside, final⟩
      rcases List.mem_append.mp inside with before | last
      · have done := tells.ends.mp ⟨old, before, final⟩
        simp [isOver_concat, done]
      · exact polls.final_iff.mp (List.mem_singleton.mp last ▸ final)
    · intro done
      exact ⟨answer, by simp, polls.final_iff.mpr done⟩
  settled := by
    refine List.pairwise_append.mpr ⟨tells.settled, List.pairwise_singleton _ _, ?_⟩
    intro earlier inside later isLast final
    rw [List.mem_singleton.mp isLast]
    exact polls.ended (tells.ends.mp ⟨earlier, inside, final⟩)

variable {lookup : Lookup Item Error}

theorem mirrors_and_tells_of_reaches (reached : (Lookup.machine services).Reaches history lookup) :
    Mirrors services history lookup.stream ∧ Tells services history lookup.answers := by
  refine reached.invariant_next
    (fun history lookup => Mirrors services history lookup.stream ∧
      Tells services history lookup.answers)
    ⟨mirrors_resolve services, tells_nil services⟩ ?_
  rintro history lookup choice after moved ⟨mirrors, tells⟩
  obtain ⟨⟨answer, stream⟩, polled, rfl⟩ := Option.map_eq_some_iff.mp moved
  have polls := polls_of_pollNext mirrors polled
  exact ⟨polls.mirrors, tells.concat polls⟩

/-- A service fails, one has no stream and one finds an item, which arrives first. -/
def failsAndFinds : Resolutions Nat String := [some [.error "timed out"], none, some [.ok 7]]

private theorem isSome_pollNext {stream : AddressLookupStream Item Error}
    {inner after : Merge (Except Error Item)} {choice : MergeChoice}
    {answer : Polled (Except Error Item)} (serving : stream.streams = some inner)
    (polled : inner.poll choice = some (answer, after)) : (stream.pollNext choice).isSome := by
  unfold AddressLookupStream.pollNext
  split
  · rfl
  · simp only [serving, polled]
    match answer with
    | .pending => rfl
    | .item (.ok _) => rfl
    | .item (.error _) => rfl
    | .ended =>
        dsimp only
        split <;> rfl

def missing (services : Resolutions Item Error) (history : List MergeChoice) : Nat :=
  ((merged services).after history).remaining.flatten.length

private theorem exists_poll (mirrors : Mirrors services history lookup.stream)
    (going : isOver services history = false) :
    ∃ choice, (lookup.stream.pollNext choice).isSome ∧
      (isOver services (history ++ [choice]) = true ∨
        missing services (history ++ [choice]) < missing services history) := by
  have streams := mirrors.streams
  have ends : isOver services (history ++ [.ended]) = true := by simp [isOver_concat]
  cases none : services.isEmpty with
  | true =>
      refine ⟨.ended, ?_, .inl ends⟩
      rw [AddressLookupStream.pollNext, mirrors.closed.trans going, streams, none]
      rfl
  | false =>
      rw [none, if_neg Bool.false_ne_true] at streams
      rcases ((merged services).after history).exhausted_or_exists_item with
        exhausted | ⟨index, result, rest, next⟩
      · have polled : ((merged services).after history).poll .ended = some (.ended, _) :=
          if_pos exhausted
        exact ⟨.ended, isSome_pollNext streams polled, .inl ends⟩
      · have polled : ((merged services).after history).poll (.item index) =
            some (.item result, ⟨((merged services).after history).remaining.set index rest⟩) := by
          simp only [Merge.poll, next]
        refine ⟨.item index, isSome_pollNext streams polled, .inr ?_⟩
        rw [missing, missing, Merge.after_concat_item next, ← Merge.length_flatten_set next]
        exact Nat.lt_succ_self _

private theorem exists_isOver (reached : (Lookup.machine services).Reaches history lookup) :
    ∃ rest after, (Lookup.machine services).Reaches (history ++ rest) after ∧
      isOver services (history ++ rest) = true := by
  refine reached.exists_done (fun history _ => isOver services history = true)
    (fun history _ => missing services history) ?_
  intro history lookup reached going
  obtain ⟨choice, polled, closer⟩ :=
    exists_poll (mirrors_and_tells_of_reaches reached).1 (Bool.not_eq_true _ ▸ going)
  obtain ⟨answer, found⟩ := Option.isSome_iff_exists.mp polled
  exact ⟨choice, _, by rw [Lookup.next, found]; rfl, closer⟩

/-- The end is never out of reach: after every run there is one in which the stream answers that it
has ended. What was told until then is all that `Reports` says. -/
theorem lookup_can_end (reached : (Lookup.machine services).Reaches history lookup) :
    ∃ rest after, (Lookup.machine services).Reaches (history ++ rest) after ∧
      after.answers.getLast? = some .ended := by
  obtain ⟨rest, finished, reachedFinished, done⟩ := exists_isOver reached
  have closed : finished.stream.closed = true :=
    (mirrors_and_tells_of_reaches reachedFinished).1.closed.trans done
  -- a closed stream answers every poll so
  have polled : finished.next .pending = some ⟨finished.stream, finished.answers ++ [.ended]⟩ := by
    rw [Lookup.next, AddressLookupStream.pollNext, if_pos closed]
    rfl
  refine ⟨rest ++ [.pending], ⟨finished.stream, finished.answers ++ [.ended]⟩, ?_,
    List.getLast?_concat⟩
  rw [← List.append_assoc]
  exact reachedFinished.next polled

theorem failsAndFinds_can_end :
    ∃ rest after, (Lookup.machine failsAndFinds).Reaches ([.pending, .item 1] ++ rest) after ∧
      after.answers.getLast? = some .ended :=
  have reached : (Lookup.machine failsAndFinds).Reaches [.pending, .item 1] _ :=
    Machine.reaches_runFrom (by decide)
  lookup_can_end reached

end NexalinkTunnel.AddressLookup
