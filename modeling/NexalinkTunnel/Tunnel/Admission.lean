import NexalinkTunnel.Base.KeyText
import NexalinkTunnel.Lib.Transition

/-!
Contract: which clients a listening tunnel serves.

Owns the command line of `tunnel-listen` and `ProxyHandler`: the whitelist, the loop that
accepts the streams of each connection, and the limit of concurrent bridges, which all
connections share.

Does not own: the bridges, and the other options' use. The semaphore of the limit is never
closed.
-/

namespace NexalinkTunnel.Tunnel

open Lib Base

variable {ed : Ed25519}

def isWhitespace (char : Char) : Bool :=
  (9 ≤ char.toNat && char.toNat ≤ 13) || (0x2000 ≤ char.toNat && char.toNat ≤ 0x200a) ||
    [0x20, 0x85, 0xa0, 0x1680, 0x2028, 0x2029, 0x202f, 0x205f, 0x3000].contains char.toNat

def trim (text : String) : String :=
  String.ofList (((text.toList.dropWhile isWhitespace).reverse.dropWhile isWhitespace).reverse)

structure ServerArgs (ed : Ed25519) where
  localServiceAddr : String
  alpn : Bytes
  whitelist : List (EndpointId ed)

/-- The parts of the value of the option that are not blank. -/
def whitelistEntries (value : String) : List String :=
  ((Text.split ',' value).map trim).filter (· ≠ "")

def defaultAlpn : Bytes := Bytes.ofString "ranyitech.com/port-forwarding/v1"

/-- The value of the last whitelist option, where the values of other options are none. -/
def lastWhitelist : List String → Option String
  | [] => none
  | option :: rest =>
      if option = "--" then lastWhitelist rest
      else
        match rest with
        | [] => none
        | value :: rest =>
            if option = "--whitelist" ∨ option = "-w" then (lastWhitelist rest).or (some value)
            else lastWhitelist rest

private theorem lastWhitelist_option {option value : String} {rest : List String}
    (named : option ≠ "--") :
    lastWhitelist (option :: value :: rest) =
      if option = "--whitelist" ∨ option = "-w" then (lastWhitelist rest).or (some value)
      else lastWhitelist rest := by
  rw [lastWhitelist, if_neg named]

section Options

variable [Encodings]

/-- The whitelist is filled entry by entry until one is no endpoint id. -/
def parseWhitelist : List String → Except String (List (EndpointId ed))
  | [] => .ok []
  | entry :: entries =>
      match PublicKey.fromStr entry with
      | .error error => .error ("无效的客户端 EndpointId: " ++ error.display)
      | .ok id => (parseWhitelist entries).map (id :: ·)

def defaultWhitelist : List (EndpointId ed) :=
  (PublicKey.fromStr
    "c2381bc8c69ce7ca39804b9b3edb04c014170500866272867ccc0a7daae505ad").toOption.toList

def defaultArgs : ServerArgs ed where
  localServiceAddr := "127.0.0.1:11435"
  alpn := defaultAlpn
  whitelist := defaultWhitelist

def parseOptions (parsed : ServerArgs ed) : List String → Except String (ServerArgs ed)
  | [] => .ok parsed
  | option :: rest =>
      if option = "--" then parseOptions parsed rest
      else if option = "--local-addr" ∨ option = "-l" then
        match rest with
        | value :: rest => parseOptions { parsed with localServiceAddr := value } rest
        | [] => .error "缺少 --local-addr 参数值"
      else if option = "--alpn" ∨ option = "-a" then
        match rest with
        | value :: rest => parseOptions { parsed with alpn := Bytes.ofString value } rest
        | [] => .error "缺少 --alpn 参数值"
      else if option = "--whitelist" ∨ option = "-w" then
        match rest with
        | value :: rest =>
            match parseWhitelist (whitelistEntries value) with
            | .error message => .error message
            | .ok whitelist => parseOptions { parsed with whitelist := whitelist } rest
        | [] => .error "缺少 --whitelist 参数值"
      else .error ("未知参数选项: " ++ option)

/-- The first argument is the name of the program. There is no result if help is asked for, where
the process exits. -/
def parseServerArgs (args : List String) : Option (Except String (ServerArgs ed)) :=
  if "-h" ∈ args ∨ "--help" ∈ args then none else some (parseOptions defaultArgs (args.drop 1))

/-- Whom a command line lets in: those of its last whitelist, or anyone if that is blank. -/
def Admits (args : List String) (client : EndpointId ed) : Prop :=
  match lastWhitelist (args.drop 1) with
  | none => (defaultWhitelist : List (EndpointId ed)) = [] ∨ client ∈ defaultWhitelist
  | some value => whitelistEntries value = [] ∨
      ∃ entry ∈ whitelistEntries value, PublicKey.fromStr entry = .ok client

private theorem parseWhitelist_eq_ok {entries : List String} {ids : List (EndpointId ed)}
    (parsed : parseWhitelist entries = .ok ids) :
    entries.map PublicKey.fromStr = ids.map Except.ok := by
  induction entries generalizing ids with
  | nil =>
      cases parsed
      rfl
  | cons entry entries inductionHypothesis =>
      rw [parseWhitelist] at parsed
      split at parsed
      next => cases parsed
      next id found =>
        cases others : (parseWhitelist entries : Except String (List (EndpointId ed))) with
        | error message =>
            rw [others] at parsed
            cases parsed
        | ok rest =>
            rw [others] at parsed
            cases parsed
            rw [List.map_cons, List.map_cons, found, inductionHypothesis others]

private theorem whitelist_of_parseOptions {parsed server : ServerArgs ed} {args : List String}
    (accepted : parseOptions parsed args = .ok server) :
    (lastWhitelist args = none ∧ server.whitelist = parsed.whitelist) ∨
      ∃ value, lastWhitelist args = some value ∧
        parseWhitelist (whitelistEntries value) = .ok server.whitelist := by
  -- The cases of the parser: the end, the separator, and for each option that it has a value (a
  -- bad one, for the whitelist), that the value is missing, and last an unknown option.
  induction parsed, args using parseOptions.induct with
  | case1 parsed =>
      cases accepted
      exact .inl ⟨rfl, rfl⟩
  | case2 parsed rest inductionHypothesis =>
      rw [parseOptions.eq_def] at accepted
      rw [lastWhitelist.eq_def]
      simpa using inductionHypothesis (by simpa using accepted)
  | case3 parsed option named isLocal value rest inductionHypothesis =>
      rw [parseOptions, if_neg named, if_pos isLocal] at accepted
      rw [lastWhitelist_option named, if_neg (by rcases isLocal with rfl | rfl <;> decide)]
      exact inductionHypothesis accepted
  | case4 parsed option named isLocal =>
      rw [parseOptions, if_neg named, if_pos isLocal] at accepted
      cases accepted
  | case5 parsed option named notLocal isAlpn value rest inductionHypothesis =>
      rw [parseOptions, if_neg named, if_neg notLocal, if_pos isAlpn] at accepted
      rw [lastWhitelist_option named, if_neg (by rcases isAlpn with rfl | rfl <;> decide)]
      exact inductionHypothesis accepted
  | case6 parsed option named notLocal isAlpn =>
      rw [parseOptions, if_neg named, if_neg notLocal, if_pos isAlpn] at accepted
      cases accepted
  | case7 parsed option named notLocal notAlpn isWhitelist value rest message bad =>
      rw [parseOptions, if_neg named, if_neg notLocal, if_neg notAlpn, if_pos isWhitelist,
        bad] at accepted
      cases accepted
  | case8 parsed option named notLocal notAlpn isWhitelist value rest whitelist read
      inductionHypothesis =>
      rw [parseOptions, if_neg named, if_neg notLocal, if_neg notAlpn, if_pos isWhitelist,
        read] at accepted
      rw [lastWhitelist_option named, if_pos isWhitelist]
      rcases inductionHypothesis accepted with ⟨none, same⟩ | ⟨later, last, parses⟩
      · exact .inr ⟨value, by rw [none]; rfl, same ▸ read⟩
      · exact .inr ⟨later, by rw [last]; rfl, parses⟩
  | case9 parsed option named notLocal notAlpn isWhitelist =>
      rw [parseOptions, if_neg named, if_neg notLocal, if_neg notAlpn, if_pos isWhitelist]
        at accepted
      cases accepted
  | case10 parsed option rest named notLocal notAlpn notWhitelist =>
      rw [parseOptions.eq_def] at accepted
      simp [named, notLocal, notAlpn, notWhitelist] at accepted

end Options

inductive AcceptPhase where
  | acceptBi
  | acquire
  | unauthorized
  | returned
deriving DecidableEq

structure ServedConnection (ed : Ed25519) where
  client : EndpointId ed
  phase : AcceptPhase

/-- The connections in the order in which they were accepted, the permits that are left, and the
client of each bridge that runs. -/
structure ProxyHandler (ed : Ed25519) where
  whitelist : List (EndpointId ed)
  permits : Nat
  connections : List (ServedConnection ed)
  bridges : List (EndpointId ed)

inductive HandlerStep (ed : Ed25519) where
  | connect (client : EndpointId ed)
  | stream (connection : Nat)
  | permit (connection : Nat)
  | disconnect (connection : Nat)
  | bridgeEnds (bridge : Nat)

namespace ProxyHandler

def concurrencyLimit : Nat := 2000

def new (args : ServerArgs ed) : ProxyHandler ed := ⟨args.whitelist, concurrencyLimit, [], []⟩

def afterCheck (handler : ProxyHandler ed) (client : EndpointId ed) : AcceptPhase :=
  if handler.whitelist ≠ [] ∧ client ∉ handler.whitelist then .unauthorized else .acceptBi

def goto (handler : ProxyHandler ed) (connection : Nat) (served : ServedConnection ed)
    (phase : AcceptPhase) : ProxyHandler ed :=
  { handler with
    connections := handler.connections.set connection { served with phase := phase } }

def next (handler : ProxyHandler ed) : HandlerStep ed → Option (ProxyHandler ed)
  | .connect client =>
      some { handler with
        connections := handler.connections ++ [⟨client, handler.afterCheck client⟩] }
  | .stream connection =>
      (handler.connections[connection]?.filter (·.phase = .acceptBi)).map fun served =>
        handler.goto connection served .acquire
  | .permit connection =>
      if handler.permits = 0 then none
      else (handler.connections[connection]?.filter (·.phase = .acquire)).map fun served =>
        { handler.goto connection served .acceptBi with
          permits := handler.permits - 1
          bridges := handler.bridges ++ [served.client] }
  | .disconnect connection =>
      (handler.connections[connection]?.filter (·.phase = .acceptBi)).map fun served =>
        handler.goto connection served .returned
  | .bridgeEnds bridge =>
      if bridge < handler.bridges.length then
        some { handler with
          permits := handler.permits + 1, bridges := handler.bridges.eraseIdx bridge }
      else none

abbrev machine (args : ServerArgs ed) : Machine (ProxyHandler ed) (HandlerStep ed) :=
  .ofNext (.new args) next

def Lets (whitelist : List (EndpointId ed)) (client : EndpointId ed) : Prop :=
  whitelist = [] ∨ client ∈ whitelist

/-- Each permit is free or held by one bridge, and only connections of clients that were let in
get past the check. -/
structure Serves (args : ServerArgs ed) (handler : ProxyHandler ed) : Prop where
  whitelist : handler.whitelist = args.whitelist
  permits : handler.permits + handler.bridges.length = concurrencyLimit
  checked : ∀ served ∈ handler.connections, served.phase ≠ .unauthorized →
    Lets args.whitelist served.client
  bridges : ∀ client ∈ handler.bridges, Lets args.whitelist client

section Serves

variable {args : ServerArgs ed} {handler after : ProxyHandler ed}

private theorem afterCheck_eq_unauthorized {client : EndpointId ed} :
    handler.afterCheck client = .unauthorized ↔ ¬ Lets handler.whitelist client := by
  unfold afterCheck Lets
  split
  next refused => simpa using refused
  next passed => simpa [not_and_or, or_iff_not_imp_left] using passed

private theorem Serves.goto (serves : handler.Serves args) {connection : Nat}
    {served : ServedConnection ed}
    (found : handler.connections[connection]? = some served) (phase : AcceptPhase)
    (passed : served.phase ≠ .unauthorized) :
    (handler.goto connection served phase).Serves args := by
  refine { serves with checked := fun other inside => ?_ }
  rcases List.mem_or_eq_of_mem_set inside with earlier | rfl
  · exact serves.checked other earlier
  · exact fun _ => serves.checked served (List.mem_of_getElem? found) passed

private theorem Serves.step (serves : handler.Serves args) {step : HandlerStep ed}
    (moved : handler.next step = some after) : after.Serves args := by
  cases step with
  | connect client =>
      cases moved
      refine { serves with checked := fun served inside passed => ?_ }
      rcases List.mem_append.mp inside with earlier | new
      · exact serves.checked served earlier passed
      · rw [List.mem_singleton.mp new] at passed ⊢
        rw [Ne, afterCheck_eq_unauthorized, not_not, serves.whitelist] at passed
        exact passed
  | stream connection =>
      obtain ⟨served, found, rfl⟩ := Option.map_eq_some_iff.mp moved
      obtain ⟨there, accepting⟩ := Option.filter_eq_some_iff.mp found
      exact serves.goto there _ (by simp [of_decide_eq_true accepting])
  | permit connection =>
      obtain ⟨free, found⟩ := Option.ite_none_left_eq_some.mp moved
      obtain ⟨served, there, rfl⟩ := Option.map_eq_some_iff.mp found
      obtain ⟨there, acquiring⟩ := Option.filter_eq_some_iff.mp there
      have passed : served.phase ≠ .unauthorized := by simp [of_decide_eq_true acquiring]
      refine { serves.goto there .acceptBi passed with permits := ?_, bridges := ?_ }
      · have permits := serves.permits
        change handler.permits - 1 + (handler.bridges ++ [served.client]).length = _
        rw [List.length_append, List.length_singleton]
        omega
      · intro client runs
        rcases List.mem_append.mp runs with earlier | new
        · exact serves.bridges client earlier
        · rw [List.mem_singleton.mp new]
          exact serves.checked served (List.mem_of_getElem? there) passed
  | disconnect connection =>
      obtain ⟨served, found, rfl⟩ := Option.map_eq_some_iff.mp moved
      obtain ⟨there, accepting⟩ := Option.filter_eq_some_iff.mp found
      exact serves.goto there _ (by simp [of_decide_eq_true accepting])
  | bridgeEnds bridge =>
      obtain ⟨runs, same⟩ := Option.ite_none_right_eq_some.mp moved
      cases same
      refine { serves with permits := ?_, bridges := ?_ }
      · have permits := serves.permits
        change handler.permits + 1 + (handler.bridges.eraseIdx bridge).length = _
        rw [List.length_eraseIdx_of_lt runs]
        omega
      · exact fun client inside => serves.bridges client (List.mem_of_mem_eraseIdx inside)

end Serves

end ProxyHandler

section Admitted

variable [Encodings]

private theorem lets_iff_admits {args : List String} {server : ServerArgs ed}
    (parsed : parseServerArgs args = some (.ok server)) (client : EndpointId ed) :
    ProxyHandler.Lets server.whitelist client ↔ Admits args client := by
  obtain ⟨-, accepted⟩ := Option.ite_none_left_eq_some.mp parsed
  unfold Admits ProxyHandler.Lets
  rcases whitelist_of_parseOptions (Option.some.inj accepted) with ⟨none, same⟩ | ⟨value, last, ids⟩
  · rw [none, same]
    rfl
  · rw [last]
    have entries := parseWhitelist_eq_ok ids
    dsimp only
    refine or_congr ?_ ?_
    · rw [← List.map_eq_nil_iff (f := Except.ok), ← entries, List.map_eq_nil_iff]
    · have inside : client ∈ server.whitelist ↔
          (Except.ok client : Except KeyParsingError (EndpointId ed)) ∈
            (whitelistEntries value).map PublicKey.fromStr := by
        rw [entries]
        simp
      rw [inside, List.mem_map]

/-- Whatever clients connect and open streams: every bridge runs for a client that the command
line lets in, and at most 2000 run at once. -/
theorem bridges_only_admitted {args : List String} {server : ServerArgs ed}
    (parsed : parseServerArgs args = some (.ok server)) {history : List (HandlerStep ed)}
    {handler : ProxyHandler ed} (reached : (ProxyHandler.machine server).Reaches history handler) :
    (∀ client ∈ handler.bridges, Admits args client) ∧
      handler.permits + handler.bridges.length = ProxyHandler.concurrencyLimit := by
  have serves : handler.Serves server := reached.invariant_next
    (fun _ handler => handler.Serves server)
    ⟨rfl, rfl, by simp [ProxyHandler.new], by simp [ProxyHandler.new]⟩
    (fun _ _ _ _ moved serves => serves.step moved)
  exact ⟨fun client runs => (lets_iff_admits parsed client).mp (serves.bridges client runs),
    serves.permits⟩

end Admitted

attribute [local instance] Encodings.strict

def zeroKey : EndpointId everyKey := ⟨List.Vector.replicate publicKeyLength 0, rfl⟩

def zeroKeyArgs : List String :=
  ["tunnel-listen", "-l", "-w", "--", "-w",
    " 0000000000000000000000000000000000000000000000000000000000000000,"]

def zeroKeyServer : ServerArgs everyKey := ⟨"-w", defaultAlpn, [zeroKey]⟩

theorem zeroKey_bridged :
    ∃ handler, (ProxyHandler.machine zeroKeyServer).Reaches
        [.connect zeroKey, .stream 0, .permit 0] handler ∧ zeroKey ∈ handler.bridges ∧
      ∀ client ∈ handler.bridges, Admits zeroKeyArgs client :=
  have parsed : parseServerArgs zeroKeyArgs = some (.ok zeroKeyServer) := by rfl
  have reached : (ProxyHandler.machine zeroKeyServer).Reaches
      [.connect zeroKey, .stream 0, .permit 0] _ := Machine.reaches_runFrom (by decide)
  ⟨_, reached, by decide, (bridges_only_admitted parsed reached).1⟩

end NexalinkTunnel.Tunnel
