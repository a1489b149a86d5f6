import NexalinkTunnel.Dns.Attrs
import NexalinkTunnel.Dns.EndpointData
import NexalinkTunnel.Relay.Protos.Common

/-!
Contract: what an endpoint publishes about itself in TXT records.

Owns `EndpointInfo` with its two ways to and from TXT attributes, and when a
published info is read back unchanged.

Does not own: how addresses are printed. That is a parameter, with the laws that
printing and parsing are inverse to each other and which characters are used.
-/

namespace NexalinkTunnel.Dns

open Lib Base AddressLookup
open AddressLookup.EndpointData (isRelay)

variable {ed : Ed25519}

structure TextForm (Value : Type) where
  text : Value → String
  parse : String → Option Value
  parse_text : ∀ value, parse (text value) = some value
  text_of_parse : ∀ string value, parse string = some value → text value = string

/-- How the address types are printed. A socket address has a colon before its port, a custom
address consists of hexadecimal digits and an underscore. -/
structure AddrTexts where
  url : TextForm RelayUrl
  socketAddr : TextForm SocketAddr
  customAddr : TextForm CustomAddr
  colon_mem_socketAddr : ∀ addr, ':' ∈ (socketAddr.text addr).toList
  equals_not_mem_socketAddr : ∀ addr, '=' ∉ (socketAddr.text addr).toList
  colon_not_mem_customAddr : ∀ addr, ':' ∉ (customAddr.text addr).toList
  equals_not_mem_customAddr : ∀ addr, '=' ∉ (customAddr.text addr).toList

/-- Values printed as a mark and a number of strokes. -/
def TextForm.strokes (Value : Type) [Encodable Value] (mark : Char) : TextForm Value where
  text value := String.ofList (mark :: List.replicate (Encodable.encode value) '1')
  parse string :=
    match string.toList with
    | first :: rest =>
        if first = mark ∧ rest = List.replicate rest.length '1' then
          Encodable.decode₂ Value rest.length
        else none
    | [] => none
  parse_text value := by simp
  text_of_parse string value parsed := by
    split at parsed
    next first rest cut =>
      split at parsed
      next marked =>
        rw [Encodable.mem_decode₂.mp parsed, ← marked.1, ← marked.2, ← cut, String.ofList_toList]
      next => cases parsed
    next => cases parsed

deriving instance Countable for SocketAddr, CustomAddrBytes, CustomAddr

noncomputable def AddrTexts.reference : AddrTexts :=
  have : Encodable SocketAddr := Encodable.ofCountable _
  have : Encodable CustomAddr := Encodable.ofCountable _
  { url := ⟨RelayUrl.url, fun s => some ⟨s⟩, fun _ => rfl, fun _ _ parsed => by cases parsed; rfl⟩
    socketAddr := .strokes SocketAddr ':'
    customAddr := .strokes CustomAddr '_'
    colon_mem_socketAddr := by simp [TextForm.strokes]
    equals_not_mem_socketAddr := by simp [TextForm.strokes]
    colon_not_mem_customAddr := by simp [TextForm.strokes]
    equals_not_mem_customAddr := by simp [TextForm.strokes] }

def userDataMaxLength : Nat := 245

def userDataFromStr (s : String) : Option String :=
  if s.utf8ByteSize ≤ userDataMaxLength then some s else none

/-- An endpoint and its data. The addresses are kept without duplicates and the user data within
its length by all constructors. -/
structure EndpointInfo (ed : Ed25519) where
  endpointId : EndpointId ed
  data : EndpointData
  distinct : data.addrs.Nodup
  fits : ∀ text ∈ data.userData, text.utf8ByteSize ≤ userDataMaxLength

/-! ## To attributes and back -/

variable (texts : AddrTexts)

def attrOf : TransportAddr → IrohAttr
  | .relay _ => .relay
  | .ip _ => .addr
  | .custom _ => .addr

def addrText : TransportAddr → String
  | .relay url => texts.url.text url
  | .ip addr => texts.socketAddr.text addr
  | .custom addr => texts.customAddr.text addr

def parseRelay (s : String) : Option TransportAddr := (texts.url.parse s).map .relay

def parseAddr (s : String) : Option TransportAddr :=
  match texts.socketAddr.parse s with
  | some addr => some (.ip addr)
  | none => (texts.customAddr.parse s).map .custom

namespace EndpointInfo

def toAttrs (info : EndpointInfo ed) : TxtAttrs ed IrohAttr :=
  TxtAttrs.fromParts info.endpointId
    (info.data.addrs.map (fun addr => (attrOf addr, addrText texts addr)) ++
      info.data.userData.toList.map fun userData => (IrohAttr.userData, userData))

def fromAttrs (attrs : TxtAttrs ed IrohAttr) : EndpointInfo ed where
  endpointId := attrs.endpointId
  data :=
    (EndpointData.Source.default.build.setUserData
        ((attrs.values .userData).head?.bind userDataFromStr)).addAddrs
      ((attrs.values .relay).filterMap (parseRelay texts) ++
        (attrs.values .addr).filterMap (parseAddr texts))
  distinct := by
    rw [EndpointData.addAddrs_addrs]
    exact nodup_eraseDups _
  fits := by
    intro text inside
    obtain ⟨s, -, parsed⟩ := Option.bind_eq_some_iff.mp inside
    unfold userDataFromStr at parsed
    split at parsed
    next fits => exact Option.some.inj parsed ▸ fits
    next => cases parsed

def toTxtStrings (info : EndpointInfo ed) : List String := (info.toAttrs texts).toTxtStrings

def fromTxtLookup [Encodings] (domainName : String) (lookup : List String) :
    Except ParseError (EndpointInfo ed) := do
  let attrs ← TxtAttrs.fromTxtLookup domainName lookup
  return fromAttrs texts attrs

/-- `parsed` says the same as `info`; relay URLs and other addresses each keep their order. -/
structure ReadsBack (info parsed : EndpointInfo ed) : Prop where
  endpointId : parsed.endpointId = info.endpointId
  userData : parsed.data.userData = info.data.userData
  relays : parsed.data.addrs.filter isRelay = info.data.addrs.filter isRelay
  others : parsed.data.addrs.filter (fun addr => !isRelay addr) =
    info.data.addrs.filter fun addr => !isRelay addr

structure Plain (info : EndpointInfo ed) : Prop where
  userData : ∀ text ∈ info.data.userData, '=' ∉ text.toList
  relays : ∀ url, .relay url ∈ info.data.addrs → '=' ∉ (texts.url.text url).toList

variable {texts}

theorem values_toAttrs (info : EndpointInfo ed) (key : IrohAttr) :
    (info.toAttrs texts).values key =
      (info.data.addrs.filter fun addr => attrOf addr = key).map (addrText texts) ++
        if key = .userData then info.data.userData.toList else [] := by
  rw [toAttrs, TxtAttrs.values_fromParts, TxtAttrs.valuesOf, List.filter_append, List.map_append,
    List.filter_map, List.filter_map, List.map_map, List.map_map]
  congr 1
  cases key <;> simp [Function.comp_def]

private theorem values_fromStrings (info : EndpointInfo ed) (key : IrohAttr) :
    (TxtAttrs.fromParts info.endpointId ((info.toAttrs texts).pairs.map TxtAttrs.cutPair)).values
        key =
      ((info.toAttrs texts).values key).map (Text.firstPart '=') := by
  rw [TxtAttrs.values_fromParts, ← TxtAttrs.valuesOf_pairs, TxtAttrs.valuesOf, TxtAttrs.valuesOf,
    List.filter_map, List.map_map, List.map_map]
  rfl

private theorem attrOf_eq_relay {addr : TransportAddr} :
    attrOf addr = .relay ↔ isRelay addr = true := by
  cases addr <;> simp [attrOf, isRelay]

private theorem attrOf_eq_addr {addr : TransportAddr} : attrOf addr = .addr ↔ !isRelay addr := by
  cases addr <;> simp [attrOf, isRelay]

private theorem parseRelay_eq_some {s : String} {addr : TransportAddr}
    (parsed : parseRelay texts s = some addr) :
    ∃ url, addr = .relay url ∧ texts.url.text url = s := by
  obtain ⟨url, found, rfl⟩ := Option.map_eq_some_iff.mp parsed
  exact ⟨url, rfl, texts.url.text_of_parse s url found⟩

private theorem parseAddr_firstPart {addr : TransportAddr} (other : !isRelay addr) :
    parseAddr texts (Text.firstPart '=' (addrText texts addr)) = some addr := by
  cases addr with
  | relay url => simp [isRelay] at other
  | ip addr =>
      rw [addrText, Text.firstPart_of_not_mem (texts.equals_not_mem_socketAddr addr), parseAddr,
        texts.socketAddr.parse_text]
  | custom addr =>
      have notSocketAddr : texts.socketAddr.parse (texts.customAddr.text addr) = none := by
        rw [Option.eq_none_iff_forall_ne_some]
        intro socketAddr parsed
        have same := texts.socketAddr.text_of_parse _ _ parsed
        exact texts.colon_not_mem_customAddr addr (same ▸ texts.colon_mem_socketAddr socketAddr)
      rw [addrText, Text.firstPart_of_not_mem (texts.equals_not_mem_customAddr addr), parseAddr,
        notSocketAddr, texts.customAddr.parse_text]
      rfl

private theorem parseRelay_firstPart {url : RelayUrl} (free : '=' ∉ (texts.url.text url).toList) :
    parseRelay texts (Text.firstPart '=' (texts.url.text url)) = some (.relay url) := by
  rw [Text.firstPart_of_not_mem free, parseRelay, texts.url.parse_text]
  rfl

theorem filterMap_map_eq_self {parse : String → Option TransportAddr}
    {print : TransportAddr → String} {addrs : List TransportAddr}
    (inverse : ∀ addr ∈ addrs, parse (print addr) = some addr) :
    (addrs.map print).filterMap parse = addrs := by
  induction addrs with
  | nil => rfl
  | cons addr addrs inductionHypothesis =>
      have rest := inductionHypothesis fun other inside =>
        inverse other (List.mem_cons_of_mem _ inside)
      rw [List.map_cons, List.filterMap_cons_some (inverse addr List.mem_cons_self), rest]

section RoundTrip

variable (texts) (info : EndpointInfo ed)

def readRelays : List TransportAddr :=
  ((info.data.addrs.filter isRelay).map fun addr =>
    Text.firstPart '=' (addrText texts addr)).filterMap (parseRelay texts)

def readBack : EndpointInfo ed :=
  fromAttrs texts
    (TxtAttrs.fromParts info.endpointId ((info.toAttrs texts).pairs.map TxtAttrs.cutPair))

private theorem endpointId_readBack : (info.readBack texts).endpointId = info.endpointId := by
  simp only [readBack, fromAttrs, TxtAttrs.fromParts]

theorem addrs_readBack :
    (info.readBack texts).data.addrs =
      (info.readRelays texts ++ info.data.addrs.filter fun addr => !isRelay addr).eraseDups := by
  have others : ((info.data.addrs.filter fun addr => !isRelay addr).map fun addr =>
      Text.firstPart '=' (addrText texts addr)).filterMap (parseAddr texts) =
        info.data.addrs.filter fun addr => !isRelay addr :=
    filterMap_map_eq_self fun addr inside => parseAddr_firstPart (List.mem_filter.mp inside).2
  rw [readBack, fromAttrs, EndpointData.addAddrs_addrs]
  simp only [EndpointData.Source.build, EndpointData.setUserData, values_fromStrings,
    values_toAttrs, attrOf_eq_relay, attrOf_eq_addr, reduceCtorEq, if_false, List.append_nil,
    List.nil_append, List.map_map]
  rw [readRelays]
  simp only [Bool.decide_eq_true, Function.comp_def, others]

private theorem userData_readBack :
    (info.readBack texts).data.userData =
      info.data.userData.bind fun text => userDataFromStr (Text.firstPart '=' text) := by
  have noAddrs : (info.data.addrs.filter fun addr => attrOf addr = .userData) = [] := by
    rw [List.filter_eq_nil_iff]
    intro addr _
    cases addr <;> simp [attrOf]
  simp only [readBack, fromAttrs, values_fromStrings, values_toAttrs, noAddrs, if_true,
    List.map_nil, List.nil_append]
  cases info.data.userData <;> rfl

private theorem isRelay_of_mem_readRelays {addr : TransportAddr}
    (inside : addr ∈ info.readRelays texts) :
    ∃ url, addr = .relay url ∧ '=' ∉ (texts.url.text url).toList := by
  obtain ⟨s, printed, parsed⟩ := List.mem_filterMap.mp inside
  obtain ⟨original, -, rfl⟩ := List.mem_map.mp printed
  obtain ⟨url, same, text⟩ := parseRelay_eq_some parsed
  exact ⟨url, same, text ▸ Text.not_mem_firstPart _⟩

variable {info}

private theorem userData_readBack_iff :
    (info.readBack texts).data.userData = info.data.userData ↔
      ∀ text ∈ info.data.userData, '=' ∉ text.toList := by
  rw [userData_readBack]
  cases found : info.data.userData with
  | none => simp
  | some text =>
      have fits := info.fits text found
      simp only [Option.bind_some, Option.mem_def, Option.some.injEq, forall_eq']
      constructor
      · intro same
        unfold userDataFromStr at same
        split at same
        next => exact Text.firstPart_eq_self_iff.mp (Option.some.inj same)
        next => cases same
      · intro free
        rw [Text.firstPart_of_not_mem free, userDataFromStr, if_pos fits]

private theorem readRelays_of_plain (plain : info.Plain texts) :
    info.readRelays texts = info.data.addrs.filter isRelay := by
  apply filterMap_map_eq_self
  intro addr inside
  obtain ⟨published, relay⟩ := List.mem_filter.mp inside
  cases addr with
  | relay url => exact parseRelay_firstPart (plain.relays url published)
  | ip addr => cases relay
  | custom addr => cases relay

private theorem addrs_readBack_of_plain (plain : info.Plain texts) :
    (info.readBack texts).data.addrs =
      info.data.addrs.filter isRelay ++ info.data.addrs.filter fun addr => !isRelay addr := by
  rw [addrs_readBack, readRelays_of_plain texts plain]
  apply eraseDups_of_nodup
  refine List.nodup_append.mpr ⟨info.distinct.filter _, info.distinct.filter _, ?_⟩
  rintro left leftInside right rightInside rfl
  have relay := (List.mem_filter.mp leftInside).2
  have other := (List.mem_filter.mp rightInside).2
  simp [relay] at other

private theorem plain_of_relays_readBack
    (same : (info.readBack texts).data.addrs.filter isRelay = info.data.addrs.filter isRelay)
    {url : RelayUrl} (published : .relay url ∈ info.data.addrs) :
    '=' ∉ (texts.url.text url).toList := by
  have back : .relay url ∈ (info.readBack texts).data.addrs.filter isRelay := by
    rw [same]
    exact List.mem_filter.mpr ⟨published, rfl⟩
  have inside := (List.mem_filter.mp back).1
  rw [addrs_readBack, List.mem_eraseDups, List.mem_append] at inside
  rcases inside with read | other
  · obtain ⟨_, sameUrl, free⟩ := isRelay_of_mem_readRelays texts info read
    cases sameUrl
    exact free
  · simp [isRelay] at other

/-- An endpoint's published info is always read, and it is read back unchanged exactly if neither
its user data nor the text of one of its relay URLs has an equals sign. -/
theorem fromTxtLookup_toTxtStrings [Encodings] (origin : String) :
    ∃ parsed, fromTxtLookup texts (txtName info.endpointId origin) (info.toTxtStrings texts) =
        .ok parsed ∧ (info.ReadsBack parsed ↔ info.Plain texts) := by
  refine ⟨info.readBack texts, ?_, ?_, ?_⟩
  · rw [fromTxtLookup, TxtAttrs.fromTxtLookup, endpointIdFromTxtName_txtName, toTxtStrings]
    change (do
      let attrs ← TxtAttrs.fromStrings info.endpointId (info.toAttrs texts).toTxtStrings
      return fromAttrs texts attrs) = _
    rw [TxtAttrs.fromStrings_toTxtStrings]
    rfl
  · intro same
    exact ⟨(userData_readBack_iff texts).mp same.userData,
      fun _ published => plain_of_relays_readBack texts same.relays published⟩
  · intro plain
    have addrs := addrs_readBack_of_plain texts plain
    refine ⟨endpointId_readBack texts info, (userData_readBack_iff texts).mpr plain.userData,
      ?_, ?_⟩
    · rw [addrs, List.filter_append, List.filter_filter, List.filter_filter]
      simp
    · rw [addrs, List.filter_append, List.filter_filter, List.filter_filter]
      simp

end RoundTrip

/-- An endpoint without addresses that publishes a user-defined setting. -/
def withSetting : EndpointInfo Relay.Protos.Crates.reference.ed25519 where
  endpointId := Relay.Protos.Crates.smallKey 1 (by decide)
  data := ⟨[], some "color=red"⟩
  distinct := List.nodup_nil
  fits := by decide

attribute [local instance] Encodings.strict

/-- The user data is read as the text before its equals sign. -/
theorem withSetting_cut :
    (fromTxtLookup AddrTexts.reference (txtName withSetting.endpointId "dns.iroh.link")
      (withSetting.toTxtStrings AddrTexts.reference)).map
        (fun parsed : EndpointInfo Relay.Protos.Crates.reference.ed25519 =>
          parsed.data.userData) = .ok (some "color") := by
  rfl

end EndpointInfo

end NexalinkTunnel.Dns
