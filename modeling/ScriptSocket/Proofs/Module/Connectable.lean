import Mathlib.Data.List.Forall2
import ScriptSocket.Module.Lookup
import ScriptSocket.Proofs.Address.RoundTrip
import ScriptSocket.Proofs.Ownership.Handle
import ScriptSocket.Proofs.Resolution.Consultation
import ScriptSocket.Scripted.Resolver

/-!
# What a lookup returns can be used

The tuples that a lookup answers with are made to be taken apart again: the first three items make
the socket, the last is the address to connect or bind it to.  `Connectable` says that both go
through to the network stack, and with what.  Every tuple of both lookups is connectable, whatever
the resolver found, so none of them is refused before the stack is asked.
-/

namespace ScriptSocket.Module

open Resolution Dialogue

/-- A socket made from these arguments is one call of the stack; if that hands out a number proper,
the socket is a new handle that owns it. -/
def Makes (arguments : List Value) (family : Family) (kind : SocketKind) (protocol : Protocol) :
    Prop :=
  ∀ (σ : Type) (stack : Responder NetworkStack σ) (state : σ) (config : SocketConfig),
    let made := (socket config arguments).run stack state
    made.exchanges.map (·.request) = [.socket family kind protocol] ∧
      ∀ descriptor : Int32, (stack (.socket family kind protocol) state).1 = .ok descriptor →
        0 ≤ descriptor → made.value = .ok ⟨some descriptor, family, .new, config⟩

/-- Connecting an open handle of the endpoint's family to this address object, or binding it there,
is one call of the stack, which names the endpoint. -/
def Reaches (address : Value) (endpoint : Endpoint) : Prop :=
  ∀ (σ : Type) (stack : Responder NetworkStack σ) (state : σ) (h : Handle) (descriptor : Int32),
    h.family = endpoint.family → h.descriptor = some descriptor →
    ((h.connect address).run stack state).exchanges.map (·.request) =
        [.connect descriptor endpoint] ∧
      ((h.bind address).run stack state).exchanges.map (·.request) = [.bind descriptor endpoint]

/-- A tuple which leads to an endpoint.  Its first three items make a socket of the endpoint's
family, with the socket type and the protocol number, and the last reaches the endpoint, with the
port cut to 16 bits in place of its own and without flow information. -/
def Connectable (port : Value) (endpoint : Endpoint) (kind : SocketKind) (number : Int32)
    (element : Value) : Prop :=
  ∃ (family type protocol name address : Value) (named : Protocol) (chosen : Int64)
      (word : UInt16),
    element = .tuple [family, type, protocol, name, address] ∧
      named.code = number ∧ Makes [family, type, protocol] endpoint.family kind named ∧
      port.integer = .ok chosen ∧ (word.toNat : Int) = chosen.toInt % 2 ^ 16 ∧
      Reaches address (endpoint.withPort word)

/-! ## The socket and the address -/

theorem ofArguments_codes
    (family : Family) (kind : SocketKind) {protocol : Protocol} (hcode : protocol.code ≠ -1) :
    SocketRequest.ofArguments
        [Value.ofCode family.code, Value.ofCode kind.code, Value.ofCode protocol.code] =
      .ok ⟨family, kind, some (Protocol.ofCode protocol.code.toInt64)⟩ := by
  -- a script's -1 would stand for the usual protocol of the type
  have hwide : protocol.code.toInt64 ≠ -1 := by
    intro heq
    apply hcode
    rw [← Int32.toInt32_toInt64 protocol.code, heq]
    rfl
  simp [SocketRequest.ofArguments, coded, protocolArgument, Value.ofCode, Value.integer,
    Family.ofCode?_code, SocketKind.ofCode?_code, hwide]

theorem makes_codes
    (family : Family) (kind : SocketKind) {protocol : Protocol} (hcode : protocol.code ≠ -1) :
    Makes [Value.ofCode family.code, Value.ofCode kind.code, Value.ofCode protocol.code]
      family kind (Protocol.ofCode protocol.code.toInt64) := by
  intro σ stack state config
  simp only [socket, ofArguments_codes family kind hcode, Handle.create, Option.getD_some,
    Dialogue.run, List.map_cons]
  generalize stack (.socket family kind (Protocol.ofCode protocol.code.toInt64)) state = replied
  obtain ⟨reply, after⟩ := replied
  cases reply with
  | error errno =>
      refine ⟨rfl, ?_⟩
      intro descriptor hreply
      cases hreply
  | ok descriptor =>
      refine ⟨rfl, ?_⟩
      intro other hreply hnatural
      cases hreply
      simp only [Dialogue.run, Handle.owned_of_nonneg hnatural]

theorem reaches_of_ofValue
    {address : Value} {endpoint : Endpoint}
    (hread : Endpoint.ofValue endpoint.family address = .ok endpoint) :
    Reaches address endpoint := by
  intro σ stack state h descriptor hfamily hopen
  rw [← hfamily] at hread
  constructor
  · simp only [Handle.connect, Handle.whenOpen_open hopen, hread, Dialogue.run, List.map_cons]
    cases (stack (.connect descriptor endpoint) state).1 <;> rfl
  · simp only [Handle.bind, Handle.whenOpen_open hopen, hread, Dialogue.run, List.map_cons]
    cases (stack (.bind descriptor endpoint) state).1 <;> rfl

theorem connectable_toValue
    {port : Value} (hport : port.IsInteger) (endpoint : Endpoint) (kind : SocketKind)
    {protocol : Protocol} (hcode : protocol.code ≠ -1) (name : String) :
    Connectable port endpoint kind protocol.code
      (Entry.toValue ⟨endpoint.family, kind, protocol, name, endpoint.toValue port⟩) := by
  obtain ⟨chosen, hchosen⟩ := Value.exists_integer_iff.mpr hport
  have hread := Endpoint.ofValue_toValue endpoint hchosen
  rw [← Endpoint.family_withPort endpoint (Value.low16 chosen)] at hread
  exact ⟨_, _, _, _, _, Protocol.ofCode protocol.code.toInt64, chosen, Value.low16 chosen, rfl,
    Protocol.code_ofCode_code protocol, makes_codes endpoint.family kind hcode, hchosen,
    Value.toNat_low16 chosen, reaches_of_ofValue hread⟩

/-! ## The lookups -/

theorem port_of_ofArguments
    {config : ResolverConfig} {arguments : List Value} {request : LookupRequest}
    (hrequest : LookupRequest.ofArguments config arguments = .ok request) :
    arguments[1]? = some request.port := by
  unfold LookupRequest.ofArguments at hrequest
  split at hrequest
  · obtain ⟨host, -, hrest⟩ := Value.bind_eq_ok_iff.mp hrequest
    obtain ⟨family, -, hrest⟩ := Value.bind_eq_ok_iff.mp hrest
    cases hrest
    rfl
  · obtain ⟨host, -, hrest⟩ := Value.bind_eq_ok_iff.mp hrequest
    obtain ⟨family, -, hrest⟩ := Value.bind_eq_ok_iff.mp hrest
    cases hrest
    rfl
  · cases hrequest

/-- A lookup over callbacks that succeeds lists one entry for each address reported to its own
queries. -/
theorem listing_of_lookup
    {σ : Type} {respond : Responder Resolver σ} {config : ResolverConfig} {board : Board}
    {arguments : List Value} {state : σ} {listing : Value}
    (hanswer : ((lookup config board arguments).run respond state).value.1 =
      some (.ok listing)) :
    ∃ port, arguments[1]? = some port ∧ port.IsInteger ∧
      listing = .list ((records ((lookup config board arguments).run respond
        state).exchanges).map fun found => (Entry.ofEndpoint found port).toValue) := by
  cases hrequest : LookupRequest.ofArguments config arguments with
  | error fault => simp [lookup, hrequest, Dialogue.run] at hanswer
  | ok request =>
      simp only [lookup, hrequest, Dialogue.run, Dialogue.run_map] at hanswer ⊢
      obtain ⟨answer, hresolved, hlisted⟩ := Option.map_eq_some_iff.mp hanswer
      cases answer with
      | error fault => cases hlisted
      | ok entries =>
          cases hlisted
          obtain ⟨hport, hentries⟩ := Board.entries_of_resolve hresolved
          refine ⟨request.port, port_of_ofArguments hrequest, hport, ?_⟩
          rw [hentries]
          simp [entriesValue]

theorem entries_of_answerInTurn
    {port : Value} {histories : List (List Event)} {entries : List Entry}
    (hanswer : answerInTurn port histories = .ok entries) :
    entries = (histories.flatMap found).map (.ofEndpoint · port) := by
  have hsame : entries = histories.flatMap (entriesOf port) := by
    simp only [answerInTurn] at hanswer
    split at hanswer
    · split at hanswer
      · cases hanswer
      · exact (Except.ok.inj hanswer).symm
    · exact (Except.ok.inj hanswer).symm
  rw [hsame, List.map_flatMap]
  rfl

/-- In whatever order caller and resolver move, a resolution that succeeds answers with one entry
for each address that was reported to one of its queries before that query ended. -/
theorem entries_of_replay
    {host : String} {port : Value} {timeout : Nat} {passes : List QueryKind}
    {moves : List Move} {c : Call} {notices : List Notice} {entries : List Entry}
    (hrun : (Call.start host port timeout passes).replay? moves = some (c, notices))
    (hanswer : c.answer? = some (.ok entries)) :
    entries = ((histories moves).flatMap found).map (.ofEndpoint · port) := by
  have hreturned : c.point = .returned (.ok entries) := by
    unfold Call.answer? at hanswer
    split at hanswer
    · rename_i hpoint
      rw [hpoint, Option.some.inj hanswer]
    · cases hanswer
  obtain ⟨hrefused, hunrefused⟩ := Call.answer_of_replay hrun hreturned
  have hnone : refusals moves = [] := by
    rw [List.eq_nil_iff_forall_not_mem]
    intro errno herrno
    cases hrefused errno herrno
  exact entries_of_answerInTurn (hunrefused hnone).2.symm

theorem listing_of_lookupDirectly
    {σ : Type} {respond : Responder DirectResolver σ} {config : ResolverConfig}
    {arguments : List Value} {state : σ} {listing : Value}
    (hanswer : ((lookupDirectly config arguments).run respond state).value = .ok listing) :
    ∃ port query found, arguments[1]? = some port ∧ port.IsInteger ∧
      ((lookupDirectly config arguments).run respond state).exchanges = [⟨query, .ok found⟩] ∧
      listing = .list (found.map fun record => (record.entry port).toValue) := by
  cases hrequest : LookupRequest.ofArguments config arguments with
  | error fault => simp [lookupDirectly, hrequest, Dialogue.run] at hanswer
  | ok request =>
      cases hport : request.port.integer with
      | error fault =>
          simp [lookupDirectly, resolveDirectly, lookupAnswer, hrequest, hport, Except.map,
            Dialogue.run] at hanswer
      | ok number =>
          simp only [lookupDirectly, resolveDirectly, hrequest, hport, Dialogue.run, Dialogue.map]
            at hanswer ⊢
          generalize respond ⟨request.host, request.family⟩ state = replied at hanswer ⊢
          obtain ⟨reply, next⟩ := replied
          cases reply with
          | error status => cases hanswer
          | ok found =>
              cases hanswer
              refine ⟨request.port, ⟨request.host, request.family⟩, found,
                port_of_ofArguments hrequest, Value.exists_integer_iff.mp ⟨number, hport⟩, rfl, ?_⟩
              simp [entriesValue]

/-- What a successful lookup returns can be connected to.  Over callbacks the list has one tuple for
each address that was reported to the lookup's own queries, and it leads to that address as a TCP
stream; the same holds of the entries of a resolution in whatever order the resolver delivers.  In
one answer the list has one tuple for each record, and unless the record's protocol number is -1 it
leads to the record's address with the record's type and protocol number. -/
theorem lookup_connectable :
    (∀ (σ : Type) (respond : Responder Resolver σ) (state : σ) (config : ResolverConfig)
      (board : Board) (arguments : List Value) (listing : Value),
      ((lookup config board arguments).run respond state).value.1 = some (.ok listing) →
      ∃ port elements, arguments[1]? = some port ∧ listing = .list elements ∧
        List.Forall₂ (fun found element =>
            Connectable port found .stream Protocol.tcp.code element)
          (records ((lookup config board arguments).run respond state).exchanges) elements) ∧
    (∀ (host : String) (port : Value) (timeout : Nat) (passes : List QueryKind)
      (moves : List Move) (c : Call) (notices : List Notice) (entries : List Entry),
      port.IsInteger →
      (Call.start host port timeout passes).replay? moves = some (c, notices) →
      c.answer? = some (.ok entries) →
      List.Forall₂ (fun found element =>
          Connectable port found .stream Protocol.tcp.code element)
        ((histories moves).flatMap found) (entries.map Entry.toValue)) ∧
    (∀ (σ : Type) (respond : Responder DirectResolver σ) (state : σ) (config : ResolverConfig)
      (arguments : List Value) (listing : Value),
      ((lookupDirectly config arguments).run respond state).value = .ok listing →
      ∃ port query found elements, arguments[1]? = some port ∧
        ((lookupDirectly config arguments).run respond state).exchanges = [⟨query, .ok found⟩] ∧
        listing = .list elements ∧
        List.Forall₂ (fun record element => record.protocol.code ≠ -1 →
            Connectable port record.endpoint record.kind record.protocol.code element)
          found elements) := by
  refine ⟨?_, ?_, ?_⟩
  · intro σ respond state config board arguments listing hanswer
    obtain ⟨port, hargument, hport, hlisting⟩ := listing_of_lookup hanswer
    refine ⟨port, _, hargument, hlisting, ?_⟩
    refine List.forall₂_map_right_iff.mpr (List.forall₂_same.mpr ?_)
    intro found _
    exact connectable_toValue hport found .stream (by decide) ""
  · intro host port timeout passes moves c notices entries hport hrun hanswer
    rw [entries_of_replay hrun hanswer, List.map_map]
    refine List.forall₂_map_right_iff.mpr (List.forall₂_same.mpr ?_)
    intro found _
    exact connectable_toValue hport found .stream (by decide) ""
  · intro σ respond state config arguments listing hanswer
    obtain ⟨port, query, found, hargument, hport, hexchanges, hlisting⟩ :=
      listing_of_lookupDirectly hanswer
    refine ⟨port, query, found, _, hargument, hexchanges, hlisting, ?_⟩
    refine List.forall₂_map_right_iff.mpr (List.forall₂_same.mpr ?_)
    intro record _ hcode
    exact connectable_toValue hport record.endpoint record.kind hcode ""

/-- `fe80::1`. -/
def linkLocal : Endpoint := .v6 ⟨[0xfe80, 0, 0, 0, 0, 0, 0, 1], rfl⟩ 0 7 3

def foundInTwo : Scripted.ResolverScript :=
  ⟨[⟨[], [(.ok, some linkLocal), (.ok, none)], false, .ok ()⟩,
      ⟨[], [(.ok, some (.v4 ⟨192, 0, 2, 1⟩ 0)), (.noData, none)], false, .ok ()⟩], []⟩

def earlyDelivery : List Move :=
  [.issue, .callback 0 (.report .ok (some linkLocal)), .respond (.ok ()),
    .callback 0 (.report .ok none), .wake, .callback 0 .release, .readStatus, .collect]

/-- Addresses of both families are found over callbacks for a port beyond 16 bits, one more for a
negative port, and a datagram record with a protocol number of its own in one answer; all of them
can be connected to. -/
theorem lookup_connectable_families :
    (((lookup {} [] [.str "host", .int 65616, .int 0]).run Scripted.ResolverScript.respond
        foundInTwo).value.1 =
      some (.ok (.list [(Entry.ofEndpoint linkLocal (.int 65616)).toValue,
        (Entry.ofEndpoint (.v4 ⟨192, 0, 2, 1⟩ 0) (.int 65616)).toValue])) ∧
      Connectable (.int 65616) linkLocal .stream 6
        (Entry.ofEndpoint linkLocal (.int 65616)).toValue ∧
      Connectable (.int 65616) (.v4 ⟨192, 0, 2, 1⟩ 0) .stream 6
        (Entry.ofEndpoint (.v4 ⟨192, 0, 2, 1⟩ 0) (.int 65616)).toValue) ∧
    (∃ c notices, (Call.start "host" (.int (-1)) 3000 (QueryKind.passes (some .ipv6))).replay?
        earlyDelivery = some (c, notices) ∧
      c.answer? = some (.ok [.ofEndpoint linkLocal (.int (-1))]) ∧
      Connectable (.int (-1)) linkLocal .stream 6
        (Entry.ofEndpoint linkLocal (.int (-1))).toValue) ∧
    (((lookupDirectly {} [.str "host", .bool true]).run Scripted.DirectScript.respond
        [.ok [⟨linkLocal, .datagram, .other 136⟩]]).value =
      .ok (.list [(DirectRecord.entry ⟨linkLocal, .datagram, .other 136⟩ (.bool true)).toValue]) ∧
      Connectable (.bool true) linkLocal .datagram 136
        (DirectRecord.entry ⟨linkLocal, .datagram, .other 136⟩ (.bool true)).toValue) := by
  refine ⟨?_, ?_, ?_⟩
  · have hanswer : ((lookup {} [] [.str "host", .int 65616, .int 0]).run
        Scripted.ResolverScript.respond foundInTwo).value.1 =
      some (.ok (.list [(Entry.ofEndpoint linkLocal (.int 65616)).toValue,
        (Entry.ofEndpoint (.v4 ⟨192, 0, 2, 1⟩ 0) (.int 65616)).toValue])) := rfl
    obtain ⟨port, elements, hport, hlisting, hall⟩ := lookup_connectable.1 _ _ _ _ _ _ _ hanswer
    cases hport
    cases hlisting
    change List.Forall₂ _ [linkLocal, .v4 ⟨192, 0, 2, 1⟩ 0] _ at hall
    simp only [List.forall₂_cons, List.forall₂_nil_left_iff, and_true] at hall
    exact ⟨hanswer, hall.1, hall.2⟩
  · have hall := lookup_connectable.2.1 "host" (.int (-1)) 3000 (QueryKind.passes (some .ipv6))
      earlyDelivery _ _ [.ofEndpoint linkLocal (.int (-1))] (by decide) rfl rfl
    change List.Forall₂ _ [linkLocal] _ at hall
    simp only [List.map_cons, List.map_nil, List.forall₂_cons, List.forall₂_nil_left_iff,
      and_true] at hall
    exact ⟨_, _, rfl, rfl, hall⟩
  · have hanswer : ((lookupDirectly {} [.str "host", .bool true]).run
        Scripted.DirectScript.respond [.ok [⟨linkLocal, .datagram, .other 136⟩]]).value =
      .ok (.list [(DirectRecord.entry ⟨linkLocal, .datagram, .other 136⟩
        (.bool true)).toValue]) := rfl
    obtain ⟨port, query, found, elements, hport, hexchanges, hlisting, hall⟩ :=
      lookup_connectable.2.2 _ _ _ _ _ _ hanswer
    cases hport
    cases hlisting
    cases hexchanges
    simp only [List.forall₂_cons, List.forall₂_nil_left_iff, and_true] at hall
    exact ⟨hanswer, hall (by decide)⟩

end ScriptSocket.Module
