import ScriptSocket.Module.Lookup
import ScriptSocket.Proofs.Address.Literal
import ScriptSocket.Proofs.Host.Worker

/-!
# Looking address literals up

A name service finds for an address literal the one address it writes.  Over the host's resolvers
both builds list that address, or fail if the other family is asked for: where two queries are made,
the one that finds nothing does not show.  The text in the list is again a literal of the same
address.
-/

namespace ScriptSocket

namespace Host

open Resolution

variable {service : NameService} {worker : Worker} {host : String} {a : Ip.Address}

/-! ## What the resolvers make of a literal -/

/-- An address literal denotes the one address it writes. -/
def NameService.ReadsLiterals (service : NameService) : Prop :=
  ∀ (host : String) (a : Ip.Address), Ip.Address.parse? host.toList = some a →
    service host = some [literalEndpoint a]

/-- No look-up of an address outlasts its timeout or fails to be made. -/
def Worker.AnswersLiterals (worker : Worker) : Prop :=
  ∀ (query : Query) (a : Ip.Address), Ip.Address.parse? query.host.toList = some a →
    (worker query).ending = .answered

theorem readsLiterals_literals : literals.ReadsLiterals := by
  intro host a hliteral
  simp [literals, hliteral]

/-- What a query for a literal is delivered. -/
def literalDelivery (a : Ip.Address) (kind : QueryKind) : Delivery :=
  if (literalEndpoint a).family = kind.family then ⟨[(.ok, literalEndpoint a)], .allDone⟩
  else ⟨[], .noData⟩

def literalRecords (a : Ip.Address) (family : Option Family) :
    Except Status (List DirectRecord) :=
  if ofFamily family (literalEndpoint a) then .ok [⟨literalEndpoint a, .stream, .tcp⟩]
  else .error .noData

theorem filterFamily_singleton (endpoint : Endpoint) (family : Option Family) :
    filterFamily [endpoint] family = if ofFamily family endpoint then [endpoint] else [] := by
  simp [filterFamily]

theorem accepts_of_parse? (hliteral : Ip.Address.parse? host.toList = some a) :
    accepts host = .ok () := by
  have hnonempty : host.isEmpty = false := by
    rw [Bool.eq_false_iff]
    intro hempty
    rw [String.isEmpty_iff.mp hempty] at hliteral
    cases hliteral
  simp [accepts, hnonempty]

theorem delivery_of_parse?
    (hservice : service.ReadsLiterals) (hliteral : Ip.Address.parse? host.toList = some a)
    (kind : QueryKind) : service.delivery .answered host kind = literalDelivery a kind := by
  simp only [NameService.delivery, NameService.outcome, hservice host a hliteral,
    filterFamily_singleton, ofFamily, literalDelivery, decide_eq_true_eq]
  by_cases hfamily : (literalEndpoint a).family = kind.family <;> simp [hfamily]

theorem directRecords_of_parse?
    (hservice : service.ReadsLiterals) (hliteral : Ip.Address.parse? host.toList = some a)
    (family : Option Family) : service.directRecords host family = literalRecords a family := by
  simp only [NameService.directRecords, hservice host a hliteral, filterFamily_singleton,
    literalRecords]
  cases ofFamily family (literalEndpoint a) <;> rfl

theorem deliveries_of_parse?
    (hservice : service.ReadsLiterals) (hworker : worker.AnswersLiterals)
    (hliteral : Ip.Address.parse? host.toList = some a) (call timeout : Nat)
    (kinds : List QueryKind) :
    service.deliveries worker (Call.queriesFor call host timeout kinds) =
      kinds.map (literalDelivery a) := by
  have hending : ∀ pass kind, (worker ⟨⟨call, pass⟩, host, kind, timeout⟩).ending = .answered :=
    fun pass kind => hworker ⟨⟨call, pass⟩, host, kind, timeout⟩ a hliteral
  refine List.ext_getElem (by simp [NameService.deliveries, Call.queriesFor]) ?_
  intro pass hpass _
  simp [NameService.deliveries, Call.queriesFor, hending, delivery_of_parse? hservice hliteral]

theorem combined_literalDelivery (a : Ip.Address) {family : Option Family}
    (hfamily : family ≠ some .packet) :
    combined ((QueryKind.passes family).map (literalDelivery a)) = literalRecords a family := by
  rcases family with _ | _ | _ | _
  · cases a <;> rfl
  · cases a <;> rfl
  · cases a <;> rfl
  · exact absurd rfl hfamily

end Host

namespace Module

open Resolution Host

variable {host : String} {a : Ip.Address} {port : Value} {family : Option Value}

/-! ## The lookups -/

/-- A family argument asks for the kind of an address: 0 for every kind, 2 for IPv6, and every other
number, or no argument, for IPv4. -/
inductive Selects : Option Value → Ip.Address → Prop where
  | every {argument : Value} (hcode : argument.integer = .ok 0) (a : Ip.Address) :
      Selects (some argument) a
  | ipv6 {argument : Value} (hcode : argument.integer = .ok 2) (x : Ip.V6) :
      Selects (some argument) (.v6 x)
  | ipv4 {argument : Value} {code : Int64} (hcode : argument.integer = .ok code)
      (hother : code ≠ 2) (x : Ip.V4) : Selects (some argument) (.v4 x)
  | absent (x : Ip.V4) : Selects none (.v4 x)

/-- The tuple of an address: its family, the type and the protocol of a TCP stream, no name, and the
address with the port. -/
def literalTuple (port : Value) : Ip.Address → Value
  | .v4 x =>
    .tuple [.int 1, .int 1, .int 6, .str "", .tuple [.str (String.ofList x.text), port]]
  | .v6 x =>
    .tuple [.int 2, .int 1, .int 6, .str "",
      .tuple [.str (String.ofList x.text), port, .int 0, .int 0]]

theorem hint_cases {code : Int64} (hpacket : code ≠ 3) :
    (code = 0 ∧ Family.hint code = none) ∨ (code = 2 ∧ Family.hint code = some .ipv6) ∨
      (code ≠ 0 ∧ code ≠ 2 ∧ Family.hint code = some .ipv4) := by
  by_cases hevery : code = 0
  · exact Or.inl ⟨hevery, if_pos hevery⟩
  by_cases hipv6 : code = 2
  · subst hipv6
    exact Or.inr (Or.inl ⟨rfl, rfl⟩)
  · refine Or.inr (Or.inr ⟨hevery, hipv6, ?_⟩)
    unfold Family.hint Family.ofCode?
    rw [if_neg hevery, if_neg hipv6, if_neg hpacket]
    split <;> rfl

theorem selects_iff_of_integer
    {argument : Value} {code : Int64} (hcode : argument.integer = .ok code) (hpacket : code ≠ 3)
    (a : Ip.Address) :
    Selects (some argument) a ↔ ofFamily (Family.hint code) (literalEndpoint a) = true := by
  rcases hint_cases hpacket with ⟨rfl, hhint⟩ | ⟨rfl, hhint⟩ | ⟨hevery, hipv6, hhint⟩
  · rw [hhint]
    exact iff_of_true (.every hcode a) rfl
  · rw [hhint]
    cases a with
    | v4 x =>
        refine iff_of_false ?_ nofun
        rintro (⟨hzero, -⟩ | _ | ⟨hother, hne, -⟩)
        · cases hcode.symm.trans hzero
        · cases hcode.symm.trans hother
          exact hne rfl
    | v6 x => exact iff_of_true (.ipv6 hcode x) rfl
  · rw [hhint]
    cases a with
    | v4 x => exact iff_of_true (.ipv4 hcode hipv6 x) rfl
    | v6 x =>
        refine iff_of_false ?_ nofun
        rintro (⟨hzero, -⟩ | ⟨htwo, -⟩)
        · cases hcode.symm.trans hzero
          exact hevery rfl
        · cases hcode.symm.trans htwo
          exact hipv6 rfl

/-- How the arguments of a lookup are read. -/
theorem exists_request
    (hfamily : ∀ argument ∈ family, ∃ code, argument.integer = .ok code ∧ code ≠ 3) :
    ∃ requested : Option Family, requested ≠ some .packet ∧
      (∀ a, Selects family a ↔ ofFamily requested (literalEndpoint a) = true) ∧
      ∀ host port, LookupRequest.ofArguments {} ([.str host, port] ++ family.toList) =
        .ok ⟨host, port, requested⟩ := by
  cases family with
  | none =>
      refine ⟨some .ipv4, nofun, ?_, fun _ _ => rfl⟩
      intro a
      cases a with
      | v4 x => exact iff_of_true (.absent x) rfl
      | v6 x => exact iff_of_false nofun nofun
  | some argument =>
      obtain ⟨code, hcode, hpacket⟩ := hfamily argument rfl
      refine ⟨Family.hint code, ?_, selects_iff_of_integer hcode hpacket, ?_⟩
      · rcases hint_cases hpacket with ⟨-, hhint⟩ | ⟨-, hhint⟩ | ⟨-, -, hhint⟩ <;> simp [hhint]
      · intro host port
        simp [LookupRequest.ofArguments, LookupRequest.read, Value.text, familyArgument, hcode]

/-- The answer for a literal over either resolver. -/
def literalAnswer (port : Value) (a : Ip.Address) (requested : Option Family) :
    Except Fault Value :=
  lookupAnswer (directAnswer port (literalRecords a requested))

theorem literalAnswer_of_selected
    {requested : Option Family} (hselected : ofFamily requested (literalEndpoint a) = true)
    (port : Value) : literalAnswer port a requested = .ok (.list [literalTuple port a]) := by
  unfold literalAnswer literalRecords
  rw [if_pos hselected]
  cases a <;> rfl

theorem literalAnswer_of_not_selected
    {requested : Option Family} (hmissed : ¬ ofFamily requested (literalEndpoint a) = true)
    (port : Value) : literalAnswer port a requested = .error (.system ⟨-5⟩) := by
  unfold literalAnswer literalRecords
  rw [if_neg hmissed]
  rfl

variable {service : NameService} {worker : Worker}

theorem lookup_of_request
    (hservice : service.ReadsLiterals) (hworker : worker.AnswersLiterals)
    {arguments : List Value} {requested : Option Family} (hport : port.IsInteger)
    (hliteral : Ip.Address.parse? host.toList = some a) (hrequested : requested ≠ some .packet)
    (hrequest : LookupRequest.ofArguments {} arguments = .ok ⟨host, port, requested⟩)
    (board : Board) :
    ((lookup {} board arguments).run (service.respond worker) ()).value.1 =
      some (literalAnswer port a requested) := by
  have haccepts : ∀ query ∈ Call.queriesFor board.length host 3000 (QueryKind.passes requested),
      accepts query.host = .ok () := fun query =>
    accepts_of_mem_queriesFor (accepts_of_parse? hliteral)
  simp only [lookup, hrequest, Dialogue.run, Dialogue.run_map]
  rw [Board.answer_of_delivers hport (delivers_respond haccepts service worker),
    deliveries_of_parse? hservice hworker hliteral, combined_literalDelivery a hrequested]
  rfl

/-- What the worker's moves lead to does not depend on the order in which it and the caller move. -/
theorem lookupAnswer_of_serves
    (hservice : service.ReadsLiterals) (hworker : worker.AnswersLiterals)
    {requested : Option Family} (hliteral : Ip.Address.parse? host.toList = some a)
    (hrequested : requested ≠ some .packet) {call : Nat} {moves : List Move} {c : Call}
    {notices : List Notice}
    (hrun : (Call.start host port 3000 (QueryKind.passes requested)).replay? moves =
      some (c, notices))
    (hserves : service.Serves worker
      (Call.queriesFor call host 3000 (QueryKind.passes requested)) moves)
    {answer : Except Fault (List Entry)} (hreturned : c.point = .returned answer) :
    lookupAnswer answer = literalAnswer port a requested := by
  rw [answer_of_serves hrun hserves (accepts_of_parse? hliteral) hreturned,
    deliveries_of_parse? hservice hworker hliteral, combined_literalDelivery a hrequested]
  rfl

theorem lookupDirectly_of_request
    (hservice : service.ReadsLiterals) {arguments : List Value} {requested : Option Family}
    (hport : port.IsInteger) (hliteral : Ip.Address.parse? host.toList = some a)
    (hrequest : LookupRequest.ofArguments {} arguments = .ok ⟨host, port, requested⟩) :
    ((lookupDirectly {} arguments).run service.respondDirectly ()).value =
      literalAnswer port a requested := by
  simp only [lookupDirectly, hrequest, Dialogue.run, Dialogue.run_map]
  rw [run_resolveDirectly service.respondDirectly () hport]
  exact congrArg (fun reply => lookupAnswer (directAnswer port reply))
    (directRecords_of_parse? hservice hliteral requested)

/-- Over the host's resolvers a lookup of an address literal lists the address in both builds, with
the family it is of, as a TCP stream and with the port object given; and it fails for want of data
in both if the family argument asks for the other kind.  The canonical text of the address, which is
what the list has, is looked up to the same.  Where the resolver reports to callbacks, the answer is
the same in whatever order its worker and the caller move, and the caller waits for one only while
the worker has still something to do. -/
theorem literal_lookup
    (hservice : service.ReadsLiterals) (hworker : worker.AnswersLiterals)
    (hliteral : Ip.Address.parse? host.toList = some a) (hport : port.IsInteger)
    (hfamily : ∀ argument ∈ family, ∃ code, argument.integer = .ok code ∧ code ≠ 3)
    (board : Board) :
    let called (board : Board) (host : String) :=
      ((lookup {} board ([.str host, port] ++ family.toList)).run
        (service.respond worker) ()).value.1
    let asked (host : String) :=
      ((lookupDirectly {} ([.str host, port] ++ family.toList)).run
        service.respondDirectly ()).value
    (Selects family a →
      called board host = some (.ok (.list [literalTuple port a])) ∧
        asked host = .ok (.list [literalTuple port a])) ∧
    (¬ Selects family a →
      called board host = some (.error (.system ⟨-5⟩)) ∧ asked host = .error (.system ⟨-5⟩)) ∧
    (∀ later : Board, called later (String.ofList a.text) = called board host) ∧
    asked (String.ofList a.text) = asked host ∧
    ∀ request call moves c notices,
      LookupRequest.ofArguments {} ([.str host, port] ++ family.toList) = .ok request →
      (Call.start request.host request.port 3000 (QueryKind.passes request.family)).replay? moves =
        some (c, notices) →
      let queries := Call.queriesFor call request.host 3000 (QueryKind.passes request.family)
      service.Serves worker queries moves →
      (∀ answer, c.point = .returned answer → some (lookupAnswer answer) = called board host) ∧
      (c.advance? = none → c.asked? = none → ¬ Call.Point.IsReturned c.point →
        service.Owes worker queries moves) := by
  intro called asked
  obtain ⟨requested, hrequested, hselects, hrequest⟩ := exists_request hfamily
  have hcalled : ∀ (board : Board) (text : String), Ip.Address.parse? text.toList = some a →
      called board text = some (literalAnswer port a requested) := fun board text htext =>
    lookup_of_request hservice hworker hport htext hrequested (hrequest text port) board
  have hasked : ∀ text : String, Ip.Address.parse? text.toList = some a →
      asked text = literalAnswer port a requested := fun text htext =>
    lookupDirectly_of_request hservice hport htext (hrequest text port)
  have hcanonical : Ip.Address.parse? (String.ofList a.text).toList = some a := by
    rw [String.toList_ofList, a.parse?_text]
  refine ⟨?_, ?_, ?_, ?_, ?_⟩
  · intro hselected
    rw [hcalled board host hliteral, hasked host hliteral,
      literalAnswer_of_selected ((hselects a).mp hselected)]
    exact ⟨rfl, rfl⟩
  · intro hmissed
    rw [hcalled board host hliteral, hasked host hliteral,
      literalAnswer_of_not_selected (mt (hselects a).mpr hmissed)]
    exact ⟨rfl, rfl⟩
  · intro later
    rw [hcalled later _ hcanonical, hcalled board host hliteral]
  · rw [hasked _ hcanonical, hasked host hliteral]
  · intro request call moves c notices hread hrun queries hserves
    obtain rfl : ⟨host, port, requested⟩ = request :=
      Except.ok.inj ((hrequest host port).symm.trans hread)
    constructor
    · intro answer hreturned
      rw [hcalled board host hliteral,
        lookupAnswer_of_serves hservice hworker hliteral hrequested hrun hserves hreturned]
    · intro hstuck hopen hunreturned
      exact owes_of_blocked hrun hstuck hopen hunreturned service worker call

/-- `::ffff:1.2.3.4`. -/
def mappedAddress : Ip.Address := .v6 ⟨[0, 0, 0, 0, 0, 0xffff, 0x102, 0x304], rfl⟩

/-- A worker that is done with a query before its caller has the word that it is taken up. -/
def hastyWorker : Worker := fun _ => ⟨3, .answered⟩

/-- The word on the query comes between the address and the end, and the release has not come. -/
def mappedMoves : List Move :=
  [.issue, .callback 0 (.report .ok (some (literalEndpoint mappedAddress))), .respond (.ok ()),
    .callback 0 (.report .allDone none), .wake, .readStatus, .collect]

theorem serves_mappedMoves :
    literals.Serves hastyWorker (Call.queriesFor 0 "0::FFFF:102:304" 3000 [.aaaa]) mappedMoves := by
  have hliteral : Ip.Address.parse? "0::FFFF:102:304".toList = some mappedAddress := by
    decide +kernel
  have hquery : Call.queriesFor 0 "0::FFFF:102:304" 3000 [.aaaa] =
      [⟨⟨0, 0⟩, "0::FFFF:102:304", .aaaa, 3000⟩] := rfl
  have haccepts := accepts_of_parse? hliteral
  rw [hquery]
  constructor
  · intro outcome hword
    obtain rfl : outcome = .ok () := by simpa [mappedMoves] using hword
    exact ⟨_, List.mem_singleton_self _, haccepts.symm⟩
  · intro pass query hget
    cases pass with
    | zero =>
        obtain rfl := Option.some.inj hget
        rw [made_of_accepts haccepts]
        simp only [hastyWorker, delivery_of_parse? readsLiterals_literals hliteral]
        exact ⟨[.release], rfl⟩
    | succ pass => simp at hget

/-- A literal that is not in canonical form is found for any family, written in that form, also
where the word on the query comes late; and it is not found without a family argument. -/
theorem literal_lookup_mapped :
    literals.ReadsLiterals ∧ hastyWorker.AnswersLiterals ∧
      Ip.Address.parse? "0::FFFF:102:304".toList = some mappedAddress ∧
      String.ofList mappedAddress.text = "::ffff:1.2.3.4" ∧
      (Selects (some (.bool false)) mappedAddress ∧
        ((lookup {} [] [.str "::ffff:1.2.3.4", .bool true, .bool false]).run
          (literals.respond hastyWorker) ()).value.1 =
            some (.ok (.list [literalTuple (.bool true) mappedAddress]))) ∧
      (Selects (some (.int 2)) mappedAddress ∧
        ∃ c notices answer,
          (Call.start "0::FFFF:102:304" (.bool true) 3000 [.aaaa]).replay? mappedMoves =
            some (c, notices) ∧
          c.point = .returned answer ∧
          lookupAnswer answer = .ok (.list [literalTuple (.bool true) mappedAddress])) ∧
      ¬ Selects none mappedAddress ∧
        ((lookupDirectly {} [.str "0::FFFF:102:304", .bool true]).run literals.respondDirectly
          ()).value = .error (.system ⟨-5⟩) := by
  have hworker : hastyWorker.AnswersLiterals := fun _ _ _ => rfl
  have hliteral : Ip.Address.parse? "0::FFFF:102:304".toList = some mappedAddress := by
    decide +kernel
  have hcanonical : String.ofList mappedAddress.text = "::ffff:1.2.3.4" := by decide +kernel
  have hport : Value.IsInteger (.bool true) := by decide
  have hselected : Selects (some (.bool false)) mappedAddress := .every rfl mappedAddress
  have hipv6 : Selects (some (.int 2)) mappedAddress := .ipv6 rfl _
  have hmissed : ¬ Selects none mappedAddress := nofun
  have hfamily : ∀ (argument : Value) (code : Int64), argument.integer = .ok code → code ≠ 3 →
      ∀ other ∈ some argument, ∃ code, other.integer = .ok code ∧ code ≠ 3 := by
    rintro argument code hcode hpacket other ⟨⟩
    exact ⟨code, hcode, hpacket⟩
  obtain ⟨hfound, -, hsame, -⟩ := literal_lookup readsLiterals_literals hworker hliteral hport
    (hfamily (.bool false) 0 rfl (by decide)) []
  obtain ⟨hlisted, -, -, -, hruns⟩ := literal_lookup readsLiterals_literals hworker hliteral hport
    (hfamily (.int 2) 2 rfl (by decide)) []
  obtain ⟨-, hnone, -⟩ := literal_lookup readsLiterals_literals hworker hliteral hport
    (fun _ => nofun :
      ∀ argument ∈ (none : Option Value), ∃ code, argument.integer = .ok code ∧ code ≠ 3) []
  refine ⟨readsLiterals_literals, hworker, hliteral, hcanonical, ⟨hselected, ?_⟩, ⟨hipv6, ?_⟩,
    hmissed, (hnone hmissed).2⟩
  · rw [← hcanonical, ← (hfound hselected).1]
    exact hsame []
  · have hrun : (Call.start "0::FFFF:102:304" (.bool true) 3000 [.aaaa]).replay? mappedMoves =
        some (_, _) := rfl
    have hanswer := (hruns _ 0 mappedMoves _ _ rfl hrun serves_mappedMoves).1 _ rfl
    exact ⟨_, _, _, hrun, rfl, Option.some.inj (hanswer.trans (hlisted hipv6).1)⟩

end Module

end ScriptSocket
