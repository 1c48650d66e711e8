import ScriptSocket.Host.Stack
import ScriptSocket.Proofs.Module.Validation

/-!
# Protocols that are known under two names

A protocol with a name of its own can also be carried as the bare number, and a stack that goes by
the name does not take the second for the first.  Reading a script's number gives the bare one of
the two exactly if the number has more than 32 bits and the low ones are those of a named protocol:
the names are looked up before the number is cut.
-/

namespace ScriptSocket

namespace Protocol

def named : List Int32 := [6, 17, 258]

/-- The protocol is the one that its number is read as. -/
def Canonical (p : Protocol) : Prop := ofCode p.code.toInt64 = p

instance : DecidablePred Canonical := fun p => decEq (ofCode p.code.toInt64) p

theorem ofCode_of_forall_ne {code : Int64} (hcode : ∀ number ∈ named, code ≠ number.toInt64) :
    ofCode code = .other code.toInt32 := by
  have htcp : code ≠ 6 := hcode 6 (by decide)
  have hudp : code ≠ 17 := hcode 17 (by decide)
  have htls : code ≠ 258 := hcode 258 (by decide)
  rw [ofCode, if_neg htcp, if_neg hudp, if_neg htls]

theorem canonical_ofCode_toInt64 (number : Int32) : (ofCode number.toInt64).Canonical := by
  rw [Canonical, code_ofCode, Int32.toInt32_toInt64]

theorem canonical_other_iff (number : Int32) : (other number).Canonical ↔ number ∉ named := by
  constructor
  · intro hcanonical hnamed
    simp only [named, List.mem_cons, List.not_mem_nil, or_false] at hnamed
    rcases hnamed with rfl | rfl | rfl <;> exact absurd hcanonical (by decide)
  · intro hnumber
    have hne : ∀ known ∈ named, number.toInt64 ≠ known.toInt64 := by
      intro known hknown heq
      obtain rfl : number = known := by simpa using congrArg Int64.toInt32 heq
      exact hnumber hknown
    rw [Canonical, code, ofCode_of_forall_ne hne, Int32.toInt32_toInt64]

/-- Only a number that loses bits can be given a second representation of a protocol. -/
theorem canonical_ofCode_iff (code : Int64) :
    (ofCode code).Canonical ↔ (code.toInt32 ∈ named → code.toInt32.toInt64 = code) := by
  by_cases hfits : code.toInt32.toInt64 = code
  · refine iff_of_true ?_ fun _ => hfits
    rw [← hfits]
    exact canonical_ofCode_toInt64 _
  · -- the named numbers fit, so a number that does not is carried bare
    have hbare : ofCode code = other code.toInt32 := by
      refine ofCode_of_forall_ne fun number _ hcode => hfits ?_
      rw [hcode, Int32.toInt32_toInt64]
    rw [hbare, canonical_other_iff]
    exact forall_congr' fun _ => (iff_false_intro hfits).symm

theorem ofCode_eq_tls12_iff (code : Int64) : ofCode code = tls12 ↔ code = 258 := by
  unfold ofCode
  grind

theorem canonical_auto (kind : SocketKind) : (auto kind).Canonical := by
  cases kind <;> decide

end Protocol

namespace Host.Stack

/-- The host's stack refuses TLS by its name alone. -/
theorem refusal?_socket_iff
    (stack : Stack) (family : Family) (kind : SocketKind) (protocol : Protocol) :
    stack.refusal? (.socket family kind protocol) = some .protocolUnsupported ↔
      protocol = .tls12 := by
  cases protocol <;> simp [refusal?]

end Host.Stack

namespace Module

theorem canonical_protocolFor_iff (kind : SocketKind) (number : Int64) :
    (protocolFor kind number).Canonical ↔
      (number.toInt32 ∈ Protocol.named → number.toInt32.toInt64 = number) := by
  unfold protocolFor
  split
  · subst number
    exact iff_of_true (Protocol.canonical_auto kind) (by decide)
  · exact Protocol.canonical_ofCode_iff number

theorem code_protocolFor_eq_iff (kind : SocketKind) (number : Int64) :
    (protocolFor kind number).code = 258 ↔ number.toInt32 = 258 := by
  unfold protocolFor
  split
  · subst number
    cases kind <;> decide
  · rw [Protocol.code_ofCode]

theorem protocolFor_eq_tls12_iff (kind : SocketKind) (number : Int64) :
    protocolFor kind number = .tls12 ↔ number = 258 := by
  unfold protocolFor
  split
  · subst number
    cases kind <;> decide
  · exact Protocol.ofCode_eq_tls12_iff number

theorem mem_socket_exchanges
    {σ : Type} {config : SocketConfig} {arguments : List Value} {stack : Responder NetworkStack σ}
    {state : σ} {call : Exchange NetworkStack}
    (hcall : call ∈ ((socket config arguments).run stack state).exchanges) :
    ∃ family kind number, Describes arguments family kind number ∧
      call.request = .socket family kind (protocolFor kind number) := by
  rcases socket_cases config arguments with ⟨fault, -, hsocket⟩ | ⟨-, family, kind, number,
    hdescribes, hsocket⟩
  · rw [hsocket] at hcall
    cases hcall
  · rw [hsocket, (run_create stack state family kind _ config).1, List.mem_singleton] at hcall
    exact ⟨family, kind, number, hdescribes, congrArg Exchange.request hcall⟩

/-- A protocol read from a number is the one that its own number is read as exactly if the number is
not one of more than 32 bits that ends in those of a named protocol.  So it is with the protocol of
every call that `socket` makes.  The call is for protocol 258 if the low 32 bits are, and the host's
stack refuses it only if the whole number is 258. -/
theorem protocol_canonical_iff_number_fits
    {σ : Type} (config : SocketConfig) (arguments : List Value)
    (stack : Responder NetworkStack σ) (state : σ) :
    (∀ code : Int64, (Protocol.ofCode code).Canonical ↔
      (code.toInt32 ∈ Protocol.named → code.toInt32.toInt64 = code)) ∧
    ∀ call ∈ ((socket config arguments).run stack state).exchanges,
      ∃ family kind number protocol, Describes arguments family kind number ∧
        call.request = .socket family kind protocol ∧
        (protocol.Canonical ↔
          (number.toInt32 ∈ Protocol.named → number.toInt32.toInt64 = number)) ∧
        (protocol.code = 258 ↔ number.toInt32 = 258) ∧
        ∀ host : Host.Stack,
          host.refusal? call.request = some .protocolUnsupported ↔ number = 258 := by
  refine ⟨Protocol.canonical_ofCode_iff, ?_⟩
  intro call hcall
  obtain ⟨family, kind, number, hdescribes, hrequest⟩ := mem_socket_exchanges hcall
  refine ⟨family, kind, number, protocolFor kind number, hdescribes, hrequest,
    canonical_protocolFor_iff kind number, code_protocolFor_eq_iff kind number, ?_⟩
  intro host
  rw [hrequest, host.refusal?_socket_iff, protocolFor_eq_tls12_iff]

/-- A number of 33 bits that ends in those of 258: what is asked for is protocol 258 under no name,
which the host's stack does not refuse as it refuses TLS. -/
theorem wide_number_hides_protocol :
    ¬ (Protocol.ofCode 4294967554).Canonical ∧
      (Protocol.ofCode 4294967554).code = Protocol.code .tls12 ∧
      ((socket {} [.int 1, .int 1, .int 4294967554]).run Scripted.StackScript.respond
        {}).exchanges.map (·.request) = [.socket .ipv4 .stream (.other 258)] ∧
      Host.Stack.empty.refusal? (.socket .ipv4 .stream (.other 258)) = none ∧
      Host.Stack.empty.refusal? (.socket .ipv4 .stream .tls12) = some .protocolUnsupported := by
  decide

end Module

end ScriptSocket
