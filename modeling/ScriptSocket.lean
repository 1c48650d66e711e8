import ScriptSocket.Host.Resolver
import ScriptSocket.Host.Stack
import ScriptSocket.Module.Globals
import ScriptSocket.Proofs.Address.Defects
import ScriptSocket.Proofs.Handle.BlockingMode
import ScriptSocket.Proofs.Handle.Phase
import ScriptSocket.Proofs.Handle.Receiving
import ScriptSocket.Proofs.Handle.Refusal
import ScriptSocket.Proofs.Handle.Securing
import ScriptSocket.Proofs.Handle.Transparency
import ScriptSocket.Proofs.Handle.Twins
import ScriptSocket.Proofs.Host.FirstOccurrences
import ScriptSocket.Proofs.Lockstep
import ScriptSocket.Proofs.Module.Connectable
import ScriptSocket.Proofs.Module.HostLiteral
import ScriptSocket.Proofs.Module.ProtocolNames
import ScriptSocket.Proofs.Module.Validation
import ScriptSocket.Proofs.Ownership.Session
import ScriptSocket.Proofs.Resolution.AnyFamily
import ScriptSocket.Proofs.Resolution.Interleaving
import ScriptSocket.Proofs.Resolution.Isolation
import ScriptSocket.Proofs.Resolution.Lifetime
import ScriptSocket.Proofs.Resolution.Permits
import ScriptSocket.Proofs.Stream.Bounded
import ScriptSocket.Proofs.Stream.Conservation
import ScriptSocket.Proofs.Stream.Handover
import ScriptSocket.Proofs.Stream.InPlace
import ScriptSocket.Proofs.Stream.Line
import ScriptSocket.Proofs.Stream.Outcome
import ScriptSocket.Proofs.Stream.ToEnd
import ScriptSocket.Proofs.Stream.Tokens
import ScriptSocket.Scripted.Resolver
import ScriptSocket.Scripted.Stack
