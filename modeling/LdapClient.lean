import LdapClient.Connection.Command
import LdapClient.Login
import LdapClient.Params.Document
import LdapClient.Wire.Transport
import LdapClient.Proofs.Lines
import LdapClient.Proofs.Connection.Course
import LdapClient.Proofs.Connection.Coherence
import LdapClient.Proofs.Login.SessionLife
import LdapClient.Proofs.Dn.EscapeForm
import LdapClient.Proofs.Dn.Writing
import LdapClient.Proofs.Dn.Sameness
import LdapClient.Proofs.Connection.Omission
import LdapClient.Proofs.Login.Credentials
import LdapClient.Proofs.Signal
import LdapClient.Proofs.Connection.Search
import LdapClient.Proofs.Entry
import LdapClient.Proofs.Connection.Attributes
import LdapClient.Proofs.Connection.Precondition
import LdapClient.Proofs.Connection.Protection
import LdapClient.Proofs.Connection.Verdict
import LdapClient.Proofs.Dn.Parsed
import LdapClient.Proofs.Login.Secrecy
import LdapClient.Proofs.Connection.Move
import LdapClient.Proofs.Connection.Modify
import LdapClient.Proofs.Dn.Composition
import LdapClient.Proofs.Dn.Components
import LdapClient.Proofs.Dn.HexValue
import LdapClient.Proofs.Wire.Subordinates
import LdapClient.Proofs.Ascending
import LdapClient.Proofs.Entry.Lookup
import LdapClient.Proofs.Discovery
import LdapClient.Proofs.Login.Discovered
import LdapClient.Proofs.Connection.Rename
import LdapClient.Proofs.Connection.Existence
import LdapClient.Proofs.Connection.Helper
import LdapClient.Proofs.BareSignal
import LdapClient.Proofs.Params.Presentation
import LdapClient.Proofs.Params.Validation
import LdapClient.Proofs.Rendering
import LdapClient.Proofs.Dn.Domain
import LdapClient.Proofs.Dn.Slices
