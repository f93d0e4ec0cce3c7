/-
# LdapClient.Wire.Transport -- the transport that comes with the client

The standard transport opens a session to an address and answers the calls to it, each by one
request and its response.  A call that cannot be put into a request fails without one, and so does
every call after the transport has ended.
-/
import LdapClient.Dialogue
import LdapClient.Text.Percent
import LdapClient.Wire.Message

namespace LdapClient.Wire

open Text

/-! ## Opening -/

/-- What a file holds that should be a certificate. -/
inductive CertificateFile where
  | missing
  /-- Something else. -/
  | other
  | certificate
deriving DecidableEq

/-- What is found at an address. -/
inductive Presence where
  | missing
  /-- Something that takes no connections. -/
  | refusing
  | listening
deriving DecidableEq

/-- What the machine offers: files, and servers at addresses. -/
structure Machine where
  file : String → CertificateFile
  server : Address → Presence

/-- Checks the further certificate, which counts only if certificates are checked at all. -/
def checkCertificate (machine : Machine) (options : TransportOptions) : Except Signal Unit :=
  match options.tlsCaCert.filter fun _ => options.tlsVerify with
  | none => .ok ()
  | some path =>
    match machine.file path with
    | .certificate => .ok ()
    | .other => .error (.withCode ResultCode.localError.value "invalid CA certificate")
    | .missing =>
      .error (.withCode ResultCode.localError.value
        ("failed to read CA certificate " ++ path ++ ": No such file or directory (os error 2)"))

/-- A failure of the machine to open a transport. -/
def ioSignal (reason : String) : Signal :=
  .withCode ResultCode.network.value ("I/O error: " ++ reason)

/-- The path of a local socket, which stands in the place of the host. -/
def socketPath (address : Address) : List Char :=
  decode (percentDecode address.host.toList)

/-- A name that begins with NUL belongs to no file. -/
def isAbstract (path : List Char) : Bool :=
  path.head? = some '\x00'

/-- Checks the form of a socket path: it has fewer than 108 octets and, but for the first place, no
NUL. -/
def checkPath (path : List Char) : Except Signal Unit :=
  if isAbstract path then
    if Nat.blt (encode path).length 109 then .ok ()
    else .error (ioSignal "abstract socket name must be shorter than SUN_LEN")
  else if path.contains '\x00' then .error (ioSignal "paths must not contain interior null bytes")
  else if Nat.blt (encode path).length 108 then .ok ()
  else .error (ioSignal "path must be shorter than SUN_LEN")

/-- Checks the path of a local socket. -/
def checkSocket (address : Address) : Except Signal Unit :=
  if address.scheme ≠ .ldapi then .ok ()
  else if address.host.isEmpty then .error ⟨"empty Unix domain socket path"⟩
  else if address.host.toList.contains ':' then
    .error ⟨"the port must be empty in the ldapi scheme"⟩
  else checkPath (socketPath address)

/-- Opens a transport. -/
def connect (machine : Machine) (address : Address) (options : TransportOptions) :
    Except Signal Unit :=
  if address.scheme = .cldap then
    .error (.withCode ResultCode.notSupported.value
      "connectionless LDAP is not supported by this transport")
  else
    match checkCertificate machine options with
    | .error signal => .error signal
    | .ok () =>
      match checkSocket address with
      | .error signal => .error signal
      | .ok () =>
        match machine.server address with
        | .listening => .ok ()
        | .refusing => .error (ioSignal "Connection refused (os error 111)")
        | .missing => .error (ioSignal "No such file or directory (os error 2)")

/-! ## Calls -/

/-- How far an open transport has come. -/
inductive Stage where
  | talking
  /-- The unbind was sent.  One more request is accepted, though it never leaves. -/
  | leaving
  /-- Nothing is accepted. -/
  | over
deriving DecidableEq

/-- An open transport: the responses that are still to come, and its stage.  When the responses are
used up, every request succeeds. -/
structure Link where
  responses : List Response
  stage : Stage

/-- The next response. -/
def Link.next (link : Link) : Response :=
  link.responses.headD (.result 0 "" [])

/-- The transport after a response. -/
def Link.after (link : Link) : Response → Link
  | .hangup => ⟨link.responses.tail, .over⟩
  | _ => { link with responses := link.responses.tail }

/-- The signal of a call after the end of the transport. -/
def unsent : Signal :=
  ⟨"op send error: channel closed"⟩

/-- Answers a call: the answer, the transport after it, and the request that was sent, if any.  An
unbind waits for no response. -/
def exchange (link : Link) (call : SessionCall) : call.Answer × Link × Option Request :=
  match Request.ofCall call with
  | .error signal => (.error signal, link, none)
  | .ok request =>
    match link.stage with
    | .talking =>
      if call.isUnbind then (.ok (value [] call), { link with stage := .leaving }, some request)
      else (link.next.answer call, link.after link.next, some request)
    | .leaving => (.error unanswered, { link with stage := .over }, none)
    | .over => (.error unsent, link, none)

end LdapClient.Wire
