import NetboxSync.Lib.Ip.Interface

open ipaddress

namespace netbox_sync.egress

/-- `PRIVATE_V4` -/
def PRIVATE_V4 : List Network := [net4 10 0 0 0 8, net4 172 16 0 0 12, net4 192 168 0 0 16]

def LOCAL_NAMES : List String :=
  ["localhost", "host.docker.internal", "gateway.docker.internal", "kubernetes.default.svc"]

/-- `HOST_LABEL.fullmatch(label)` -/
def host_label (label : List Char) : Bool :=
  match label with
  | [] => false
  | first :: rest => first.isAlphanum && rest.length ≤ 62 && rest.dropLast.all (fun c => c.isAlphanum || c = '-') &&
      rest.getLast?.all Char.isAlphanum

/-- `text.lower()` of ASCII text. -/
def lower (text : String) : String := String.ofList (text.toList.map Char.toLower)

/-- `validate_host(value)`, or nothing where it raises `ValueError`. -/
def validate_host (value : String) : Option String :=
  if value = "" || value.length > 253 then none
  else
    match v4_from_string value.toList with
    | some octets => some (Address.v4 octets).str
    | none =>
      if value.toList.all (fun c => c.isDigit || c = '.') || !(value.toList.splitOn '.').all host_label then none
      else some (lower value)

structure EgressPolicy where
  allowed_cidrs : List String := []
  denied_cidrs : List String := []
  allowed_hosts : List String := []
  allowed_suffixes : List String := []
deriving DecidableEq, Repr

/-- `__post_init__` -/
def EgressPolicy.valid (policy : EgressPolicy) : Bool :=
  (policy.allowed_cidrs ++ policy.denied_cidrs).all (fun value => (ip_network value).isSome) &&
    (policy.allowed_hosts ++ policy.allowed_suffixes).all (fun value => (validate_host value).isSome)

inductive Family where
  | AF_INET
  | AF_INET6
deriving DecidableEq, Repr

/-- One answer of `getaddrinfo`: the address of its endpoint is of its family. -/
structure Answer where
  family : Family
  address : Address
  agree : family = .AF_INET ↔ address.version = 4

inductive ResolveError where
  /-- `ValueError` of a host or a network -/
  | invalid
  | SOURCE_DESTINATION_DENIED
  /-- what the resolver raises -/
  | unresolved
deriving DecidableEq, Repr

section

variable (policy : EgressPolicy)

/-- The host is allowed by its own name. -/
def EgressPolicy.exact (host : String) : Bool := policy.allowed_hosts.any (fun value => host = lower value)

/-- The host is allowed by its name or by a suffix of it. -/
def EgressPolicy.named (host : String) : Bool :=
  policy.exact host || policy.allowed_suffixes.any (fun suffix =>
    host = lower suffix || ('.' :: (lower suffix).toList).isSuffixOf host.toList)

def EgressPolicy.restricted : Bool :=
  !policy.allowed_cidrs.isEmpty || !policy.allowed_hosts.isEmpty || !policy.allowed_suffixes.isEmpty

/-- What no policy allows. -/
def special (address : Address) : Bool :=
  address.is_loopback || address.is_link_local || address.is_unspecified || address.is_multicast || address.is_reserved

def private_v4 (address : Address) : Bool := within PRIVATE_V4 address

/-- One answer passes the checks. -/
def EgressPolicy.admits (allowed denied : List Network) (host : String) (address : Address) : Bool :=
  let authorized := policy.named host || within allowed address
  !special address && (address.is_global || private_v4 address) && !within denied address &&
    !(policy.restricted && !authorized) && !(!private_v4 address && !authorized)

/-- The literal a host is, if it is one. -/
def literal (host : String) : Option (List Nat) := v4_from_string host.toList

/-- The answers for a host: its own literal, or those of the resolver. -/
def answers (resolver : String → Int → Option (List Answer)) (host : String) (port : Int) : Option (List Answer) :=
  match literal host with
  | some octets => some [⟨.AF_INET, .v4 octets, by simp [Address.version]⟩]
  | none => resolver host port

def EgressPolicy.resolve (value : String) (port : Int) (resolver : String → Int → Option (List Answer)) :
    Except ResolveError (String × String) :=
  match validate_host value with
  | none => .error .invalid
  | some host =>
    if host ∈ LOCAL_NAMES || ((literal host).isNone && !host.toList.contains '.' && !policy.exact host) then
      .error .SOURCE_DESTINATION_DENIED
    else
      match answers resolver host port, policy.allowed_cidrs.mapM ip_network, policy.denied_cidrs.mapM ip_network with
      | none, _, _ => .error .unresolved
      | some found, some allowed, some denied =>
        if !found.all (fun answer => policy.admits allowed denied host answer.address) then
          .error .SOURCE_DESTINATION_DENIED
        else
          match (found.filter (fun answer => answer.family = .AF_INET)).head? with
          | some answer => .ok (host, answer.address.str)
          | none => .error .SOURCE_DESTINATION_DENIED
      | _, _, _ => .error .invalid

end

end netbox_sync.egress
