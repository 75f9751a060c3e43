import ChatRelay.Network.Address
import ChatRelay.ServiceError

/-!
# Hosts

A `Host` is a machine as far as names, addresses and ports go: what a name stands for, which
addresses can be listened on, and which can be connected to. A server listens on every one of its
addresses for which that works, and fails only if it works for none. A client connects to the first
address of its server that takes a connection.

* On the `loopback` host, the addresses of the machine itself can be listened on and connected to.
* On the `sealed` host, any address can be listened on, and no connection ever comes about.
-/

namespace ChatRelay

/-- An address and a port. -/
structure SocketAddress where
  address : Address
  port : Nat
  deriving DecidableEq, Repr, Inhabited

/-- A machine as far as names, addresses and ports go. -/
structure Host where
  /-- The addresses that a name stands for, in the order in which they are tried. -/
  names : String → List Address
  canListen : Address → Bool
  canConnect : Address → Bool

namespace Host

/-- The names of the machine itself. -/
def ownNames (name : String) : List Address :=
  if name.toLower = "localhost" then [.localhost] else []

/-- A machine that only knows itself. -/
def loopback : Host where
  names := ownNames
  canListen a := a.isLoopback || a.isWildcard
  canConnect a := a.isLoopback

/-- A machine that may listen anywhere and is reached by nobody. -/
def sealed : Host where
  names := ownNames
  canListen _ := true
  canConnect _ := false

/-- The addresses that a name stands for, which is that of an address if it spells one. -/
def resolve (host : Host) (name : String) : List Address :=
  match Address.ofName? name with
  | some address => [address]
  | none => host.names name

/-- The first port that is handed out to a listener that asks for none. -/
def firstFreePort : Nat := 32768

/-- Whether connections to the second address would come to a listener on the first. -/
def covers (listener address : Address) : Bool :=
  listener = address || listener.isWildcard && (!listener.isDotted || address.isDotted)

/-- Listens on an address, unless that would share connections with a listener that is there;
port zero asks for any port that is free. -/
def listen? (host : Host) (taken : List SocketAddress) (address : Address) (port : Nat) :
    Option SocketAddress :=
  if !host.canListen address then none
  else if port = 0 then some ⟨address, firstFreePort + taken.length⟩
  else if taken.any fun s => s.port = port && (covers s.address address || covers address s.address)
  then none
  else some ⟨address, port⟩

/-- Listens on the first of some addresses for which that works. -/
def listenFirst? (host : Host) (taken : List SocketAddress) (port : Nat) :
    List Address → Option SocketAddress
  | [] => none
  | address :: rest =>
    match host.listen? taken address port with
    | some socket => some socket
    | none => listenFirst? host taken port rest

/-- Listens on every name for which that works, `taken` being listened on already. -/
def listenFrom (host : Host) (port : Nat) (taken : List SocketAddress) :
    List String → List SocketAddress
  | [] => taken
  | name :: rest =>
    match host.listenFirst? taken port (host.resolve name) with
    | some socket => listenFrom host port (taken ++ [socket]) rest
    | none => listenFrom host port taken rest

/-- Listens on every name for which that works; it has to work for one. -/
def listenAll (host : Host) (names : List String) (port : Nat) :
    Except ServiceError (List SocketAddress) :=
  match host.listenFrom port [] names with
  | [] => .error (.noListener port)
  | sockets => .ok sockets

/-- Whether somebody listens on an address and a port. -/
def listening (sockets : List SocketAddress) (address : Address) (port : Nat) : Bool :=
  sockets.any fun s => s.port = port && covers s.address address

/-- Connects to the first address of a name at which somebody listens. -/
def connect (host : Host) (sockets : List SocketAddress) (name : String) (port : Nat) :
    Except ServiceError Address :=
  let candidates := host.resolve name
  match candidates.find? fun a => host.canConnect a && listening sockets a port with
  | some address => .ok address
  | none => .error (.connect name port)

end Host

end ChatRelay
