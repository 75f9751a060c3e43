import ChatRelay.Config.Basic
import ChatRelay.Network.Host

/-!
# Clients

A client is set up from its configuration and connects to the first address of its server at which
somebody listens.
-/

namespace ChatRelay

/-- The line of input that ends a client. -/
def quitCommand : String := "/quit"

/-- Connects to a server by name and port, `sockets` being listened on; values that do not go
together are refused first. -/
def ClientConfig.connect (config : ClientConfig) (host : Host) (sockets : List SocketAddress)
    (name : String) (port : Nat) : Except ServiceError Address := do
  (config.check).mapError .config
  host.connect sockets name port

end ChatRelay
