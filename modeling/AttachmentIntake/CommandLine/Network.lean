import AttachmentIntake.Scan.Service
import AttachmentIntake.Web.Message
import Std.Async.DNS
import Std.Async.TCP
import Std.Async.Timer

/-!
The way from the command to a scan service: one connection for each request. Addresses with
encryption cannot be reached.
-/

namespace AttachmentIntake.CommandLine.Network

open Std.Async

def socketAddress (ip : Std.Net.IPAddr) (port : UInt16) : Std.Net.SocketAddress :=
  match ip with
  | .v4 addr => .v4 { addr, port }
  | .v6 addr => .v6 { addr, port }

/-- All that arrives until the other side closes the connection. -/
partial def received (client : TCP.Socket.Client) (sofar : ByteArray) : Async ByteArray := do
  match ← client.recv? 65536 with
  | some bytes => if bytes.isEmpty then return sofar else received client (sofar ++ bytes)
  | none => return sofar

def lookupName (host : String) : String :=
  String.ofList (host.toList.filter fun c => c ≠ '[' ∧ c ≠ ']')

def exchange (address : Web.Address) (content : ByteArray) : Async Scan.Reply := do
  let host := lookupName (address.host.getD "")
  let port := address.port.getD 80
  let some ip := (← DNS.getAddrInfo host (toString port))[0]? | return .dropped
  let client ← TCP.Socket.Client.mk
  client.connect (socketAddress ip port.toUInt16)
  client.send (Web.Message.put address content)
  let bytes ← received client .empty
  match Web.Message.read? bytes.data.toList with
  | some (status, body) => return .ofMessage status body
  | none => return .dropped

/-- An exchange that is given up after a time, in milliseconds. -/
def limited (timeout : Nat) (address : Web.Address) (content : ByteArray) : IO Scan.Reply := do
  let late : Async Scan.Reply := do
    sleep (.ofNat timeout)
    return .dropped
  try
    let reply : Async (Option Scan.Reply) :=
      Async.race (some <$> exchange address content) (some <$> late)
    return (← reply.block).getD .dropped
  catch _ => return .dropped

def transport (timeout : Nat) : Scan.Transport IO :=
  { put := fun address content =>
      if address.scheme = "http" then limited timeout address content else pure .dropped
    wait := fun milliseconds => IO.sleep milliseconds.toUInt32 }

end AttachmentIntake.CommandLine.Network
