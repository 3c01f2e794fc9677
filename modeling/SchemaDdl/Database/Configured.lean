import SchemaDdl.Config.Basic
import SchemaDdl.Database.Gateway

/-!
# The gateway of a configuration

The namespaces of this gateway are the databases of a configuration. A
connection is opened when a namespace executes its first statement, and stays
open for the statements after it, whichever namespaces come between, so that
what a session was told holds until the gateway is closed.

The databases themselves are behind a `Server`, which may refuse a connection or
a statement for any reason. `NoServer` is the one that is never reached.
-/

namespace SchemaDdl

class Server (σ : Type) where
  connect : σ → DatabaseConfig → Except String Unit × σ
  /-- Runs a statement on the connection of a namespace. -/
  run : σ → String → String → Except String Unit × σ

inductive NoServer where
  | unreachable
deriving DecidableEq

instance : Server NoServer where
  connect s d := (.error ("no server at " ++ d.host), s)
  run s _ _ := (.error "no connection", s)

structure ConfiguredGateway (σ : Type) where
  config : Config
  current : String
  server : σ
  /-- The namespaces that have a connection. -/
  connected : List String := []

namespace ConfiguredGateway

variable {σ : Type}

def ofConfig (c : Config) (server : σ) : ConfiguredGateway σ :=
  { config := c, current := c.defaultNamespace, server }

def close (g : ConfiguredGateway σ) : ConfiguredGateway σ := { g with connected := [] }

def switch (g : ConfiguredGateway σ) (space : String) : Reply (ConfiguredGateway σ) :=
  if g.config.databases.contains space then
    { result := .ok ()
      gateway := { g with current := space }
      notes := [.switchingNamespace g.current space] }
  else { result := .error (.unknownNamespace space), gateway := g }

def connectionFailure (c : Config) (cause : String) : DatabaseError :=
  .connection ("Failed to create connection pool for " ++ c.dialect.name) cause

variable [Server σ]

/-- Sees to it that the current namespace has a connection. -/
def connect (g : ConfiguredGateway σ) : Reply (ConfiguredGateway σ) :=
  if g.connected.contains g.current then { result := .ok (), gateway := g }
  else match g.config.databases.get? g.current with
    | none => { result := .error (.unknownNamespace g.current), gateway := g }
    | some d =>
      let notes := [.openingConnection g.current d.host]
      match Server.connect g.server d with
      | (.ok (), server) =>
        { result := .ok ()
          gateway := { g with server, connected := g.current :: g.connected }
          notes }
      | (.error cause, server) =>
        { result := .error (connectionFailure g.config cause)
          gateway := { g with server }
          notes }

def execute (g : ConfiguredGateway σ) (statement : String) : Reply (ConfiguredGateway σ) :=
  let opened := g.connect
  match opened.result with
  | .error _ => opened
  | .ok () =>
    let g := opened.gateway
    let (result, server) := Server.run g.server g.current statement
    { result := result.mapError (.query · (some statement))
      gateway := { g with server }
      notes := opened.notes }

instance : Gateway (ConfiguredGateway σ) where
  current := ConfiguredGateway.current
  tablePrefix g := g.config.tablePrefix g.current
  switch := switch
  execute := execute

end ConfiguredGateway

end SchemaDdl
