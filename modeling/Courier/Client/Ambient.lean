import Courier.Client.Call

/-! # The ambient client

All parts of a running program may use one client in common. It is made on first use, with the
standard settings, unless settings were given before; once it is there, it is never replaced. Settings
with a fault are passed over.
-/

namespace Courier

/-- What all parts of a program have in common. -/
structure Ambient where
  /-- The preferences that the environment sets. -/
  toggles : Toggles
  client : Option Client

namespace Ambient

/-- The client has not been used. -/
def start (toggles : Toggles) : Ambient := ⟨toggles, none⟩

/-- A client with settings and the preferences of the environment. -/
def newClient (ambient : Ambient) (settings : Settings) : Client :=
  .new settings .probe ambient.toggles

/-- The client, made now if there is none. -/
def globalClient (ambient : Ambient) : Client :=
  ambient.client.getD (ambient.newClient .standard)

/-- What is left after a use of the client, which leaves the client in a state. -/
def leave (ambient : Ambient) (client : Client) : Ambient := { ambient with client := some client }

/-- Gives settings for the client. -/
def init (ambient : Ambient) (settings : Settings) : Ambient :=
  match settings.validate, ambient.client with
  | .ok (), none => { ambient with client := some (ambient.newClient settings) }
  | _, _ => ambient

/-- A use of the client. -/
inductive Use
  /-- Asks for the client. -/
  | client
  /-- Asks for the counters of the client. -/
  | stats
  /-- Gives settings for the client. -/
  | init (settings : Settings)

/-- What is left after a use. -/
def apply (ambient : Ambient) : Use → Ambient
  | .client => ambient.leave ambient.globalClient
  | .stats => ambient.leave ambient.globalClient
  | .init settings => ambient.init settings

end Ambient

end Courier
