import ShortlinkCatalog.Decimal.Shortest
import ShortlinkCatalog.Log.Entry
import ShortlinkCatalog.Settings.Basic

/-!
# Clients of the archive

All queries of the service share one client, which is made when it starts or when it
is first asked for, and closed when the service ends.  Clients can also be made apart
from the shared one.  What is not asked for comes from the settings.
-/

namespace ShortlinkCatalog

/-- The number with which it was made, and how it sends requests. -/
structure Client where
  number : Nat
  timeout : Timeout
  userAgent : Text
  followRedirects : Bool
deriving DecidableEq, Repr

namespace Client

/-- What to make differently from the settings. -/
structure Options where
  timeout : Option Timeout
  headers : Option (List (Text × Text))
  followRedirects : Option Bool

def Options.none : Options := ⟨.none, .none, .none⟩

/-- The name that clients give when they have headers that do not. -/
def anonymousAgent : Text := "python-httpx/0.28.1"

/-- The user agent among some headers, whose names do not depend on case. -/
def agentOf (headers : List (Text × Text)) : Text :=
  match headers.find? fun header => header.1.map Text.lowerAscii == Text.ofString "user-agent" with
  | some header => header.2
  | none => anonymousAgent

end Client

def Timeout.render : Timeout → Text
  | .unlimited => "None"
  | .whole seconds => Text.ofInt seconds
  | .real seconds => seconds.render

/-- The shared client, if there is one, and how many clients have been made. -/
structure ClientPool where
  made : Nat
  shared : Option Client
deriving DecidableEq, Repr

namespace ClientPool

def empty : ClientPool := ⟨0, none⟩

def logger : Text := "urlhero.core.client_manager"

/-- Makes a client apart from the shared one. -/
def create (pool : ClientPool) (settings : Settings) (options : Client.Options) :
    Client × ClientPool :=
  (⟨pool.made, options.timeout.getD settings.httpTimeout,
      match options.headers with
      | some headers => Client.agentOf headers
      | none => settings.userAgent,
      options.followRedirects.getD true⟩,
    { pool with made := pool.made + 1 })

/-- The shared client, which is made if there is none. -/
def get (pool : ClientPool) (settings : Settings) : Client × ClientPool :=
  match pool.shared with
  | some client => (client, pool)
  | none =>
      let (client, pool) := pool.create settings .none
      (client, { pool with shared := some client })

/-- Makes the shared client; an existing one is kept. -/
def start (pool : ClientPool) (settings : Settings) : List Log.Entry × ClientPool :=
  match pool.shared with
  | some _ => ([⟨logger, Log.Level.warning, "HTTP client already initialized"⟩], pool)
  | none =>
      ([⟨logger, Log.Level.info,
        "HTTP client initialized: timeout=" ++ settings.httpTimeout.render ++ "s"⟩],
        (pool.get settings).2)

/-- Closes the shared client, if there is one. -/
def stop (pool : ClientPool) : List Log.Entry × ClientPool :=
  match pool.shared with
  | some _ => ([⟨logger, Log.Level.info, "Closing HTTP client"⟩], { pool with shared := none })
  | none => ([], pool)

end ClientPool

end ShortlinkCatalog
