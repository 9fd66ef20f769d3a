import EventFeed.Connection.Backoff
import EventFeed.Settings.Basic

/-!
# Client configuration
-/

namespace EventFeed.Connection

structure Config where
  /-- The base address, to which each attempt adds its token. -/
  url : String
  backoff : Backoff
  keepalive : Time.Duration
  connectTimeout : Time.Duration
  /-- How many events a slow consumer may be behind. -/
  eventBuffer : Nat
  deriving DecidableEq

namespace Config

def ofSettings (s : Settings.Client) : Config where
  url := s.url
  backoff := ⟨s.maxReconnectAttempts.toNat, .ofMillis s.reconnectBaseDelayMs.toNat⟩
  keepalive := .ofMillis s.keepaliveIntervalMs.toNat
  connectTimeout := .ofMillis s.connectTimeoutMs.toNat
  eventBuffer := max s.eventBufferSize.toNat 1

def default : Config := ofSettings .default

def withUrl (c : Config) (url : String) : Config := { c with url }

end Config

end EventFeed.Connection
