import PublicSite.Feature

/-!
# Starting the server

The server starts when the certificate and the key that are configured are there
and every feature accepts the configuration.
-/

namespace PublicSite

/-- Why the server does not start. -/
inductive ServerFailure where
  | certificateMissing (path : String)
  | keyMissing (path : String)
  | feature (failure : Feature.StartFailure)
  | state (failure : Failure StateCause)
  deriving DecidableEq, Repr

namespace ServerFailure

/-- What is said about it. -/
def message : ServerFailure → String
  | .certificateMissing path => "SSL certificate not found at: " ++ path
  | .keyMissing path => "SSL key not found at: " ++ path
  | .feature failure => "Platform bootstrap failed: " ++ failure.message
  | .state _ => "Failed to finalize site state registry"

end ServerFailure

namespace Server

/-- Check that the certificate and the key are there, if they are configured. -/
def checkSsl (fileExists : String → Bool) : Option Config.Ssl → Except ServerFailure Unit
  | none => .ok ()
  | some ssl =>
      if !fileExists ssl.certificate then .error (.certificateMissing ssl.certificate)
      else if !fileExists ssl.key then .error (.keyMissing ssl.key)
      else .ok ()

/-- Put together the state of the site from a configuration. -/
def build (fileExists : String → Bool) (config : Config) : Except ServerFailure Site := do
  checkSsl fileExists config.server.ssl
  let started ← (Feature.startAll config).mapError .feature
  let builder : SiteBuilder := StateBuilder.new.withConfig config
  (started.foldl StateBuilder.register builder).build.mapError .state

end Server

namespace Config

/-- The configuration with another port. -/
def withPort (config : Config) (port : Nat) : Config :=
  { config with server := { config.server with port } }

end Config

end PublicSite
