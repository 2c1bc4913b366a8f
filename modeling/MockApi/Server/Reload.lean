import MockApi.Server.Basic
import MockApi.Settings.Loading

/-!
Reloads while a server runs: the definitions of accepted settings take the place of the old ones.
Settings that are not accepted, and definitions that cannot be taken over, change nothing.
-/
namespace MockApi.Server

def attempt (loaded : Except LoadFault Settings) (server : Server) : Server :=
  match loaded with
  | .ok settings => (server.reload settings.definitions).getD server
  | .error _ => server

@[simp] theorem attempt_ok (settings : Settings) (server : Server) :
    server.attempt (.ok settings) = (server.reload settings.definitions).getD server := rfl

@[simp] theorem attempt_error (fault : LoadFault) (server : Server) :
    server.attempt (.error fault) = server := rfl

end MockApi.Server
