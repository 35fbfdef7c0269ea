import ContainerFleet.FilePath

/-!
Where the files of a user lie.
-/

namespace ContainerFleet

/-- What the environment says about the user's directories. -/
structure Environment where
  home : String
  configHome : Option String
deriving DecidableEq, Repr

namespace Environment

/-- The directory of the user's configurations; a relative choice is not followed. -/
def configDir (env : Environment) : String :=
  match env.configHome with
  | some dir => if FilePath.isAbsolute dir then dir else FilePath.join env.home ".config"
  | none => FilePath.join env.home ".config"

/-- The directory of this program's configuration. -/
def programConfigDir (env : Environment) : String :=
  FilePath.join env.configDir "dockman"

def configFile (env : Environment) : String :=
  FilePath.join env.programConfigDir "config.toml"

/-- The private key that a machine is reached with when its profile names none. -/
def defaultKeyPath (env : Environment) : String :=
  FilePath.join (FilePath.join env.home ".ssh") "id_ed25519"

end Environment

end ContainerFleet
