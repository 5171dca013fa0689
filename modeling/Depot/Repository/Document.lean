import Depot.Json.Decoding
import Depot.Repository

/-!
Repositories as records of structured text. All but id and URI have defaults.
-/

namespace Depot.Repository

open Json

structure Draft where
  id : Option String := none
  uri : Option String := none
  username : Option (Option String) := none
  password : Option (Option String) := none
  snapshotsEnabled : Option Bool := none
  releasesEnabled : Option Bool := none
  knownToExist : Option Bool := none
  deriveMetadata : Option Bool := none

def Draft.fields : List (Member Draft) :=
  let text := Decoder.string
  let flag := Decoder.boolean
  [.single "id" text (·.id) fun r a => { r with id := some a },
   .single "uri" text (·.uri) fun r a => { r with uri := some a },
   .single "username" (.option text) (·.username) fun r a => { r with username := some a },
   .single "password" (.option text) (·.password) fun r a => { r with password := some a },
   .single "snapshots_enabled" flag (·.snapshotsEnabled)
     fun r a => { r with snapshotsEnabled := some a },
   .single "releases_enabled" flag (·.releasesEnabled)
     fun r a => { r with releasesEnabled := some a },
   .single "known_to_exist" flag (·.knownToExist) fun r a => { r with knownToExist := some a },
   .single "derive_metadata_if_missing" flag (·.deriveMetadata)
     fun r a => { r with deriveMetadata := some a }]

def Draft.close (d : Draft) : Repository where
  id := d.id.getD ""
  uri := d.uri.getD ""
  username := d.username.getD none
  password := d.password.getD none
  snapshotsEnabled := d.snapshotsEnabled.getD true
  releasesEnabled := d.releasesEnabled.getD true
  knownToExist := d.knownToExist.getD false
  deriveMetadata := d.deriveMetadata.getD false

def decoder : Decoder Repository :=
  Decoder.record "RepositoryDescriptor" Draft.fields 2 {} Draft.close

end Depot.Repository
