import Blockhost.Agent.Disk
import Blockhost.Api.Schemas

/-! The migration snapshot of a server: one agent archives the server's directory, another one
wipes its own and extracts the archive. Both filter by name, so a snapshot is faithful exactly
when no user file has a filtered name.
-/

namespace Blockhost

open Library

variable {Content : Type}

end Blockhost
