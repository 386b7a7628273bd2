import Commissioning.Proofs.Attended
import Commissioning.Proofs.Downloader.Seen
import Commissioning.Proofs.Program

set_option autoImplicit false

/-! # Downloads on the command line

The command `download` prints the path of the file that it has saved, or shows one toast, and its
exit code says which (`Program.download_is_honest`). No request is sent and nothing is changed on
the disk before there is a session. -/

namespace Commissioning

namespace Program

end Program

end Commissioning
