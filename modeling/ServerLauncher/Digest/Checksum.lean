import ServerLauncher.Digest.Sha256
import ServerLauncher.Text.Blank

/-!
This module contains the checksums that are published beside files.
-/

namespace ServerLauncher.Checksum

/--
The checksum in a published text: its first word, in lower case.
-/
def normalize (published : String) : String :=
  String.ofList ((Text.firstWord published.toList).map Char.toLower)

end ServerLauncher.Checksum
