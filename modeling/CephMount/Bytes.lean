/-! Byte strings. -/

set_option autoImplicit false

namespace CephMount

abbrev Bytes := List UInt8

end CephMount
