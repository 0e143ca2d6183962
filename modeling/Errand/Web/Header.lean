import Errand.Web.Target

/-!
# Methods and headers

What the methods and headers of a request may be made of.
-/

set_option autoImplicit false

namespace Errand.Web

/-- The name of a method or a header. -/
def isToken (name : String) : Bool :=
  name != "" && name.toList.all Target.isTokenChar

/-- Whether the value of a header can be sent: it has no control characters except tabs. -/
def isHeaderValue (value : String) : Bool :=
  value.toList.all fun c => c == '\t' || (31 < c.toNat && c.toNat != 127)

/-- Whether a header can be sent. -/
def isHeader (header : String × String) : Bool :=
  isToken header.1 && isHeaderValue header.2

end Errand.Web
